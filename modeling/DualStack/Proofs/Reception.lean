import DualStack.Manager.Reception
import Mathlib.Data.List.Basic
import Mathlib.Logic.Function.Iterate

/-!
# What the event loop keeps at every moment

However the names that are sent fall between the looks of the loop, the batches it takes are the
sets of consecutive segments of what was sent. One invariant says so of every moment: the names sent
so far are those of the completed segments, of the segment at hand and of the queue, and the log
tells of each completed segment its batch and, if the batch is relevant, one run. Another invariant
is about time: a name sent is waiting, or is at hand, or a run has started since it was sent.
-/

set_option autoImplicit false

namespace DualStack

namespace EventLoop

open State

/-! ## What the log tells -/

namespace Entry

/-- The name that an entry says was sent. -/
def sent? : Entry → Option String
  | sent name => some name
  | batch _ | task | exit _ => none

/-- Whether an entry says that a run started. -/
def isTask : Entry → Bool
  | task => true
  | sent _ | batch _ | exit _ => false

/-- Whether an entry says that a batch was taken. -/
def isBatch : Entry → Bool
  | batch _ => true
  | sent _ | task | exit _ => false

end Entry

namespace State

variable {σ : Type} (s : State σ)

/-- The names that were sent. -/
def arrived : List String := s.log.filterMap Entry.sent?

/-- What the loop did. -/
def deeds : List Entry := s.log.filter fun entry => entry.sent?.isNone

end State

/-- The names of a schedule that find a sender: those before the last one goes away. -/
def arrivals (schedule : List Happening) : List String :=
  (schedule.takeWhile (· ≠ .closed)).filterMap fun
    | .sent name => some name
    | .closed | .stopped | .looked => none

/-- The batch of a segment: the set of its names. -/
def batchOf (segment : List String) : NameSet := Std.ExtTreeSet.ofList segment

/-- What the loop does about a segment: it takes the batch of its names and starts one run if one of
them is the name of a table that the manager reads. -/
def answer {σ : Type} (w : Worker σ) (segment : List String) : List Entry :=
  .batch (batchOf segment) ::
    if ∃ name ∈ segment, name ∈ w.tables then [.task] else []

/-- What the log tells of the batch at hand, or of the end. -/
def Stage.entries : Stage → List Entry
  | waiting | collecting _ => []
  | collected batch => [.batch batch]
  | working batch => [.batch batch, .task]
  | ended why => [.exit why]

/-- The segment at hand: none between two batches, and otherwise the names of the batch. -/
def Stage.Holds {σ : Type} (w : Worker σ) : Stage → List String → Prop
  | waiting, segment | ended _, segment => segment = []
  | collecting batch, segment | collected batch, segment =>
    segment ≠ [] ∧ batch = batchOf segment
  | working batch, segment =>
    segment ≠ [] ∧ batch = batchOf segment ∧ ∃ name ∈ segment, name ∈ w.tables

/-- The log accounts for what was sent by completed segments and the segment at hand. -/
structure State.Accounts {σ : Type} (w : Worker σ) (manager : σ) (s : State σ)
    (segments : List (List String)) (segment : List String) : Prop where
  nonempty : ∀ completed ∈ segments, completed ≠ []
  arrived : s.arrived = segments.flatten ++ segment ++ s.queue
  deeds : s.deeds = segments.flatMap (answer w) ++ s.stage.entries
  manager : s.manager =
    w.task^[segments.countP fun completed => ∃ name ∈ completed, name ∈ w.tables] manager
  holds : s.stage.Holds w segment
  ended : ∀ why, s.stage = .ended why → why = .channelClosed ∧ s.queue = [] ∧ s.isOpen = false

/-! ## Batches -/

/-- A batch is relevant exactly if it has the name of a table that the manager reads. -/
theorem isRelevant_iff {σ : Type} {w : Worker σ} {batch : NameSet} :
    w.isRelevant batch = true ↔ ∃ name ∈ batch, name ∈ w.tables := by
  unfold Worker.isRelevant
  simp [List.any_eq_true]

/-- The batch of a segment has exactly its names. -/
theorem mem_batchOf_iff {segment : List String} {name : String} :
    name ∈ batchOf segment ↔ name ∈ segment := by
  simp [batchOf]

/-- The batch of a segment is relevant exactly if the segment names a table that the manager
reads. -/
theorem isRelevant_batchOf_iff {σ : Type} {w : Worker σ} {segment : List String} :
    w.isRelevant (batchOf segment) = true ↔ ∃ name ∈ segment, name ∈ w.tables := by
  simp only [isRelevant_iff, mem_batchOf_iff]

/-- The first name of a batch alone is the batch of a segment of one name. -/
theorem singleton_eq_batchOf (name : String) : ({name} : NameSet) = batchOf [name] := by
  apply Std.ExtTreeSet.ext_mem
  intro other
  simp [mem_batchOf_iff, @eq_comm _ name other]

/-- Taking one more name makes the batch of the segment with this name at its end. -/
theorem insert_batchOf (segment : List String) (name : String) :
    (batchOf segment).insert name = batchOf (segment ++ [name]) := by
  apply Std.ExtTreeSet.ext_mem
  intro other
  simp [mem_batchOf_iff, or_comm, @eq_comm _ name other]

section

variable {σ : Type} {w : Worker σ} {first : σ} {s : State σ} {segments : List (List String)}
  {segment : List String}

/-- A segment with the name of a table that the manager reads is answered by its batch and one
run. -/
theorem answer_of_mem (h : ∃ name ∈ segment, name ∈ w.tables) :
    answer w segment = [.batch (batchOf segment), .task] := by
  unfold answer
  rw [if_pos h]

/-- A segment without such a name is answered by its batch alone. -/
theorem answer_of_notMem (h : ¬ ∃ name ∈ segment, name ∈ w.tables) :
    answer w segment = [.batch (batchOf segment)] := by
  unfold answer
  rw [if_neg h]

/-! ## One look -/

namespace State

/-- A loop that waits takes the first name in its queue and starts to collect a batch with it. -/
theorem look_of_waiting {name : String} {queue : List String} (hstage : s.stage = .waiting)
    (hqueue : s.queue = name :: queue) :
    s.look w = { s with queue := queue, stage := .collecting {name} } := by
  simp only [look, hstage, hqueue]

/-- A loop that waits on an empty queue stays as it is while there is a sender. -/
theorem look_of_open (hstage : s.stage = .waiting) (hqueue : s.queue = [])
    (hopen : s.isOpen = true) : s.look w = s := by
  simp only [look, hstage, hqueue, hopen, if_true]

/-- A loop that waits on an empty queue ends when no sender is left. -/
theorem look_of_closed (hstage : s.stage = .waiting) (hqueue : s.queue = [])
    (hclosed : s.isOpen = false) :
    s.look w = { s with stage := .ended .channelClosed }.note (.exit .channelClosed) := by
  simp only [look, hstage, hqueue, hclosed, Bool.false_eq_true, if_false]

/-- A loop that collects takes the next name of its queue into the batch. -/
theorem look_of_collecting {batch : NameSet} {name : String} {queue : List String}
    (hstage : s.stage = .collecting batch) (hqueue : s.queue = name :: queue) :
    s.look w = { s with queue := queue, stage := .collecting (batch.insert name) } := by
  simp only [look, hstage, hqueue]

/-- A loop that collects is done with it when its queue is empty, and the batch is noted. -/
theorem look_of_drained {batch : NameSet} (hstage : s.stage = .collecting batch)
    (hqueue : s.queue = []) :
    s.look w = { s with stage := .collected batch }.note (.batch batch) := by
  simp only [look, hstage, hqueue]

/-- A collected batch that is relevant starts a run. -/
theorem look_of_relevant {batch : NameSet} (hstage : s.stage = .collected batch)
    (hrelevant : w.isRelevant batch = true) :
    s.look w = { s with stage := .working batch }.note .task := by
  simp only [look, hstage, hrelevant, if_true]

/-- A collected batch that is not relevant is dropped. -/
theorem look_of_irrelevant {batch : NameSet} (hstage : s.stage = .collected batch)
    (hrelevant : w.isRelevant batch = false) : s.look w = { s with stage := .waiting } := by
  simp only [look, hstage, hrelevant, Bool.false_eq_true, if_false]

/-- A run that was started is completed, and the loop waits again. -/
theorem look_of_working {batch : NameSet} (hstage : s.stage = .working batch) :
    s.look w = { s with stage := .waiting, manager := w.task s.manager } := by
  simp only [look, hstage]

/-- A loop that has ended stays as it is. -/
theorem look_of_ended {why : LoopExit} (hstage : s.stage = .ended why) : s.look w = s := by
  simp only [look, hstage]

/-- What one look can come to. -/
inductive Looked (w : Worker σ) (s : State σ) : State σ → Prop where
  | first {name : String} {queue : List String} (hstage : s.stage = .waiting)
    (hqueue : s.queue = name :: queue) :
    Looked w s { s with queue := queue, stage := .collecting {name} }
  | idle (hstage : s.stage = .waiting) (hqueue : s.queue = []) (hopen : s.isOpen = true) :
    Looked w s s
  | ends (hstage : s.stage = .waiting) (hqueue : s.queue = []) (hclosed : s.isOpen = false) :
    Looked w s ({ s with stage := .ended .channelClosed }.note (.exit .channelClosed))
  | another {batch : NameSet} {name : String} {queue : List String}
    (hstage : s.stage = .collecting batch) (hqueue : s.queue = name :: queue) :
    Looked w s { s with queue := queue, stage := .collecting (batch.insert name) }
  | drained {batch : NameSet} (hstage : s.stage = .collecting batch) (hqueue : s.queue = []) :
    Looked w s ({ s with stage := .collected batch }.note (.batch batch))
  | relevant {batch : NameSet} (hstage : s.stage = .collected batch)
    (hrelevant : w.isRelevant batch = true) :
    Looked w s ({ s with stage := .working batch }.note .task)
  | irrelevant {batch : NameSet} (hstage : s.stage = .collected batch)
    (hrelevant : w.isRelevant batch = false) : Looked w s { s with stage := .waiting }
  | done {batch : NameSet} (hstage : s.stage = .working batch) :
    Looked w s { s with stage := .waiting, manager := w.task s.manager }
  | stays {why : LoopExit} (hstage : s.stage = .ended why) : Looked w s s

/-- Every look comes to one of the outcomes that are listed. -/
theorem looked_look (w : Worker σ) (s : State σ) : Looked w s (s.look w) := by
  cases hstage : s.stage with
  | waiting =>
    cases hqueue : s.queue with
    | cons name queue =>
      rw [look_of_waiting hstage hqueue]
      exact .first hstage hqueue
    | nil =>
      cases hopen : s.isOpen with
      | true =>
        rw [look_of_open hstage hqueue hopen]
        exact .idle hstage hqueue hopen
      | false =>
        rw [look_of_closed hstage hqueue hopen]
        exact .ends hstage hqueue hopen
  | collecting batch =>
    cases hqueue : s.queue with
    | cons name queue =>
      rw [look_of_collecting hstage hqueue]
      exact .another hstage hqueue
    | nil =>
      rw [look_of_drained hstage hqueue]
      exact .drained hstage hqueue
  | collected batch =>
    cases hrelevant : w.isRelevant batch with
    | true =>
      rw [look_of_relevant hstage hrelevant]
      exact .relevant hstage hrelevant
    | false =>
      rw [look_of_irrelevant hstage hrelevant]
      exact .irrelevant hstage hrelevant
  | working batch =>
    rw [look_of_working hstage]
    exact .done hstage
  | ended why =>
    rw [look_of_ended hstage]
    exact .stays hstage

/-- A name that is sent when no sender is left gets nowhere. -/
theorem step_sent_of_closed (hclosed : s.isOpen = false) (name : String) :
    s.step w (.sent name) = s := by
  simp only [step, hclosed, Bool.false_eq_true, if_false]

/-- A name that is sent is queued and noted. -/
theorem step_sent_of_open (hopen : s.isOpen = true) (name : String) :
    s.step w (.sent name) = { s with queue := s.queue ++ [name] }.note (.sent name) := by
  simp only [step, hopen, if_true]

/-- What happens in two parts happens one part after the other. -/
theorem after_append (schedule rest : List Happening) :
    s.after w (schedule ++ rest) = (s.after w schedule).after w rest :=
  List.foldl_append

/-- What every step keeps holds after a schedule. -/
theorem after_induction {P : State σ → Prop} (allowed : Happening → Prop)
    (hstep : ∀ s happening, allowed happening → P s → P (s.step w happening)) (h : P s)
    {schedule : List Happening} (hall : ∀ happening ∈ schedule, allowed happening) :
    P (s.after w schedule) := by
  induction schedule generalizing s with
  | nil => exact h
  | cons happening schedule ih =>
    obtain ⟨hhead, htail⟩ := List.forall_mem_cons.1 hall
    exact ih (hstep s happening hhead h) htail

/-- Noting a sent name adds it to the arrivals. -/
theorem arrived_note_sent (name : String) :
    (s.note (.sent name)).arrived = s.arrived ++ [name] := by
  simp [arrived, note, Entry.sent?]

/-- Noting a sent name adds no deed of the loop. -/
theorem deeds_note_sent (name : String) : (s.note (.sent name)).deeds = s.deeds := by
  simp [deeds, note, Entry.sent?]

/-- Noting a deed of the loop adds no arrival. -/
theorem arrived_note {entry : Entry} (h : entry.sent? = none) :
    (s.note entry).arrived = s.arrived := by
  simp [arrived, note, h]

/-- Noting a deed of the loop adds it behind the others. -/
theorem deeds_note {entry : Entry} (h : entry.sent? = none) :
    (s.note entry).deeds = s.deeds ++ [entry] := by
  simp [deeds, note, h]

end State

/-! ## What was sent and what was done -/

/-- At the start the log accounts for nothing, with no segment completed and none at hand. -/
theorem accounts_start (first : σ) : (start first).Accounts w first [] [] where
  nonempty := by simp
  arrived := rfl
  deeds := rfl
  manager := rfl
  holds := rfl
  ended := by rintro why ⟨⟩

/-- A look goes on with the segment at hand, or completes it, or begins the next one. -/
theorem State.Accounts.looked {s' : State σ} (h : s.Accounts w first segments segment)
    (hlook : Looked w s s') : ∃ segments' segment', s'.Accounts w first segments' segment' := by
  have harrived := h.arrived
  have hdeeds := h.deeds
  have hholds := h.holds
  cases hlook with
  | first hstage hqueue =>
    rw [hstage] at hdeeds hholds
    rw [hqueue] at harrived
    obtain rfl : segment = [] := hholds
    exact ⟨segments, [_], h.nonempty, harrived.trans (by simp), hdeeds, h.manager,
      ⟨by simp, singleton_eq_batchOf _⟩, by rintro why ⟨⟩⟩
  | idle hstage hqueue hopen => exact ⟨segments, segment, h⟩
  | ends hstage hqueue hclosed =>
    rw [hstage] at hdeeds hholds
    obtain rfl : segment = [] := hholds
    refine ⟨segments, [], h.nonempty, (arrived_note rfl).trans harrived,
      (deeds_note rfl).trans ?_, h.manager, rfl, ?_⟩
    · exact congrArg (· ++ [Entry.exit .channelClosed]) (hdeeds.trans (List.append_nil _))
    · rintro why ⟨⟩
      exact ⟨rfl, hqueue, hclosed⟩
  | another hstage hqueue =>
    rw [hstage] at hdeeds hholds
    rw [hqueue] at harrived
    obtain ⟨hne, rfl⟩ := hholds
    exact ⟨segments, segment ++ [_], h.nonempty, harrived.trans (by simp), hdeeds, h.manager,
      ⟨by simp, insert_batchOf segment _⟩, by rintro why ⟨⟩⟩
  | drained hstage hqueue =>
    rw [hstage] at hdeeds hholds
    refine ⟨segments, segment, h.nonempty, (arrived_note rfl).trans harrived,
      (deeds_note rfl).trans ?_, h.manager, hholds, by rintro why ⟨⟩⟩
    exact congrArg (· ++ [Entry.batch _]) (hdeeds.trans (List.append_nil _))
  | relevant hstage hrelevant =>
    rw [hstage] at hdeeds hholds
    obtain ⟨hne, rfl⟩ := hholds
    refine ⟨segments, segment, h.nonempty, (arrived_note rfl).trans harrived,
      (deeds_note rfl).trans ?_, h.manager, ⟨hne, rfl, isRelevant_batchOf_iff.1 hrelevant⟩,
      by rintro why ⟨⟩⟩
    exact (congrArg (· ++ [Entry.task]) hdeeds).trans (List.append_assoc _ _ _)
  | irrelevant hstage hrelevant =>
    -- the batch is decided on, so its segment joins the completed ones
    rw [hstage] at hdeeds hholds
    obtain ⟨hne, rfl⟩ := hholds
    have hnone : ¬ ∃ name ∈ segment, name ∈ w.tables := by
      rw [← isRelevant_batchOf_iff, hrelevant]
      exact Bool.false_ne_true
    refine ⟨segments ++ [segment], [], ?_, harrived.trans (by simp), hdeeds.trans ?_,
      h.manager.trans ?_, rfl, by rintro why ⟨⟩⟩
    · simpa [or_imp, forall_and] using ⟨h.nonempty, hne⟩
    · simp [Stage.entries, answer_of_notMem hnone]
    · rw [List.countP_append, List.countP_singleton, if_neg (by simpa using hnone), Nat.add_zero]
  | done hstage =>
    rw [hstage] at hdeeds hholds
    obtain ⟨hne, rfl, hsome⟩ := hholds
    refine ⟨segments ++ [segment], [], ?_, harrived.trans (by simp), hdeeds.trans ?_,
      (congrArg w.task h.manager).trans ?_, rfl, by rintro why ⟨⟩⟩
    · simpa [or_imp, forall_and] using ⟨h.nonempty, hne⟩
    · simp [Stage.entries, answer_of_mem hsome]
    · rw [List.countP_append, List.countP_singleton, if_pos (by simpa using hsome),
        Function.iterate_succ_apply']
  | stays hstage => exact ⟨segments, segment, h⟩

/-- What is sent meanwhile stays in the queue. -/
theorem State.Accounts.step (h : s.Accounts w first segments segment) {happening : Happening}
    (hstop : happening ≠ .stopped) :
    ∃ segments' segment', (s.step w happening).Accounts w first segments' segment' := by
  cases happening with
  | sent name =>
    cases hopen : s.isOpen with
    | false =>
      rw [step_sent_of_closed hopen]
      exact ⟨segments, segment, h⟩
    | true =>
      rw [step_sent_of_open hopen]
      refine ⟨segments, segment, h.nonempty, (arrived_note_sent name).trans ?_,
        (deeds_note_sent name).trans h.deeds, h.manager, h.holds, fun why hwhy => ?_⟩
      · refine (congrArg (· ++ [name]) h.arrived).trans ?_
        simp [note]
      · obtain ⟨-, -, hclosed⟩ := h.ended why hwhy
        rw [hopen] at hclosed
        cases hclosed
  | closed =>
    refine ⟨segments, segment, h.nonempty, h.arrived, h.deeds, h.manager, h.holds,
      fun why hwhy => ?_⟩
    obtain ⟨hreason, hqueue, -⟩ := h.ended why hwhy
    exact ⟨hreason, hqueue, rfl⟩
  | stopped => exact absurd rfl hstop
  | looked => exact h.looked (looked_look w s)

/-- At every moment the log accounts for what was sent. -/
theorem State.exists_accounts_after (w : Worker σ) (first : σ) {schedule : List Happening}
    (hstop : .stopped ∉ schedule) :
    ∃ segments segment, ((start first).after w schedule).Accounts w first segments segment := by
  refine after_induction (P := fun s => ∃ segments segment, s.Accounts w first segments segment)
    (· ≠ .stopped) ?_ ⟨[], [], accounts_start first⟩
    fun happening hmem => ne_of_mem_of_not_mem hmem hstop
  rintro s happening hallowed ⟨segments, segment, h⟩
  exact h.step hallowed

/-! ## What of a schedule was sent -/

namespace State

/-- A look has no effect on the senders. -/
theorem Looked.isOpen_eq {s' : State σ} (hlook : Looked w s s') : s'.isOpen = s.isOpen := by
  cases hlook <;> rfl

/-- A look adds one deed to the log, if it adds anything. -/
theorem Looked.log_eq {s' : State σ} (hlook : Looked w s s') : s'.log = s.log ∨
    ∃ entry : Entry, entry.sent? = none ∧ s'.log = s.log ++ [entry] := by
  cases hlook with
  | first | idle | another | irrelevant | done | stays => exact .inl rfl
  | ends | drained | relevant => exact .inr ⟨_, rfl, rfl⟩

/-- A look adds no arrival. -/
theorem Looked.arrived_eq {s' : State σ} (hlook : Looked w s s') : s'.arrived = s.arrived := by
  unfold arrived
  rcases hlook.log_eq with hlog | ⟨entry, hentry, hlog⟩
  · rw [hlog]
  · rw [hlog]
    simp [hentry]

/-- Nothing arrives any more once the last sender has gone away. -/
theorem arrived_after_of_closed (hclosed : s.isOpen = false) {schedule : List Happening}
    (hstop : .stopped ∉ schedule) : (s.after w schedule).arrived = s.arrived := by
  induction schedule generalizing s with
  | nil => rfl
  | cons happening schedule ih =>
    obtain ⟨hhead, htail⟩ := not_or.1 (List.mem_cons.not.1 hstop)
    cases happening with
    | sent name =>
      show ((s.step w (.sent name)).after w schedule).arrived = s.arrived
      rw [step_sent_of_closed hclosed]
      exact ih hclosed htail
    | closed => exact ih rfl htail
    | stopped => exact absurd rfl hhead
    | looked =>
      have hlook := looked_look w s
      exact (ih (hlook.isOpen_eq.trans hclosed) htail).trans hlook.arrived_eq

/-- What was sent is what the schedule sends before the last sender goes away. -/
theorem arrived_after (hopen : s.isOpen = true) {schedule : List Happening}
    (hstop : .stopped ∉ schedule) :
    (s.after w schedule).arrived = s.arrived ++ arrivals schedule := by
  induction schedule generalizing s with
  | nil => simp [after, arrivals]
  | cons happening schedule ih =>
    obtain ⟨hhead, htail⟩ := not_or.1 (List.mem_cons.not.1 hstop)
    cases happening with
    | sent name =>
      show ((s.step w (.sent name)).after w schedule).arrived = _
      rw [step_sent_of_open hopen]
      have hstill : ({ s with queue := s.queue ++ [name] }.note (.sent name)).isOpen = true := hopen
      refine (ih hstill htail).trans ?_
      rw [arrived_note_sent]
      simp [arrivals, arrived]
    | closed =>
      refine (arrived_after_of_closed rfl htail).trans ?_
      simp [arrivals, step, arrived]
    | stopped => exact absurd rfl hhead
    | looked =>
      have hlook := looked_look w s
      refine (ih (hlook.isOpen_eq.trans hopen) htail).trans ?_
      rw [hlook.arrived_eq]
      simp [arrivals]

/-- Unless the loop is shut down, what has arrived are the names that found a sender. -/
theorem arrived_after_start {schedule : List Happening} (hstop : .stopped ∉ schedule) :
    ((start first).after w schedule).arrived = arrivals schedule :=
  arrived_after rfl hstop

end State

/-- There are at most as many arrivals as things that happen. -/
theorem length_arrivals_le (schedule : List Happening) :
    (arrivals schedule).length ≤ schedule.length :=
  Nat.le_trans (List.length_filterMap_le _ _) (List.takeWhile_prefix _).length_le

/-! ## What is still to be answered -/

/-- The names of the batch at hand, as long as nothing was done about them. -/
def Stage.gathered : Stage → NameSet
  | collecting batch | collected batch => batch
  | waiting | working _ | ended _ => ∅

/-- A name is queued, or in the batch at hand before it is decided on. -/
def State.Awaits (s : State σ) (name : String) : Prop :=
  name ∈ s.queue ∨ name ∈ s.stage.gathered

/-- After every name of a table that the manager reads a run has started, or the name waits. -/
def State.Covers (w : Worker σ) (s : State σ) : Prop :=
  ∀ before name after, s.log = before ++ .sent name :: after → name ∈ w.tables →
    .task ∈ after ∨ s.Awaits name

/-- An element of a list with one more at its end is this last one or one of those before it. -/
theorem append_singleton_eq_append_cons {α : Type} {l before after : List α} {a b : α}
    (h : l ++ [a] = before ++ b :: after) :
    (l = before ∧ a = b ∧ after = []) ∨
      ∃ after', after = after' ++ [a] ∧ l = before ++ b :: after' := by
  rcases List.eq_nil_or_concat after with rfl | ⟨after', c, rfl⟩
  · obtain ⟨hl, ha⟩ := List.append_inj' h rfl
    exact .inl ⟨hl, List.singleton_inj.1 ha, rfl⟩
  · rw [List.concat_eq_append, ← List.cons_append, ← List.append_assoc] at h
    obtain ⟨hl, ha⟩ := List.append_inj' h rfl
    obtain rfl := List.singleton_inj.1 ha
    exact .inr ⟨after', List.concat_eq_append, hl⟩

/-- A look keeps a relevant name waiting, or starts a run. -/
theorem State.Awaits.looked {s' : State σ} {name : String} (h : s.Awaits name)
    (hname : name ∈ w.tables) (hlook : Looked w s s') :
    s'.Awaits name ∨ s'.log = s.log ++ [.task] := by
  have hcases : name ∈ s.queue ∨ name ∈ s.stage.gathered := h
  cases hlook with
  | first hstage hqueue =>
    left
    simpa [Awaits, hstage, hqueue, Stage.gathered, or_comm, @eq_comm _ _ name] using hcases
  | idle | stays => exact .inl h
  | ends hstage hqueue => simp [hstage, hqueue, Stage.gathered] at hcases
  | another hstage hqueue =>
    rw [hstage, hqueue] at hcases
    left
    rcases hcases with hqueued | hgathered
    · rcases List.mem_cons.1 hqueued with rfl | hlater
      · exact .inr Std.ExtTreeSet.mem_insert_self
      · exact .inl hlater
    · exact .inr (Std.ExtTreeSet.mem_insert.2 (.inr hgathered))
  | drained hstage =>
    rw [hstage] at hcases
    exact .inl hcases
  | relevant => exact .inr rfl
  | irrelevant hstage hrelevant =>
    rw [hstage] at hcases
    rcases hcases with hqueued | hgathered
    · exact .inl (.inl hqueued)
    · cases (isRelevant_iff.2 ⟨name, hgathered, hname⟩).symm.trans hrelevant
  | done hstage =>
    rw [hstage] at hcases
    exact .inl hcases

/-- The log of a state that covers everything may grow by anything but a new name, as long as what
waits goes on waiting or a run starts. -/
theorem State.Covers.of_log (h : s.Covers w) {s' : State σ} {entry : Entry}
    (hentry : entry.sent? = none) (hlog : s'.log = s.log ++ [entry])
    (hawaits : ∀ name, s.Awaits name → name ∈ w.tables → s'.Awaits name ∨ entry = .task) :
    s'.Covers w := by
  intro before name after hsplit hname
  rw [hlog] at hsplit
  rcases append_singleton_eq_append_cons hsplit with ⟨-, rfl, -⟩ | ⟨after, rfl, hlog⟩
  · cases hentry
  · rcases h before name after hlog hname with htask | hwaiting
    · exact .inl (List.mem_append_left _ htask)
    · rcases hawaits name hwaiting hname with hwaiting | rfl
      · exact .inr hwaiting
      · exact .inl (List.mem_append_right _ List.mem_cons_self)

/-- A look keeps every name of a managed table covered: it is still waiting, or a run starts for
it. -/
theorem State.Covers.looked {s' : State σ} (h : s.Covers w) (hlook : Looked w s s') :
    s'.Covers w := by
  rcases hlook.log_eq with hlog | ⟨entry, hentry, hlog⟩
  · intro before name after hsplit hname
    rcases h before name after (hlog.symm.trans hsplit) hname with htask | hwaiting
    · exact .inl htask
    · rcases hwaiting.looked hname hlook with hwaiting | htask
      · exact .inr hwaiting
      · rw [hlog] at htask
        simp at htask
  · refine h.of_log hentry hlog fun name hwaiting hname => ?_
    rcases hwaiting.looked hname hlook with hwaiting | htask
    · exact .inl hwaiting
    · rw [hlog] at htask
      exact .inr (by simpa using htask)

/-- A name that is sent waits. -/
theorem State.Covers.step (h : s.Covers w) {happening : Happening}
    (hstop : happening ≠ .stopped) : (s.step w happening).Covers w := by
  cases happening with
  | sent sentName =>
    cases hopen : s.isOpen with
    | false =>
      rw [step_sent_of_closed hopen]
      exact h
    | true =>
      rw [step_sent_of_open hopen]
      intro before name after hsplit hname
      rcases append_singleton_eq_append_cons hsplit with ⟨-, heq, -⟩ | ⟨after, rfl, hlog⟩
      · obtain rfl := Entry.sent.inj heq
        exact .inr (.inl (List.mem_append_right _ List.mem_cons_self))
      · rcases h before name after hlog hname with htask | hqueued | hgathered
        · exact .inl (List.mem_append_left _ htask)
        · exact .inr (.inl (List.mem_append_left _ hqueued))
        · exact .inr (.inr hgathered)
  | closed => exact h
  | stopped => exact absurd rfl hstop
  | looked => exact h.looked (looked_look w s)

/-- Unless the loop is shut down, every name of a managed table is covered at every moment, by
induction on the schedule. -/
theorem State.covers_after {schedule : List Happening} (hstop : .stopped ∉ schedule) :
    ((start first).after w schedule).Covers w := by
  refine after_induction (P := Covers w) (· ≠ .stopped)
    (fun s happening hallowed h => h.step hallowed) ?_
    fun happening hmem => ne_of_mem_of_not_mem hmem hstop
  intro before name after hsplit
  simp [start] at hsplit

end

end EventLoop

end DualStack
