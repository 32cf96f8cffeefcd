import DualStack.Proofs.Reception

/-!
# Nothing relevant is lost

What the invariants of the event loop come to when it ends, and that it ends. Once the last sender
is gone every look brings the end closer, and at the end there is neither a queue nor a segment at
hand left, so what was sent is made up of completed segments and every relevant name has had its
run. If everything is queued in advance there is but one batch, because the queue is empty after it.
-/

set_option autoImplicit false

namespace DualStack

namespace EventLoop

open State

section

variable {σ : Type} {w : Worker σ} {first : σ} {s : State σ} {segments : List (List String)}
  {segment : List String}

/-! ## The end -/

/-- The looks until the loop ends if it waits for a batch and nothing more is sent. -/
def looksWaiting (queued : Nat) : Nat := if queued = 0 then 1 else queued + 4

/-- A loop that waits for a batch needs at least one look and at most four more than there are
names. -/
theorem looksWaiting_bounds (queued : Nat) :
    1 ≤ looksWaiting queued ∧ looksWaiting queued ≤ queued + 4 := by
  unfold looksWaiting
  split <;> omega

/-- The looks until the loop ends if nothing more is sent. -/
def State.looksLeft (s : State σ) : Nat :=
  match s.stage with
  | .waiting => looksWaiting s.queue.length
  | .collecting _ => s.queue.length + 4
  | .collected _ => looksWaiting s.queue.length + 2
  | .working _ => looksWaiting s.queue.length + 1
  | .ended _ => 0

namespace State

/-- At any stage the loop needs at most six looks more than there are names in its queue. -/
theorem looksLeft_le (s : State σ) : s.looksLeft ≤ s.queue.length + 6 := by
  have hwaiting := looksWaiting_bounds s.queue.length
  unfold looksLeft
  split <;> omega

/-- A loop with no look left has ended. -/
theorem ended_of_looksLeft_eq_zero (h : s.looksLeft = 0) : ∃ why, s.stage = .ended why := by
  have hwaiting := looksWaiting_bounds s.queue.length
  cases hstage : s.stage with
  | ended why => exact ⟨why, rfl⟩
  | waiting | collecting _ | collected _ | working _ =>
    simp only [looksLeft, hstage] at h
    omega

/-- Without senders every look brings the end closer. -/
theorem looksLeft_looked {s' : State σ} (hclosed : s.isOpen = false) (hlook : Looked w s s') :
    s'.looksLeft ≤ s.looksLeft - 1 := by
  cases hlook with
  | first hstage hqueue =>
    simp only [looksLeft, looksWaiting, hstage, hqueue, List.length_cons, Nat.add_one_ne_zero,
      if_false]
    omega
  | idle _ _ hopen => cases hclosed.symm.trans hopen
  | ends => simp [looksLeft, note]
  | another hstage hqueue =>
    simp only [looksLeft, hstage, hqueue, List.length_cons]
    omega
  | drained hstage hqueue => simp [looksLeft, looksWaiting, note, hstage, hqueue]
  | relevant hstage => simp [looksLeft, note, hstage]
  | irrelevant hstage =>
    simp only [looksLeft, hstage]
    omega
  | done hstage | stays hstage => simp [looksLeft, hstage]

/-- Once the senders are gone, every look brings the end one look closer. -/
theorem looksLeft_after (hclosed : s.isOpen = false) (looks : Nat) :
    (s.after w (List.replicate looks .looked)).looksLeft ≤ s.looksLeft - looks := by
  induction looks generalizing s with
  | zero => exact Nat.le_refl _
  | succ looks ih =>
    have hlook := looked_look w s
    have hleft := looksLeft_looked hclosed hlook
    have hrest := ih (hlook.isOpen_eq.trans hclosed)
    show ((s.look w).after w (List.replicate looks .looked)).looksLeft ≤ _
    omega

/-- A loop whose schedule contains the end of the senders has none behind it. -/
theorem isOpen_after {schedule : List Happening} (hclosed : .closed ∈ schedule) :
    (s.after w schedule).isOpen = false := by
  obtain ⟨before, rest, rfl⟩ := List.append_of_mem hclosed
  rw [after_append]
  show ((((s.after w before).step w .closed).after w rest).isOpen = false)
  refine after_induction (P := fun s => s.isOpen = false) (fun _ => True) ?_ rfl
    fun _ _ => trivial
  intro s happening _ hs
  cases happening with
  | sent name =>
    rw [step_sent_of_closed hs]
    exact hs
  | closed => rfl
  | stopped =>
    simp only [step]
    split
    · rfl
    · rfl
    · exact hs
    · exact hs
    · exact hs
  | looked => exact (looked_look w s).isOpen_eq.trans hs

/-- Without a shutdown the loop ends once the last sender is gone and it has looked often enough. -/
theorem ended_after {schedule : List Happening} (hstop : .stopped ∉ schedule)
    (hclosed : .closed ∈ schedule) {looks : Nat} (hlooks : schedule.length + 6 ≤ looks) :
    ((start first).after w (schedule ++ List.replicate looks .looked)).stage =
      .ended .channelClosed := by
  have hqueue : ((start first).after w schedule).queue.length ≤ schedule.length := by
    obtain ⟨segments, segment, h⟩ := exists_accounts_after w first hstop
    have harrived := congrArg List.length ((arrived_after_start hstop).symm.trans h.arrived)
    have hlength := length_arrivals_le schedule
    simp only [List.length_append] at harrived
    omega
  have hbound := looksLeft_le ((start first).after w schedule)
  have hleft := looksLeft_after (w := w) (isOpen_after (s := start first) (w := w) hclosed) looks
  rw [← after_append] at hleft
  obtain ⟨why, hwhy⟩ := ended_of_looksLeft_eq_zero (Nat.le_zero.1 (Nat.le_trans hleft (by omega)))
  have hstops : .stopped ∉ schedule ++ List.replicate looks .looked := by simp [hstop]
  obtain ⟨_, _, h⟩ := exists_accounts_after w first hstops
  rw [hwhy, (h.ended why hwhy).1]

end State

/-! ## Everything queued in advance -/

/-- No batch was taken yet, or one was, with everything that was queued in it. -/
def State.TakesOnce (s : State σ) : Prop :=
  s.log.countP Entry.isBatch = 0 ∨
    s.log.countP Entry.isBatch = 1 ∧ s.queue = [] ∧ ∀ batch, s.stage ≠ .collecting batch

/-- Noting an entry adds one to the count of a kind exactly if the entry is of this kind. -/
theorem countP_note (p : Entry → Bool) (entry : Entry) :
    (s.note entry).log.countP p = s.log.countP p + if p entry = true then 1 else 0 := by
  simp [note, List.countP_append, List.countP_singleton]

/-- What takes no further batch and collects none keeps everything in one batch. -/
theorem State.TakesOnce.of_log {s' : State σ} (h : s.TakesOnce)
    (hlog : s'.log.countP Entry.isBatch = s.log.countP Entry.isBatch) (hqueue : s'.queue = s.queue)
    (hstage : ∀ batch, s'.stage ≠ .collecting batch) : s'.TakesOnce := by
  rcases h with hnone | ⟨hone, hempty, -⟩
  · exact .inl (hlog.trans hnone)
  · exact .inr ⟨hlog.trans hone, hqueue.trans hempty, hstage⟩

/-- Without new names the queue stays empty after the first batch. -/
theorem State.TakesOnce.looked {s' : State σ} (h : s.TakesOnce) (hlook : Looked w s s') :
    s'.TakesOnce := by
  cases hlook with
  | first hstage hqueue | another hstage hqueue =>
    rcases h with hnone | ⟨-, hempty, -⟩
    · exact .inl hnone
    · cases hqueue.symm.trans hempty
  | drained hstage hqueue =>
    rcases h with hnone | ⟨-, -, hcollecting⟩
    · exact .inr ⟨(countP_note _ _).trans (congrArg (· + 1) hnone), hqueue, by rintro batch ⟨⟩⟩
    · exact absurd hstage (hcollecting _)
  | ends | relevant => exact h.of_log (countP_note _ _) rfl (by rintro batch ⟨⟩)
  | irrelevant | done => exact h.of_log rfl rfl (by rintro batch ⟨⟩)
  | idle | stays => exact h

/-- If everything is queued in advance there is one batch at most. -/
theorem State.takesOnce_after {events : List String} {rest : List Happening}
    (hstop : .stopped ∉ rest) (hsent : ∀ name, .sent name ∉ rest) :
    ((start first).after w (events.map .sent ++ rest)).TakesOnce := by
  rw [after_append]
  refine after_induction (P := TakesOnce) (· ∈ rest) ?_ (.inl ?_) fun _ hmem => hmem
  · intro s happening hmem h
    cases happening with
    | sent name => exact absurd hmem (hsent name)
    | closed => exact h
    | stopped => exact absurd hmem hstop
    | looked => exact h.looked (looked_look w s)
  · refine after_induction (P := fun s => s.log.countP Entry.isBatch = 0)
      (fun happening => ∃ name, happening = .sent name) ?_ rfl (by simp)
    rintro s _ ⟨name, rfl⟩ hnone
    cases hopen : s.isOpen with
    | false =>
      rw [step_sent_of_closed hopen]
      exact hnone
    | true =>
      rw [step_sent_of_open hopen]
      exact (countP_note _ _).trans hnone

/-- The answers to segments take one batch for each of them. -/
theorem countP_isBatch_flatMap_answer :
    (segments.flatMap (answer w)).countP Entry.isBatch = segments.length := by
  have hone : ∀ segment, (answer w segment).countP Entry.isBatch = 1 := by
    intro segment
    unfold answer
    split <;> rfl
  rw [List.countP_flatMap]
  simp [Function.comp_def, hone]

/-- The answer to a segment starts one run if a managed table is named in it, and none otherwise. -/
theorem countP_isTask_answer (segment : List String) : (answer w segment).countP Entry.isTask =
    if ∃ name ∈ segment, name ∈ w.tables then 1 else 0 := by
  unfold answer
  split <;> rfl

/-- Entries that are no sent names are counted among the deeds of the loop. -/
theorem State.countP_log {p : Entry → Bool} (hsent : ∀ name, p (.sent name) = false) :
    s.log.countP p = s.deeds.countP p := by
  unfold deeds
  rw [List.countP_filter]
  refine List.countP_congr fun entry _ => ?_
  cases entry <;> simp [hsent, Entry.sent?]

/-- If nothing is sent later, the arrivals are the names that were queued in advance. -/
theorem arrivals_of_queued {events : List String} {rest : List Happening}
    (hsent : ∀ name, .sent name ∉ rest) : arrivals (events.map .sent ++ rest) = events := by
  induction events with
  | nil =>
    refine List.filterMap_eq_nil_iff.2 fun happening hmem => ?_
    cases happening with
    | sent name => exact absurd ((List.takeWhile_prefix _).subset hmem) (hsent name)
    | closed | stopped | looked => rfl
  | cons name events ih => simpa [arrivals] using ih

/-- A loop that took everything in one batch has started one run in the end if a managed table was
named, and none otherwise. -/
theorem State.Accounts.countP_isTask (h : s.Accounts w first segments segment) (honce : s.TakesOnce)
    {why : LoopExit} (hended : s.stage = .ended why) :
    s.log.countP Entry.isTask = if ∃ name ∈ s.arrived, name ∈ w.tables then 1 else 0 := by
  obtain ⟨rfl, hqueue, -⟩ := h.ended why hended
  have hdeeds := h.deeds
  have hholds := h.holds
  rw [hended] at hdeeds hholds
  obtain rfl : segment = [] := hholds
  have harrived : s.arrived = segments.flatten := by simpa [hqueue] using h.arrived
  have hbatches : s.log.countP Entry.isBatch = segments.length := by
    rw [countP_log fun _ => rfl, hdeeds, List.countP_append, countP_isBatch_flatMap_answer]
    rfl
  have hlength : segments.length ≤ 1 := by
    rcases honce with hnone | ⟨hone, -⟩ <;> omega
  rw [countP_log fun _ => rfl, hdeeds, List.countP_append, harrived]
  match segments, hlength with
  | [], _ => rfl
  | [only], _ => simp [countP_isTask_answer, Stage.entries, Entry.isTask]

/-- If everything is queued in advance, there is one run if anything of it is relevant, and none
otherwise. -/
theorem State.countP_isTask_of_queued {events : List String} {rest : List Happening}
    {why : LoopExit} (hstop : .stopped ∉ rest) (hsent : ∀ name, .sent name ∉ rest)
    (hended : ((start first).after w (events.map .sent ++ rest)).stage = .ended why) :
    ((start first).after w (events.map .sent ++ rest)).log.countP Entry.isTask =
      if ∃ name ∈ events, name ∈ w.tables then 1 else 0 := by
  have hstops : .stopped ∉ events.map .sent ++ rest := by simp [hstop]
  obtain ⟨segments, segment, h⟩ := exists_accounts_after w first hstops
  rw [h.countP_isTask (takesOnce_after hstop hsent) hended, arrived_after_start hstops,
    arrivals_of_queued hsent]

end

/-- Whatever is sent, and however it falls between the looks of the loop, as long as the loop is not
shut down: the names that were sent are those of the schedule up to the end of the last sender.
Where the loop has ended, it has ended because that sender was gone and nothing was left in the
queue; it has taken the batches of consecutive segments that are not empty and make up what was
sent, with exactly one run for each batch that names a table of the manager and none for another;
and after every such name a run has started. The loop does end if the last sender goes away and it
goes on looking. If everything is queued in advance there is exactly one run if anything of it is
relevant and none otherwise. -/
theorem nothing_relevant_is_lost {σ : Type} (w : Worker σ) (manager : σ)
    (schedule : List Happening) (hstop : .stopped ∉ schedule) :
    let s := (start manager).after w schedule
    s.arrived = arrivals schedule ∧
    (∀ why, s.stage = .ended why →
      why = .channelClosed ∧ s.queue = [] ∧ s.isOpen = false ∧
      (∃ segments : List (List String), (∀ segment ∈ segments, segment ≠ []) ∧
        segments.flatten = arrivals schedule ∧
        s.deeds = segments.flatMap (answer w) ++ [.exit .channelClosed] ∧
        s.manager =
          w.task^[segments.countP fun segment => ∃ name ∈ segment, name ∈ w.tables] manager) ∧
      ∀ before name after, s.log = before ++ .sent name :: after → name ∈ w.tables →
        .task ∈ after) ∧
    (.closed ∈ schedule → ∀ looks, schedule.length + 6 ≤ looks →
      ((start manager).after w (schedule ++ List.replicate looks .looked)).stage =
        .ended .channelClosed) ∧
    ∀ (events : List String) (rest : List Happening),
      schedule = events.map .sent ++ rest → (∀ name, .sent name ∉ rest) →
      ∀ why, s.stage = .ended why →
        s.log.countP Entry.isTask = if ∃ name ∈ events, name ∈ w.tables then 1 else 0 := by
  intro s
  obtain ⟨segments, segment, h⟩ := exists_accounts_after w manager hstop
  have harrived : s.arrived = arrivals schedule := arrived_after_start hstop
  refine ⟨harrived, fun why hended => ?_,
    fun hclosed looks hlooks => ended_after hstop hclosed hlooks, ?_⟩
  · obtain ⟨rfl, hqueue, hclosed⟩ := h.ended why hended
    have hdeeds := h.deeds
    have hholds := h.holds
    rw [hended] at hdeeds hholds
    obtain rfl : segment = [] := hholds
    refine ⟨rfl, hqueue, hclosed, ⟨segments, h.nonempty, ?_, hdeeds, h.manager⟩, ?_⟩
    · rw [← harrived, h.arrived, hqueue, List.append_nil, List.append_nil]
    · intro before name after hlog hname
      rcases covers_after hstop before name after hlog hname with htask | hqueued | hgathered
      · exact htask
      · rw [hqueue] at hqueued
        cases hqueued
      · rw [hended] at hgathered
        exact absurd hgathered Std.ExtTreeSet.not_mem_empty
  · rintro events rest rfl hsent why (hended : ((start manager).after w _).stage = _)
    have hrest : .stopped ∉ rest := fun hmem => hstop (List.mem_append_right _ hmem)
    exact countP_isTask_of_queued hrest hsent hended

/-- A name that arrives between a batch and the decision on it, and one that arrives during a
run. -/
def interleaved : List Happening :=
  [.sent "PORT", .looked, .looked, .sent "UE_GLOBAL", .looked, .looked, .looked, .looked,
    .sent "UE_GLOBAL", .closed] ++ List.replicate 6 .looked

/-- Both names get a run of their own. -/
theorem interleaved_names_are_answered :
    let s := (start 0).after ⟨["UE_GLOBAL"], (· + 1)⟩ interleaved
    s.arrived = ["PORT", "UE_GLOBAL", "UE_GLOBAL"] ∧ s.queue = [] ∧ s.manager = 2 ∧
      ∀ before after, s.log = before ++ .sent "UE_GLOBAL" :: after → .task ∈ after := by
  intro s
  obtain ⟨harrived, hended, -⟩ := nothing_relevant_is_lost ⟨["UE_GLOBAL"], (· + 1)⟩ 0 interleaved
    (by decide)
  have hstage : s.stage = .ended .channelClosed := by rfl
  obtain ⟨-, hqueue, -, -, hanswered⟩ := hended _ hstage
  exact ⟨harrived, hqueue, by rfl, fun before after hlog =>
    hanswered before _ after hlog List.mem_cons_self⟩

end EventLoop

end DualStack
