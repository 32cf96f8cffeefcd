import DualStack.Manager.EventLoop
import DualStack.Proofs.Run
import DualStack.Proofs.Subscription

/-!
# No change is lost

Writes to the configuration database and turns of the event loop follow each other in any order.
Every write announces the table of its key, and a turn takes some of what was announced. Whatever
the order, and whatever half-written configurations the runs in between have seen: either the
application database holds every record that the configuration calls for, or the name of a managed
table still waits in the queue. Once nothing waits, the two agree.
-/

set_option autoImplicit false

namespace DualStack

/-- The manager, its databases, and the names of tables that were announced and not yet taken. -/
structure LoopState where
  manager : Manager
  databases : Databases
  queue : List String

/-- What can happen next. -/
inductive Move where
  | hset (key : String) (fields : Fields)
  | del (key : String)
  /-- The event loop takes one name and up to `more` others, in order. -/
  | turn (more : Nat)
deriving DecidableEq, Repr

namespace LoopState

/-- The state right after a first run, with names already waiting. -/
def afterRun (m : Manager) (dbs : Databases) (queue : List String) : LoopState :=
  let result := m.run dbs false
  ⟨result.manager, result.databases, queue⟩

/-- The state after a write to a key: a write that succeeds announces the table of the key. -/
def written (databaseNumber : Nat) (s : LoopState) (key : String)
    (result : Except Failure Store) : LoopState :=
  match result with
  | .ok config =>
    { s with
      databases := { s.databases with config := config }
      queue := s.queue ++
        (Subscription.tableOf? (Subscription.channel databaseNumber key)).toList }
  | .error _ => s

/-- The state after one move. -/
def step (databaseNumber : Nat) (s : LoopState) : Move → LoopState
  | .hset key fields => s.written databaseNumber key (s.databases.config.hset key fields)
  | .del key => s.written databaseNumber key (s.databases.config.del key)
  | .turn more =>
    let (manager, databases) :=
      EventLoop.turn s.manager s.databases false (s.queue.take (more + 1))
    ⟨manager, databases, s.queue.drop (more + 1)⟩

/-- The state after moves, one after another. -/
def after (databaseNumber : Nat) (s : LoopState) (moves : List Move) : LoopState :=
  moves.foldl (step databaseNumber) s

end LoopState

namespace Databases

/-- The application database holds every record that the configuration calls for. -/
def InSync (dbs : Databases) : Prop :=
  ∃ snapshot, Snapshot.load dbs.config = .ok snapshot ∧
    ∀ r ∈ snapshot.derivedState.records, dbs.appl.hashes[r.key]? = some r.fields.toHash

end Databases

/-! ## Runs -/

namespace Manager

variable {m : Manager} {dbs : Databases}

/-- A run between databases without faults leaves them in agreement. -/
theorem inSync_run (hm : m.cancelled = false) (hconfig : dbs.config.Faultless)
    (happl : dbs.appl.Faultless) : (m.run dbs false).databases.InSync := by
  obtain ⟨snapshot, hload⟩ := Snapshot.load_of_faultless hconfig
  have hdelivery : m.delivery? dbs false = some snapshot := by
    simp [delivery?, hm, hload, Except.toOption]
  refine ⟨snapshot, ?_, fun r hr => ?_⟩
  · rw [databases_run_of_some hdelivery]
    exact hload
  · rw [databases_run_of_some hdelivery, DerivedState.apply_eq]
    exact DerivedState.getElem?_delivered_of_mem _ _ hr (happl r.key)

/-- No run touches the configuration, or the faults of the application database. -/
theorem databases_run (m : Manager) (dbs : Databases) (cancelDuringLoad : Bool) :
    (m.run dbs cancelDuringLoad).databases.config = dbs.config ∧
      Store.SameFaults dbs.appl (m.run dbs cancelDuringLoad).databases.appl := by
  obtain ⟨appl, hafter, hfaults⟩ := m.exists_databases_run dbs cancelDuringLoad
  rw [hafter]
  exact ⟨rfl, hfaults⟩

end Manager

namespace EventLoop

/-- A batch is relevant exactly if a managed table is among its names. -/
theorem isRelevant_ofList (queued : List String) :
    isRelevant (Std.ExtTreeSet.ofList queued) = true ↔
      ∃ name ∈ queued, name ∈ Schema.managedTables := by
  unfold isRelevant
  simp [List.any_eq_true]

/-- A turn is a run if one of the names taken is that of a managed table. -/
theorem turn_of_mem (m : Manager) (dbs : Databases) (cancelDuringLoad : Bool)
    {queued : List String} (h : ∃ name ∈ queued, name ∈ Schema.managedTables) :
    turn m dbs cancelDuringLoad queued =
      ((m.run dbs cancelDuringLoad).manager, (m.run dbs cancelDuringLoad).databases) := by
  have hqueued : queued.isEmpty = false := by
    obtain ⟨name, hname, -⟩ := h
    exact List.isEmpty_eq_false_iff_exists_mem.2 ⟨name, hname⟩
  unfold turn nextBatch?
  simp only [hqueued, Bool.false_eq_true, if_false, (isRelevant_ofList queued).2 h, if_true]
  rfl

/-- A turn on names of which none is a managed table changes nothing. -/
theorem turn_of_notMem (m : Manager) (dbs : Databases) (cancelDuringLoad : Bool)
    {queued : List String} (h : ¬ ∃ name ∈ queued, name ∈ Schema.managedTables) :
    turn m dbs cancelDuringLoad queued = (m, dbs) := by
  have hrelevant : isRelevant (Std.ExtTreeSet.ofList queued) = false := by
    rw [← Bool.not_eq_true, isRelevant_ofList]
    exact h
  unfold turn nextBatch?
  cases queued.isEmpty with
  | true => rfl
  | false => simp only [Bool.false_eq_true, if_false, hrelevant]

end EventLoop

/-! ## Moves -/

namespace LoopState

/-- What holds between any two moves. -/
structure Invariant (s : LoopState) : Prop where
  active : s.manager.cancelled = false
  config : s.databases.config.Faultless
  appl : s.databases.appl.Faultless
  database : s.databases.config.database = .config
  inSync_or_queued : s.databases.InSync ∨ ∃ name ∈ s.queue, name ∈ Schema.managedTables

/-- A first run between databases without faults establishes the invariant. -/
theorem invariant_afterRun {m : Manager} {dbs : Databases} (hm : m.cancelled = false)
    (hconfig : dbs.config.Faultless) (happl : dbs.appl.Faultless)
    (hdatabase : dbs.config.database = .config) (queue : List String) :
    Invariant (afterRun m dbs queue) := by
  obtain ⟨hkept, hfaults⟩ := m.databases_run dbs false
  have hafter : (afterRun m dbs queue).databases = (m.run dbs false).databases := rfl
  refine ⟨?_, ?_, ?_, ?_, Or.inl (Manager.inSync_run hm hconfig happl)⟩
  · show (m.run dbs false).manager.cancelled = false
    rw [Manager.cancelled_run, hm]
    rfl
  · rw [hafter, hkept]
    exact hconfig
  · rw [hafter]
    exact hfaults.faultless happl
  · rw [hafter, hkept]
    exact hdatabase

/-- A write of one key keeps the invariant: a load that the write can change announces it. -/
theorem Invariant.written {s : LoopState} (h : Invariant s) (databaseNumber : Nat) {key : String}
    {config : Store} (hfaults : Store.SameFaults s.databases.config config)
    (hother : ∀ other, other ≠ key →
      config.hashes[other]? = s.databases.config.hashes[other]?) :
    Invariant (s.written databaseNumber key (.ok config)) := by
  refine ⟨h.active, hfaults.faultless h.config, h.appl, hfaults.database.trans h.database, ?_⟩
  by_cases hread : ∃ name ∈ Schema.managedTables,
      Text.startsWith (s.databases.config.tableLead name) key = true
  · obtain ⟨name, hname, hlead⟩ := hread
    have hannounced : Subscription.tableOf? (Subscription.channel databaseNumber key) =
        some name := by
      unfold Store.tableLead at hlead
      rw [h.database] at hlead
      exact (Subscription.tableOf?_channel_eq_some_iff databaseNumber hname).2 hlead
    exact Or.inr ⟨name, by simp [LoopState.written, hannounced], hname⟩
  · rcases h.inSync_or_queued with ⟨snapshot, hload, hheld⟩ | ⟨name, hqueued, hname⟩
    · -- no table holds the key, so the load and with it the records due are as before
      have hunread : Snapshot.load config = Snapshot.load s.databases.config := by
        refine Snapshot.load_congr hfaults fun other hlead => hother other ?_
        rintro rfl
        exact hread hlead
      exact Or.inl ⟨snapshot, hunread.trans hload, hheld⟩
    · exact Or.inr ⟨name, List.mem_append_left _ hqueued, hname⟩

/-- Every move keeps the invariant. -/
theorem Invariant.step {s : LoopState} (h : Invariant s) (databaseNumber : Nat) (move : Move) :
    Invariant (s.step databaseNumber move) := by
  cases move with
  | hset key fields =>
    show Invariant (s.written databaseNumber key (s.databases.config.hset key fields))
    rw [Store.hset_of_faultless h.config]
    refine h.written databaseNumber ⟨rfl, rfl, rfl⟩ fun other hother => ?_
    simp [Std.ExtTreeMap.getElem?_insert, hother.symm]
  | del key =>
    show Invariant (s.written databaseNumber key (s.databases.config.del key))
    rw [Store.del_of_faultless h.config]
    refine h.written databaseNumber ⟨rfl, rfl, rfl⟩ fun other hother => ?_
    simp [Std.ExtTreeMap.getElem?_erase, hother.symm]
  | turn more =>
    by_cases htaken : ∃ name ∈ s.queue.take (more + 1), name ∈ Schema.managedTables
    · have hstep : s.step databaseNumber (.turn more) =
          afterRun s.manager s.databases (s.queue.drop (more + 1)) := by
        simp only [LoopState.step, EventLoop.turn_of_mem _ _ _ htaken]
        rfl
      rw [hstep]
      exact invariant_afterRun h.active h.config h.appl h.database _
    · have hstep : s.step databaseNumber (.turn more) =
          { s with queue := s.queue.drop (more + 1) } := by
        simp only [LoopState.step, EventLoop.turn_of_notMem _ _ _ htaken]
      rw [hstep]
      refine ⟨h.active, h.config, h.appl, h.database, h.inSync_or_queued.imp_right ?_⟩
      -- what waited and was not taken still waits
      rintro ⟨name, hqueued, hname⟩
      rw [← List.take_append_drop (more + 1) s.queue, List.mem_append] at hqueued
      rcases hqueued with hqueued | hqueued
      · exact absurd ⟨name, hqueued, hname⟩ htaken
      · exact ⟨name, hqueued, hname⟩

/-- Any moves keep the invariant, by induction on the moves. -/
theorem Invariant.after {s : LoopState} (h : Invariant s) (databaseNumber : Nat)
    (moves : List Move) : Invariant (s.after databaseNumber moves) := by
  induction moves generalizing s with
  | nil => exact h
  | cons move moves ih => exact ih (h.step databaseNumber move)

/-- Once nothing waits, the application database holds every record that the configuration calls
for, whatever has been written since the first run and however the announcements were taken. -/
theorem inSync_of_queue_eq_nil (databaseNumber : Nat) {m : Manager} {dbs : Databases}
    (hm : m.cancelled = false) (hconfig : dbs.config.Faultless) (happl : dbs.appl.Faultless)
    (hdatabase : dbs.config.database = .config) (queue : List String) (moves : List Move)
    (hquiet : ((afterRun m dbs queue).after databaseNumber moves).queue = []) :
    ((afterRun m dbs queue).after databaseNumber moves).databases.InSync := by
  have hinvariant := (invariant_afterRun hm hconfig happl hdatabase queue).after databaseNumber
    moves
  rcases hinvariant.inSync_or_queued with hsync | ⟨name, hqueued, -⟩
  · exact hsync
  · rw [hquiet] at hqueued
    exact absurd hqueued List.not_mem_nil

/-- A record that is removed and written anew, with a run in between that sees neither. -/
theorem inSync_after_replacement :
    let s := (afterRun (Manager.new Schema.notificationChannel) Databases.empty []).after
      Database.config.number
      [.hset "UE_GLOBAL|global" [("enable", "true")], .turn 0, .del "UE_GLOBAL|global",
        .hset "PORT|Ethernet0" [("mtu", "9100")], .turn 0,
        .hset "UE_GLOBAL|global" [("enable", "false")], .turn 5]
    s.queue = [] ∧ s.databases.InSync := by
  have hquiet : ((afterRun (Manager.new Schema.notificationChannel) Databases.empty []).after
      Database.config.number
      [.hset "UE_GLOBAL|global" [("enable", "true")], .turn 0, .del "UE_GLOBAL|global",
        .hset "PORT|Ethernet0" [("mtu", "9100")], .turn 0,
        .hset "UE_GLOBAL|global" [("enable", "false")], .turn 5]).queue = [] := by
    decide +kernel
  exact ⟨hquiet, inSync_of_queue_eq_nil Database.config.number rfl (Store.faultless_empty _)
    (Store.faultless_empty _) rfl [] _ hquiet⟩

end LoopState

end DualStack
