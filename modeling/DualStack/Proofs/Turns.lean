import DualStack.Proofs.Convergence
import DualStack.Proofs.Reception

/-!
# The event loop turn by turn

If names are sent all at once and the loop is done with them before the next ones are sent, it goes
through one turn for each of these bursts. The loop that is told name by name is then the one that
is told what is queued at each of its turns.
-/

set_option autoImplicit false

namespace DualStack

namespace EventLoop

open State

/-- Where the loop is while there is a sender, but for what the log says. -/
structure State.At {σ : Type} (s : State σ) (stage : Stage) (queue : List String) (manager : σ) :
    Prop where
  stage : s.stage = stage
  queue : s.queue = queue
  manager : s.manager = manager
  isOpen : s.isOpen = true

section

variable {σ : Type} {w : Worker σ} {s : State σ} {stage : Stage} {name : String}
  {segment queue names : List String} {manager : σ}

namespace State.At

/-- A name that is sent goes to the end of the queue and nothing else happens. -/
theorem sent (h : s.At stage queue manager) (name : String) :
    (s.step w (.sent name)).At stage (queue ++ [name]) manager := by
  rw [step_sent_of_open h.isOpen]
  exact ⟨h.stage, congrArg (· ++ [name]) h.queue, h.manager, h.isOpen⟩

/-- A look at an empty queue leaves a loop that waits where it is. -/
theorem look_idle (h : s.At .waiting [] manager) : (s.look w).At .waiting [] manager := by
  rw [look_of_open h.stage h.queue h.isOpen]
  exact h

/-- The first look takes the first name of a batch. -/
theorem look_waiting (h : s.At .waiting (name :: queue) manager) :
    (s.look w).At (.collecting (batchOf [name])) queue manager := by
  rw [look_of_waiting h.stage h.queue, singleton_eq_batchOf]
  exact ⟨rfl, rfl, h.manager, h.isOpen⟩

/-- A look takes the next name into the batch. -/
theorem look_collecting (h : s.At (.collecting (batchOf segment)) (name :: queue) manager) :
    (s.look w).At (.collecting (batchOf (segment ++ [name]))) queue manager := by
  rw [look_of_collecting h.stage h.queue, insert_batchOf]
  exact ⟨rfl, rfl, h.manager, h.isOpen⟩

/-- A look at an empty queue ends the batch. -/
theorem look_drained (h : s.At (.collecting (batchOf segment)) [] manager) :
    (s.look w).At (.collected (batchOf segment)) [] manager := by
  rw [look_of_drained h.stage h.queue]
  exact ⟨rfl, h.queue, h.manager, h.isOpen⟩

/-- A look at a batch with a managed table starts a run. -/
theorem look_relevant (h : s.At (.collected (batchOf segment)) queue manager)
    (hsome : ∃ name ∈ segment, name ∈ w.tables) :
    (s.look w).At (.working (batchOf segment)) queue manager := by
  rw [look_of_relevant h.stage (isRelevant_batchOf_iff.2 hsome)]
  exact ⟨rfl, h.queue, h.manager, h.isOpen⟩

/-- A look at a batch without a managed table goes back to waiting. -/
theorem look_irrelevant (h : s.At (.collected (batchOf segment)) queue manager)
    (hnone : ¬ ∃ name ∈ segment, name ∈ w.tables) : (s.look w).At .waiting queue manager := by
  rw [← isRelevant_batchOf_iff, Bool.not_eq_true] at hnone
  rw [look_of_irrelevant h.stage hnone]
  exact ⟨rfl, h.queue, h.manager, h.isOpen⟩

/-- A look during a run completes it, and the loop waits again. -/
theorem look_working (h : s.At (.working (batchOf segment)) queue manager) :
    (s.look w).At .waiting queue (w.task manager) := by
  rw [look_of_working h.stage]
  exact ⟨rfl, h.queue, congrArg w.task h.manager, h.isOpen⟩

/-- Names that are sent all at once are queued in order. -/
theorem after_sent (h : s.At stage queue manager) (names : List String) :
    (s.after w (names.map .sent)).At stage (queue ++ names) manager := by
  induction names generalizing s queue with
  | nil => simpa [after] using h
  | cons name names ih =>
    have hrest := ih (h.sent (w := w) name)
    rw [List.append_assoc] at hrest
    exact hrest

/-- Any number of looks at an empty queue leave a loop that waits where it is. -/
theorem after_idle (h : s.At .waiting [] manager) (looks : Nat) :
    (s.after w (List.replicate looks .looked)).At .waiting [] manager := by
  induction looks generalizing s with
  | zero => exact h
  | succ looks ih => exact ih h.look_idle

/-- As many looks as there are names take all of them into the batch, by induction on the names. -/
theorem after_collecting (h : s.At (.collecting (batchOf segment)) names manager) :
    (s.after w (List.replicate names.length .looked)).At
      (.collecting (batchOf (segment ++ names))) [] manager := by
  induction names generalizing s segment with
  | nil => simpa [after] using h
  | cons name names ih =>
    have hrest := ih (h.look_collecting (w := w))
    rw [List.append_assoc] at hrest
    exact hrest

/-- A batch with nothing queued behind it is decided on and answered in three looks. -/
theorem after_drained (h : s.At (.collecting (batchOf segment)) [] manager) :
    (s.after w (List.replicate 3 .looked)).At .waiting []
      (if ∃ name ∈ segment, name ∈ w.tables then w.task manager else manager) := by
  have hdrained : (s.look w).At (.collected (batchOf segment)) [] manager := h.look_drained
  split
  · next hsome => exact (hdrained.look_relevant hsome).look_working
  · next hnone => exact (hdrained.look_irrelevant hnone).look_idle

/-- The loop is done with names that were sent all at once after as many looks as there are names
and three more, and a run was made of them if one of them is relevant. -/
theorem after_burst (h : s.At .waiting [] manager) (names : List String) :
    (s.after w (names.map .sent ++ List.replicate (names.length + 3) .looked)).At .waiting []
      (if ∃ name ∈ names, name ∈ w.tables then w.task manager else manager) := by
  have hsent : (s.after w (names.map .sent)).At .waiting names manager := h.after_sent names
  rw [State.after_append]
  cases names with
  | nil =>
    rw [if_neg (by simp)]
    exact hsent.after_idle 3
  | cons name names =>
    have hfirst := (hsent.look_waiting (w := w)).after_collecting (w := w)
    have hlooks : List.replicate ((name :: names).length + 3) Happening.looked =
        .looked :: (List.replicate names.length .looked ++ List.replicate 3 .looked) := by
      rw [List.replicate_append_replicate, ← List.replicate_succ, List.length_cons]
    rw [hlooks, ← List.cons_append, State.after_append]
    exact hfirst.after_drained

end State.At

end

/-- A schedule in which names are sent all at once and the loop is done with them before the next
ones are sent, or in which the loop is shut down at once. -/
def turns (shutdown : Bool) (bursts : List (List String)) : List Happening :=
  if shutdown then [.stopped]
  else
    (bursts.flatMap fun names =>
      names.map .sent ++ List.replicate (names.length + 3) .looked) ++ [.closed, .looked]

/-- A turn of the loop does the task of the manager exactly if a managed table is named. -/
theorem turn_eq (m : Manager) (dbs : Databases) (cancelDuringLoad : Bool) (names : List String) :
    turn m dbs cancelDuringLoad names =
      if ∃ name ∈ names, name ∈ (Worker.dualStack cancelDuringLoad).tables then
        (Worker.dualStack cancelDuringLoad).task (m, dbs)
      else (m, dbs) := by
  split
  · next hsome => exact turn_of_mem m dbs cancelDuringLoad hsome
  · next hnone => exact turn_of_notMem m dbs cancelDuringLoad hnone

/-- A loop that is done with all that is queued at each of its turns goes through these turns. -/
theorem run_eq_after (m : Manager) (dbs : Databases) (cancelDuringLoad shutdown : Bool)
    (bursts : List (List String)) :
    let s := (start (m, dbs)).after (Worker.dualStack cancelDuringLoad) (turns shutdown bursts)
    s.stage = .ended (run m dbs cancelDuringLoad shutdown bursts).2.2 ∧
      s.manager = ((run m dbs cancelDuringLoad shutdown bursts).1,
        (run m dbs cancelDuringLoad shutdown bursts).2.1) := by
  cases shutdown with
  | true => cases bursts <;> exact ⟨rfl, rfl⟩
  | false =>
    -- the induction is on the bursts, from any state that waits on an empty queue
    have hrun : ∀ (bursts : List (List String)) (s : State (Manager × Databases)) m dbs,
        s.At .waiting [] (m, dbs) →
        let s' := s.after (Worker.dualStack cancelDuringLoad) (turns false bursts)
        s'.stage = .ended (run m dbs cancelDuringLoad false bursts).2.2 ∧
          s'.manager = ((run m dbs cancelDuringLoad false bursts).1,
            (run m dbs cancelDuringLoad false bursts).2.1) := by
      intro bursts
      induction bursts with
      | nil =>
        intro s m dbs h
        have hend := look_of_closed (w := Worker.dualStack cancelDuringLoad)
          (s := { s with isOpen := false }) h.stage h.queue rfl
        show (State.look _ { s with isOpen := false }).stage = _ ∧
          (State.look _ { s with isOpen := false }).manager = _
        rw [hend]
        exact ⟨rfl, h.manager⟩
      | cons names bursts ih =>
        intro s m dbs h
        have hburst := h.after_burst (w := Worker.dualStack cancelDuringLoad) names
        rw [← turn_eq] at hburst
        have hrest := ih _ _ _ hburst
        rw [← State.after_append] at hrest
        have hturns : turns false (names :: bursts) =
            (names.map .sent ++ List.replicate (names.length + 3) .looked) ++
              turns false bursts := by
          simp [turns]
        rw [hturns]
        exact hrest
    exact hrun bursts _ m dbs ⟨rfl, rfl, rfl, rfl⟩

end EventLoop

end DualStack
