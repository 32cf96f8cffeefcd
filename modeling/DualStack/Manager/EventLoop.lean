import DualStack.Manager.Run

/-!
# The event loop

Changes arrive as names of tables and wait in a queue. A turn of the loop takes everything that
is queued as one batch and runs the manager once if the batch names a managed table. The loop ends
when nothing is queued and no sender is left, or when it is shut down.
-/

set_option autoImplicit false

namespace DualStack

/-- Why the event loop ended. -/
inductive LoopExit where
  | shutdown
  | channelClosed
deriving DecidableEq, Repr

namespace EventLoop

/-- The distinct names of everything queued, in order; nothing if the queue is empty. -/
def nextBatch? (queued : List String) : Option NameSet :=
  if queued.isEmpty then none else some (Std.ExtTreeSet.ofList queued)

/-- Whether a batch names a table that the manager reads. -/
def isRelevant (batch : NameSet) : Bool :=
  batch.toList.any Schema.managedTables.contains

/-- One turn on what is queued. -/
def turn (m : Manager) (dbs : Databases) (cancelDuringLoad : Bool) (queued : List String) :
    Manager × Databases :=
  match nextBatch? queued with
  | none => (m, dbs)
  | some batch =>
    if isRelevant batch then
      let (m, dbs, _) := m.doTask dbs cancelDuringLoad
      (m, dbs)
    else (m, dbs)

/-- The loop over what is queued at each of its turns, the senders being gone after the last. -/
def run (m : Manager) (dbs : Databases) (cancelDuringLoad shutdown : Bool) :
    List (List String) → Manager × Databases × LoopExit
  | [] => (m, dbs, if shutdown then .shutdown else .channelClosed)
  | queued :: arrivals =>
    if shutdown then (m, dbs, .shutdown)
    else
      let (m, dbs) := turn m dbs cancelDuringLoad queued
      run m dbs cancelDuringLoad shutdown arrivals

end EventLoop

end DualStack
