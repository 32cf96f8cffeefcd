import DualStack.Manager.EventLoop

/-!
# The event loop, name by name

Names arrive at any time: before the loop starts, while a batch is collected, while the manager
runs. Here the loop advances by one look at the queue at a time, and anything may happen between two
looks. The first name of a batch is waited for, the others are taken as long as there are any, and
then the batch is decided on. A run that was started is always completed. What was sent and what the
loop did is kept in a log.

The loop asks of a manager only which tables it reads and what its task does.
-/

set_option autoImplicit false

namespace DualStack

/-- A manager as the loop knows it: the tables that it reads, and its task. -/
structure Worker (σ : Type) where
  tables : List String
  task : σ → σ

/-- The manager of this daemon, which works on the databases. -/
def Worker.dualStack (cancelDuringLoad : Bool) : Worker (Manager × Databases) where
  tables := Schema.managedTables
  task := fun (m, dbs) =>
    let (m, dbs, _) := m.doTask dbs cancelDuringLoad
    (m, dbs)

/-- Whether a batch names a table that the manager reads. -/
def Worker.isRelevant {σ : Type} (w : Worker σ) (batch : NameSet) : Bool :=
  batch.toList.any w.tables.contains

namespace EventLoop

/-- Where the loop is. -/
inductive Stage where
  /-- Waiting for the first name of a batch. -/
  | waiting
  /-- Taking what else is queued. -/
  | collecting (batch : NameSet)
  /-- Nothing else was queued. -/
  | collected (batch : NameSet)
  /-- The manager runs for the batch. -/
  | working (batch : NameSet)
  | ended (why : LoopExit)

/-- What can happen next. -/
inductive Happening where
  | sent (name : String)
  /-- The last sender goes away. -/
  | closed
  /-- The loop notices that it was shut down. -/
  | stopped
  /-- The loop looks at the queue, or the run comes to its end. -/
  | looked
deriving DecidableEq, Repr

/-- What the log says. -/
inductive Entry where
  | sent (name : String)
  | batch (names : NameSet)
  /-- A run of the manager starts. -/
  | task
  | exit (why : LoopExit)

/-- The loop between two looks. -/
structure State (σ : Type) where
  queue : List String
  /-- Whether there is a sender left. -/
  isOpen : Bool
  stage : Stage
  manager : σ
  log : List Entry

namespace State

variable {σ : Type}

/-- The loop before anything has happened. -/
def start (manager : σ) : State σ := ⟨[], true, .waiting, manager, []⟩

/-- The state with one more entry in the log. -/
def note (s : State σ) (entry : Entry) : State σ :=
  { s with log := s.log ++ [entry] }

/-- One look of the loop. -/
def look (w : Worker σ) (s : State σ) : State σ :=
  match s.stage, s.queue with
  | .waiting, name :: queue => { s with queue := queue, stage := .collecting {name} }
  | .waiting, [] =>
    if s.isOpen then s
    else { s with stage := .ended .channelClosed }.note (.exit .channelClosed)
  | .collecting batch, name :: queue =>
    { s with queue := queue, stage := .collecting (batch.insert name) }
  | .collecting batch, [] => { s with stage := .collected batch }.note (.batch batch)
  | .collected batch, _ =>
    if w.isRelevant batch then { s with stage := .working batch }.note .task
    else { s with stage := .waiting }
  | .working _, _ => { s with stage := .waiting, manager := w.task s.manager }
  | .ended _, _ => s

/-- The state after one thing has happened. A shutdown is noticed only while names are waited for,
and whoever still sends then finds no receiver. -/
def step (w : Worker σ) (s : State σ) : Happening → State σ
  | .sent name => if s.isOpen then { s with queue := s.queue ++ [name] }.note (.sent name) else s
  | .closed => { s with isOpen := false }
  | .stopped =>
    match s.stage with
    | .waiting | .collecting _ =>
      { s with isOpen := false, stage := .ended .shutdown }.note (.exit .shutdown)
    | .collected _ | .working _ | .ended _ => s
  | .looked => s.look w

/-- The state after a schedule. -/
def after (w : Worker σ) (s : State σ) (schedule : List Happening) : State σ :=
  schedule.foldl (step w) s

end State

end EventLoop

end DualStack
