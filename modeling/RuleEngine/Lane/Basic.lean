import RuleEngine.Error
import RuleEngine.Event.Basic
import RuleEngine.Table

set_option autoImplicit false

/-! # The lane

A lane runs tasks one at a time, in the order in which they were sent. It is a machine whose steps
are the functions of this module: the steps of a submission (`issueId`, `send`, `countSubmitted`),
those of a shutdown (`close`, `takeWorker`) and those of the worker (`start`, `deliver`, `count`,
`report`, `exit`). Threads interleave them at will; `submit`, `finish` and `shutdown` are the
sequences without an interleaving. -/

namespace RuleEngine

inductive TaskEnd (α : Type)
  | value (a : α)
  | error (message : String)
  | panic (message : String)
deriving DecidableEq, Inhabited

/-- What the handle of a task receives when the task ends. -/
def TaskEnd.outcome {α : Type} : TaskEnd α → Except String α
  | .value a => .ok a
  | .error m => .error m
  | .panic m => .error ("task panicked: " ++ m)

def TaskEnd.error? {α : Type} (t : TaskEnd α) : Option String :=
  match t.outcome with
  | .ok _ => none
  | .error m => some m

/-- The text of a panic whose payload is no text. -/
def TaskEnd.unknownPanic : String := "unknown panic"

/-- What the handle of a task can still receive. -/
inductive Mailbox (α : Type)
  /-- The task has not ended. -/
  | pending
  /-- The outcome is there and was not taken. -/
  | ready (outcome : Except String α)
  /-- The outcome was taken; there will be no other. -/
  | spent
deriving Inhabited

namespace Mailbox

variable {α : Type}

/-- The task has ended; its outcome can be taken once. -/
def deliver (outcome : Except String α) : Mailbox α → Mailbox α
  | .pending => .ready outcome
  | m => m

/-- An outcome as the caller sees it. -/
def received : Except String α → Except EngineError α
  | .ok a => .ok a
  | .error m => .error (.laneTask m)

/-- Look for the outcome without waiting; `none` while there is none. -/
def poll (id : Nat) : Mailbox α → Option (Except EngineError α) × Mailbox α
  | .pending => (none, .pending)
  | .ready outcome => (some (received outcome), .spent)
  | .spent => (some (.error (.laneTask ("lane task #" ++ toString id ++ " was dropped"))), .spent)

/-- Wait for the outcome; `none` as long as the wait goes on. -/
def wait? (id : Nat) : Mailbox α → Option (Except EngineError α)
  | .pending => none
  | .ready outcome => some (received outcome)
  | .spent =>
    some (.error (.laneTask ("lane task #" ++ toString id ++ " was dropped before completing")))

end Mailbox

/-- A task that was sent to the lane; `work` is what there is to do. -/
structure LaneJob (ω : Type) where
  id : Nat
  label : String
  work : ω
deriving DecidableEq, Inhabited

/-- What is reported about a task that has ended. -/
structure LaneReport where
  id : Nat
  label : String
  error : Option String
deriving DecidableEq, Inhabited

namespace LaneReport

def of {ω α : Type} (job : LaneJob ω) (ending : TaskEnd α) : LaneReport :=
  ⟨job.id, job.label, ending.error?⟩

/-- The data of the event for a failed task. -/
def failureData? (r : LaneReport) : Option Json :=
  r.error.map fun m =>
    .obj [("task_id", .num (.int r.id)), ("operation", .str r.label), ("error", .str m)]

/-- What is reported about a task: one notice if it failed. -/
def notices (r : LaneReport) : List Notice :=
  (r.failureData?.map fun data => (EventType.laneTaskFailed, data)).toList

end LaneReport

/-- What the worker of a lane is doing. -/
inductive LaneWorker (ω α : Type)
  | idle
  | running (job : LaneJob ω)
  /-- The outcome was handed over; the counters do not know yet. -/
  | delivered (job : LaneJob ω) (ending : TaskEnd α)
  /-- The counters know; the report is still to be made. -/
  | counted (job : LaneJob ω) (ending : TaskEnd α)
  | gone
deriving DecidableEq, Inhabited

/-- A lane for work of type `ω` with results of type `α`. -/
structure Lane (ω α : Type) where
  /-- Tasks can still be sent. -/
  accepting : Bool := true
  /-- Nobody has joined the worker, or is joining it. -/
  joinable : Bool := true
  nextId : Nat := 1
  /-- Tasks that the worker has not begun. -/
  queue : List (LaneJob ω) := []
  worker : LaneWorker ω α := .idle
  /-- What the handles of tasks can still receive. -/
  mailboxes : List (Nat × Mailbox α) := []
  submitted : Nat := 0
  completed : Nat := 0
  failed : Nat := 0
  /-- The reports made so far, the oldest first. -/
  reports : List LaneReport := []
deriving Inhabited

namespace Lane

variable {ω α : Type}

/-- Tasks that were counted as submitted and not as completed. -/
def queued (l : Lane ω α) : Nat := l.submitted - l.completed

/-! ## Submission -/

def issueId (l : Lane ω α) : Nat × Lane ω α := (l.nextId, { l with nextId := l.nextId + 1 })

/-- Send a task; a closed lane takes none. -/
def send (job : LaneJob ω) (l : Lane ω α) : Bool × Lane ω α :=
  if l.accepting then
    (true, { l with queue := l.queue ++ [job], mailboxes := l.mailboxes ++ [(job.id, .pending)] })
  else (false, l)

def countSubmitted (l : Lane ω α) : Lane ω α := { l with submitted := l.submitted + 1 }

/-- Submit a task: the number of it, or the error of a closed lane. A refused task has used up a
number all the same. -/
def submit (label : String) (work : ω) (l : Lane ω α) : Except EngineError Nat × Lane ω α :=
  let (id, l) := l.issueId
  match l.send ⟨id, label, work⟩ with
  | (true, l) => (.ok id, l.countSubmitted)
  | (false, l) => (.error .laneClosed, l)

/-! ## The worker -/

def start (l : Lane ω α) : Lane ω α :=
  match l.worker, l.queue with
  | .idle, job :: rest => { l with queue := rest, worker := .running job }
  | _, _ => l

/-- Put the outcome of a task into its mailbox. -/
def fill (id : Nat) (outcome : Except String α) (boxes : List (Nat × Mailbox α)) :
    List (Nat × Mailbox α) :=
  boxes.map fun (i, m) => if i = id then (i, m.deliver outcome) else (i, m)

/-- The task in hand ends; its handle can take the outcome from now on. -/
def deliver (ending : TaskEnd α) (l : Lane ω α) : Lane ω α :=
  match l.worker with
  | .running job =>
    { l with worker := .delivered job ending, mailboxes := fill job.id ending.outcome l.mailboxes }
  | _ => l

def count (l : Lane ω α) : Lane ω α :=
  match l.worker with
  | .delivered job ending =>
    { l with
      worker := .counted job ending
      completed := l.completed + 1
      failed := l.failed + if ending.error?.isSome then 1 else 0 }
  | _ => l

/-- The task in hand is reported; the worker is free again, even if the receiver of the report
panics. -/
def report (l : Lane ω α) : Lane ω α :=
  match l.worker with
  | .counted job ending => { l with worker := .idle, reports := l.reports ++ [.of job ending] }
  | _ => l

/-- The worker of a closed lane leaves when there is nothing left to do. -/
def exit (l : Lane ω α) : Lane ω α :=
  match l.worker, l.queue with
  | .idle, [] => if l.accepting then l else { l with worker := .gone }
  | _, _ => l

/-- All that the worker does from the end of a task to the next one. -/
def finish (ending : TaskEnd α) (l : Lane ω α) : Lane ω α := (l.deliver ending).count.report

/-! ## Shutdown -/

def close (l : Lane ω α) : Lane ω α := { l with accepting := false }

/-- Take the worker for joining it; only the first one who asks gets it. -/
def takeWorker (l : Lane ω α) : Bool × Lane ω α := (l.joinable, { l with joinable := false })

/-! ## Handles -/

/-- What a handle can still receive. -/
def mailbox? (l : Lane ω α) (id : Nat) : Option (Mailbox α) := l.mailboxes.lookup id

/-- A handle is given up; nobody will take the outcome. -/
def discard (id : Nat) (l : Lane ω α) : Lane ω α :=
  { l with mailboxes := l.mailboxes.filter fun e => e.1 != id }

/-- Look whether a task has ended, and take its outcome. -/
def poll (id : Nat) (l : Lane ω α) : Option (Except EngineError α) × Lane ω α :=
  match l.mailbox? id with
  | none => (none, l)
  | some m =>
    let (answer, m) := m.poll id
    (answer, { l with mailboxes := l.mailboxes.map fun e => if e.1 = id then (id, m) else e })

/-- Take the outcome of a task that has ended, and give up the handle. -/
def wait? (id : Nat) (l : Lane ω α) : Option (Except EngineError α × Lane ω α) :=
  ((l.mailbox? id).bind (Mailbox.wait? id)).map fun answer => (answer, l.discard id)

end Lane

end RuleEngine
