import RuleEngine.Context
import RuleEngine.Operator.Basic
import RuleEngine.Simulation.Device

set_option autoImplicit false

/-! # The simulated world

A world holds an operator, its context, its lane, its devices and its files, and a clock that only
moves when everything that can go on at once has gone on. An execution that has to wait is kept as
an activity with a pause. The worker of the lane is at work whenever the lane has a task; what it is
doing ends at the moment `laneWake`. -/

namespace RuleEngine

/-- On whose behalf an operation is executed. -/
inductive Caller
  /-- Somebody waits for the result. -/
  | waiting
  /-- Nobody waits; the result is reported for a rule. -/
  | detached (rule : String)
deriving DecidableEq, Inhabited

/-- One execution of an operation. -/
structure Execution where
  ticket : Nat
  /-- The dispatch number, which a stop signal is addressed to. -/
  dispatch : Nat
  operation : String
  caller : Caller
deriving DecidableEq, Inhabited

/-- What an execution waits for. -/
inductive Pause
  /-- The controller reacts until a moment. -/
  | reacting (until_ : Nat) (r : Reaction)
  | sleeping (until_ : Nat)
  /-- A lane task ends; the stop signal is looked at every now and then since a moment. -/
  | awaiting (task : Nat) (resultKey : String) (since : Nat)
deriving Inhabited

/-- An execution that waits. -/
structure Activity where
  execution : Execution
  pause : Pause
deriving Inhabited

/-- A command and whether it was given by a detached execution. -/
structure IssuedCommand where
  command : Command
  detached : Bool
deriving DecidableEq, Inhabited

/-- The state of a simulation. -/
structure World where
  session : String := "s-1"
  /-- Nanoseconds since the beginning. -/
  clock : Nat := 0
  context : Context := {}
  devices : Devices := {}
  files : FileTree := {}
  operator : Operator
  lane : Lane String (Option Json) := {}
  /-- When the recognizer will have answered the lane task that is being run. -/
  laneWake : Nat := 0
  activities : List Activity := []
  nextTicket : Nat := 0
  /-- How executions have ended that somebody waits for. -/
  endings : List (Nat × Completion) := []
  /-- The end of the session was asked for. -/
  shutdownAsked : Bool := false
  /-- What has been reported, the oldest first. -/
  events : List Event := []
  /-- The commands that the controller was given, the oldest first. -/
  commands : List IssuedCommand := []

namespace World

def emit (w : World) (n : Notice) : World :=
  { w with events := w.events ++ [⟨w.session, n.1, n.2⟩] }

def emitAll (w : World) (ns : List Notice) : World := ns.foldl emit w

def setFact (w : World) (key : String) (value : Json) : World :=
  { w with context := w.context.setFact key value }

def stopOperator (w : World) : World :=
  let (notices, o) := w.operator.stop
  ({ w with operator := o } : World).emitAll notices

/-- The operation of an execution was told to stop. -/
def isSignalled (w : World) (e : Execution) : Bool := w.operator.isSignalled e.dispatch

/-- What a device does before it answers. -/
def react (w : World) (r : Reaction) : World :=
  let w := if r.stop then w.stopOperator else w
  let w := if r.shutdown then { w with shutdownAsked := true } else w
  r.writes.foldl (fun w (key, value) => w.setFact key value) w

/-! ## The end of an execution -/

/-- The data of the notice about a detached execution. -/
def detachedData (rule operation : String) (error : Option String) : Json :=
  .obj ([("rule", .str rule), ("operation", .str operation), ("async", .bool true)] ++
    (error.map fun m => ("error", Json.str m)).toList)

/-- What is reported about the result of a detached execution; the answer to a stop is not. -/
def detachedNotices (rule operation : String) : Except ActionFailure Unit → List Notice
  | .ok _ => [(.actionCompleted, detachedData rule operation none)]
  | .error f =>
    if f.isStopped then []
    else [(.actionFailed, detachedData rule operation (some f.message))]

def conclude (w : World) (e : Execution) (c : Completion) : World :=
  match e.caller with
  | .waiting => { w with endings := w.endings ++ [(e.ticket, c)] }
  | .detached rule =>
    ({ w with operator := w.operator.leave e.dispatch } : World).emitAll
      (detachedNotices rule e.operation (c.result e.operation))

end World

end RuleEngine
