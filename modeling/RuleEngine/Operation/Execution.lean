import RuleEngine.Operation.Registry

set_option autoImplicit false

/-! # Executing an operation

An execution looks at its stop signal, begins its effect, and may then have to wait: for the
controller, for time to pass, or for the outcome of a lane task. The functions of this module say
what it does whenever it goes on; when that is, and what else happens in between, is left to whoever
runs it. -/

namespace RuleEngine

inductive Completion
  | done
  | failed (f : ActionFailure)
  | panicked (message : String)
deriving DecidableEq, Inhabited

/-- The result of an execution; a panic is a failure of its own kind. -/
def Completion.result (operation : String) : Completion → Except ActionFailure Unit
  | .done => .ok ()
  | .failed f => .error f
  | .panicked _ => .error (.panicked operation)

/-- What a controller can be asked for. -/
inductive Command
  | turn (distance : Double)
  | press (key : String) (hold : Duration)
deriving DecidableEq, Inhabited

/-- What an execution does first. -/
inductive Beginning
  | finish (c : Completion)
  /-- Give a command to the controller, and wait for it. -/
  | command (c : Command)
  /-- Wait until a moment. -/
  | sleep (deadline : Nat)
  /-- Write a fact, and be done. -/
  | write (key : String) (value : Json)
  /-- Submit a lane task, and wait for its outcome. -/
  | submit (target resultKey : String)
deriving DecidableEq

/-- The first moment that the clock cannot represent, in nanoseconds. -/
def clockEnd : Nat := Nat.pow 2 63 * Nat.pow 10 9

/-- Why a deadline beyond the clock panics. -/
def deadlinePanic : String := "overflow when adding duration to instant"

/-- Begin an effect at a moment. Nothing is begun once the operation was told to stop; only a wait
finds its deadline first. -/
def Effect.begin (operation : String) (signalled : Bool) (now : Nat) (e : Effect) : Beginning :=
  match e with
  | .wait d =>
    if clockEnd ≤ now + d.nanos then .finish (.panicked deadlinePanic)
    else if signalled then .finish (.failed (.stopped operation))
    else .sleep (now + d.nanos)
  | .turn distance =>
    if signalled then .finish (.failed (.stopped operation)) else .command (.turn distance)
  | .press key hold =>
    if signalled then .finish (.failed (.stopped operation)) else .command (.press key hold)
  | .setFact key value =>
    if signalled then .finish (.failed (.stopped operation)) else .write key value
  | .recognize target key =>
    if signalled then .finish (.failed (.stopped operation)) else .submit target key

/-- What a controller answers to a command. -/
inductive CommandEnd
  | done
  | error (message : String)
  | panic (message : String)
deriving DecidableEq, Inhabited

/-- The end of a command ends the execution. -/
def CommandEnd.completion (operation : String) : CommandEnd → Completion
  | .done => .done
  | .error m => .failed (.controller operation m)
  | .panic m => .panicked m

/-- The end of a sleep ends the execution; it was cut short if the operation was told to stop. -/
def Completion.ofSleep (operation : String) (signalled : Bool) : Completion :=
  if signalled then .failed (.stopped operation) else .done

/-- The label of the lane task for a target. -/
def recognitionLabel (target : String) : String := "recognize:" ++ target

/-- The lane does not take the task. -/
def Completion.ofRefusal (operation : String) (e : EngineError) : Completion :=
  .failed (.recognition operation e.message)

/-- What an execution does after it has looked for the outcome of its lane task. -/
inductive Verdict
  /-- There is no outcome yet. -/
  | wait
  | finish (c : Completion)
  /-- The target was found: store what was found. -/
  | store (value : Json)
  /-- The target was not found: take the fact out. -/
  | clear
deriving DecidableEq

/-- Look at the outcome of a lane task, if there is one. An operation that was told to stop does
nothing with it. -/
def Verdict.of (operation : String) (signalled : Bool)
    (outcome : Option (Except EngineError (Option Json))) : Verdict :=
  if signalled then .finish (.failed (.stopped operation))
  else
    match outcome with
    | none => .wait
    | some (.error e) => .finish (.failed (.recognition operation e.message))
    | some (.ok (some v)) => .store v
    | some (.ok none) => .clear

end RuleEngine
