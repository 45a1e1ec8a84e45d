import RuleEngine.Context
import RuleEngine.Operation.Execution
import RuleEngine.Proofs.Operator.Program
import RuleEngine.Proofs.Operator.Threads
import RuleEngine.Simulation.World

set_option autoImplicit false

/-! # A tick among other threads

A tick has a plan and goes through its program. Meanwhile other threads stop the operator, dispatch
operations in ticks of their own, and change the context; a stop may also come from a device that an
operation of the tick has turned to, while the tick waits for it. `TickStep` says what can happen when,
and what becomes of it. What a dispatch of the tick does at the operator are steps of `OperatorStep`
like those of the other threads; what an operation does when it is executed is `ExecStep`, where
devices and lane answer as they like.
-/

namespace RuleEngine

/-! ## Executing an operation -/

/-- How far the execution of an operation has come. -/
inductive ExecStage
  | fresh
  /-- A command is to be given to the controller. -/
  | commanding (c : Command)
  /-- The controller is at work. -/
  | commanded
  | sleeping (deadline : Nat)
  /-- A task is to be submitted to the lane. -/
  | submitting (target resultKey : String)
  /-- The lane has the task. -/
  | awaiting (resultKey : String)
  | storing (key : String) (value : Json)
  | clearing (key : String)
  | ended (c : Completion)

/-- What an execution does, or is answered. -/
inductive ExecEvent
  /-- It looks at its stop signal and at the clock. -/
  | begin (now : Nat)
  | command (c : Command)
  | answer (ending : CommandEnd)
  | wake
  | submit (target : String)
  /-- The lane does not take the task. -/
  | refuse (e : EngineError)
  /-- It looks for the outcome of its task, and at its stop signal. -/
  | poll (outcome : Option (Except EngineError (Option Json)))
  | write (key : String) (value : Json)
  | clear (key : String)

/-- What an execution has to do after its beginning. -/
def ExecStage.ofBeginning : Beginning → ExecStage
  | .finish c => .ended c
  | .command c => .commanding c
  | .sleep deadline => .sleeping deadline
  | .write key value => .storing key value
  | .submit target resultKey => .submitting target resultKey

/-- What an execution has to do after it has looked for the outcome of its task. -/
def ExecStage.ofVerdict (resultKey : String) : Verdict → ExecStage
  | .wait => .awaiting resultKey
  | .finish c => .ended c
  | .store value => .storing resultKey value
  | .clear => .clearing resultKey

/-- What an event makes of the context. -/
def ExecEvent.apply : ExecEvent → Context → Context
  | .write key value, c => c.setFact key value
  | .clear key, c => c.removeFact key
  | _, c => c

/-- How an execution goes on, given its stop signal and the clock. -/
inductive ExecStep (c : Compiled) (signalled : Bool) (now : Nat) :
    ExecStage → ExecEvent → ExecStage → Prop
  | begin :
      ExecStep c signalled now .fresh (.begin now)
        (.ofBeginning (c.effect.begin c.name signalled now))
  | command (command : Command) :
      ExecStep c signalled now (.commanding command) (.command command) .commanded
  | answer (ending : CommandEnd) :
      ExecStep c signalled now .commanded (.answer ending) (.ended (ending.completion c.name))
  | wake {deadline : Nat} :
      signalled = true ∨ deadline ≤ now →
      ExecStep c signalled now (.sleeping deadline) .wake (.ended (.ofSleep c.name signalled))
  | submit (target resultKey : String) :
      ExecStep c signalled now (.submitting target resultKey) (.submit target) (.awaiting resultKey)
  | refuse {target resultKey : String} (e : EngineError) :
      ExecStep c signalled now (.submitting target resultKey) (.refuse e)
        (.ended (.ofRefusal c.name e))
  | poll (resultKey : String) (outcome : Option (Except EngineError (Option Json))) :
      ExecStep c signalled now (.awaiting resultKey) (.poll outcome)
        (.ofVerdict resultKey (.of c.name signalled outcome))
  | write (key : String) (value : Json) :
      ExecStep c signalled now (.storing key value) (.write key value) (.ended .done)
  | clear (key : String) : ExecStep c signalled now (.clearing key) (.clear key) (.ended .done)

/-! ## The tick and the others -/

/-- A dispatch of the tick. -/
structure TickWork where
  rule : String
  operation : Compiled
  /-- The tick does not wait for it. -/
  detached : Bool
  stage : ExecStage := .fresh

/-- The dispatch that a program begins next. -/
def TickProgram.work? {α : Type} : TickProgram α → Option TickWork
  | .execute rule c _ => some { rule := rule, operation := c, detached := false }
  | .dispatch rule c _ => some { rule := rule, operation := c, detached := true }
  | _ => none

/-- A tick, its dispatches, and the operator and the context that it shares with others. -/
structure TickThreads where
  threads : OperatorThreads
  context : Context
  /-- Nanoseconds since some moment. -/
  clock : Nat := 0
  /-- What the tick has still to do. -/
  program : TickProgram (Except EngineError TickReport)
  /-- The dispatch that the tick is at. -/
  current : Option Nat := none
  work : Nat → Option TickWork := fun _ => none
  /-- What the tick and its dispatches have reported, the oldest first. -/
  notices : List Notice := []

def TickThreads.operator (s : TickThreads) : Operator := s.threads.operator

def OperatorEvent.dispatch? : OperatorEvent → Option Nat
  | .take d | .enter d _ | .check d | .tell d | .withdraw d | .start d | .finish d | .leave d
  | .abandon d => some d
  | .stop | .look | .reach _ | .looked | .wipe | .drop _ | .wiped | .release => none

/-- The dispatch takes this step at the operator on its way to the end of its execution. -/
inductive TickWork.Takes (w : TickWork) (d : Nat) : OperatorEvent → Prop
  | enter : w.Takes d (.enter d ⟨w.rule, w.operation.name⟩)
  | check : w.Takes d (.check d)
  | tell : w.Takes d (.tell d)
  | withdraw : w.Takes d (.withdraw d)
  | start : w.Takes d (.start d)
  | finish {c : Completion} : w.stage = .ended c → w.Takes d (.finish d)

/-- What can happen while a tick runs. -/
inductive TickEvent
  /-- Another thread takes a step at the operator. -/
  | others (e : OperatorEvent)
  /-- Another thread changes the context. -/
  | context (c : Context)
  | pass (now : Nat)
  | look (stopped : Bool)
  | record (rule : String)
  | emit (n : Notice)
  /-- The tick takes a number for its next dispatch. -/
  | take (d : Nat) (w : TickWork)
  /-- A dispatch of the tick takes a step at the operator. -/
  | own (e : OperatorEvent)
  /-- The operation of a dispatch is executed. -/
  | exec (d : Nat) (operation : Compiled) (e : ExecEvent)
  /-- The operation that the tick waits for has left the table, and the tick goes on. -/
  | answer (a : Answer)
  /-- An operation that the tick does not wait for has a thread of its own, and the tick goes on. -/
  | spawn (d : Nat)
  /-- No thread was found for it, and the tick goes on. -/
  | abandon (d : Nat) (rule operation error : String)
  /-- An operation that the tick does not wait for has left the table. -/
  | conclude (a : Answer)

/-- What one event makes of a tick and the others. -/
inductive TickStep : TickThreads → TickEvent → TickThreads → Prop
  | others {s : TickThreads} {e : OperatorEvent} {t : OperatorThreads} :
      (∀ d, e.dispatch? = some d → s.work d = none) → OperatorStep s.threads e t →
      TickStep s (.others e) { s with threads := t }
  | context {s : TickThreads} (c : Context) : TickStep s (.context c) { s with context := c }
  | pass {s : TickThreads} {now : Nat} :
      s.clock ≤ now → TickStep s (.pass now) { s with clock := now }
  | look {s : TickThreads} {next : Bool → TickProgram (Except EngineError TickReport)} :
      s.program = .look next →
      TickStep s (.look s.operator.isStopped) { s with program := next s.operator.isStopped }
  | record {s : TickThreads} {rule : String} {next : TickProgram (Except EngineError TickReport)} :
      s.program = .record rule next →
      TickStep s (.record rule) { s with program := next, context := s.context.recordAction rule }
  | emit {s : TickThreads} {n : Notice} {next : TickProgram (Except EngineError TickReport)} :
      s.program = .emit n next →
      TickStep s (.emit n) { s with program := next, notices := s.notices ++ [n] }
  | take {s : TickThreads} {d : Nat} {w : TickWork} {t : OperatorThreads} :
      s.current = none → s.program.work? = some w → OperatorStep s.threads (.take d) t →
      TickStep s (.take d w)
        { s with threads := t, current := some d, work := Function.update s.work d (some w) }
  | own {s : TickThreads} {d : Nat} {w : TickWork} {e : OperatorEvent} {t : OperatorThreads} :
      s.work d = some w → w.Takes d e → OperatorStep s.threads e t →
      TickStep s (.own e) { s with threads := t }
  | exec {s : TickThreads} {d : Nat} {w : TickWork} {e : ExecEvent} {stage : ExecStage} :
      s.threads.stage d = .executing → s.work d = some w →
      ExecStep w.operation (s.operator.isSignalled d) s.clock w.stage e stage →
      TickStep s (.exec d w.operation e)
        { s with
          work := Function.update s.work d (some { w with stage := stage })
          context := e.apply s.context }
  | answer {s : TickThreads} {d : Nat} {w : TickWork} {c : Completion} {t : OperatorThreads}
      {next : Except ActionFailure Unit → TickProgram (Except EngineError TickReport)} :
      s.program = .execute w.rule w.operation next → s.current = some d → s.work d = some w →
      w.stage = .ended c → OperatorStep s.threads (.leave d) t →
      TickStep s (.answer ⟨d, w.rule, w.operation, c.result w.operation.name⟩)
        { s with threads := t, current := none, program := next (c.result w.operation.name) }
  | spawn {s : TickThreads} {d : Nat} {w : TickWork}
      {next : TickProgram (Except EngineError TickReport)} :
      s.program = .dispatch w.rule w.operation next → s.current = some d → s.work d = some w →
      (s.threads.stage d).isTracked = true →
      TickStep s (.spawn d) { s with current := none, program := next }
  | abandon {s : TickThreads} {d : Nat} {w : TickWork} {t : OperatorThreads}
      {next : TickProgram (Except EngineError TickReport)} (error : String) :
      s.program = .dispatch w.rule w.operation next → s.current = some d → s.work d = some w →
      OperatorStep s.threads (.abandon d) t →
      TickStep s (.abandon d w.rule w.operation.name error)
        { s with
          threads := t
          current := none
          program := next
          notices := s.notices ++
            [(.actionFailed, World.detachedData w.rule w.operation.name (some error))] }
  | conclude {s : TickThreads} {d : Nat} {w : TickWork} {c : Completion} {t : OperatorThreads} :
      s.work d = some w → w.detached = true → w.stage = .ended c →
      OperatorStep s.threads (.leave d) t →
      TickStep s (.conclude ⟨d, w.rule, w.operation, c.result w.operation.name⟩)
        { s with
          threads := t
          notices := s.notices ++
            World.detachedNotices w.rule w.operation.name (c.result w.operation.name) }

/-- A tick that has taken its plan, on an operator that others may have used before. -/
def TickThreads.begin (threads : OperatorThreads) (plan : Plan) (context : Context) (clock : Nat) :
    TickThreads where
  threads := threads
  context := context.beginTick
  clock := clock
  program := Tick.program plan context.beginTick.tick context.beginTick.facts.get?

end RuleEngine
