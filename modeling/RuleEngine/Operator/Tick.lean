import RuleEngine.Event.Basic
import RuleEngine.Operator.Plan
import RuleEngine.Rule.Selection

set_option autoImplicit false

/-! # Ticks

A tick goes through the rules that fire and executes the operations of each in order. The tick waits
for an operation unless it is asynchronous; the first one that fails ends its rule, and a critical
rule that fails ends the tick. Nothing more is done once a stop is noticed.

What executing an operation does is left open: a `TickEnv` says it for a state of any type, so that
anything may happen to the state while an operation is executed. -/

namespace RuleEngine

/-- A rule that an operation has ended. -/
structure RuleFailure where
  rule : String
  failure : ActionFailure
deriving DecidableEq, Inhabited

structure TickReport where
  tick : Nat := 0
  /-- Rules that were begun, in order. -/
  fired : List String := []
  /-- Operations that the tick waited for and that completed. -/
  actions : Nat := 0
  asyncDispatched : Nat := 0
  failures : List RuleFailure := []
deriving DecidableEq, Inhabited

/-- What a tick can do to a state of type `σ`. -/
structure TickEnv (σ : Type) where
  /-- A stop can be noticed. -/
  isStopped : σ → Bool
  /-- Execute an operation of a rule and wait for it. -/
  execute : String → Compiled → σ → Except ActionFailure Unit × σ
  /-- Execute an operation of a rule without waiting for it. -/
  dispatch : String → Compiled → σ → σ
  /-- Note that a rule has completed an action. -/
  record : String → σ → σ
  emit : Notice → σ → σ

namespace Tick

variable {σ : Type}

/-! ## What is reported -/

def failureNotice (tick : Nat) (rule : Rule) (operation : String) (f : ActionFailure) : Notice :=
  (.actionFailed,
    .obj [("tick", .num (.int tick)), ("rule", .str rule.id), ("operation", .str operation),
      ("error", .str f.message), ("critical", .bool rule.critical)])

def criticalNotice (tick : Nat) (rule : Rule) (f : ActionFailure) : Notice :=
  (.criticalFailure,
    .obj [("tick", .num (.int tick)), ("rule", .str rule.id), ("error", .str f.message)])

def completedNotice (r : TickReport) : Notice :=
  (.tickCompleted,
    .obj [("tick", .num (.int r.tick)), ("fired", .arr (r.fired.map Json.str)),
      ("actions", .num (.int r.actions)), ("async_dispatched", .num (.int r.asyncDispatched)),
      ("failures", .num (.int r.failures.length))])

/-! ## Going through operations and rules -/

inductive RuleEnd
  | done
  /-- An operation answered a stop that is noticed. -/
  | stopped
  | failed (operation : String) (failure : ActionFailure)
deriving DecidableEq

/-- Execute operations of a rule until one of them fails. -/
def runOperations (env : TickEnv σ) (rule : String) :
    List Compiled → TickReport → σ → RuleEnd × TickReport × σ
  | [], report, s => (.done, report, s)
  | c :: cs, report, s =>
    if c.isAsync then
      runOperations env rule cs { report with asyncDispatched := report.asyncDispatched + 1 }
        (env.dispatch rule c s)
    else
      match env.execute rule c s with
      | (.ok _, s) =>
        runOperations env rule cs { report with actions := report.actions + 1 }
          (env.record rule s)
      | (.error f, s) =>
        if f.isStopped && env.isStopped s then (.stopped, report, s)
        else (.failed c.name f, report, s)

/-- Run rules until a stop is noticed or a critical one fails. -/
def runRules (env : TickEnv σ) (plan : Plan) :
    List Rule → TickReport → σ → Except EngineError TickReport × σ
  | [], report, s => (.ok report, s)
  | r :: rs, report, s =>
    if env.isStopped s then (.ok report, s)
    else
      let report := { report with fired := report.fired ++ [r.id] }
      match runOperations env r.id (plan.operationsOf r) report s with
      | (.done, report, s) => runRules env plan rs report s
      | (.stopped, report, s) => (.ok report, s)
      | (.failed operation f, report, s) =>
        let s := env.emit (failureNotice report.tick r operation f) s
        if r.critical then
          (.error (.criticalActionFailed r.id f), env.emit (criticalNotice report.tick r f) s)
        else
          runRules env plan rs { report with failures := report.failures ++ [⟨r.id, f⟩] } s

/-- Run a tick with a number on the facts at its beginning. -/
def run (env : TickEnv σ) (plan : Plan) (tick : Nat) (facts : FactSource) (s : σ) :
    Except EngineError TickReport × σ :=
  match runRules env plan (Rule.select facts plan.template.rules) { tick } s with
  | (.ok report, s) => (.ok report, env.emit (completedNotice report) s)
  | (.error e, s) => (.error e, s)

end Tick

end RuleEngine
