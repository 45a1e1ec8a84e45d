import RuleEngine.Operator.Tick

set_option autoImplicit false

/-! # The loop of a session

A session runs tick after tick, each when its moment has come, until it has run as many as it may,
its end is asked for, the operator has been stopped, or a tick fails. -/

namespace RuleEngine

/-- Totals of a session. -/
structure SessionSummary where
  ticks : Nat := 0
  actions : Nat := 0
  failures : Nat := 0
deriving DecidableEq, Inhabited

def SessionSummary.add (s : SessionSummary) (r : TickReport) : SessionSummary where
  ticks := s.ticks + 1
  actions := s.actions + r.actions
  failures := s.failures + r.failures.length

/-- Why a session that waits goes on. -/
inductive Wake
  | tick
  | shutdown
deriving DecidableEq, Inhabited

/-- What a session can do to a state of type `σ`. -/
structure SessionEnv (σ : Type) where
  /-- Wait for the next tick or a request to end. -/
  await : σ → Wake × σ
  runTick : σ → Except EngineError TickReport × σ
  /-- The operator has been stopped. -/
  isStopped : σ → Bool

namespace Session

variable {σ : Type}

def isComplete (limit : Option Nat) (s : SessionSummary) : Bool := limit.any fun n => n ≤ s.ticks

/-- The operator cannot run a tick in its state. -/
def isRefusal : EngineError → Bool
  | .invalidState .. => true
  | _ => false

/-- Run ticks until the session ends; `none` if it has not ended after so many of them. -/
def loop (env : SessionEnv σ) (limit : Option Nat) :
    Nat → SessionSummary → σ → Option (Except EngineError SessionSummary × σ)
  | 0, summary, s => if isComplete limit summary then some (.ok summary, s) else none
  | bound + 1, summary, s =>
    if isComplete limit summary then some (.ok summary, s)
    else
      match env.await s with
      | (.shutdown, s) => some (.ok summary, s)
      | (.tick, s) =>
        match env.runTick s with
        | (.ok report, s) => loop env limit bound (summary.add report) s
        | (.error e, s) =>
          if isRefusal e && env.isStopped s then some (.ok summary, s) else some (.error e, s)

end Session

end RuleEngine
