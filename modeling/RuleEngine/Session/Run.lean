import RuleEngine.Session.Loop
import RuleEngine.Simulation.Run

set_option autoImplicit false

/-! # Running a session

A session loads the template if the operator has none, runs ticks at a fixed period, and cleans up
whatever the way it ends: the operator is stopped, detached executions are waited for, and the lane
is drained. -/

namespace RuleEngine

/-- A world with the moments of its session's ticks. -/
structure SessionWorld where
  world : World
  /-- Nanoseconds between ticks. -/
  period : Nat
  /-- When the next tick is due. -/
  due : Nat

namespace SessionWorld

/-- A tick that is later than this counts as missed. -/
def lateness : Nat := 5000000

/-- The moment of the tick after one that was due and is begun now. A missed tick moves all later
ones. -/
def nextDue (now due period : Nat) : Nat :=
  if due + lateness < now then now + period else due + period

/-- Wait for the next tick or a request to end. -/
def await (s : SessionWorld) : Wake × SessionWorld :=
  let w := s.world.runFor (some s.due) (·.shutdownAsked) s.world.pending
  if w.shutdownAsked then (.shutdown, { s with world := { w with shutdownAsked := false } })
  else
    let w := w.moveTo s.due
    (.tick, { s with world := w, due := nextDue w.clock s.due s.period })

def env : SessionEnv SessionWorld where
  await := await
  runTick s :=
    let (r, w) := s.world.tick
    (r, { s with world := w })
  isStopped s := s.world.operator.isStopped

end SessionWorld

namespace Session

/-- How the call that runs a session ends. -/
inductive End
  | finished (r : Except EngineError SessionSummary)
  | panicked (message : String)

/-- A period of no time is no period. -/
def periodPanic : String := "\x60period\x60 must be non-zero."

/-- How many ticks are run at most in a session that may run any number of them. -/
def maxTicks : Nat := 10000

def finish (w : World) : World := w.stop.joinDetached.shutdownLane

/-- Run the ticks of a session whose template is loaded, and clean up. -/
def runTicks (w : World) (periodMs : Nat) (limit : Option Nat) : End × World :=
  if periodMs = 0 then (.panicked periodPanic, w)
  else
    let s : SessionWorld := ⟨w, (Duration.ofMillis periodMs).nanos, w.clock⟩
    match loop SessionWorld.env limit (limit.getD maxTicks) {} s with
    | some (r, s) => (.finished r, finish s.world)
    | none => (.finished (.error (.taskFailed "no end in sight")), finish w)

def run (w : World) (periodMs : Nat) (limit : Option Nat) : End × World :=
  if w.operator.lifecycle = .unloaded then
    match w.load with
    | (.error e, w) => (.finished (.error e), w.shutdownLane)
    | (.ok _, w) => runTicks w periodMs limit
  else runTicks w periodMs limit

end Session

end RuleEngine
