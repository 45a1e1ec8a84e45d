import RuleEngine.Lane.Basic

set_option autoImplicit false

/-! # Tasks behind gates

Tasks for watching a lane at work. A task may wait for a gate to be opened; then it notes its
number, shuts its own lane down if it is asked to, and ends as it was told to end. -/

namespace RuleEngine

/-- A task that does as it was told. -/
structure GatedTask where
  number : Nat
  /-- The task waits until its gate is open. -/
  gated : Bool := false
  /-- The task shuts down the lane that it runs on, and would wait for it. -/
  closes : Bool := false
  ending : TaskEnd Json
deriving DecidableEq, Inhabited

/-- A lane of gated tasks. -/
structure GatedLane where
  lane : Lane GatedTask Json := {}
  /-- Numbers of the tasks whose gates are open. -/
  released : List Nat := []
  /-- Numbers of the tasks that have run, the oldest first. -/
  order : List Nat := []
deriving Inhabited

namespace GatedLane

/-- The gate of a task is closed. -/
def isHeld (g : GatedLane) (t : GatedTask) : Bool := t.gated && !g.released.contains t.number

def run (g : GatedLane) (t : GatedTask) : GatedLane :=
  let lane := if t.closes then g.lane.close.takeWorker.2 else g.lane
  { g with lane := lane.finish t.ending, order := g.order ++ [t.number] }

/-- Let the worker go on until it stands before a closed gate or has nothing left to do; it takes at
most `steps` tasks. -/
def settleFor (g : GatedLane) : Nat → GatedLane
  | 0 => g
  | steps + 1 =>
    let g := { g with lane := g.lane.start }
    match g.lane.worker with
    | .running job => if g.isHeld job.work then g else (g.run job.work).settleFor steps
    | _ => { g with lane := g.lane.exit }

/-- Let the worker go on until it stands before a closed gate or has nothing left to do. -/
def settle (g : GatedLane) : GatedLane := g.settleFor (g.lane.queue.length + 2)

def submit (label : String) (t : GatedTask) (g : GatedLane) : Except EngineError Nat × GatedLane :=
  let (answer, lane) := g.lane.submit label t
  (answer, { g with lane := lane })

def release (number : Nat) (g : GatedLane) : GatedLane :=
  { g with released := g.released ++ [number] }

end GatedLane

end RuleEngine
