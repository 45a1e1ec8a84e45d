import RuleEngine.Json.Basic

set_option autoImplicit false

/-! # The context of a session

What the rules of a session are evaluated against: the facts, and what the session has done so far.
Every recorded action has a moment of its own; moments are numbered. -/

namespace RuleEngine

/-- The state that a session works on. -/
structure Context where
  facts : Facts := []
  /-- Moment of the last completed action. -/
  lastAction : Option Nat := none
  /-- Rule of the last completed action. -/
  lastRule : Option String := none
  /-- Number of ticks begun. -/
  tick : Nat := 0
  /-- Number of moments that have passed. -/
  moments : Nat := 0
deriving DecidableEq, Inhabited

namespace Context

def setFact (c : Context) (key : String) (value : Json) : Context :=
  { c with facts := c.facts.insert key value }

def removeFact (c : Context) (key : String) : Context := { c with facts := c.facts.erase key }

/-- Note that a rule has completed an action. -/
def recordAction (c : Context) (rule : String) : Context :=
  { c with lastAction := some c.moments, lastRule := some rule, moments := c.moments + 1 }

def beginTick (c : Context) : Context := { c with tick := c.tick + 1 }

/-- What a reader of the context sees. -/
def snapshot (c : Context) : Facts × Option Nat × Option String × Nat :=
  (c.facts, c.lastAction, c.lastRule, c.tick)

end Context

end RuleEngine
