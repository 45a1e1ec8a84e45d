import RuleEngine.Rule.Basic

set_option autoImplicit false

/-! # The rules that fire

For a snapshot of the facts, all matching rules that are not exclusive fire, and of the matching
exclusive rules only the one with the highest priority, the first of them if there are several. The
rules that fire keep the order in which they were given. -/

namespace RuleEngine

namespace Rule

/-- The first exclusive rule of the highest priority, with its position; `position` is that of the
head of the list. -/
def winner? (position : Nat) : List Rule → Option (Nat × Rule)
  | [] => none
  | r :: rs =>
    match winner? (position + 1) rs with
    | none => if r.exclusive then some (position, r) else none
    | some (i, best) =>
      if r.exclusive && best.priority ≤ r.priority then some (position, r) else some (i, best)

/-- Keep the rules that are not exclusive, and the one at a position. -/
def keep (position : Nat) (winner : Option Nat) : List Rule → List Rule
  | [] => []
  | r :: rs =>
    if !r.exclusive || winner = some position then r :: keep (position + 1) winner rs
    else keep (position + 1) winner rs

def select (facts : FactSource) (rules : List Rule) : List Rule :=
  let matching := rules.filter fun r => r.condition.eval facts
  keep 0 ((winner? 0 matching).map (·.1)) matching

def selectIds (facts : FactSource) (rules : List Rule) : List String :=
  (select facts rules).map (·.id)

end Rule

end RuleEngine
