import RuleEngine.Condition.Token
import RuleEngine.Decimal.Layout

set_option autoImplicit false

/-! # The canonical text of a condition

Operators stand between single blanks. A conjunction inside a conjunction, and any chain inside a
disjunction of the same kind, keeps its parentheses, and so does whatever `!` cannot stand in
front of; no other parentheses are written. A text literal is written without quotes if it reads
back as itself that way. -/

namespace RuleEngine

namespace Literal

def escape (c : Char) : List Char := if c = '"' ∨ c = '\\' then ['\\', c] else [c]

def render : Literal → String
  | .number d => Layout.plain.render d
  | .bool b => if b then "true" else "false"
  | .text s =>
    if Token.isBareWord s then s
    else "\"" ++ String.ofList (s.toList.flatMap escape) ++ "\""

end Literal

namespace Condition

/-- A constant or a test of one fact. -/
def isPrimary : Condition → Bool
  | .const _ | .present _ | .compare .. => true
  | _ => false

/-- `!` can stand in front without parentheses. -/
def negatesBare : Condition → Bool
  | .not _ => true
  | c => c.isPrimary

/-- A chain of either kind. -/
def isChain : Condition → Bool
  | .all _ | .any _ => true
  | _ => false

/-- A disjunction. -/
def isAny : Condition → Bool
  | .any _ => true
  | _ => false

/-- The text, in parentheses if asked for. -/
def parenthesized (b : Bool) (s : String) : String := if b then "(" ++ s ++ ")" else s

mutual

def render : Condition → String
  | .const b => if b then "true" else "false"
  | .present key => "exists(" ++ key ++ ")"
  | .compare key op value => key ++ " " ++ op.text ++ " " ++ value.render
  | .not c => "!" ++ parenthesized (!c.negatesBare) (render c)
  | .all cs => renderAll cs
  | .any cs => renderAny cs

/-- The operands of a conjunction. -/
def renderAll : List Condition → String
  | [] => ""
  | [c] => parenthesized c.isChain (render c)
  | c :: d :: cs => parenthesized c.isChain (render c) ++ " && " ++ renderAll (d :: cs)

/-- The operands of a disjunction. -/
def renderAny : List Condition → String
  | [] => ""
  | [c] => parenthesized c.isAny (render c)
  | c :: d :: cs => parenthesized c.isAny (render c) ++ " || " ++ renderAny (d :: cs)

end

end Condition

end RuleEngine
