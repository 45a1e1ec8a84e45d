import RuleEngine.Condition.Basic
import RuleEngine.Decimal.Layout
import RuleEngine.Json.Basic

set_option autoImplicit false

/-! # Condition trees as JSON

A tree is an object with one field that names its kind; a comparison has the fields `key`, `cmp` and
`value`. Numbers are written as texts, so that nothing is lost. -/

namespace RuleEngine

def Literal.toJson : Literal → Json
  | .number d => .obj [("number", .str (Layout.plain.render d))]
  | .bool b => .obj [("bool", .bool b)]
  | .text s => .obj [("text", .str s)]

namespace Condition

mutual

def toJson : Condition → Json
  | .const b => .obj [("const", .bool b)]
  | .present key => .obj [("exists", .str key)]
  | .compare key op value =>
    .obj [("key", .str key), ("cmp", .str op.text), ("value", value.toJson)]
  | .not c => .obj [("not", c.toJson)]
  | .all cs => .obj [("all", .arr (toJsonAll cs))]
  | .any cs => .obj [("any", .arr (toJsonAll cs))]

def toJsonAll : List Condition → List Json
  | [] => []
  | c :: cs => c.toJson :: toJsonAll cs

end

end Condition

end RuleEngine
