import RuleEngine.Operation.Descriptor
import RuleEngine.Condition.Text

set_option autoImplicit false

/-! # Rules

A rule is a condition with the operations that it triggers. -/

namespace RuleEngine

/-- A condition and the operations that it triggers. -/
structure Rule where
  id : String
  condition : Condition := .always
  /-- Among matching exclusive rules the highest priority wins. -/
  priority : Int := 0
  exclusive : Bool := false
  /-- A failing operation ends the whole tick. -/
  critical : Bool := false
  operations : List Descriptor := []
deriving DecidableEq, Inhabited

namespace Rule

def recordType {ν : Type} [DataSource ν] : Decode.RecordType ν Rule where
  name := "RuleNode"
  fields :=
    [.of "id" true Decode.text fun s r => { r with id := s },
     .of "when" false Decode.condition fun c r => { r with condition := c },
     .of "priority" false (DataSource.int · .i32) fun n r => { r with priority := n },
     .of "exclusive" false DataSource.bool fun b r => { r with exclusive := b },
     .of "critical" false DataSource.bool fun b r => { r with critical := b },
     .of "operations" false (Decode.list Descriptor.decode) fun ds r => { r with operations := ds }]
  closed := true
  blank := { id := "" }

def decode {ν : Type} [DataSource ν] (x : ν) : Except DecodeError Rule := recordType.decode x

/-- The rule as JSON; the priority zero and flags that are off are left out. -/
def toJson (r : Rule) : Json :=
  .obj ([("id", .str r.id), ("when", .str r.condition.render)] ++
    (if r.priority = 0 then [] else [("priority", .num (.int r.priority))]) ++
    (if r.exclusive then [("exclusive", .bool true)] else []) ++
    (if r.critical then [("critical", .bool true)] else []) ++
    [("operations", .arr (r.operations.map Descriptor.toJson))])

end Rule

end RuleEngine
