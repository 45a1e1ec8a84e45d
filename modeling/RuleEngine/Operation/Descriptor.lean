import RuleEngine.Decode.Source

set_option autoImplicit false

/-! # Operation descriptors

A descriptor names a variant of the operation registry and gives its parameters. It says nothing
about what the operation does. -/

namespace RuleEngine

/-- An operation with its parameters, as rules list it. -/
structure Descriptor where
  name : String
  params : Table Json := []
  /-- The tick does not wait for the operation. -/
  async : Bool := false
deriving DecidableEq, Inhabited

namespace Descriptor

def recordType {ν : Type} [DataSource ν] : Decode.RecordType ν Descriptor where
  name := "OperationDescriptor"
  fields :=
    [.of "name" true Decode.text fun s d => { d with name := s },
     .of "params" false (Decode.table DataSource.json) fun t d => { d with params := t },
     .of "async_op" false DataSource.bool fun b d => { d with async := b }]
  closed := true
  blank := { name := "" }

def decode {ν : Type} [DataSource ν] (x : ν) : Except DecodeError Descriptor :=
  recordType.decode x

/-- The descriptor as JSON; parameters and the flag are left out where they are empty or off. -/
def toJson (d : Descriptor) : Json :=
  .obj ([("name", .str d.name)] ++
    (if d.params.isEmpty then [] else [("params", .obj d.params)]) ++
    (if d.async then [("async_op", .bool true)] else []))

end Descriptor

end RuleEngine
