import RuleEngine.Rule.Basic

set_option autoImplicit false

/-! # Templates

A fragment is one source file of rules; it may name other fragments that have to precede it. A
template is the ordered rules of all its fragments. -/

namespace RuleEngine

/-- One source file of rules. -/
structure Fragment where
  name : String := ""
  /-- Fragments that precede this one. -/
  imports : List String := []
  rules : List Rule := []
deriving DecidableEq, Inhabited

namespace Fragment

def recordType {ν : Type} [DataSource ν] : Decode.RecordType ν Fragment where
  name := "Fragment"
  fields :=
    [.of "name" false Decode.text fun s f => { f with name := s },
     .of "imports" false (Decode.list Decode.text) fun ss f => { f with imports := ss },
     .of "rules" false (Decode.list Rule.decode) fun rs f => { f with rules := rs }]
  closed := true
  blank := {}

def decode {ν : Type} [DataSource ν] (x : ν) : Except DecodeError Fragment := recordType.decode x

/-- The fragment as JSON; imports are left out where there are none. -/
def toJson (f : Fragment) : Json :=
  .obj ([("name", .str f.name)] ++
    (if f.imports.isEmpty then [] else [("imports", .arr (f.imports.map .str))]) ++
    [("rules", .arr (f.rules.map Rule.toJson))])

end Fragment

/-- The rules of all fragments of one name. -/
structure Template where
  subDir : String
  name : String
  /-- Names of the fragments in the order of their rules. -/
  fragments : List String := []
  rules : List Rule := []
deriving DecidableEq, Inhabited

namespace Template

def recordType {ν : Type} [DataSource ν] : Decode.RecordType ν Template where
  name := "OperationTemplate"
  fields :=
    [.of "sub_dir" true Decode.text fun s t => { t with subDir := s },
     .of "name" true Decode.text fun s t => { t with name := s },
     .of "fragments" false (Decode.list Decode.text) fun ss t => { t with fragments := ss },
     .of "rules" false (Decode.list Rule.decode) fun rs t => { t with rules := rs }]
  closed := true
  blank := { subDir := "", name := "" }

def decode {ν : Type} [DataSource ν] (x : ν) : Except DecodeError Template := recordType.decode x

def toJson (t : Template) : Json :=
  .obj [("sub_dir", .str t.subDir), ("name", .str t.name),
    ("fragments", .arr (t.fragments.map .str)), ("rules", .arr (t.rules.map Rule.toJson))]

def rule? (t : Template) (id : String) : Option Rule := t.rules.find? fun r => r.id == id

def operationCount (t : Template) : Nat :=
  t.rules.foldl (fun n r => n + r.operations.length) 0

end Template

end RuleEngine
