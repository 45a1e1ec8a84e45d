import RuleEngine.Decode.Source

set_option autoImplicit false

/-! # Parameter fields

What an operation declares about one of its parameters: how it is edited, whether it must be given,
and which values it may have. -/

namespace RuleEngine

/-- How a parameter is edited. -/
inductive FieldKind
  | text
  | combo
  | keyValue
  | codeEditor
deriving DecidableEq, Inhabited

namespace FieldKind

def names : List (String × FieldKind) :=
  [("text", .text), ("combo", .combo), ("key_value", .keyValue), ("code_editor", .codeEditor)]

def name : FieldKind → String
  | .text => "text"
  | .combo => "combo"
  | .keyValue => "key_value"
  | .codeEditor => "code_editor"

def decode {ν : Type} [DataSource ν] (x : ν) : Except DecodeError FieldKind :=
  (DataSource.variant x (names.map (·.1))).map fun s => (Table.get? names s).getD .text

end FieldKind

/-- The declaration of one parameter. -/
structure Field where
  /-- The name of the parameter. -/
  key : String
  title : String
  icon : String := ""
  kind : FieldKind
  placeholder : String := ""
  required : Bool := false
  /-- The values that a combo may have; any value if there are none. -/
  options : List String := []
  default : Option Json := none
  /-- The language of a code editor. -/
  language : Option String := none
deriving DecidableEq, Inhabited

namespace Field

def recordType {ν : Type} [DataSource ν] : Decode.RecordType ν Field where
  name := "FieldSchema"
  fields :=
    [.of "var_suffix" true Decode.text fun s f => { f with key := s },
     .of "title" true Decode.text fun s f => { f with title := s },
     .of "icon" false Decode.text fun s f => { f with icon := s },
     .of "field_type" true FieldKind.decode fun k f => { f with kind := k },
     .of "placeholder" false Decode.text fun s f => { f with placeholder := s },
     .of "required" false DataSource.bool fun b f => { f with required := b },
     .of "options" false (Decode.list Decode.text) fun ss f => { f with options := ss },
     .of "default" false (Decode.option DataSource.json) fun v f => { f with default := v },
     .of "language" false (Decode.option Decode.text) fun s f => { f with language := s }]
  closed := false
  blank := { key := "", title := "", kind := .text }

def decode {ν : Type} [DataSource ν] (x : ν) : Except DecodeError Field := recordType.decode x

/-- A field of JSON for a text that is not empty. -/
def unlessEmpty (name text : String) : List (String × Json) :=
  if text.isEmpty then [] else [(name, .str text)]

/-- The field as JSON; what is empty is left out. -/
def toJson (f : Field) : Json :=
  .obj ([("var_suffix", .str f.key), ("title", .str f.title)] ++ unlessEmpty "icon" f.icon ++
    [("field_type", .str f.kind.name)] ++ unlessEmpty "placeholder" f.placeholder ++
    [("required", .bool f.required)] ++
    (if f.options.isEmpty then [] else [("options", .arr (f.options.map .str))]) ++
    (f.default.toList.map fun v => ("default", v)) ++
    (f.language.toList.map fun s => ("language", .str s)))

end Field

end RuleEngine
