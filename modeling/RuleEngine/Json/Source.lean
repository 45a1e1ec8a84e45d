import RuleEngine.Decode.Source

set_option autoImplicit false

/-! # JSON values as data

A record may be given as an object or as an array of its fields. Nothing is converted: a number is
no text, and a double is no integer. -/

namespace RuleEngine.Json

/-- What a value is, for messages. -/
def found : Json → Found
  | .null => .null
  | .bool b => .bool b
  | .num (.int n) => .int n
  | .num (.double d) => .double d
  | .str s => .text s
  | .arr _ => .items
  | .obj _ => .fields

def decodeText (x : Json) (expected : String) : Except DecodeError String :=
  match x with
  | .str s => .ok s
  | x => .error (.wrongType x.found expected)

def decodeBool : Json → Except DecodeError Bool
  | .bool b => .ok b
  | x => .error (.wrongType x.found "a boolean")

def decodeInt (x : Json) (type : IntType) : Except DecodeError Int :=
  match x with
  | .num (.int n) =>
    if type.least ≤ n ∧ n ≤ type.most then .ok n else .error (.wrongValue (.int n) type.name)
  | x => .error (.wrongType x.found type.name)

/-- A double; an integer stands for the nearest one. -/
def decodeDouble : Json → Except DecodeError Double
  | .num n => .ok n.toDouble
  | x => .error (.wrongType x.found "f64")

def decodeItems : Json → Except DecodeError (List Json)
  | .arr items => .ok items
  | x => .error (.wrongType x.found "a sequence")

/-- The fields of an object, with their names as values. -/
def keyed (fields : List (String × Json)) : List (Json × Json) :=
  fields.map fun f => (.str f.1, f.2)

def decodeEntries : Json → Except DecodeError (List (Json × Json))
  | .obj fields => .ok (keyed fields)
  | x => .error (.wrongType x.found "a map")

def decodeRecord (x : Json) (expected : String) : Except DecodeError (RecordForm Json) :=
  match x with
  | .obj fields => .ok (.fields (keyed fields))
  | .arr items => .ok (.items items)
  | x => .error (.wrongType x.found expected)

/-- A variant by its name, or as an object that gives null to its name. -/
def decodeVariant (x : Json) (known : List String) : Except DecodeError String :=
  let check (name : String) : Except DecodeError String :=
    if known.contains name then .ok name else .error (.unknownVariant name known)
  match x with
  | .str s => check s
  | .obj [(name, payload)] =>
    match check name with
    | .error e => .error e
    | .ok name => if payload.isNull then .ok name else .error (.wrongType payload.found "unit")
  | .obj _ => .error (.wrongValue .fields "map with a single key")
  | x => .error (.wrongType x.found "string or map")

instance : DataSource Json where
  text := decodeText
  bool := decodeBool
  int := decodeInt
  items := decodeItems
  entries := decodeEntries
  record := decodeRecord
  optional x := .ok (if x.isNull then none else some x)
  variant := decodeVariant
  truthOrText
    | .bool b => .ok (.inl b)
    | .str s => .ok (.inr s)
    | _ => .error .noCondition
  json := .ok
  pass _ := .ok ()

end RuleEngine.Json
