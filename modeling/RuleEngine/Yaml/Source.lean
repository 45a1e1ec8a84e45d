import RuleEngine.Decode.Source
import RuleEngine.Error
import RuleEngine.Yaml.Scalar
import RuleEngine.Yaml.Value

set_option autoImplicit false

/-! # YAML values as data

A text takes any scalar as it is written. Truth values and integers are plain scalars. A record is
a mapping. An empty plain scalar stands for an empty list, table or record. Tags of the document's
own name a variant and are refused everywhere else. -/

namespace RuleEngine.Yaml

/-- The tag of a type that every document knows. -/
def coreTag (name : String) : Option String := some ("tag:yaml.org,2002:" ++ name)

/-- The name of a tag of the document's own. -/
def localTag? (tag : Option String) : Option String :=
  tag.bind fun t =>
    match t.toList with
    | '!' :: name => some (String.ofList name)
    | _ => none

namespace Value

def found : Value → Found
  | .scalar _ _ text => .text text
  | .sequence .. => .items
  | .mapping .. => .fields
  | .void | .broken => .null

def refuse {α : Type} (x : Value) (expected : String) : Except DecodeError α :=
  match x with
  | .broken => .error .broken
  | x => .error (.wrongType x.found expected)

def decodeText (x : Value) (expected : String) : Except DecodeError String :=
  match x with
  | .scalar _ _ text => .ok text
  | x => x.refuse expected

/-- The text of a scalar that can be read as something else: a plain one, or a literal one with the
tag of that type. -/
def readable? (type : String) : Value → Option String
  | .scalar .plain _ text => some text
  | .scalar .literal tag text => if tag = coreTag type then some text else none
  | _ => none

def decodeBool (x : Value) : Except DecodeError Bool :=
  match (x.readable? "bool").bind truth? with
  | some b => .ok b
  | none => x.refuse "a boolean"

def decodeInt (x : Value) (type : IntType) : Except DecodeError Int :=
  match (x.readable? "int").bind integer? with
  | some n =>
    if type.least ≤ n ∧ n ≤ type.most then .ok n else .error (.wrongValue (.int n) type.name)
  | none => x.refuse type.name

/-- An empty document or an empty plain scalar. -/
def isNothing : Value → Bool
  | .void => true
  | .scalar .plain _ text => text.isEmpty
  | _ => false

def decodeItems (x : Value) : Except DecodeError (List Value) :=
  match x with
  | .sequence _ items => .ok items
  | x => if x.isNothing then .ok [] else x.refuse "a sequence"

def decodeEntries (expected : String) (x : Value) : Except DecodeError (List (Value × Value)) :=
  match x with
  | .mapping _ entries => .ok entries
  | x => if x.isNothing then .ok [] else x.refuse expected

/-- A plain scalar for null; elsewhere nothing is missing. -/
def decodeOptional (x : Value) : Except DecodeError (Option Value) :=
  match x with
  | .void => .ok none
  | .broken => .error .broken
  | .scalar .plain none text => .ok (if text.isEmpty || isNullWord text then none else some x)
  | .scalar .plain tag text =>
    if tag = coreTag "null" then
      if isNullWord text then .ok none else .error (.wrongValue (.text text) "null")
    else .ok (some x)
  | x => .ok (some x)

/-- A variant by its name, or by a tag on nothing. -/
def decodeVariant (x : Value) (known : List String) : Except DecodeError String :=
  let check (name : String) : Except DecodeError String :=
    if known.contains name then .ok name else .error (.unknownVariant name known)
  match x with
  | .scalar style tag text =>
    match localTag? tag with
    | none => check text
    | some name =>
      match check name with
      | .error e => .error e
      | .ok name =>
        if style = .plain && (text.isEmpty || isNullWord text) then .ok name
        else .error (.wrongValue (.text text) "null")
  | .broken => .error .broken
  | x => .error (.wrongType x.found "a YAML tag starting with '!'")

/-! ## Values of any type -/

/-- What a scalar stands for; the tag says more than the look of the text. -/
def scalarJson (style : ScalarStyle) (tag : Option String) (text : String) :
    Except DecodeError Json :=
  let refuse (expected : String) : Except DecodeError Json :=
    .error (.wrongValue (.text text) expected)
  let ofInt (n : Int) : Except DecodeError Json :=
    if IntType.i64.least ≤ n ∧ n ≤ IntType.u64.most then .ok (.num (.int n)) else .error .broken
  let ofDouble (d : Double) : Json := if d.isFinite then .num (.double d) else .null
  if (localTag? tag).isSome then .error .broken
  else if tag = coreTag "bool" then
    match truth? text with
    | some b => .ok (.bool b)
    | none => refuse "a boolean"
  else if tag = coreTag "int" then
    match integer? text with
    | some n => ofInt n
    | none => refuse "an integer"
  else if tag = coreTag "float" then
    match double? text with
    | some d => .ok (ofDouble d)
    | none => refuse "a float"
  else if tag = coreTag "null" then
    if isNullWord text then .ok .null else refuse "null"
  else if tag.isSome || style != .plain then .ok (.str text)
  else
    match meaning text with
    | .null => .ok .null
    | .bool b => .ok (.bool b)
    | .int n => ofInt n
    | .double d => .ok (ofDouble d)
    | .text => .ok (.str text)

mutual

def decodeJson : Value → Except DecodeError Json
  | .void => .ok .null
  | .broken => .error .broken
  | .scalar style tag text => scalarJson style tag text
  | .sequence tag items =>
    if (localTag? tag).isSome then .error .broken
    else (jsonItems items).map .arr
  | .mapping tag entries =>
    if (localTag? tag).isSome then .error .broken
    else (jsonEntries [] entries).map .obj

def jsonItems : List Value → Except DecodeError (List Json)
  | [] => .ok []
  | x :: xs =>
    match decodeJson x with
    | .error e => .error e
    | .ok y => (jsonItems xs).map (y :: ·)

/-- Entries as fields; of several entries with one key the last counts. -/
def jsonEntries (fields : Table Json) : List (Value × Value) → Except DecodeError (Table Json)
  | [] => .ok fields
  | (k, x) :: rest =>
    match decodeText k "a string" with
    | .error e => .error e
    | .ok key =>
      match decodeJson x with
      | .error e => .error e
      | .ok y => jsonEntries (fields.insert key y) rest

end

/-- A truth value or a text, by what the value is taken for where any type may stand. -/
def decodeTruthOrText (x : Value) : Except DecodeError (Bool ⊕ String) :=
  match x with
  | .scalar style tag text =>
    match scalarJson style tag text with
    | .ok (.bool b) => .ok (.inl b)
    | .ok (.str s) => .ok (.inr s)
    | .ok _ => .error .noCondition
    | .error e => .error e
  | _ => .error .noCondition

instance : DataSource Value where
  text := decodeText
  bool := decodeBool
  int := decodeInt
  items := decodeItems
  entries := decodeEntries "a map"
  record x expected := (decodeEntries expected x).map .fields
  optional := decodeOptional
  variant := decodeVariant
  truthOrText := decodeTruthOrText
  json := decodeJson
  pass _ := .ok ()

end Value

def decode {α : Type} (read : Value → Except DecodeError α) (text : String) :
    Except DecodeError α :=
  let d := Document.ofText text
  match read d.value with
  | .error e => .error e
  | .ok a => if d.whole then .ok a else .error .broken

def parseError (source : String) (e : DecodeError) : EngineError :=
  .parse source e.message e.condition?

end RuleEngine.Yaml
