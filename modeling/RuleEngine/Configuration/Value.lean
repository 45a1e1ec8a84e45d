import RuleEngine.Decode.Source
import RuleEngine.Decimal.Layout
import RuleEngine.Decimal.Numeral
import RuleEngine.Table
import RuleEngine.Text.Class

set_option autoImplicit false

/-! # Values of a configuration

A value comes from a file or from the environment, and is converted to what is asked for wherever it
can be read as such: a text may stand for a number or a truth value, a number for a text, and so on.
Nothing at all stands for no value only where one may be missing. -/

namespace RuleEngine

inductive Configuration.Value
  | nothing
  | bool (b : Bool)
  /-- A signed integer of 64 bits. -/
  | int (n : Int)
  | double (d : Double)
  | text (s : String)
  | list (items : List Configuration.Value)
  | table (entries : List (String × Configuration.Value))
deriving Inhabited

namespace Configuration.Value

/-! ## Readings -/

def found : Value → Found
  | .nothing => .null
  | .bool b => .bool b
  | .int n => .int n
  | .double d => .double d
  | .text s => .text s
  | .list _ => .items
  | .table _ => .fields

/-- A decimal number with an optional sign, if 64 bits can hold it. -/
def signed? (s : String) : Option Int :=
  let (negative, digits) := Numeral.takeSign s.toList
  if digits.isEmpty || !digits.all Char.isDigit then none
  else
    let n : Int := Numeral.digitsValue digits
    let n := if negative then -n else n
    if IntType.i64.least ≤ n ∧ n ≤ IntType.i64.most then some n else none

/-- The natural number that a double is nearest to, a half upwards. Numbers that 64 bits cannot hold
go to the ends of their range, and not-a-number to zero. -/
def nearest (d : Double) : Nat :=
  if d.isNaN || d.negative then 0
  else if !d.isFinite then Nat.pow 2 64 - 1
  else min (Nat.pow 2 64 - 1) ((2 * d.ratio.1 + d.ratio.2) / (2 * d.ratio.2))

/-- A natural number written with digits, or a word for one or zero. -/
def natural? (s : String) : Option Nat :=
  let word := Text.lowerAscii s
  if word ∈ ["true", "on", "yes"] then some 1
  else if word ∈ ["false", "off", "no"] then some 0
  else
    let digits := match s.toList with
      | '+' :: cs => cs
      | cs => cs
    if digits.isEmpty || !digits.all Char.isDigit then none else some (Numeral.digitsValue digits)

def truth? (s : String) : Option Bool :=
  let word := Text.lowerAscii s
  if word ∈ ["1", "true", "on", "yes"] then some true
  else if word ∈ ["0", "false", "off", "no"] then some false
  else none

/-- A text; truth values and numbers are written out. -/
def asText? : Value → Option String
  | .text s => some s
  | .bool b => some (if b then "true" else "false")
  | .int n => some (toString n)
  | .double d => some (Layout.plain.render d)
  | _ => none

/-- A truth value; a number is true unless it is zero. -/
def asBool? : Value → Option Bool
  | .bool b => some b
  | .int n => some (n != 0)
  | .double d => some !(d.eqv (.zero false))
  | .text s => truth? s
  | _ => none

/-- A whole number; doubles are rounded, and only an integer can be negative. -/
def asInt? : Value → Option Int
  | .int n => some n
  | .bool b => some (if b then 1 else 0)
  | .double d => some (nearest d)
  | .text s => (natural? s).map fun n => (n : Int)
  | _ => none

/-! ## Values as data -/

/-- The value is not what was expected. -/
def refuse {α : Type} (x : Value) (expected : String) : Except DecodeError α :=
  .error (.wrongType x.found expected)

/-- A reading of the value, if there is one. -/
def require {α : Type} (x : Value) (expected : String) : Option α → Except DecodeError α
  | some a => .ok a
  | none => x.refuse expected

/-- A whole number within the bounds of a type. -/
def decodeInt (x : Value) (type : IntType) : Except DecodeError Int :=
  match x.asInt? with
  | some n =>
    if type.least ≤ n ∧ n ≤ type.most then .ok n else .error (.wrongValue (.int n) type.name)
  | none => x.refuse type.name

/-- The entries of a table, with their keys as values. -/
def keyed (entries : List (String × Value)) : List (Value × Value) :=
  entries.map fun e => (.text e.1, e.2)

/-- A variant by its name in any case, or as a table with its name for the only key. -/
def decodeVariant (x : Value) (known : List String) : Except DecodeError String :=
  let check (name : String) : Except DecodeError String :=
    match known.find? fun v => Text.lowerAscii v == Text.lowerAscii name with
    | some v => .ok v
    | none => .error (.unknownVariant name known)
  match x with
  | .text s => check s
  | .table [(key, _)] => check key
  | x => x.refuse "string or map"

mutual

def toJson : Value → Json
  | .nothing => .null
  | .bool b => .bool b
  | .int n => .num (.int n)
  | .double d => if d.isFinite then .num (.double d) else .null
  | .text s => .str s
  | .list items => .arr (itemsToJson items)
  | .table entries => .obj (entriesToJson entries)

def itemsToJson : List Value → List Json
  | [] => []
  | x :: xs => toJson x :: itemsToJson xs

def entriesToJson : List (String × Value) → List (String × Json)
  | [] => []
  | (k, x) :: xs => (k, toJson x) :: entriesToJson xs

end

instance : DataSource Value where
  text x expected := x.require expected x.asText?
  bool x := x.require "a boolean" x.asBool?
  int := decodeInt
  items
    | .list items => .ok items
    | x => x.refuse "a sequence"
  entries
    | .table entries => .ok (keyed entries)
    | x => x.refuse "a map"
  record x expected :=
    match x with
    | .table entries => .ok (.fields (keyed entries))
    | .list items => .ok (.items items)
    | x => x.refuse expected
  optional
    | .nothing => .ok none
    | x => .ok (some x)
  variant := decodeVariant
  truthOrText
    | .bool b => .ok (.inl b)
    | .text s => .ok (.inr s)
    | _ => .error .noCondition
  json x := .ok x.toJson
  pass _ := .ok ()
  allowsSurplus := true

end Configuration.Value

end RuleEngine
