import RuleEngine.Decimal.Numeral

set_option autoImplicit false

/-! # The meaning of plain scalars

A plain scalar is null, a truth value, an integer, a double or a text. A row of digits with a
leading zero is a text, and so is a number that no double can hold. -/

namespace RuleEngine.Yaml

def isNullWord (s : String) : Bool := s ∈ ["null", "Null", "NULL", "~"]

def truth? (s : String) : Option Bool :=
  if s ∈ ["true", "True", "TRUE"] then some true
  else if s ∈ ["false", "False", "FALSE"] then some false
  else none

/-- A sign, a zero, and more digits behind it. -/
def isZeroLed (s : String) : Bool :=
  let cs := match s.toList with
    | '-' :: cs | '+' :: cs => cs
    | cs => cs
  match cs with
  | '0' :: c :: rest => (c :: rest).all Char.isDigit
  | _ => false

/-- The value of a digit in a base. -/
def digitIn? (base : Nat) (c : Char) : Option Nat :=
  let v :=
    if c.isDigit then c.toNat - 48
    else if 'a' ≤ c && c ≤ 'z' then c.toNat - 87
    else if 'A' ≤ c && c ≤ 'Z' then c.toNat - 55
    else 99
  if v < base then some v else none

/-- A natural number in a base, with one digit at least. -/
def naturalIn? (base : Nat) (cs : List Char) : Option Nat :=
  if cs.isEmpty then none
  else cs.foldl (fun n c => n.bind fun n => (digitIn? base c).map (n * base + ·)) (some 0)

def based? : List Char → Option Nat
  | '0' :: 'x' :: cs => naturalIn? 16 cs
  | '0' :: 'o' :: cs => naturalIn? 8 cs
  | '0' :: 'b' :: cs => naturalIn? 2 cs
  | _ => none

def integer? (s : String) : Option Int :=
  let decimal (cs : List Char) : Option Nat := if isZeroLed s then none else naturalIn? 10 cs
  match s.toList with
  | '-' :: cs => ((based? cs).orElse fun _ => decimal cs).map fun n => -(n : Int)
  | '+' :: cs | cs => ((based? cs).orElse fun _ => decimal cs).map fun n => (n : Int)

/-- The value of an infinity or of not-a-number. -/
def special? (s : String) : Option Double :=
  if s ∈ [".inf", ".Inf", ".INF", "+.inf", "+.Inf", "+.INF"] then some (.infinity false)
  else if s ∈ ["-.inf", "-.Inf", "-.INF"] then some (.infinity true)
  else if s ∈ [".nan", ".NaN", ".NAN"] then some .nan
  else none

def double? (s : String) : Option Double :=
  match special? s with
  | some d => some d
  | none => (Double.parse? s).filter (·.isFinite)

/-- What a plain scalar stands for. -/
inductive Meaning
  | null
  | bool (b : Bool)
  | int (n : Int)
  | double (d : Double)
  | text

def meaning (s : String) : Meaning :=
  if s.isEmpty || isNullWord s then .null
  else
    match truth? s with
    | some b => .bool b
    | none =>
      match integer? s with
      | some n => if -(Nat.pow 2 127 : Int) ≤ n && n < Nat.pow 2 128 then .int n else asDouble
      | none => asDouble
where
  /-- A scalar that is no integer. -/
  asDouble : Meaning :=
    if isZeroLed s then .text
    else
      match double? s with
      | some d => .double d
      | none => .text

end RuleEngine.Yaml
