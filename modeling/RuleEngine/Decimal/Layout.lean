import RuleEngine.Decimal.Shortest

set_option autoImplicit false

/-! # Layouts of numbers

How the digits of a number are set out: with a decimal point or with a power of ten. The layouts
in use are one record each. -/

namespace RuleEngine

/-- The decisions of a number format. A value `0.d₁d₂… · 10 ^ point` is written positionally if its
point lies in `positional` (always, if there is none), and with a power of ten otherwise. -/
structure Layout where
  positional : Option (Int × Int)
  /-- A whole number ends in `.0`. -/
  fraction : Bool
  /-- A power of ten that is not negative has a plus sign. -/
  plus : Bool
  tie : Tie

namespace Layout

/-- Numbers in JSON text. -/
def json : Layout := ⟨some (-4, 16), true, true, .toEven⟩

/-- Numbers in YAML text. -/
def yaml : Layout := ⟨some (-4, 16), true, false, .toEven⟩

/-- Numbers in conditions and messages: positional at every size, and whole where they are. -/
def plain : Layout := ⟨none, false, false, .up⟩

def zeros (n : Nat) : String := String.ofList (List.replicate n '0')

def withPoint (fraction : Bool) (digits : List Char) (point : Int) : String :=
  match point with
  | .ofNat k =>
    if k = 0 then "0." ++ String.ofList digits
    else if digits.length ≤ k then
      String.ofList digits ++ zeros (k - digits.length) ++ (if fraction then ".0" else "")
    else String.ofList (digits.take k) ++ "." ++ String.ofList (digits.drop k)
  | .negSucc k => "0." ++ zeros (k + 1) ++ String.ofList digits

def withPower (plus : Bool) (digits : List Char) (point : Int) : String :=
  let power := point - 1
  let mantissa := match digits with
    | [] => "0"
    | [d] => String.singleton d
    | d :: rest => String.singleton d ++ "." ++ String.ofList rest
  mantissa ++ "e" ++ (if plus && 0 ≤ power then "+" else "") ++ toString power

def render (l : Layout) (d : Double) : String :=
  if d.isNaN then "NaN"
  else
    let sign := if d.negative then "-" else ""
    if !d.isFinite then sign ++ "inf"
    else if d.significand = 0 then sign ++ (if l.fraction then "0.0" else "0")
    else
      let x := Decimal.shortest l.tie d
      let digits := (toString x.coefficient).toList
      let point := x.power + digits.length
      let positional := match l.positional with
        | none => true
        | some (least, most) => least ≤ point && point ≤ most
      sign ++ (if positional then withPoint l.fraction digits point
        else withPower l.plus digits point)

end Layout

end RuleEngine
