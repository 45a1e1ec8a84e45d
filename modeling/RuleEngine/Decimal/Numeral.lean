import RuleEngine.Double

set_option autoImplicit false

/-! # Numerals

The texts that denote a double: an optional sign, then a decimal numeral or one of the words
`inf`, `infinity` and `nan` in any case. A decimal numeral has digits, a point and an exponent;
the digits may miss on one side of the point, and the exponent may be left out. -/

namespace RuleEngine

namespace Numeral

def digitsValue (cs : List Char) : Nat := cs.foldl (fun n c => n * 10 + (c.toNat - 48)) 0

/-- Split off a sign; `true` means minus. -/
def takeSign : List Char → Bool × List Char
  | '-' :: cs => (true, cs)
  | '+' :: cs => (false, cs)
  | cs => (false, cs)

/-- The exponent at the end of a numeral; nothing is the exponent zero. -/
def exponent? : List Char → Option Int
  | [] => some 0
  | e :: cs =>
    if e = 'e' ∨ e = 'E' then
      let (negative, digits) := takeSign cs
      if digits.isEmpty || !digits.all Char.isDigit then none
      else
        let n : Int := digitsValue digits
        some (if negative then -n else n)
    else none

/-- Whole digits, fraction digits and exponent of an unsigned decimal numeral. -/
def parts? (cs : List Char) : Option (List Char × List Char × Int) :=
  let whole := cs.takeWhile Char.isDigit
  match cs.dropWhile Char.isDigit with
  | '.' :: rest =>
    let fraction := rest.takeWhile Char.isDigit
    if whole.isEmpty && fraction.isEmpty then none
    else (exponent? (rest.dropWhile Char.isDigit)).map fun e => (whole, fraction, e)
  | rest => if whole.isEmpty then none else (exponent? rest).map fun e => (whole, [], e)

end Numeral

/-- The double that a text denotes, rounded to nearest. -/
def Double.parse? (s : String) : Option Double :=
  let (negative, cs) := Numeral.takeSign s.toList
  let word := String.ofList (cs.map Char.toLower)
  if word = "inf" ∨ word = "infinity" then some (.infinity negative)
  else if word = "nan" then some .nan
  else (Numeral.parts? cs).map fun (whole, fraction, e) =>
    .ofDecimal negative (Numeral.digitsValue (whole ++ fraction)) (e - fraction.length)

end RuleEngine
