set_option autoImplicit false

/-! # Double-precision numbers

A `Double` is a bit pattern of the IEEE 754 binary64 format. Its value is read off the fields of
the pattern, and every operation computes an exact quotient of naturals and rounds it once, to the
nearest pattern and on a tie to the even one (`Double.ofRatio`). Nothing here depends on the
machine's floating point, so closed computations evaluate inside the logic. -/

namespace RuleEngine

/-- A double-precision number, given by its bit pattern. -/
structure Double where
  bits : UInt64
deriving DecidableEq, Inhabited

namespace Double

/-! ## Fields of the pattern -/

def negative (d : Double) : Bool := Nat.pow 2 63 ≤ d.bits.toNat

/-- The pattern without its sign bit; for numbers it grows with the absolute value. -/
def magnitude (d : Double) : Nat := d.bits.toNat % Nat.pow 2 63

def exponentField (d : Double) : Nat := d.magnitude / Nat.pow 2 52

def fraction (d : Double) : Nat := d.magnitude % Nat.pow 2 52

/-- Neither infinite nor not-a-number. -/
def isFinite (d : Double) : Bool := d.exponentField != 2047

/-- The result of an operation without a numeric result. -/
def isNaN (d : Double) : Bool := d.exponentField == 2047 && d.fraction != 0

/-- A finite double is `± significand · 2 ^ exponent`. -/
def significand (d : Double) : Nat :=
  if d.exponentField = 0 then d.fraction else Nat.pow 2 52 + d.fraction

/-- The power of two of the last bit of the significand. -/
def exponent (d : Double) : Int :=
  if d.exponentField = 0 then -1074 else (d.exponentField : Int) - 1075

/-- Put a sign in front of a magnitude. -/
def ofMagnitude (negative : Bool) (magnitude : Nat) : Double :=
  ⟨UInt64.ofNat (magnitude + if negative then Nat.pow 2 63 else 0)⟩

def zero (negative : Bool) : Double := ofMagnitude negative 0

def infinity (negative : Bool) : Double := ofMagnitude negative (2047 * Nat.pow 2 52)

/-- The canonical not-a-number. -/
def nan : Double := ofMagnitude false (2047 * Nat.pow 2 52 + Nat.pow 2 51)

/-! ## Rounding -/

/-- The quotient rounded to the nearest natural, a half to the even neighbour. -/
def roundHalfEven (num den : Nat) : Nat :=
  let q := num / den
  let r := num % den
  if 2 * r < den || (2 * r = den && q % 2 = 0) then q else q + 1

/-- The numerator and denominator of `num / den / 2 ^ e`. -/
def shifted (num den : Nat) (e : Int) : Nat × Nat :=
  match e with
  | .ofNat k => (num, den * Nat.pow 2 k)
  | .negSucc k => (num * Nat.pow 2 (k + 1), den)

/-- The power of two of the last bit that a double has for the value `num / den`. -/
def unitExponent (num den : Nat) : Int :=
  let e : Int := (num.log2 : Int) - den.log2 - 53
  let s := shifted num den e
  max (-1074) (if s.1 / s.2 < Nat.pow 2 53 then e else e + 1)

/-- The double nearest to `± num / den`; infinity when that is beyond the largest double. -/
def ofRatio (negative : Bool) (num den : Nat) : Double :=
  if num = 0 then zero negative
  else
    let e := unitExponent num den
    let s := shifted num den e
    let magnitude := (e + 1074).toNat * Nat.pow 2 52 + roundHalfEven s.1 s.2
    if magnitude < 2047 * Nat.pow 2 52 then ofMagnitude negative magnitude else infinity negative

/-- The double nearest to an integer. -/
def ofInt (n : Int) : Double := ofRatio (n < 0) n.natAbs 1

/-- Absolute value of a finite double as numerator and denominator. -/
def ratio (d : Double) : Nat × Nat :=
  match d.exponent with
  | .ofNat k => (d.significand * Nat.pow 2 k, 1)
  | .negSucc k => (d.significand, Nat.pow 2 (k + 1))

/-- The product with `num / den`, rounded once. -/
def scale (d : Double) (num den : Nat) : Double :=
  if d.isFinite then ofRatio d.negative (d.ratio.1 * num) (d.ratio.2 * den) else d

/-- The double nearest to `± coefficient · 10 ^ power`. The powers outside of ±400 digits are cut
off first: all of them round to infinity or to zero. -/
def ofDecimal (negative : Bool) (coefficient : Nat) (power : Int) : Double :=
  if coefficient = 0 then zero negative
  else
    let point : Int := (coefficient.log2 : Int) * 30103 / 100000 + power
    if point > 400 then infinity negative
    else if point < -400 then zero negative
    else match power with
      | .ofNat k => ofRatio negative (coefficient * Nat.pow 10 k) 1
      | .negSucc k => ofRatio negative coefficient (Nat.pow 10 (k + 1))

/-! ## Order -/

/-- Place in the order of numbers; both zeros have place 0. -/
def place (d : Double) : Int := if d.negative then -(d.magnitude : Int) else d.magnitude

/-- Order of two numbers; not-a-number has no order to anything. -/
def order (a b : Double) : Option Ordering :=
  if a.isNaN || b.isNaN then none else some (compare a.place b.place)

/-- Numeric equality: the zeros are equal and not-a-number is unequal to itself. -/
def eqv (a b : Double) : Bool := a.order b == some .eq

/-- Below zero; minus zero is not. -/
def isBelowZero (d : Double) : Bool := d.order (zero false) == some .lt

end Double

end RuleEngine
