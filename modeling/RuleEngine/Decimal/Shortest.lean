import RuleEngine.Double

set_option autoImplicit false

/-! # Shortest decimals

The decimal that stands for a double is the one with the fewest digits among those that read back
as that double, and of several with as few digits the one nearest to it. The search tries 1, 2, …
17 digits and looks at the two neighbours of the value on each decimal grid. -/

namespace RuleEngine

/-- The value `coefficient · 10 ^ power`. -/
structure Decimal where
  coefficient : Nat
  power : Int
deriving DecidableEq, Repr

/-- Which neighbour wins when both are equally near. -/
inductive Tie
  | toEven
  | up
deriving DecidableEq, Repr

namespace Decimal

/-- Numerator and denominator of `num / den / 10 ^ power`. -/
def onGrid (num den : Nat) (power : Int) : Nat × Nat :=
  match power with
  | .ofNat k => (num, den * Nat.pow 10 k)
  | .negSucc k => (num * Nat.pow 10 (k + 1), den)

/-- The least `p` with `num / den < 10 ^ p`. -/
def pointOf (num den : Nat) : Int :=
  let guess : Int := ((num.log2 : Int) - den.log2) * 30103 / 100000 - 1
  let below (p : Int) : Bool := let g := onGrid num den p; g.1 < g.2
  if below guess then guess
  else if below (guess + 1) then guess + 1
  else if below (guess + 2) then guess + 2
  else guess + 3

/-- Ends of the interval of values that round to a finite non-zero double, over the common
denominator that comes last. -/
def interval (d : Double) : Nat × Nat × Nat :=
  let m := d.significand
  let gap := if d.fraction = 0 && d.exponentField > 1 then 1 else 2
  match d.exponent - 2 with
  | .ofNat k => ((4 * m - gap) * Nat.pow 2 k, (4 * m + 2) * Nat.pow 2 k, 1)
  | .negSucc k => (4 * m - gap, 4 * m + 2, Nat.pow 2 (k + 1))

/-- `c · 10 ^ power` lies in the interval of `d`; the ends belong to it if `d` is even. -/
def readsBack (d : Double) (c : Nat) (power : Int) : Bool :=
  let (low, high, den) := interval d
  let (lowN, lowD) := onGrid low den power
  let (highN, highD) := onGrid high den power
  if d.significand % 2 = 0 then lowN ≤ c * lowD && c * highD ≤ highN
  else lowN < c * lowD && c * highD < highN

/-- The better neighbour of `d` on the grid of `10 ^ power`, if one of the two reads back. -/
def onGrid? (tie : Tie) (d : Double) (power : Int) : Option Nat :=
  let (num, den) := onGrid d.ratio.1 d.ratio.2 power
  let c := num / den
  let r := num % den
  match readsBack d c power && c != 0, readsBack d (c + 1) power with
  | true, true =>
    if 2 * r < den then some c
    else if 2 * r > den then some (c + 1)
    else match tie with
      | .toEven => some (if c % 2 = 0 then c else c + 1)
      | .up => some (c + 1)
  | true, false => some c
  | false, true => some (c + 1)
  | false, false => none

/-- Take zeros off the end of the coefficient. -/
def normalize (fuel : Nat) (x : Decimal) : Decimal :=
  match fuel with
  | 0 => x
  | fuel + 1 =>
    if x.coefficient != 0 && x.coefficient % 10 = 0 then
      normalize fuel ⟨x.coefficient / 10, x.power + 1⟩
    else x

/-- The shortest decimal for the absolute value of a finite double. -/
def shortest (tie : Tie) (d : Double) : Decimal :=
  if d.significand = 0 then ⟨0, 0⟩
  else
    let point := pointOf d.ratio.1 d.ratio.2
    let found := (List.range 17).findSome? fun k =>
      let power := point - (k + 1 : Nat)
      (onGrid? tie d power).map fun c => Decimal.mk c power
    normalize 20 (found.getD ⟨0, 0⟩)

end Decimal

end RuleEngine
