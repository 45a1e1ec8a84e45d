import RuleEngine.Double

set_option autoImplicit false

/-! # Durations

A duration is a whole number of nanoseconds. A number of milliseconds is divided by a thousand as a
double, and the seconds are then rounded to whole nanoseconds, a half to the even one. -/

namespace RuleEngine

structure Duration where
  nanos : Nat
deriving DecidableEq, Inhabited

namespace Duration

def zero : Duration := ⟨0⟩

def ofMillis (n : Nat) : Duration := ⟨n * 1000000⟩

def seconds (d : Duration) : Nat := d.nanos / Nat.pow 10 9

/-- A number of seconds that is not negative; 2^64 seconds and more are out of range. -/
def ofSeconds? (d : Double) : Option Duration :=
  if !d.isFinite || d.isBelowZero then none
  else
    let n := Double.roundHalfEven (d.ratio.1 * Nat.pow 10 9) d.ratio.2
    if n < Nat.pow 2 64 * Nat.pow 10 9 then some ⟨n⟩ else none

/-- A number of milliseconds as seconds. -/
def secondsOfMillis (d : Double) : Double := d.scale 1 1000

/-- Digits with zeros in front of them. -/
def padded (width n : Nat) : String :=
  let s := toString n
  String.ofList (List.replicate (width - s.length) '0') ++ s

/-- Seconds, a point and nine digits. -/
def text (d : Duration) : String := toString d.seconds ++ "." ++ padded 9 (d.nanos % Nat.pow 10 9)

end Duration

end RuleEngine
