import RuleEngine.Json.Basic
import RuleEngine.Decimal.Numeral

set_option autoImplicit false

/-! # Reading JSON text

A reader takes a value off the front of a character list and returns the rest. Of several fields
with one name the last counts, and the fields of an object are listed by key. A number without
point and exponent is an integer if 64 bits can hold it. The other numbers are doubles: the leading
digits that fit into 64 bits are rounded to a double, which is then multiplied or divided once by a
power of ten. -/

namespace RuleEngine.Json.Reader

/-! ## Numbers -/

/-- Significant digits that fit into 64 bits, with the number of digits left over behind them. -/
def leadingDigits (cs : List Char) : Nat × Nat :=
  cs.foldl (fun acc c =>
    let next := acc.1 * 10 + (c.toNat - 48)
    if acc.2 = 0 ∧ next < Nat.pow 2 64 then (next, 0) else (acc.1, acc.2 + 1)) (0, 0)

/-- A double scaled by a power of ten, in steps that a double can hold. -/
def scaled? (fuel : Nat) (d : Double) (power : Int) : Option Double :=
  let small := power.natAbs ≤ 308
  if small then
    let p := Double.ofRatio false (Nat.pow 10 power.natAbs) 1
    let r := if 0 ≤ power then d.scale p.ratio.1 p.ratio.2 else d.scale p.ratio.2 p.ratio.1
    if r.isFinite then some r else none
  else if d.significand = 0 then some d
  else if 0 ≤ power then none
  else match fuel with
    | 0 => some (Double.zero d.negative)
    | fuel + 1 =>
      let p := Double.ofRatio false (Nat.pow 10 308) 1
      scaled? fuel (d.scale p.ratio.2 p.ratio.1) (power + 308)

/-- The double of whole digits, fraction digits and an exponent. -/
def decimalNumber? (negative : Bool) (whole fraction : List Char) (exponent : Int) :
    Option Number :=
  let (w, left) := leadingDigits whole
  let (n, power) : Nat × Int :=
    if left = 0 then
      let (n, unused) := leadingDigits (whole ++ fraction)
      (n, (unused : Int) - fraction.length)
    else (w, left)
  (scaled? 4 (Double.ofRatio negative n 1) (power + exponent)).map Number.double

def number? (cs : List Char) : Option (Number × List Char) :=
  let (negative, cs) := match cs with
    | '-' :: rest => (true, rest)
    | _ => (false, cs)
  let whole := cs.takeWhile Char.isDigit
  let rest := cs.dropWhile Char.isDigit
  if whole.isEmpty || (whole.length > 1 && whole.head? == some '0') then none
  else
    let (point, fraction, rest) := match rest with
      | '.' :: r => (true, r.takeWhile Char.isDigit, r.dropWhile Char.isDigit)
      | r => (false, [], r)
    if point && fraction.isEmpty then none
    else
      let power := rest.takeWhile fun c =>
        c = 'e' || c = 'E' || c = '+' || c = '-' || c.isDigit
      let rest := rest.drop power.length
      match Numeral.exponent? power with
      | none => none
      | some e =>
        if point || !power.isEmpty then
          (decimalNumber? negative whole fraction e).map (·, rest)
        else
          let n := Numeral.digitsValue whole
          if negative then
            if n = 0 then some (.double (.zero true), rest)
            else if n ≤ Nat.pow 2 63 then some (.int (-n), rest)
            else (decimalNumber? true whole [] 0).map (·, rest)
          else if n < Nat.pow 2 64 then some (.int n, rest)
          else (decimalNumber? false whole [] 0).map (·, rest)

/-! ## Texts -/

def hexValue? (c : Char) : Option Nat :=
  if c.isDigit then some (c.toNat - 48)
  else if 'a' ≤ c ∧ c ≤ 'f' then some (c.toNat - 87)
  else if 'A' ≤ c ∧ c ≤ 'F' then some (c.toNat - 55)
  else none

/-- Four hexadecimal digits at the front of the text. -/
def hexFour? : List Char → Option (Nat × List Char)
  | a :: b :: c :: d :: rest => do
    let a ← hexValue? a
    let b ← hexValue? b
    let c ← hexValue? c
    let d ← hexValue? d
    return (((a * 16 + b) * 16 + c) * 16 + d, rest)
  | _ => none

/-- The character after a backslash, and the rest of the text. -/
def escaped? : List Char → Option (Char × List Char)
  | '"' :: rest => some ('"', rest)
  | '\\' :: rest => some ('\\', rest)
  | '/' :: rest => some ('/', rest)
  | 'n' :: rest => some ('\n', rest)
  | 't' :: rest => some ('\t', rest)
  | 'r' :: rest => some ('\x0d', rest)
  | 'b' :: rest => some ('\x08', rest)
  | 'f' :: rest => some ('\x0c', rest)
  | 'u' :: rest => do
    let (n, rest) ← hexFour? rest
    if 0xD800 ≤ n ∧ n < 0xDC00 then
      match rest with
      | '\\' :: 'u' :: rest =>
        let (low, rest) ← hexFour? rest
        if 0xDC00 ≤ low ∧ low < 0xE000 then
          some (Char.ofNat (0x10000 + (n - 0xD800) * 0x400 + (low - 0xDC00)), rest)
        else none
      | _ => none
    else if 0xDC00 ≤ n ∧ n < 0xE000 then none
    else some (Char.ofNat n, rest)
  | _ => none

/-- The text up to the closing quote, in reverse, and what follows the quote. -/
def quoted? (fuel : Nat) (read : List Char) : List Char → Option (List Char × List Char)
  | [] => none
  | c :: rest =>
    match fuel with
    | 0 => none
    | fuel + 1 =>
      if c = '"' then some (read, rest)
      else if c = '\\' then
        match escaped? rest with
        | some (e, rest) => quoted? fuel (e :: read) rest
        | none => none
      else if c.toNat < 32 then none
      else quoted? fuel (c :: read) rest

/-- A text whose opening quote has been read. -/
def text? (fuel : Nat) (cs : List Char) : Option (String × List Char) :=
  (quoted? fuel [] cs).map fun (read, rest) => (String.ofList read.reverse, rest)

/-! ## Values -/

/-- The text without the blanks at its front. -/
def skipBlank (cs : List Char) : List Char :=
  cs.dropWhile fun c => c = ' ' || c = '\n' || c = '\t' || c = '\x0d'

/-- The rest of a text behind a word. -/
def word? (word : String) (cs : List Char) : Option (List Char) :=
  if cs.take word.length = word.toList then some (cs.drop word.length) else none

mutual

def value? (fuel : Nat) (cs : List Char) : Option (Json × List Char) :=
  match fuel with
  | 0 => none
  | fuel + 1 =>
    match skipBlank cs with
    | 'n' :: rest => (word? "ull" rest).map (Json.null, ·)
    | 't' :: rest => (word? "rue" rest).map (Json.bool true, ·)
    | 'f' :: rest => (word? "alse" rest).map (Json.bool false, ·)
    | '"' :: rest => (text? (rest.length + 1) rest).map fun (s, rest) => (Json.str s, rest)
    | '[' :: rest =>
      match skipBlank rest with
      | ']' :: rest => some (.arr [], rest)
      | rest => (items? fuel [] rest).map fun (items, rest) => (Json.arr items, rest)
    | '\x7b' :: rest =>
      match skipBlank rest with
      | '\x7d' :: rest => some (.obj [], rest)
      | rest => (fields? fuel [] rest).map fun (fields, rest) => (Json.obj fields, rest)
    | cs => (number? cs).map fun (n, rest) => (Json.num n, rest)

/-- The items of an array whose bracket has been read. -/
def items? (fuel : Nat) (read : List Json) (cs : List Char) : Option (List Json × List Char) :=
  match fuel with
  | 0 => none
  | fuel + 1 =>
    match value? fuel cs with
    | none => none
    | some (v, rest) =>
      match skipBlank rest with
      | ',' :: rest => items? fuel (v :: read) rest
      | ']' :: rest => some ((v :: read).reverse, rest)
      | _ => none

/-- The fields of an object whose brace has been read. -/
def fields? (fuel : Nat) (read : Table Json) (cs : List Char) :
    Option (Table Json × List Char) :=
  match fuel with
  | 0 => none
  | fuel + 1 =>
    match skipBlank cs with
    | '"' :: rest =>
      match text? (rest.length + 1) rest with
      | none => none
      | some (key, rest) =>
        match skipBlank rest with
        | ':' :: rest =>
          match value? fuel rest with
          | none => none
          | some (v, rest) =>
            match skipBlank rest with
            | ',' :: rest => fields? fuel (read.insert key v) rest
            | '\x7d' :: rest => some (read.insert key v, rest)
            | _ => none
        | _ => none
    | _ => none

end

end RuleEngine.Json.Reader

namespace RuleEngine

def Json.parse? (s : String) : Option Json :=
  let cs := s.toList
  match Json.Reader.value? (2 * cs.length + 2) cs with
  | some (v, rest) => if (Json.Reader.skipBlank rest).isEmpty then some v else none
  | none => none

end RuleEngine
