import RuleEngine.Configuration.Value

set_option autoImplicit false

/-! # TOML words

A value that is not quoted and holds nothing else is one word: a truth value, an integer in one of
four bases, a double, or a date or time, which is kept as a text. Underscores may stand between two
digits. -/

namespace RuleEngine.Toml

open RuleEngine.Configuration (Value)

/-- Digits without the underscores between them. -/
def digits? (isDigit : Char → Bool) (cs : List Char) : Option (List Char) :=
  let rows := (String.ofList cs).splitOn "_"
  if rows.all fun row => !row.isEmpty && row.toList.all isDigit then some (cs.filter (· != '_'))
  else none

/-- Decimal digits of a number that does not begin with a needless zero. -/
def whole? (cs : List Char) : Option (List Char) :=
  (digits? Char.isDigit cs).filter fun ds => ds.length = 1 || ds.head? != some '0'

def digitValue (c : Char) : Nat :=
  if c.isDigit then c.toNat - 48 else if c.isAlpha then c.toLower.toNat - 87 else 99

/-- A number in a base, if a signed integer of 64 bits can hold it. -/
def natural? (base : Nat) (cs : List Char) : Option Value :=
  match digits? (fun c => digitValue c < base) cs with
  | none => none
  | some ds =>
    let n := ds.foldl (fun n c => n * base + digitValue c) 0
    if n < Nat.pow 2 63 then some (.int n) else none

/-- The exponent of a number, with its letter and without underscores. -/
def exponent? : List Char → Option (List Char)
  | [] => some []
  | e :: sign :: cs =>
    if e.toLower != 'e' then none
    else if sign = '+' || sign = '-' then (digits? Char.isDigit cs).map (e :: sign :: ·)
    else (digits? Char.isDigit (sign :: cs)).map (e :: ·)
  | _ => none

/-- A part of a number: digits, and underscores. -/
def isRow (c : Char) : Bool := c.isDigit || c == '_'

/-- The digits of a double with a point or an exponent, without underscores and sign. -/
def double? (cs : List Char) : Option (List Char) :=
  match whole? (cs.takeWhile isRow), cs.dropWhile isRow with
  | none, _ => none
  | some ds, '.' :: rest =>
    match digits? Char.isDigit (rest.takeWhile isRow), exponent? (rest.dropWhile isRow) with
    | some fraction, some e => some (ds ++ '.' :: fraction ++ e)
    | _, _ => none
  | some ds, rest => (exponent? rest).map (ds ++ ·)

/-- A number of digits at the front of a word, and the rest of the word. -/
def digitRow? (n : Nat) (cs : List Char) : Option (List Char) :=
  if (cs.take n).length = n && (cs.take n).all Char.isDigit then some (cs.drop n) else none

/-- The text begins with a character; the rest of the text. -/
def after? (c : Char) : List Char → Option (List Char)
  | d :: cs => if d = c then some cs else none
  | [] => none

/-- The word is a time of day, with an offset from universal time if there may be one. -/
def isTime (withOffset : Bool) (cs : List Char) : Bool :=
  let seconds := (digitRow? 2 cs).bind fun cs => (after? ':' cs).bind fun cs =>
    (digitRow? 2 cs).bind fun cs => (after? ':' cs).bind (digitRow? 2)
  match seconds with
  | none => false
  | some rest =>
    let (fine, rest) := match rest with
      | '.' :: cs => (!(cs.takeWhile Char.isDigit).isEmpty, cs.dropWhile Char.isDigit)
      | cs => (true, cs)
    let offset := match rest with
      | [] => true
      | ['Z'] | ['z'] => withOffset
      | sign :: cs =>
        withOffset && (sign == '+' || sign == '-') &&
          (((digitRow? 2 cs).bind (after? ':')).bind (digitRow? 2)).any List.isEmpty
    fine && offset

/-- The word is a date, which a time may follow, or a time. -/
def isMoment (cs : List Char) : Bool :=
  let date := (digitRow? 4 cs).bind fun cs => (after? '-' cs).bind fun cs =>
    (digitRow? 2 cs).bind fun cs => (after? '-' cs).bind (digitRow? 2)
  match date with
  | none => isTime false cs
  | some [] => true
  | some (mark :: cs) => mark.toLower == 't' && isTime true cs

/-- The value of a number behind its sign, if it has one. -/
def number? (sign cs : List Char) : Option Value :=
  match String.ofList cs, whole? cs with
  | "inf", _ => some (.double (.infinity (sign == ['-'])))
  | "nan", _ => some (.double .nan)
  | _, some ds => (Value.signed? (String.ofList (sign ++ ds))).map .int
  | _, none =>
    (double? cs).bind fun ds => (Double.parse? (String.ofList (sign ++ ds))).map .double

def word? (cs : List Char) : Option Value :=
  match cs with
  | ['t', 'r', 'u', 'e'] => some (.bool true)
  | ['f', 'a', 'l', 's', 'e'] => some (.bool false)
  | '0' :: 'x' :: cs => natural? 16 cs
  | '0' :: 'o' :: cs => natural? 8 cs
  | '0' :: 'b' :: cs => natural? 2 cs
  | '+' :: cs => number? ['+'] cs
  | '-' :: cs => number? ['-'] cs
  | cs => if isMoment cs then some (.text (String.ofList cs)) else number? [] cs

end RuleEngine.Toml
