import RuleEngine.Yaml.Scalar
import RuleEngine.Yaml.Token.Basic

set_option autoImplicit false

/-! # How a text is written as a scalar

A text with line feeds is a literal block, any other text is plain if it reads back as that text.
What cannot be written so is put in single quotes, and in double quotes if it holds characters
without a visible form, or blanks where single quotes would lose them. -/

namespace RuleEngine.Yaml

/-- A character that may stand outside of double quotes. -/
def isVisible (c : Char) : Bool :=
  let n := c.toNat
  n = 0xA || (0x20 ≤ n && n ≤ 0x7E) || (0xA0 ≤ n && n ≤ 0xFFFD && n != 0xFEFF) || 0x10000 ≤ n

/-- A line break of any kind. -/
def isAnyBreak (c : Char) : Bool := isBreak c || c = '\x0d' || c = '\u0085'

/-- A blank, a tabulator or a line break. -/
def isSeparator (c : Char) : Bool := isBlank c || isAnyBreak c || c = '\x00'

/-- The rest is empty or starts with a separator. -/
def atSeparator : List Char → Bool
  | [] => true
  | c :: _ => isSeparator c

/-! ## What a text looks like -/

/-- The marks with which a plain scalar cannot start. -/
def isStartMark (c : Char) : Bool :=
  c ∈ ['#', ',', '[', ']', '\x7b', '\x7d', '&', '*', '!', '|', '>', '\x27', '"', '%', '@', '\x60']

/-- Behind the first character, a colon in front of a gap or a hash behind one. -/
def hasInnerMark (previous : Char) : List Char → Bool
  | [] => false
  | c :: cs =>
    (c = ':' && atSeparator cs) || (c = '#' && isSeparator previous) || hasInnerMark c cs

/-- Reading the text as a plain scalar would take some of it for a mark. -/
def hasMark : List Char → Bool
  | [] => false
  | c :: cs =>
    (c :: cs).take 3 == ['-', '-', '-'] || (c :: cs).take 3 == ['.', '.', '.'] ||
      isStartMark c || (c ∈ ['?', ':', '-'] && atSeparator cs) || hasInnerMark c cs

/-- A character of one class stands right in front of one of another. -/
def hasPair (p q : Char → Bool) : List Char → Bool
  | [] => false
  | [_] => false
  | a :: b :: cs => (p a && q b) || hasPair p q (b :: cs)

/-- A blank. -/
def isSpace (c : Char) : Bool := c = ' '

/-- The text can be written without quotes. -/
def plainAllowed (cs : List Char) : Bool :=
  cs.all (fun c => isVisible c && !isAnyBreak c) && !hasMark cs &&
    !cs.head?.any isSpace && !cs.getLast?.any isSpace

/-- The text can be written in single quotes. -/
def singleAllowed (cs : List Char) : Bool :=
  cs.all isVisible && !hasPair isAnyBreak isSpace cs && !hasPair isSpace isAnyBreak cs

/-- The text can be written as a literal block. -/
def literalAllowed (cs : List Char) : Bool :=
  cs.all isVisible && !cs.getLast?.any isSpace && !hasPair isSpace isAnyBreak cs

/-- A plain scalar with this text reads back as a text. -/
def readsAsText (s : String) : Bool :=
  match meaning s with
  | .text => !isZeroLed s
  | _ => false

def styleOf (s : String) : ScalarStyle :=
  let cs := s.toList
  if cs.contains '\n' then if literalAllowed cs then .literal else .doubleQuoted
  else if readsAsText s && plainAllowed cs then .plain
  else if singleAllowed cs then .singleQuoted
  else .doubleQuoted

/-! ## Writing -/

def blanks (n : Nat) : String := String.ofList (List.replicate n ' ')

/-- The text in single quotes; behind a line break the next characters stand `indent` deep. -/
def singleQuoted (indent : Nat) (cs : List Char) : String :=
  "'" ++ go false cs ++ "'"
where
  /-- The characters, where the flag says that a line break came last. -/
  go (broke : Bool) : List Char → String
    | [] => if broke then blanks indent else ""
    | c :: cs =>
      if isAnyBreak c then String.singleton c ++ go true cs
      else if isSpace c then " " ++ go broke cs
      else
        (if broke then blanks indent else "") ++
          (if c = '\x27' then "''" else String.singleton c) ++ go false cs

/-- So many hexadecimal digits of a number, in upper case. -/
def hexDigits : Nat → Nat → List Char
  | 0, _ => []
  | k + 1, n => hexDigits k (n / 16) ++ [(Nat.digitChar (n % 16)).toUpper]

/-- The letter of a character's short escape. -/
def escapeLetter? : Char → Option Char
  | '\x00' => some '0'
  | '\x07' => some 'a'
  | '\x08' => some 'b'
  | '\t' => some 't'
  | '\n' => some 'n'
  | '\x0b' => some 'v'
  | '\x0c' => some 'f'
  | '\x0d' => some 'r'
  | '\x1b' => some 'e'
  | '"' => some '"'
  | '\\' => some '\\'
  | '\u0085' => some 'N'
  | '\u2028' => some 'L'
  | '\u2029' => some 'P'
  | _ => none

def escapeChar (c : Char) : List Char :=
  match escapeLetter? c with
  | some e => ['\\', e]
  | none =>
    if isVisible c then [c]
    else
      let n := c.toNat
      if n ≤ 0xFF then '\\' :: 'x' :: hexDigits 2 n
      else if n ≤ 0xFFFF then '\\' :: 'u' :: hexDigits 4 n
      else '\\' :: 'U' :: hexDigits 8 n

def doubleQuoted (cs : List Char) : String := "\"" ++ String.ofList (cs.flatMap escapeChar) ++ "\""

/-- The lines of a literal block, `indent` deep; empty lines are left empty. -/
def literalLines (indent : Nat) (fresh : Bool) : List Char → String
  | [] => ""
  | c :: cs =>
    if isAnyBreak c then String.singleton c ++ literalLines indent true cs
    else (if fresh then blanks indent else "") ++ String.singleton c ++ literalLines indent false cs

/-- The indicators of a literal block: its depth, if the first line does not show it, and what
becomes of the breaks at its end. -/
def literalHints (cs : List Char) : String :=
  (if cs.head?.any fun c => isSpace c || isAnyBreak c then "2" else "") ++
    match cs.reverse with
    | [] => "-"
    | [c] => if isAnyBreak c then "+" else "-"
    | c :: d :: _ => if !isAnyBreak c then "-" else if isAnyBreak d then "+" else ""

/-- The text as a scalar, up to and with the end of its last line. Further lines stand `indent`
deep. -/
def scalarLine (indent : Nat) (s : String) : String :=
  let cs := s.toList
  match styleOf s with
  | .plain => s ++ "\n"
  | .singleQuoted => singleQuoted indent cs ++ "\n"
  | .literal | .folded =>
    "|" ++ literalHints cs ++ "\n" ++ literalLines indent true cs ++
      (if cs.getLast?.any isAnyBreak then "" else "\n")
  | .doubleQuoted => doubleQuoted cs ++ "\n"

end RuleEngine.Yaml
