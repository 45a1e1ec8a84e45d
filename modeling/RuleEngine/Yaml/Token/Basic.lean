set_option autoImplicit false

/-! # YAML tokens

A document is a row of tokens. Indentation has become tokens of its own: a block collection opens
where its first entry stands deeper than what surrounds it, and ends where a line stands less deep
again. -/

namespace RuleEngine.Yaml

inductive ScalarStyle
  | plain
  | singleQuoted
  | doubleQuoted
  | literal
  | folded
deriving DecidableEq, Inhabited

inductive Token
  | version (major minor : Nat)
  | tagDirective (handle lead : String)
  | documentStart
  | documentEnd
  | sequenceStart
  | mappingStart
  | blockEnd
  | flowSequenceStart
  | flowSequenceEnd
  | flowMappingStart
  | flowMappingEnd
  | entry
  | comma
  | key
  | value
  | alias (name : String)
  | anchor (name : String)
  | tag (handle suffix : String)
  | scalar (style : ScalarStyle) (text : String)
  | streamEnd
deriving DecidableEq, Inhabited

/-! ## Characters -/

/-- A blank or a tabulator. -/
def isBlank (c : Char) : Bool := c = ' ' || c = '\t'

/-- A line break; the ones of a carriage return or a next-line have become line feeds. -/
def isBreak (c : Char) : Bool := c = '\n' || c = '\u2028' || c = '\u2029'

/-- The rest starts with a blank or a line break, or nothing is left. -/
def atGap : List Char → Bool
  | [] => true
  | c :: _ => isBlank c || isBreak c

/-- A letter, a digit, an underscore or a hyphen. -/
def isNameChar (c : Char) : Bool := c.isAlphanum || c = '_' || c = '-'

/-- A character that a document may contain. -/
def isAllowed (c : Char) : Bool :=
  let n := c.toNat
  n = 0x9 || n = 0xA || n = 0xD || (0x20 ≤ n && n ≤ 0x7E) || n = 0x85 ||
    (0xA0 ≤ n && n ≤ 0xFFFD && n != 0xFEFF) || 0x10000 ≤ n

/-- Carriage returns, with or without a line feed, and next-lines become line feeds. -/
def unifyBreaks : List Char → List Char
  | '\x0d' :: '\n' :: cs => '\n' :: unifyBreaks cs
  | '\x0d' :: cs => '\n' :: unifyBreaks cs
  | '\u0085' :: cs => '\n' :: unifyBreaks cs
  | c :: cs => c :: unifyBreaks cs
  | [] => []

/-! ## Positions -/

/-- A place in a document. -/
structure Position where
  index : Nat := 0
  line : Nat := 0
  column : Nat := 0
deriving DecidableEq, Inhabited

namespace Position

/-- So many characters further on the same line. -/
def skip (p : Position) (n : Nat) : Position :=
  { p with index := p.index + n, column := p.column + n }

def next (p : Position) : Position := p.skip 1

def nextLine (p : Position) : Position := ⟨p.index + 1, p.line + 1, 0⟩

end Position

/-- What is left of a document, and where that is. -/
structure Cursor where
  pos : Position
  rest : List Char
deriving Inhabited

namespace Cursor

def skip (c : Cursor) (n : Nat) : Cursor := ⟨c.pos.skip n, c.rest.drop n⟩

/-- Split off the characters of a class at the front. -/
def takeWhile (c : Cursor) (p : Char → Bool) : List Char × Cursor :=
  let cs := c.rest.takeWhile p
  (cs, c.skip cs.length)

def skipBlanks (c : Cursor) : Cursor := (c.takeWhile isBlank).2

/-- A line of three equal marks, `---` or `...`, starts here. -/
def atDocumentMark (mark : Char) (c : Cursor) : Bool :=
  c.pos.column = 0 && c.rest.take 3 == [mark, mark, mark] && atGap (c.rest.drop 3)

/-- A line that ends a document or starts one. -/
def atDocumentLimit (c : Cursor) : Bool := c.atDocumentMark '-' || c.atDocumentMark '.'

/-- Pass over the end of a line, which holds nothing but blanks and a comment. -/
def endOfLine? (c : Cursor) : Option Cursor :=
  let c := c.skipBlanks
  let c := if c.rest.head? = some '#' then (c.takeWhile fun x => !isBreak x).2 else c
  match c.rest with
  | [] => some c
  | x :: rest => if isBreak x then some ⟨c.pos.nextLine, rest⟩ else none

end Cursor

end RuleEngine.Yaml
