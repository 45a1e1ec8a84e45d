import RuleEngine.Yaml.Token.Tag

set_option autoImplicit false

/-! # The tokens of a document

The text is gone through once. Whether a node is the key of a mapping shows only when its colon
comes, on the same line and not more than 1024 characters later; until then its place in the row of
tokens is kept, and the colon puts the tokens that open a mapping there. Where the text is
malformed the row breaks off in front of the first token whose role is still open. -/

namespace RuleEngine.Yaml

/-- A node that becomes a key if a colon follows. -/
structure PendingKey where
  /-- Number of its first token. -/
  number : Nat
  pos : Position
  /-- The place admits nothing but a key. -/
  required : Bool

/-- The state of reading tokens. -/
structure Reader where
  cursor : Cursor
  tokens : Array Token := #[]
  /-- Depth of the innermost block collection, and those around it. -/
  indent : Int := -1
  indents : List Int := []
  /-- A key may start here. -/
  keyAllowed : Bool := true
  /-- The pending key of every level of flow collections, the innermost first. -/
  keys : List (Option PendingKey) := [none]
  ended : Bool := false

namespace Reader

/-- Inside of a flow collection. -/
def inFlow (r : Reader) : Bool := 2 ≤ r.keys.length

/-- Depth that the lines of a scalar must reach. -/
def contentIndent (r : Reader) : Nat := (r.indent + 1).toNat

def push (r : Reader) (t : Token) : Reader := { r with tokens := r.tokens.push t }

/-- Put a token at a place of the row. -/
def insertAt (r : Reader) (number : Nat) (t : Token) : Reader :=
  { r with tokens := (r.tokens.extract 0 number).push t ++ r.tokens.extract number r.tokens.size }

/-- Go on behind some text. -/
def moveTo (r : Reader) (c : Cursor) : Reader := { r with cursor := c }

/-! ## Gaps between tokens -/

/-- Pass over blanks, comments and line breaks. Outside of flow collections a new line may start
with a key, and a tabulator may not stand where a key may start. -/
def skipGap (flow allowed comment : Bool) (p : Position) : List Char → Bool × Cursor
  | [] => (allowed, ⟨p, []⟩)
  | c :: cs =>
    if isBreak c then skipGap flow (allowed || !flow) false p.nextLine cs
    else if comment then skipGap flow allowed true p.next cs
    else if c = ' ' || (c = '\t' && (flow || !allowed)) then skipGap flow allowed false p.next cs
    else if c = '#' then skipGap flow allowed true p.next cs
    else (allowed, ⟨p, c :: cs⟩)

/-- Move on to the next token. -/
def toToken (r : Reader) : Reader :=
  let (allowed, c) := skipGap r.inFlow r.keyAllowed false r.cursor.pos r.cursor.rest
  { r with cursor := c, keyAllowed := allowed }

/-! ## Pending keys -/

/-- A colon at this position comes too late for a key. -/
def PendingKey.isStale (p : Position) (k : PendingKey) : Bool :=
  k.pos.line < p.line || k.pos.index + 1024 < p.index

/-- Give up the keys for which a colon comes too late; none of them may be required. -/
def dropStale? (r : Reader) : Option Reader :=
  let late (k : PendingKey) : Bool := PendingKey.isStale r.cursor.pos k
  if r.keys.any fun k => k.any fun k => late k && k.required then none
  else some { r with keys := r.keys.map fun k => k.filter fun k => !late k }

/-- Give up the innermost pending key. -/
def dropKey? (r : Reader) : Option Reader :=
  match r.keys with
  | [] => some r
  | k :: ks => if k.any (·.required) then none else some { r with keys := none :: ks }

/-- Note that a key may start here. -/
def saveKey? (r : Reader) : Option Reader :=
  if !r.keyAllowed then some r
  else
    r.dropKey?.map fun r =>
      let required := !r.inFlow && r.indent = r.cursor.pos.column
      { r with keys := some ⟨r.tokens.size, r.cursor.pos, required⟩ :: r.keys.drop 1 }

/-! ## Indentation -/

/-- Close the block collections that stand deeper than a column. -/
def closeDeeper (column : Int) (tokens : Array Token) (indent : Int) :
    List Int → Array Token × Int × List Int
  | [] => (tokens, indent, [])
  | i :: is =>
    if column < indent then closeDeeper column (tokens.push .blockEnd) i is
    else (tokens, indent, i :: is)

/-- Close block collections, outside of flow collections. -/
def unroll (r : Reader) (column : Int) : Reader :=
  if r.inFlow then r
  else
    let (tokens, indent, indents) := closeDeeper column r.tokens r.indent r.indents
    { r with tokens, indent, indents }

/-- Open a block collection if the column is deeper than what surrounds it. -/
def roll (r : Reader) (column number : Nat) (t : Token) : Reader :=
  if r.inFlow || (column : Int) ≤ r.indent then r
  else { r with indent := column, indents := r.indent :: r.indents }.insertAt number t

/-- Open a block collection at the place of the reader. -/
def rollHere (r : Reader) (t : Token) : Reader := r.roll r.cursor.pos.column r.tokens.size t

/-! ## Single tokens -/

/-- Pass over some characters and add a token. -/
def take (r : Reader) (n : Nat) (t : Token) : Reader := (r.moveTo (r.cursor.skip n)).push t

def streamEnd? (r : Reader) : Option Reader :=
  (r.unroll (-1)).dropKey?.map fun r => { r.push .streamEnd with ended := true }

def directiveLine? (r : Reader) : Option Reader :=
  (r.unroll (-1)).dropKey?.bind fun r =>
    (directive? r.cursor).map fun (t, c) => { (r.moveTo c).push t with keyAllowed := false }

def documentMark? (r : Reader) (t : Token) : Option Reader :=
  (r.unroll (-1)).dropKey?.map fun r => { r.take 3 t with keyAllowed := false }

def flowStart? (r : Reader) (t : Token) : Option Reader :=
  r.saveKey?.map fun r => { r.take 1 t with keys := none :: r.keys, keyAllowed := true }

def flowEnd? (r : Reader) (t : Token) : Option Reader :=
  r.dropKey?.map fun r =>
    { r.take 1 t with keys := if r.inFlow then r.keys.drop 1 else r.keys, keyAllowed := false }

def comma? (r : Reader) : Option Reader :=
  r.dropKey?.map fun r => { r.take 1 .comma with keyAllowed := true }

/-- The hyphen of a block sequence. -/
def entry? (r : Reader) : Option Reader :=
  if !r.inFlow && !r.keyAllowed then none
  else
    (r.rollHere .sequenceStart).dropKey?.map fun r => { r.take 1 .entry with keyAllowed := true }

def keyMark? (r : Reader) : Option Reader :=
  if !r.inFlow && !r.keyAllowed then none
  else
    (r.rollHere .mappingStart).dropKey?.map fun r => { r.take 1 .key with keyAllowed := !r.inFlow }

/-- The colon of a value; a pending key in front of it becomes a key. -/
def valueMark? (r : Reader) : Option Reader :=
  match r.keys with
  | some k :: ks =>
    let r := (r.insertAt k.number .key).roll k.pos.column k.number .mappingStart
    some { r.take 1 .value with keys := none :: ks, keyAllowed := false }
  | _ =>
    if !r.inFlow && !r.keyAllowed then none
    else
      let r := r.rollHere .mappingStart
      some { r.take 1 .value with keyAllowed := !r.inFlow }

def anchored? (r : Reader) (t : String → Token) : Option Reader :=
  r.saveKey?.bind fun r =>
    (anchorName? r.cursor).map fun (name, c) =>
      { (r.moveTo c).push (t name) with keyAllowed := false }

def tagged? (r : Reader) : Option Reader :=
  r.saveKey?.bind fun r =>
    (tag? r.inFlow r.cursor).map fun (t, c) => { (r.moveTo c).push t with keyAllowed := false }

def blockText? (r : Reader) (style : ScalarStyle) : Option Reader :=
  r.dropKey?.bind fun r =>
    (blockScalar? (style = .folded) r.contentIndent (r.cursor.skip 1)).map fun (text, c) =>
      { (r.moveTo c).push (.scalar style text) with keyAllowed := true }

def quotedText? (r : Reader) (quote : Char) (style : ScalarStyle) : Option Reader :=
  r.saveKey?.bind fun r =>
    (quoted? quote .text [] .none r.cursor.pos.next (r.cursor.rest.drop 1)).map fun (text, c) =>
      { (r.moveTo c).push (.scalar style text) with keyAllowed := false }

def plainText? (r : Reader) : Option Reader :=
  r.saveKey?.bind fun r =>
    (plain? r.inFlow r.contentIndent [] .none r.cursor.pos r.cursor.rest).map fun s =>
      { (r.moveTo s.cursor).push (.scalar .plain s.text) with keyAllowed := s.gap.isBreaks }

/-- A plain scalar can start with this character. -/
def startsPlain (flow : Bool) (c : Char) (rest : List Char) : Bool :=
  if c = '-' then !rest.head?.any isBlank
  else if c = '?' || c = ':' then !flow && !atGap rest
  else !(c ∈ [',', '[', ']', '\x7b', '\x7d', '#', '&', '*', '!', '|', '>', '\x27', '"', '%', '@',
    '\x60'] || isBlank c)

def token? (r : Reader) : Option Reader :=
  match r.cursor.rest with
  | [] => r.streamEnd?
  | c :: rest =>
    let gap := atGap rest
    if c = '%' && r.cursor.pos.column = 0 then r.directiveLine?
    else if r.cursor.atDocumentMark '-' then r.documentMark? .documentStart
    else if r.cursor.atDocumentMark '.' then r.documentMark? .documentEnd
    else if c = '[' then r.flowStart? .flowSequenceStart
    else if c = '\x7b' then r.flowStart? .flowMappingStart
    else if c = ']' then r.flowEnd? .flowSequenceEnd
    else if c = '\x7d' then r.flowEnd? .flowMappingEnd
    else if c = ',' then r.comma?
    else if c = '-' && gap then r.entry?
    else if c = '?' && (r.inFlow || gap) then r.keyMark?
    else if c = ':' && (r.inFlow || gap) then r.valueMark?
    else if c = '*' then r.anchored? .alias
    else if c = '&' then r.anchored? .anchor
    else if c = '!' then r.tagged?
    else if c = '|' && !r.inFlow then r.blockText? .literal
    else if c = '>' && !r.inFlow then r.blockText? .folded
    else if c = '\x27' then r.quotedText? c .singleQuoted
    else if c = '"' then r.quotedText? c .doubleQuoted
    else if startsPlain r.inFlow c rest then r.plainText?
    else none

def next? (r : Reader) : Option Reader :=
  r.toToken.dropStale?.bind fun r => (r.unroll r.cursor.pos.column).token?

/-- The tokens whose role is settled. -/
def settled (r : Reader) : List Token :=
  let open_ (k : PendingKey) : Bool := k.required || !PendingKey.isStale r.cursor.pos k
  let numbers := r.keys.filterMap fun k => (k.filter open_).map (·.number)
  (r.tokens.extract 0 (numbers.foldl min r.tokens.size)).toList

/-- Read tokens up to the end, or up to where the text is malformed. Every token takes a character,
so their number bounds the steps. -/
def run : Nat → Reader → List Token
  | 0, r => r.settled
  | n + 1, r =>
    if r.ended then r.tokens.toList
    else
      match r.next? with
      | none => r.settled
      | some r => run n r

end Reader

/-- The tokens of a document. A text with a character that no document contains has no tokens. -/
def Token.ofText (s : String) : List Token :=
  let cs := match s.toList with
    | '\ufeff' :: cs => cs
    | cs => cs
  if cs.all isAllowed then
    Reader.run (cs.length + 2) { cursor := ⟨{}, unifyBreaks cs⟩ }
  else []

end RuleEngine.Yaml
