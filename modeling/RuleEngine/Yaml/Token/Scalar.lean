import RuleEngine.Yaml.Token.Basic

set_option autoImplicit false

/-! # Scalars in the text of a document

Plain and quoted scalars may go over several lines: a single line break becomes a blank, and of
several breaks the first is dropped. Block scalars keep their lines, or fold them. Every function
here goes through the text once. -/

namespace RuleEngine.Yaml

/-! ## Gaps between words -/

/-- The gap between two words of a scalar. -/
inductive Gap
  | blanks (cs : List Char)
  /-- The first break, if it counts, and the breaks after it. -/
  | breaks (first : Option Char) (more : List Char)

namespace Gap

def none : Gap := .blanks []

/-- A gap over a line break. -/
def isBreaks : Gap → Bool
  | .breaks .. => true
  | .blanks _ => false

/-- No characters were passed. -/
def isNone : Gap → Bool
  | .blanks cs => cs.isEmpty
  | .breaks .. => false

/-- One more blank; it counts only before the first line break. -/
def blank : Gap → Char → Gap
  | .blanks cs, c => .blanks (cs ++ [c])
  | g, _ => g

def lineBreak : Gap → Char → Gap
  | .blanks _, c => .breaks (some c) []
  | .breaks first more, c => .breaks first (more ++ [c])

/-- What a gap stands for once a word follows. -/
def fold : Gap → List Char
  | .blanks cs => cs
  | .breaks (some '\n') [] => [' ']
  | .breaks (some '\n') more => more
  | .breaks first more => first.toList ++ more

end Gap

/-! ## Plain scalars -/

/-- A scalar that was read, the gap behind it, and what is left. -/
structure Plain where
  text : String
  gap : Gap
  cursor : Cursor

/-- A character that structures flow collections. -/
def isFlowMark (c : Char) : Bool := c ∈ [',', '[', ']', '\x7b', '\x7d']

/-- A plain scalar ends in front of a comment, a colon with a gap behind it, and, in a flow
collection, a flow mark. -/
def endsWord (flow : Bool) (gap : Gap) (c : Char) (rest : List Char) : Bool :=
  (!gap.isNone && c = '#') || (c = ':' && atGap rest) || (flow && isFlowMark c)

/-- A colon in a flow collection with a mark right behind it. -/
def isStrayColon (flow : Bool) (c : Char) (rest : List Char) : Bool :=
  flow && c = ':' && rest.head?.any fun d => isFlowMark d || d = '?'

/-- Read a plain scalar; its lines stand at least `indent` deep. -/
def plain? (flow : Bool) (indent : Nat) (text : List Char) (gap : Gap) (p : Position) :
    List Char → Option Plain
  | [] => some ⟨String.ofList text.reverse, gap, ⟨p, []⟩⟩
  | c :: cs =>
    if isBlank c then
      if gap.isBreaks && c = '\t' && p.column < indent then none
      else plain? flow indent text (gap.blank c) p.next cs
    else if isBreak c then plain? flow indent text (gap.lineBreak c) p.nextLine cs
    else if (!gap.isNone && !flow && p.column < indent) || Cursor.atDocumentLimit ⟨p, c :: cs⟩ then
      some ⟨String.ofList text.reverse, gap, ⟨p, c :: cs⟩⟩
    else if isStrayColon flow c cs then none
    else if endsWord flow gap c cs then some ⟨String.ofList text.reverse, gap, ⟨p, c :: cs⟩⟩
    else plain? flow indent (c :: (gap.fold.reverse ++ text)) .none p.next cs

/-! ## Quoted scalars -/

/-- Where the reader of a quoted scalar stands. -/
inductive QuoteMode
  | text
  /-- Behind a quote that ends the scalar unless it is written twice. -/
  | quote
  /-- Behind a backslash. -/
  | escape
  /-- In front of so many more hexadecimal digits. -/
  | digits (left value : Nat)

/-- The character that an escape stands for. -/
def escaped? : Char → Option Char
  | '0' => some '\x00'
  | 'a' => some '\x07'
  | 'b' => some '\x08'
  | 't' | '\t' => some '\t'
  | 'n' => some '\n'
  | 'v' => some '\x0b'
  | 'f' => some '\x0c'
  | 'r' => some '\x0d'
  | 'e' => some '\x1b'
  | ' ' => some ' '
  | '"' => some '"'
  | '/' => some '/'
  | '\\' => some '\\'
  | 'N' => some '\u0085'
  | '_' => some '\u00a0'
  | 'L' => some '\u2028'
  | 'P' => some '\u2029'
  | _ => none

/-- How many digits follow the letter of a numeric escape. -/
def escapeDigits? : Char → Option Nat
  | 'x' => some 2
  | 'u' => some 4
  | 'U' => some 8
  | _ => none

def hexValue? (c : Char) : Option Nat :=
  if '0' ≤ c && c ≤ '9' then some (c.toNat - 48)
  else if 'a' ≤ c && c ≤ 'f' then some (c.toNat - 87)
  else if 'A' ≤ c && c ≤ 'F' then some (c.toNat - 55)
  else none

/-- The character of a code point, if it is one. -/
def charOf? (n : Nat) : Option Char := if n.isValidChar then some (Char.ofNat n) else none

def quoted? (quote : Char) (mode : QuoteMode) (text : List Char) (gap : Gap) (p : Position) :
    List Char → Option (String × Cursor)
  | [] =>
    match mode with
    | .quote => some (String.ofList text.reverse, ⟨p, []⟩)
    | _ => none
  | c :: cs =>
    match mode with
    | .quote =>
      if c = quote && quote = '\x27' then quoted? quote .text (c :: text) .none p.next cs
      else some (String.ofList text.reverse, ⟨p, c :: cs⟩)
    | .escape =>
      if isBreak c then quoted? quote .text text (.breaks none []) p.nextLine cs
      else
        match escaped? c with
        | some e => quoted? quote .text (e :: text) .none p.next cs
        | none =>
          match escapeDigits? c with
          | some n => quoted? quote (.digits n 0) text .none p.next cs
          | none => none
    | .digits left value =>
      match hexValue? c with
      | none => none
      | some d =>
        if left ≤ 1 then
          match charOf? (value * 16 + d) with
          | some e => quoted? quote .text (e :: text) .none p.next cs
          | none => none
        else quoted? quote (.digits (left - 1) (value * 16 + d)) text .none p.next cs
    | .text =>
      if isBlank c then quoted? quote .text text (gap.blank c) p.next cs
      else if isBreak c then quoted? quote .text text (gap.lineBreak c) p.nextLine cs
      else if Cursor.atDocumentLimit ⟨p, c :: cs⟩ then none
      else
        let text := gap.fold.reverse ++ text
        if c = quote then quoted? quote .quote text .none p.next cs
        else if c = '\\' && quote = '"' then quoted? quote .escape text .none p.next cs
        else quoted? quote .text (c :: text) .none p.next cs

/-! ## Block scalars -/

/-- What becomes of the line breaks at the end of a block scalar. -/
inductive Chomp
  | clip
  | strip
  | keep
deriving DecidableEq

def chomp? : Char → Option Chomp
  | '+' => some .keep
  | '-' => some .strip
  | _ => none

/-- A digit that gives the depth of a block scalar; zero is refused. -/
def depthDigit? (c : Char) : Option Nat :=
  if '1' ≤ c && c ≤ '9' then some (c.toNat - 48) else none

/-- The indicators behind the mark of a block scalar, in either order, and their number. -/
def blockHeader : List Char → Chomp × Option Nat × Nat
  | [] => (.clip, none, 0)
  | a :: rest =>
    match chomp? a with
    | some chomp =>
      match rest.head?.bind depthDigit? with
      | some n => (chomp, some n, 2)
      | none => (chomp, none, 1)
    | none =>
      match depthDigit? a with
      | none => (.clip, none, 0)
      | some n =>
        match rest.head?.bind chomp? with
        | some chomp => (chomp, some n, 2)
        | none => (.clip, some n, 1)

/-- A block scalar while it is read. -/
structure Block where
  text : List Char := []
  /-- The break behind the last line of text. -/
  last : Option Char := none
  /-- The breaks of the empty lines that follow it. -/
  empty : List Char := []
  /-- The last line of text starts with a blank. -/
  blankStart : Bool := false

namespace Block

/-- Start a line of text with a character. -/
def startLine (b : Block) (folded : Bool) (c : Char) : Block :=
  let joint :=
    if folded && b.last = some '\n' && !b.blankStart && !isBlank c then
      if b.empty.isEmpty then [' '] else b.empty
    else b.last.toList ++ b.empty
  { text := c :: (joint.reverse ++ b.text), last := none, empty := [], blankStart := isBlank c }

def finish (b : Block) (chomp : Chomp) : String :=
  let tail := match chomp with
    | .strip => []
    | .clip => b.last.toList
    | .keep => b.last.toList ++ b.empty
  String.ofList (b.text.reverse ++ tail)

end Block

/-- Read the lines of a block scalar. `depth` is how deep they stand, if that is known; if it is
not, the deepest column up to the first line of text counts, and at least `least`. -/
def block? (folded : Bool) (chomp : Chomp) (least : Nat) (depth : Option Nat) (deepest : Nat)
    (inLine : Bool) (b : Block) (p : Position) : List Char → Option (String × Cursor)
  | [] => some (b.finish chomp, ⟨p, []⟩)
  | c :: cs =>
    if inLine then
      if isBreak c then
        block? folded chomp least depth deepest false { b with last := some c } p.nextLine cs
      else block? folded chomp least depth deepest true { b with text := c :: b.text } p.next cs
    else
      let shallow := depth.all fun d => p.column < d
      if shallow && c = ' ' then
        block? folded chomp least depth (max deepest p.next.column) false b p.next cs
      else if shallow && c = '\t' then none
      else if isBreak c then
        block? folded chomp least depth deepest false { b with empty := b.empty ++ [c] }
          p.nextLine cs
      else
        let d := depth.getD (max deepest least)
        if p.column = d then
          block? folded chomp least (some d) deepest true (b.startLine folded c) p.next cs
        else some (b.finish chomp, ⟨p, c :: cs⟩)

/-- Read a block scalar behind its mark; `indent` is how deep its surroundings stand, plus one. -/
def blockScalar? (folded : Bool) (indent : Nat) (c : Cursor) : Option (String × Cursor) :=
  let (chomp, increment, length) := blockHeader c.rest
  match (c.skip length).endOfLine? with
  | none => none
  | some c =>
    let depth := increment.map fun n => if indent = 0 then n else indent - 1 + n
    block? folded chomp (max indent 1) depth 0 false {} c.pos c.rest

end RuleEngine.Yaml
