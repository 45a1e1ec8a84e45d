import RuleEngine.Toml.Scalar
import RuleEngine.Toml.Tree

set_option autoImplicit false

/-! # Reading TOML text

A document is a list of lines: headers, and keys with values. A reader takes something off the front
of a character list and returns the rest. Texts have four forms: on one line or on several, with
escapes (in double quotes) or without (in single quotes). -/

namespace RuleEngine.Toml

open RuleEngine.Configuration (Value Layer)

/-! ## Blanks and lines -/

/-- The text without the blanks at its front. -/
def skipBlank (cs : List Char) : List Char := cs.dropWhile fun c => c == ' ' || c == '\t'

/-- The text without a comment at its front. -/
def skipComment : List Char → List Char
  | '#' :: cs => (cs.dropWhile (· != '\n'))
  | cs => cs

/-- The text behind the end of a line, on which nothing but a comment may stand. -/
def endOfLine? (cs : List Char) : Option (List Char) :=
  match skipComment (skipBlank cs) with
  | [] => some []
  | '\n' :: cs | '\x0d' :: '\n' :: cs => some cs
  | _ => none

/-- The text without the blanks, line ends and comments at its front. -/
def skipLines : Nat → List Char → List Char
  | 0, cs => cs
  | fuel + 1, cs =>
    match skipBlank cs with
    | '\n' :: cs | '\x0d' :: '\n' :: cs => skipLines fuel cs
    | '#' :: cs => skipLines fuel (skipComment ('#' :: cs))
    | cs => cs

/-! ## Texts -/

/-- The character of hexadecimal digits. -/
def code? (ds : List Char) : Option Char :=
  if !ds.all fun c => digitValue c < 16 then none
  else
    let n := ds.foldl (fun n c => n * 16 + digitValue c) 0
    if n < 0xD800 || (0xE000 ≤ n && n < 0x110000) then some (Char.ofNat n) else none

/-- The character after a backslash, and the rest of the text. -/
def escaped? : List Char → Option (Char × List Char)
  | 'b' :: cs => some ('\x08', cs)
  | 't' :: cs => some ('\t', cs)
  | 'n' :: cs => some ('\n', cs)
  | 'f' :: cs => some ('\x0c', cs)
  | 'r' :: cs => some ('\x0d', cs)
  | '"' :: cs => some ('"', cs)
  | '\\' :: cs => some ('\\', cs)
  | 'u' :: cs => if cs.length < 4 then none else (code? (cs.take 4)).map (·, cs.drop 4)
  | 'U' :: cs => if cs.length < 8 then none else (code? (cs.take 8)).map (·, cs.drop 8)
  | _ => none

/-- A character that may stand in a text. -/
def isPlain (lines : Bool) (c : Char) : Bool :=
  c == '\t' || (lines && (c == '\n' || c == '\x0d')) || (32 ≤ c.toNat && c.toNat != 127)

/-- Three quotes that nothing but the end of the text can be meant by. -/
def closes (quote : Char) (cs : List Char) : Bool :=
  (cs.take 3 == List.replicate 3 quote) && cs[3]? != some quote

/-- The text up to the closing quote, or to three of them on several lines, in reverse, and the
rest. -/
def quoted? (quote : Char) (lines : Bool) :
    Nat → List Char → List Char → Option (List Char × List Char)
  | 0, _, _ => none
  | _, _, [] => none
  | fuel + 1, read, c :: cs =>
    if c = quote && !lines then some (read, cs)
    else if c = quote && closes quote (c :: cs) then some (read, cs.drop 2)
    else if c = '\\' && quote = '"' then
      match escaped? cs with
      | some (e, cs) => quoted? quote lines fuel (e :: read) cs
      | none =>
        if lines && (endOfLine? cs).isSome && (skipBlank cs).head? != some '#' then
          quoted? quote lines fuel read
            (cs.dropWhile fun c => c == ' ' || c == '\t' || c == '\n' || c == '\x0d')
        else none
    else if isPlain lines c then quoted? quote lines fuel (c :: read) cs
    else none

/-- A text on several lines begins behind the line end that follows its opening quotes. -/
def skipFirstEnd : List Char → List Char
  | '\n' :: cs | '\x0d' :: '\n' :: cs => cs
  | cs => cs

def text? (severalLines : Bool) (cs : List Char) : Option (String × List Char) :=
  let read (quote : Char) (lines : Bool) (cs : List Char) : Option (String × List Char) :=
    (quoted? quote lines (cs.length + 1) [] cs).map fun (s, rest) => (String.ofList s.reverse, rest)
  match cs with
  | '"' :: '"' :: '"' :: cs => if severalLines then read '"' true (skipFirstEnd cs) else none
  | '\x27' :: '\x27' :: '\x27' :: cs =>
    if severalLines then read '\x27' true (skipFirstEnd cs) else none
  | '"' :: cs => read '"' false cs
  | '\x27' :: cs => read '\x27' false cs
  | _ => none

/-! ## Keys -/

/-- A character of a key without quotes. -/
def isKeyChar (c : Char) : Bool := c.isAlphanum || c == '_' || c == '-'

def name? (cs : List Char) : Option (String × List Char) :=
  match cs with
  | '"' :: _ | '\x27' :: _ => text? false cs
  | cs =>
    let name := cs.takeWhile isKeyChar
    if name.isEmpty then none else some (String.ofList name, cs.dropWhile isKeyChar)

/-- A key of names with points between them, and the text behind the blanks that follow it. -/
def key? : Nat → List Char → Option (List String × List Char)
  | 0, _ => none
  | fuel + 1, cs =>
    match name? (skipBlank cs) with
    | none => none
    | some (name, rest) =>
      match skipBlank rest with
      | '.' :: rest => (key? fuel rest).map fun (names, rest) => (name :: names, rest)
      | rest => some ([name], rest)

/-! ## Values -/

def isWordChar (c : Char) : Bool :=
  c.isAlphanum || c == '_' || c == '-' || c == '+' || c == '.' || c == ':'

/-- A word at the front of the text, and the rest; a blank may stand between a date and its time. -/
def takeWord (cs : List Char) : List Char × List Char :=
  let front := cs.takeWhile isWordChar
  match cs.dropWhile isWordChar with
  | ' ' :: rest =>
    let time := rest.takeWhile isWordChar
    if isMoment (front ++ 'T' :: time) then
      (front ++ 'T' :: time, rest.dropWhile isWordChar)
    else (front, ' ' :: rest)
  | rest => (front, rest)

mutual

def value? : Nat → List Char → Option (Value × List Char)
  | 0, _ => none
  | fuel + 1, cs =>
    match cs with
    | '"' :: _ | '\x27' :: _ => (text? true cs).map fun (s, rest) => (.text s, rest)
    | '[' :: cs => (items? fuel [] cs).map fun (items, rest) => (.list items, rest)
    | '\x7b' :: cs =>
      match skipBlank cs with
      | '\x7d' :: rest => some (.table [], rest)
      | cs => (fields? fuel [] cs).map fun (t, rest) => (.table (entryValues t), rest)
    | cs => (word? (takeWord cs).1).map fun v => (v, (takeWord cs).2)

/-- The items of an array whose bracket has been read. -/
def items? : Nat → List Value → List Char → Option (List Value × List Char)
  | 0, _, _ => none
  | fuel + 1, read, cs =>
    match skipLines cs.length cs with
    | ']' :: rest => some (read.reverse, rest)
    | cs =>
      match value? fuel cs with
      | none => none
      | some (v, rest) =>
        match skipLines rest.length rest with
        | ',' :: rest => items? fuel (v :: read) rest
        | ']' :: rest => some ((v :: read).reverse, rest)
        | _ => none

/-- The fields of an inline table whose brace has been read. -/
def fields? : Nat → Tree → List Char → Option (Tree × List Char)
  | 0, _, _ => none
  | fuel + 1, read, cs =>
    match key? (cs.length + 1) cs with
    | some (key, '=' :: rest) =>
      match value? fuel (skipBlank rest) with
      | none => none
      | some (v, rest) =>
        match read.define v key, skipBlank rest with
        | some read, ',' :: rest => fields? fuel read rest
        | some read, '\x7d' :: rest => some (read, rest)
        | _, _ => none
    | _ => none

end

/-! ## Documents -/

/-- The path of a header up to its closing brackets, and the text behind its line. -/
def header? (brackets : List Char) (cs : List Char) : Option (List String × List Char) :=
  match key? (cs.length + 1) cs with
  | none => none
  | some (path, rest) =>
    if rest.take brackets.length = brackets then
      (endOfLine? (rest.drop brackets.length)).map (path, ·)
    else none

/-- Read line after line; keys go to the table of the last header. -/
def lines? : Nat → List String → Tree → List Char → Option Tree
  | 0, _, t, cs => if cs.isEmpty then some t else none
  | fuel + 1, path, t, cs =>
    match skipLines cs.length cs with
    | [] => some t
    | '[' :: '[' :: cs =>
      match header? [']', ']'] cs with
      | none => none
      | some (path, rest) => (t.addTable path).bind fun t => lines? fuel path t rest
    | '[' :: cs =>
      match header? [']'] cs with
      | none => none
      | some (path, rest) => (t.openTable path).bind fun t => lines? fuel path t rest
    | cs =>
      match key? (cs.length + 1) cs with
      | some (key, '=' :: rest) =>
        match value? (2 * rest.length + 2) (skipBlank rest) with
        | none => none
        | some (v, rest) =>
          match endOfLine? rest, t.change (·.define v key) path with
          | some rest, some t => lines? fuel path t rest
          | _, _ => none
      | _ => none

def parse? (s : String) : Option Layer :=
  let cs := s.toList
  (lines? (cs.length + 1) [] [] cs).map entryValues

end RuleEngine.Toml
