import RuleEngine.Json.Basic
import RuleEngine.Decimal.Layout

set_option autoImplicit false

/-! # JSON text

The compact text of a value has no blanks; the indented text has one item or field per line, two
blanks deeper than its container. Fields are written in the order in which the value lists them. -/

namespace RuleEngine.Json

/-- Characters that have a short escape, and the letter of the escape. -/
def shortEscape? : Char → Option Char
  | '"' => some '"'
  | '\\' => some '\\'
  | '\n' => some 'n'
  | '\t' => some 't'
  | '\x0d' => some 'r'
  | '\x08' => some 'b'
  | '\x0c' => some 'f'
  | _ => none

/-- A hexadecimal digit in lower case. -/
def hexDigit (n : Nat) : Char := Nat.digitChar (n % 16)

/-- A character inside a quoted text. Controls are escaped, all others stand for themselves. -/
def escape (c : Char) : List Char :=
  match shortEscape? c with
  | some e => ['\\', e]
  | none =>
    if c.toNat < 32 then ['\\', 'u', '0', '0', hexDigit (c.toNat / 16), hexDigit c.toNat]
    else [c]

def quote (s : String) : String :=
  "\"" ++ String.ofList (s.toList.flatMap escape) ++ "\""

def numberText : Number → String
  | .int n => toString n
  | .double d => Layout.json.render d

mutual

/-- The text without blanks. -/
def compact : Json → String
  | .null => "null"
  | .bool b => if b then "true" else "false"
  | .num n => numberText n
  | .str s => quote s
  | .arr items => "[" ++ compactItems items ++ "]"
  | .obj fields => "\x7b" ++ compactFields fields ++ "\x7d"

/-- Items with commas between them. -/
def compactItems : List Json → String
  | [] => ""
  | [x] => compact x
  | x :: y :: rest => compact x ++ "," ++ compactItems (y :: rest)

/-- Fields with commas between them. -/
def compactFields : List (String × Json) → String
  | [] => ""
  | [(k, x)] => quote k ++ ":" ++ compact x
  | (k, x) :: y :: rest => quote k ++ ":" ++ compact x ++ "," ++ compactFields (y :: rest)

end

def lineBreak (depth : Nat) : String := "\n" ++ String.ofList (List.replicate (2 * depth) ' ')

mutual

/-- The indented text of a value that stands at a depth. -/
def indented (depth : Nat) : Json → String
  | .arr [] => "[]"
  | .arr (x :: xs) =>
    "[" ++ indentedItems (depth + 1) (x :: xs) ++ lineBreak depth ++ "]"
  | .obj [] => "\x7b\x7d"
  | .obj (x :: xs) =>
    "\x7b" ++ indentedFields (depth + 1) (x :: xs) ++ lineBreak depth ++ "\x7d"
  | .null => "null"
  | .bool b => if b then "true" else "false"
  | .num n => numberText n
  | .str s => quote s

def indentedItems (depth : Nat) : List Json → String
  | [] => ""
  | [x] => lineBreak depth ++ indented depth x
  | x :: y :: rest =>
    lineBreak depth ++ indented depth x ++ "," ++ indentedItems depth (y :: rest)

def indentedFields (depth : Nat) : List (String × Json) → String
  | [] => ""
  | [(k, x)] => lineBreak depth ++ quote k ++ ": " ++ indented depth x
  | (k, x) :: y :: rest =>
    lineBreak depth ++ quote k ++ ": " ++ indented depth x ++ "," ++
      indentedFields depth (y :: rest)

end

/-- A string as it is, and any other value as its compact text. -/
def plainText : Json → String
  | .str s => s
  | v => compact v

end RuleEngine.Json
