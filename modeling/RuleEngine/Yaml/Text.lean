import RuleEngine.Decimal.Layout
import RuleEngine.Json.Basic
import RuleEngine.Yaml.Quoting

set_option autoImplicit false

/-! # YAML text

Objects and arrays are written as block collections, two blanks deeper than what they stand in; an
array stands on the level of its key. Fields keep the order in which the value lists them. A key
that is long, or has line breaks, has a question mark in front, and its value a line of its own. -/

namespace RuleEngine.Yaml

/-- A key that fits in front of its colon. -/
def isShortKey (key : String) : Bool :=
  key.utf8ByteSize ≤ 128 && !key.toList.any isAnyBreak

/-- A short key with its colon. -/
def keyText (key : String) : String :=
  let cs := key.toList
  (match styleOf key with
    | .plain => key
    | .singleQuoted => singleQuoted 0 cs
    | _ => doubleQuoted cs) ++ ":"

/-- Where a value starts. -/
inductive Place
  /-- In the middle of a line, behind the mark of an item, of a key or of a value. -/
  | afterMark
  /-- Behind a short key. -/
  | afterKey
deriving DecidableEq

/-- The line of a value that is no collection, or of an empty one. -/
def leafLine (indent : Nat) : Json → String
  | .null => "null\n"
  | .bool b => if b then "true\n" else "false\n"
  | .num (.int n) => toString n ++ "\n"
  | .num (.double d) => Layout.yaml.render d ++ "\n"
  | .str s => scalarLine indent s
  | .arr _ => "[]\n"
  | .obj _ => "\x7b\x7d\n"

/-- A leaf behind a mark or a short key. -/
def leafAt (place : Place) (indent : Nat) (x : Json) : String :=
  match place with
  | .afterMark => leafLine indent x
  | .afterKey => " " ++ leafLine indent x

/-- What stands in front of a collection in a column. -/
def lead (place : Place) (indent : Nat) : String :=
  match place with
  | .afterMark => ""
  | .afterKey => "\n" ++ blanks indent

mutual

/-- A value; `indent` is two more than the column of the collection that it stands in. -/
def valueText (place : Place) (indent : Nat) : Json → String
  | .arr items =>
    if items.isEmpty then leafAt place indent (.arr [])
    else
      let column := if place = .afterKey then indent - 2 else indent
      lead place column ++ itemLines column items
  | .obj fields =>
    if fields.isEmpty then leafAt place indent (.obj [])
    else lead place indent ++ entryLines indent fields
  | .null => leafAt place indent .null
  | .bool b => leafAt place indent (.bool b)
  | .num n => leafAt place indent (.num n)
  | .str s => leafAt place indent (.str s)

def itemLines (column : Nat) : List Json → String
  | [] => ""
  | x :: rest =>
    "- " ++ valueText .afterMark (column + 2) x ++
      (if rest.isEmpty then "" else blanks column) ++ itemLines column rest

/-- Fields in a column, where the first one starts. -/
def entryLines (column : Nat) : List (String × Json) → String
  | [] => ""
  | (key, x) :: rest =>
    (if isShortKey key then keyText key ++ valueText .afterKey (column + 2) x
      else
        "? " ++ scalarLine (column + 2) key ++ blanks column ++ ": " ++
          valueText .afterMark (column + 2) x) ++
      (if rest.isEmpty then "" else blanks column) ++ entryLines column rest

end

/-- The text of a value as a document. -/
def render : Json → String
  | .arr items => if items.isEmpty then leafLine 2 (.arr []) else itemLines 0 items
  | .obj fields => if fields.isEmpty then leafLine 2 (.obj []) else entryLines 0 fields
  | x => leafLine 2 x

end RuleEngine.Yaml
