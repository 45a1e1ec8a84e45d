import RuleEngine.Configuration.Yaml
import RuleEngine.Json.Reader
import RuleEngine.Toml.Reader

set_option autoImplicit false

/-! # File formats of a configuration

The extension of a file says in which format it is written. -/

namespace RuleEngine.Configuration

/-! ## JSON -/

namespace Value

mutual

/-- The value of a JSON value. An integer beyond 64 bits with a sign is a double. -/
def ofJson : Json → Value
  | .null => .nothing
  | .bool b => .bool b
  | .num (.int n) => if n ≤ IntType.i64.most then .int n else .double (.ofInt n)
  | .num (.double d) => .double d
  | .str s => .text s
  | .arr items => .list (itemsOfJson items)
  | .obj fields => .table (fieldsOfJson fields)

def itemsOfJson : List Json → List Value
  | [] => []
  | x :: xs => ofJson x :: itemsOfJson xs

def fieldsOfJson : List (String × Json) → List (String × Value)
  | [] => []
  | (k, x) :: xs => (k, ofJson x) :: fieldsOfJson xs

end

end Value

def Layer.ofJson? (text : String) : Option Layer :=
  match Json.parse? text with
  | some (.obj fields) => some (Value.fieldsOfJson fields)
  | _ => none

/-! ## Sections of lines -/

/-- The part of a line in front of the first sign that gives a value, and the part behind it. -/
def splitAssignment : List Char → Option (List Char × List Char)
  | [] => none
  | c :: cs =>
    if c = '=' || c = ':' then some ([], cs)
    else (splitAssignment cs).map fun (key, x) => (c :: key, x)

/-- The text between quotes, or the text as it is. -/
def unquoted (cs : List Char) : List Char :=
  match cs with
  | '"' :: rest => rest.takeWhile (· != '"')
  | '\x27' :: rest => rest.takeWhile (· != '\x27')
  | cs => cs

/-- Read lines: sections in brackets, comments, and keys with values. The keys in front of all
sections are keys of the whole. A section that comes again replaces the one before. -/
def sections? (layer : Layer) (name : Option String) : List String → Option Layer
  | [] => some layer
  | line :: lines =>
    match Text.trimChars line.toList with
    | [] => sections? layer name lines
    | ';' :: _ | '#' :: _ => sections? layer name lines
    | '[' :: cs =>
      if cs.contains ']' then
        let name := String.ofList (Text.trimChars (cs.takeWhile (· != ']')))
        sections? (layer.insert name (.table [])) (some name) lines
      else none
    | cs =>
      match splitAssignment cs with
      | none | some ([], _) => none
      | some (key, x) =>
        let key := String.ofList (Text.trimChars key)
        let x : Value := .text (String.ofList (unquoted (Text.trimChars x)))
        match name with
        | none => sections? (layer.insert key x) name lines
        | some s =>
          let entries := ((layer.get? s).map Value.entries).getD []
          sections? (layer.insert s (.table (entries.insert key x))) name lines

/-- The layer that a text of sections denotes; all of its values are texts. -/
def Layer.ofSections? (text : String) : Option Layer := sections? [] none (text.splitOn "\n")

/-! ## Formats -/

/-- A format that a configuration can be written in. -/
inductive Format
  | yaml
  | json
  | toml
  | sections
deriving DecidableEq, Inhabited

namespace Format

/-- The extensions of file names with the formats that they stand for. -/
def byExtension : List (String × Format) :=
  [("yaml", .yaml), ("yml", .yaml), ("json", .json), ("json5", .json), ("toml", .toml),
   ("ini", .sections)]

def read? : Format → String → Option Layer
  | .yaml => Layer.ofYaml?
  | .json => Layer.ofJson?
  | .toml => Toml.parse?
  | .sections => Layer.ofSections?

end Format

end RuleEngine.Configuration
