import RuleEngine.Configuration.Layer

set_option autoImplicit false

/-! # The environment as a layer

A variable whose name begins with `AUTOPILOT__`, in any case, is a value of the configuration. Two
underscores in the rest of its name separate the names of a path. The text of the variable stands
for a truth value or a number if it can be read as one. -/

namespace RuleEngine.Configuration

/-- Variables by name. -/
abbrev Environment := Table String

namespace Environment

/-- The variable that may name the file of the configuration. -/
def pathVariable : String := "AUTOPILOT_CONFIG"

/-- How the names of the variables begin, in lower case. -/
def mark : List Char := "autopilot__".toList

/-- A point in place of every two underscores. -/
def dotted : List Char → List Char
  | '_' :: '_' :: cs => '.' :: dotted cs
  | c :: cs => c :: dotted cs
  | [] => []

/-- The key that a variable gives a value to. -/
def key? (name : String) : Option String :=
  let cs := (Text.lowerAscii name).toList
  if mark.isPrefixOf cs then some (String.ofList (dotted (cs.drop mark.length))) else none

def meaning (s : String) : Value :=
  let word := Text.lowerAscii s
  if word = "true" then .bool true
  else if word = "false" then .bool false
  else
    match Value.signed? s, Double.parse? s with
    | some n, _ => .int n
    | none, some d => .double d
    | none, none => .text s

def layer (vars : Environment) : Layer :=
  Table.ofList (vars.filterMap fun (name, s) => (key? name).map fun key => (key, meaning s))

end Environment

end RuleEngine.Configuration
