import RuleEngine.Configuration.Value

set_option autoImplicit false

/-! # Layers of a configuration

A configuration is put together from layers; where two of them have something to say, the upper one
counts. A key of a layer may be a path of names with dots between them. Tables are laid over tables
entry by entry, and everything else replaces what lies below it. Keys are in lower case. -/

namespace RuleEngine.Configuration

abbrev Layer := Table Value

/-- The entries of a table; any other value has none. -/
def Value.entries : Value → Layer
  | .table entries => entries
  | _ => []

namespace Layer

mutual

/-- What stands in a place once a value is laid over it. -/
def cover (below : Option Value) : Value → Value
  | .table [] => below.getD (.table [])
  | .table (e :: es) => .table (coverEntries ((below.map Value.entries).getD []) (e :: es))
  | x => x

/-- Lay the entries of a table over those of another. -/
def coverEntries (below : Layer) : List (String × Value) → Layer
  | [] => below
  | (k, x) :: rest =>
    let key := Text.lowerAscii k
    coverEntries (below.insert key (cover (below.get? key) x)) rest

end

/-- Lay a value over what a path of names leads to. -/
def putAt (below : Layer) : List String → Value → Layer
  | [], _ => below
  | [name], x => below.insert name (cover (below.get? name) x)
  | name :: next :: path, x =>
    let inner := ((below.get? name).map Value.entries).getD []
    below.insert name (.table (putAt inner (next :: path) x))

/-- A character of a name in a path. -/
def isNameChar (c : Char) : Bool := c.isAlphanum || c == '_' || c == '-' || c == ' '

/-- The names of a key; what is no path is one name. -/
def path (key : String) : List String :=
  let names := key.splitOn "."
  (if names.all fun n => !n.isEmpty && n.toList.all isNameChar then names else [key]).map
    Text.lowerAscii

/-- Lay a layer over those below it. -/
def onto (upper below : Layer) : Layer :=
  upper.foldl (fun layer (key, x) => putAt layer (path key) x) below

end Layer

end RuleEngine.Configuration
