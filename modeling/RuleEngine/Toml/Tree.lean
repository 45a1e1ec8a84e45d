import RuleEngine.Configuration.Layer

set_option autoImplicit false

/-! # TOML documents

A TOML document is a tree of tables. A header opens a table once and for all; a table that only lies
on the way to another may still be opened, and one that a dotted key has made may take more dotted
keys. A value, which may be an array or an inline table, is never added to. -/

namespace RuleEngine.Toml

open RuleEngine.Configuration (Value)

/-- How a table has come into a document. -/
inductive Origin
  /-- It lies on the way to a table with a header. -/
  | implied
  | header
  /-- It lies on the way of a dotted key. -/
  | dotted
deriving DecidableEq, Inhabited

/-- What stands under a key of a document. -/
inductive Node
  | value (v : Value)
  | table (origin : Origin) (entries : List (String × Node))
  /-- An array of tables, the last first. -/
  | tables (items : List (List (String × Node)))
deriving Inhabited

abbrev Tree := Table Node

namespace Tree

/-- Give a dotted key a value that has none yet. -/
def define (t : Tree) (v : Value) : List String → Option Tree
  | [] => none
  | [key] => if t.contains key then none else some (t.insert key (.value v))
  | key :: next :: keys =>
    match t.get? key with
    | none => (define [] v (next :: keys)).map fun sub => t.insert key (.table .dotted sub)
    | some (.table .header _) => none
    | some (.table origin sub) =>
      (define sub v (next :: keys)).map fun sub => t.insert key (.table origin sub)
    | some _ => none

/-- Change the table that a path leads to; of an array of tables it leads into the last one. -/
def change (f : Tree → Option Tree) (t : Tree) : List String → Option Tree
  | [] => f t
  | key :: keys =>
    match t.get? key with
    | none => (change f [] keys).map fun sub => t.insert key (.table .implied sub)
    | some (.table origin sub) =>
      (change f sub keys).map fun sub => t.insert key (.table origin sub)
    | some (.tables (last :: front)) =>
      (change f last keys).map fun last => t.insert key (.tables (last :: front))
    | some _ => none

/-- Open the table of a header. -/
def openTable (t : Tree) (path : List String) : Option Tree :=
  match path.getLast? with
  | none => none
  | some key =>
    t.change (fun t =>
      match t.get? key with
      | none => some (t.insert key (.table .header []))
      | some (.table .implied sub) => some (t.insert key (.table .header sub))
      | some _ => none) path.dropLast

/-- Add a table to the array of tables of a header. -/
def addTable (t : Tree) (path : List String) : Option Tree :=
  match path.getLast? with
  | none => none
  | some key =>
    t.change (fun t =>
      match t.get? key with
      | none => some (t.insert key (.tables [[]]))
      | some (.tables items) => some (t.insert key (.tables ([] :: items)))
      | some _ => none) path.dropLast

end Tree

/-! ## The values of a document -/

mutual

def Node.toValue : Node → Value
  | .value v => v
  | .table _ entries => .table (entryValues entries)
  | .tables items => .list (tableValues items).reverse

def entryValues : List (String × Node) → List (String × Value)
  | [] => []
  | (k, x) :: xs => (k, x.toValue) :: entryValues xs

def tableValues : List (List (String × Node)) → List Value
  | [] => []
  | x :: xs => .table (entryValues x) :: tableValues xs

end

end RuleEngine.Toml
