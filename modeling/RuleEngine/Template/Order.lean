import RuleEngine.Error
import RuleEngine.Template.Basic
import RuleEngine.Text.Class

set_option autoImplicit false

/-! # The order of fragments

Every fragment follows the fragments that it imports; among those that wait for nothing the one
with the least name comes first. A fragment that imports itself does not wait for itself. -/

namespace RuleEngine

/-- Why fragments do not make up a template. -/
inductive MergeError
  | unnamed
  | definedTwice (name : String)
  | unknownImport (fragment missing : String)
  /-- The fragments that wait for each other. -/
  | cycle (names : List String)
  | ruleWithoutId (fragment : String)
  | conflict (id first second : String)
deriving DecidableEq

def MergeError.toEngineError : MergeError → EngineError
  | .unnamed => .configuration "fragment without a name"
  | .definedTwice name => .configuration ("fragment '" ++ name ++ "' is defined twice")
  | .unknownImport fragment missing =>
    .configuration ("fragment '" ++ fragment ++ "' imports unknown fragment '" ++ missing ++ "'")
  | .cycle names => .configuration ("import cycle between fragments: " ++ ", ".intercalate names)
  | .ruleWithoutId fragment =>
    .configuration ("fragment '" ++ fragment ++ "' contains a rule without an id")
  | .conflict id first second => .mergeConflict id first second

namespace Fragment

/-! ## Fragments by name -/

/-- Put fragments into a table by name; names are not blank and not repeated. -/
def byName (table : Table Fragment) : List Fragment → Except MergeError (Table Fragment)
  | [] => .ok table
  | f :: fs =>
    if Text.isBlankText f.name then .error .unnamed
    else if table.contains f.name then .error (.definedTwice f.name)
    else byName (table.insert f.name f) fs

/-- The first import that names no fragment of the table. -/
def missingImport? (table : Table Fragment) (f : Fragment) : Option MergeError :=
  (f.imports.find? fun i => !table.contains i).map (.unknownImport f.name)

/-! ## Placing -/

/-- A fragment that is not placed yet, and the names that it waits for. -/
structure Waiting where
  fragment : Fragment
  names : List String
deriving DecidableEq

/-- A fragment waits for its imports, but not for itself. -/
def Waiting.of (f : Fragment) : Waiting := ⟨f, f.imports.filter fun i => i != f.name⟩

/-- Wait no longer for a fragment that is placed. -/
def Waiting.release (name : String) (w : Waiting) : Waiting :=
  { w with names := w.names.filter fun i => i != name }

/-- Take out the first fragment that waits for nothing. -/
def takeReady? : List Waiting → Option (Fragment × List Waiting)
  | [] => none
  | w :: ws =>
    if w.names.isEmpty then some (w.fragment, ws)
    else (takeReady? ws).map fun (f, rest) => (f, w :: rest)

theorem length_of_takeReady? {ws rest : List Waiting} {f : Fragment}
    (h : takeReady? ws = some (f, rest)) : rest.length + 1 = ws.length := by
  induction ws generalizing f rest with
  | nil => simp [takeReady?] at h
  | cons w ws ih =>
    simp only [takeReady?] at h
    split at h
    · simp only [Option.some.injEq, Prod.mk.injEq] at h
      simp [← h.2]
    · obtain ⟨⟨g, r⟩, hr, he⟩ := Option.map_eq_some_iff.1 h
      simp only [Prod.mk.injEq] at he
      simp [← he.2, ih hr]

def place (ws : List Waiting) : Except MergeError (List Fragment) :=
  match h : takeReady? ws with
  | some (f, rest) =>
    have := length_of_takeReady? h
    (place (rest.map (Waiting.release f.name))).map (f :: ·)
  | none => if ws.isEmpty then .ok [] else .error (.cycle (ws.map (·.fragment.name)))
termination_by ws.length
decreasing_by
  simp only [List.length_map]
  omega

def inOrder (fragments : List Fragment) : Except MergeError (List Fragment) :=
  match byName [] fragments with
  | .error e => .error e
  | .ok table =>
    let sorted := table.map (·.2)
    match sorted.findSome? (missingImport? table) with
    | some e => .error e
    | none => place (sorted.map Waiting.of)

end Fragment

end RuleEngine
