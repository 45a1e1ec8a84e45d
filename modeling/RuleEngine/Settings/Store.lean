import RuleEngine.Files.Tree
import RuleEngine.Yaml.Source
import RuleEngine.Yaml.Text

set_option autoImplicit false

/-! # Settings

A flat table of values by key, kept in a YAML file or in memory only. Every change is written to the
file at once. -/

namespace RuleEngine

/-- A table of settings and the file that keeps it. -/
structure Settings where
  path : Option FilePath := none
  values : Table Json := []
deriving DecidableEq, Inhabited

namespace Settings

def render (values : Table Json) : String := Yaml.render (.obj values)

/-- Read the text of a settings file; a blank text holds no settings. -/
def ofText (source text : String) : Except EngineError (Table Json) :=
  if Text.isBlankText text then .ok []
  else match Yaml.decode (Decode.table DataSource.json) text with
    | .ok values => .ok values
    | .error e => .error (Yaml.parseError source e)

/-- Open the settings of a file; a missing file holds none. -/
def open_ (files : FileTree) (path : FilePath) : Except EngineError Settings :=
  match files.read path.parts with
  | .ok text => (ofText path.text text).map fun values => ⟨some path, values⟩
  | .error .notFound => .ok ⟨some path, []⟩
  | .error e => .error (.io path.text e.message)

def get? (s : Settings) (key : String) : Option Json := s.values.get? key

def keys (s : Settings) : List String := s.values.keys

def persist (s : Settings) (files : FileTree) : Except EngineError Unit × FileTree :=
  match s.path with
  | none => (.ok (), files)
  | some path =>
    match files.replace path.parts (render s.values) with
    | (.ok _, files) => (.ok (), files)
    | (.error e, files) => (.error (.io path.text e.message), files)

/-- Give a key a value. The table changes even if it cannot be written. -/
def set (s : Settings) (files : FileTree) (key : String) (value : Json) :
    Except EngineError Unit × Settings × FileTree :=
  let s := { s with values := s.values.insert key value }
  let (answer, files) := s.persist files
  (answer, s, files)

/-- Take a key out; the value that it had. Nothing is written if it had none, and the table changes
even if it cannot be written. -/
def remove (s : Settings) (files : FileTree) (key : String) :
    Except EngineError (Option Json) × Settings × FileTree :=
  match s.get? key with
  | none => (.ok none, s, files)
  | some old =>
    let s := { s with values := s.values.erase key }
    let (answer, files) := s.persist files
    (answer.map fun _ => some old, s, files)

end Settings

end RuleEngine
