import RuleEngine.Settings.Store
import RuleEngine.Simulation.Disk

set_option autoImplicit false

/-! # Settings on a disk

A change of settings is made in the table first, and then the whole table is written to the file. On
a disk that may fail the second half may not come off. -/

namespace RuleEngine

namespace FilePath

/-- The characters of a path, the last one first, without those that lead nowhere at its end:
separators, and dots that are names of their own. -/
def dropIdle : List Char → List Char
  | '/' :: cs => dropIdle cs
  | '.' :: '/' :: cs => dropIdle ('/' :: cs)
  | cs => cs

/-- The text of the directory that a path lies in; a path of one name lies in the current one. -/
def directoryText (text : String) : String :=
  match (dropIdle text.toList.reverse).dropWhile (· != '/') with
  | [] => "."
  | rest =>
    match dropIdle rest with
    | [] => "/"
    | cs => String.ofList cs.reverse

def directory (p : FilePath) : FilePath := ⟨directoryText p.text, p.parent⟩

end FilePath

namespace Settings

/-- Write the table to its file. -/
def persistOn (disk : Disk) (s : Settings) (files : FileTree) :
    Except EngineError Unit × FileTree :=
  match s.path with
  | none => (.ok (), files)
  | some path =>
    match files.replaceOn disk path.parts (render s.values) with
    | (.ok _, files) => (.ok (), files)
    | (.error e, files) => (.error (TemplateStore.stagingError path.directory path e), files)

/-- Give a key a value. The table changes even if it cannot be written. -/
def setOn (disk : Disk) (s : Settings) (files : FileTree) (key : String) (value : Json) :
    Except EngineError Unit × Settings × FileTree :=
  let s := { s with values := s.values.insert key value }
  let (answer, files) := s.persistOn disk files
  (answer, s, files)

/-- Take a key out; the value that it had. Nothing is written if it had none, and the table changes
even if it cannot be written. -/
def removeOn (disk : Disk) (s : Settings) (files : FileTree) (key : String) :
    Except EngineError (Option Json) × Settings × FileTree :=
  match s.get? key with
  | none => (.ok none, s, files)
  | some old =>
    let s := { s with values := s.values.erase key }
    let (answer, files) := s.persistOn disk files
    (answer.map fun _ => some old, s, files)

end Settings

/-- A call that changes settings. -/
inductive SettingsCall
  | set (key : String) (value : Json)
  | remove (key : String)
deriving DecidableEq

namespace SettingsCall

def key : SettingsCall → String
  | set key _ => key
  | remove key => key

def apply : SettingsCall → Table Json → Table Json
  | set key value, values => values.insert key value
  | remove key, values => values.erase key

/-- The call writes the table to its file. A removal does only if there is something to remove. -/
def writes : SettingsCall → Table Json → Bool
  | set _ _, _ => true
  | remove key, values => values.contains key

/-- What the call answers if it comes off: a removal the value that the key had. -/
def taken : SettingsCall → Table Json → Option Json
  | set _ _, _ => none
  | remove key, values => values.get? key

def run (disk : Disk) (c : SettingsCall) (s : Settings) (files : FileTree) :
    Except EngineError (Option Json) × Settings × FileTree :=
  match c with
  | set key value =>
    match s.setOn disk files key value with
    | (answer, s, files) => (answer.map fun _ => none, s, files)
  | remove key => s.removeOn disk files key

end SettingsCall

end RuleEngine
