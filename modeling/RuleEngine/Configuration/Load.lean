import RuleEngine.Configuration.Basic
import RuleEngine.Configuration.Environment
import RuleEngine.Configuration.Format
import RuleEngine.Files.Tree

set_option autoImplicit false

/-! # Loading a configuration

A configuration has two layers above its defaults: a file, and the environment over it. A file that
is asked for must be there. Otherwise the file `autopilot`, with any of the known extensions, is
read if there is one. -/

namespace RuleEngine

/-- Why there is no configuration. -/
inductive Configuration.LoadError
  /-- There is no file of a known format. -/
  | noFile (path : FilePath)
  /-- The file is not written in its format. -/
  | malformed (path : FilePath)
  /-- A value cannot be read as what it stands for. -/
  | mistyped (e : DecodeError)
  /-- The engine cannot run with the configuration. -/
  | invalid (problem : String)

namespace Configuration

def LoadError.toEngineError : LoadError → EngineError
  | .noFile p => .configuration ("configuration file " ++ Text.quoted p.text ++ " not found")
  | .malformed p => .configuration ("configuration file " ++ Text.quoted p.text ++ " is malformed")
  | .mistyped e => .configuration e.message
  | .invalid problem => .configuration problem

/-! ## Files -/

/-- A file of a configuration. -/
structure Source where
  path : FilePath
  format : Format
  text : String

namespace Source

/-- The character that may mark the beginning of a text. -/
def byteOrderMark : Char := '\uFEFF'

/-- The text behind its mark, if it has one. -/
def unmarked (s : String) : String :=
  match s.toList with
  | c :: cs => if c = byteOrderMark then String.ofList cs else s
  | [] => s

def inFormat? (files : FileTree) (path : FilePath) (format : Format) : Option Source :=
  match files.read path.parts with
  | .ok text => some ⟨path, format, unmarked text⟩
  | .error _ => none

def formatOf? (path : FilePath) : Option Format :=
  (path.parts.getLast?.bind FilePath.extension?).bind (Format.byExtension.lookup ·)

/-- The path with an extension behind its name. -/
def withExtension (path : FilePath) (extension : String) : FilePath :=
  match path.parts.getLast? with
  | some name => ⟨path.text ++ "." ++ extension, path.parent ++ [name ++ "." ++ extension]⟩
  | none => ⟨path.text ++ "." ++ extension, []⟩

/-- The file that a path means: the file of that name, whose name must tell its format, or else one
of the name with a known extension. -/
def find? (files : FileTree) (path : FilePath) : Option Source :=
  match files.read path.parts with
  | .ok _ => (formatOf? path).bind (inFormat? files path)
  | .error _ =>
    Format.byExtension.findSome? fun (extension, format) =>
      inFormat? files (withExtension path extension) format

def layer (s : Source) : Except LoadError Layer :=
  match s.format.read? s.text with
  | some layer => .ok layer
  | none => .error (.malformed s.path)

end Source

/-! ## Loading -/

/-- The file that is read if no other is asked for. -/
def defaultPath : FilePath := .ofText "autopilot"

def fileLayer (files : FileTree) (path : Option FilePath) : Except LoadError Layer :=
  match Source.find? files (path.getD defaultPath), path with
  | some s, _ => s.layer
  | none, some p => .error (.noFile p)
  | none, none => .ok []

def ofLayer (layer : Layer) : Except LoadError Configuration :=
  match decode (Value.table layer) with
  | .error e => .error (.mistyped e)
  | .ok c =>
    match c.problem? with
    | some problem => .error (.invalid problem)
    | none => .ok c

def load (files : FileTree) (vars : Environment) (path : Option FilePath) :
    Except LoadError Configuration :=
  match fileLayer files path with
  | .error e => .error e
  | .ok file => ofLayer (vars.layer.onto (file.onto []))

/-- Load a configuration, from the file that the environment names if it names one. -/
def loadNamed (files : FileTree) (vars : Environment) : Except LoadError Configuration :=
  load files vars ((vars.get? Environment.pathVariable).map FilePath.ofText)

end Configuration

end RuleEngine
