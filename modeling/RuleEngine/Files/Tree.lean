import RuleEngine.Files.Path

set_option autoImplicit false

/-! # File trees

A file tree holds the texts of regular files and the directories, by the names that lead to them
from the root, which is always there. A file is replaced in one step: whoever reads it sees the old
text or the new one. -/

namespace RuleEngine

/-- Regular files with their texts, and directories. -/
structure FileTree where
  files : List (List String × String) := []
  dirs : List (List String) := []
deriving DecidableEq, Inhabited

/-- What a path leads to. -/
inductive FileEntry
  | file (text : String)
  | directory
deriving DecidableEq, Inhabited

/-- Why a file cannot be read or written. -/
inductive FileError
  | notFound
  | notDirectory
  | isDirectory
  | badName
deriving DecidableEq, Inhabited

def FileError.message : FileError → String
  | .notFound => "no such file or directory"
  | .notDirectory => "not a directory"
  | .isDirectory => "is a directory"
  | .badName => "not a valid file name"

namespace FileTree

def file? (t : FileTree) (p : List String) : Option String := t.files.lookup p

/-- The path leads to a directory. -/
def isDir (t : FileTree) (p : List String) : Bool := p.isEmpty || t.dirs.contains p

/-- The longest name of a file, in bytes. -/
def maxNameSize : Nat := 255

def isLong (name : String) : Bool := maxNameSize < name.utf8ByteSize

/-- No path may hold the character zero. -/
def hasZero (p : List String) : Bool := p.any fun name => name.toList.any fun c => c.toNat == 0

/-- Follow names from a place. -/
def resolveFrom (t : FileTree) (place : List String) : List String → Except FileError FileEntry
  | [] =>
    if t.isDir place then .ok .directory
    else match t.file? place with
      | some text => .ok (.file text)
      | none => .error .notFound
  | name :: names =>
    if t.isDir place then
      if isLong name then .error .badName else t.resolveFrom (place ++ [name]) names
    else if (t.file? place).isSome then .error .notDirectory
    else .error .notFound

/-- What a path leads to. -/
def resolve (t : FileTree) (p : List String) : Except FileError FileEntry :=
  if hasZero p then .error .badName else t.resolveFrom [] p

def read (t : FileTree) (p : List String) : Except FileError String :=
  match t.resolve p with
  | .ok (.file text) => .ok text
  | .ok .directory => .error .isDirectory
  | .error e => .error e

/-- The path leads to a directory that can be entered. -/
def entersDir (t : FileTree) (p : List String) : Bool :=
  match t.resolve p with
  | .ok .directory => true
  | _ => false

/-- The name of a path in a directory. -/
def nameIn? (dir p : List String) : Option String :=
  if p.dropLast = dir then p.getLast? else none

def filesIn (t : FileTree) (dir : List String) : List (String × String) :=
  t.files.filterMap fun (p, text) => (nameIn? dir p).map fun name => (name, text)

def dirsIn (t : FileTree) (dir : List String) : List String := t.dirs.filterMap (nameIn? dir)

/-- Names of the entries of a directory, with what they are. -/
def entries (t : FileTree) (p : List String) : Except FileError (List (String × FileEntry)) :=
  match t.resolve p with
  | .ok .directory =>
    .ok ((t.filesIn p).map (fun (name, text) => (name, .file text)) ++
      (t.dirsIn p).map fun name => (name, .directory))
  | .ok (.file _) => .error .notDirectory
  | .error e => .error e

/-! ## Changes -/

/-- Make the directories that names lead through from a place; those made before an error stay. -/
def createFrom (t : FileTree) (place : List String) :
    List String → Except FileError Unit × FileTree
  | [] => (.ok (), t)
  | name :: names =>
    let next := place ++ [name]
    if (t.file? next).isSome then (.error .notDirectory, t)
    else if t.isDir next then t.createFrom next names
    else if isLong name then (.error .badName, t)
    else ({ t with dirs := t.dirs ++ [next] } : FileTree).createFrom next names

/-- Make a directory and those that it lies in, as far as they are missing. -/
def createDirs (t : FileTree) (p : List String) : Except FileError Unit × FileTree :=
  if hasZero p then (.error .badName, t) else t.createFrom [] p

def put (t : FileTree) (p : List String) (text : String) : FileTree :=
  { t with files := t.files.filter (fun e => e.1 != p) ++ [(p, text)] }

/-- Replace a file in one step; its directory is made if it is missing. -/
def replace (t : FileTree) (p : List String) (text : String) : Except FileError Unit × FileTree :=
  match t.createDirs p.dropLast with
  | (.error e, t) => (.error e, t)
  | (.ok _, t) =>
    if t.isDir p then (.error .isDirectory, t)
    else if hasZero p || p.any isLong then (.error .badName, t)
    else (.ok (), t.put p text)

/-- Take out a file, or a directory with all that lies in it; says whether there was one. -/
def remove (t : FileTree) (p : List String) : Bool × FileTree :=
  if (t.file? p).isSome || t.dirs.contains p then
    (true, { files := t.files.filter (fun e => !p.isPrefixOf e.1)
             dirs := t.dirs.filter (fun d => !p.isPrefixOf d) })
  else (false, t)

end FileTree

end RuleEngine
