import RuleEngine.Files.Tree

set_option autoImplicit false

/-! # Staged replacement

On a disk, a file is replaced in several steps, and every one of them may fail: the directories are
made, a temporary file is created beside the file, the text is written into it and brought to the
disk, and at last it takes the name of the file. Only that last step replaces anything. A temporary
file that does not come so far is thrown away. -/

namespace RuleEngine

/-- A step of the replacement of a file. -/
inductive StagingStep
  | directories
  | create
  | write
  | sync
  | rename
deriving DecidableEq

/-- How a disk behaves while it is used. One that never fails is `{}`. -/
structure Disk where
  /-- Why a regular file cannot be read as text. -/
  unreadable : List String → Option String := fun _ => none
  /-- A regular file that cannot be read as text can be read, but it is no text. -/
  garbled : List String → Bool := fun _ => false
  /-- Why a step of a replacement fails. -/
  fault : StagingStep → Option String := fun _ => none
  /-- How far a step comes that fails: directories that are made, characters that are written. -/
  progress : Nat := 0
  /-- Names for a temporary file, which are tried one by one. -/
  tempNames : List String := [".tmp"]

/-- Why a file was not replaced. -/
inductive StagingError
  /-- The file cannot have a text. -/
  | file (e : FileError)
  /-- The disk fails at the directory. -/
  | directory (message : String)
  /-- The disk fails at the temporary file. -/
  | temporary (name message : String)
  /-- The disk fails at the file. -/
  | target (message : String)
deriving DecidableEq, Inhabited

namespace FileTree

/-- Nothing in the tree has this path. -/
def isFree (t : FileTree) (p : List String) : Bool := (t.file? p).isNone && !t.isDir p

/-- Take out a regular file. -/
def discard (t : FileTree) (p : List String) : FileTree :=
  { t with files := t.files.filter fun e => e.1 != p }

/-- Give a regular file another name; a file of that name is lost. -/
def rename (t : FileTree) (old new : List String) : Except FileError Unit × FileTree :=
  match t.file? old with
  | none => (.error .notFound, t)
  | some text =>
    if t.isDir new then (.error .isDirectory, t)
    else if hasZero new || new.any isLong then (.error .badName, t)
    else (.ok (), (t.discard old).put new text)

/-- A temporary file takes the name of a file, or is thrown away. -/
def persist (t : FileTree) (disk : Disk) (temp p : List String) :
    Except StagingError Unit × FileTree :=
  match disk.fault .rename with
  | some m => (.error (.target m), t.discard temp)
  | none =>
    match t.rename temp p with
    | (.error e, t) => (.error (.file e), t.discard temp)
    | (.ok _, t) => (.ok (), t)

/-- Write a text into a new temporary file of a directory, which then takes the name of a file. -/
def stage (t : FileTree) (disk : Disk) (dir p : List String) (name text : String) :
    Except StagingError Unit × FileTree :=
  let temp := dir ++ [name]
  match disk.fault .write with
  | some m =>
    (.error (.temporary name m),
      (t.put temp (String.ofList (text.toList.take disk.progress))).discard temp)
  | none =>
    match disk.fault .sync with
    | some m => (.error (.temporary name m), (t.put temp text).discard temp)
    | none => (t.put temp text).persist disk temp p

/-- Replace a file on a disk; its directory is made if it is missing. -/
def replaceOn (t : FileTree) (disk : Disk) (p : List String) (text : String) :
    Except StagingError Unit × FileTree :=
  match disk.fault .directories with
  | some m => (.error (.directory m), (t.createDirs (p.dropLast.take disk.progress)).2)
  | none =>
    match t.createDirs p.dropLast with
    | (.error e, t) => (.error (.file e), t)
    | (.ok _, t) =>
      match disk.fault .create with
      | some m => (.error (.directory m), t)
      | none =>
        match disk.tempNames.find? fun name => t.isFree (p.dropLast ++ [name]) with
        | none => (.error (.directory "file exists"), t)
        | some name => t.stage disk p.dropLast p name text

end FileTree

end RuleEngine
