import RuleEngine.CommandLine.Run

set_option autoImplicit false

/-! # The program

Reads what a call may need from the disk, makes the call, and writes what it has written. Everything
else is decided by `CommandLine.call`. -/

namespace RuleEngine.Main

open RuleEngine.CommandLine

def valueNames : List (String × List String) :=
  [("templates", ["root", "sub_dir", "template", "read_from_merged"]),
   ("session", ["tick_interval_ms", "max_ticks"]), ("lane", ["thread_name"]),
   ("events", ["queue_capacity", "drain_interval_ms"]),
   ("observability", ["log_format", "metrics_addr"])]

/-- The variables that a call may need. -/
def variableNames : List String :=
  Configuration.Environment.pathVariable :: settingsVariable ::
    valueNames.flatMap fun (section_, names) =>
      names.map fun name => (s!"autopilot__{section_}__{name}").toUpper

def readVariables : IO Configuration.Environment :=
  variableNames.foldlM (fun vars name => do
    match ← IO.getEnv name with
    | some value => return vars.insert name value
    | none => return vars) []

def addFile (files : FileTree) (path : FilePath) : IO FileTree := do
  let place := (← IO.currentDir) / path.text
  if ← place.pathExists then
    if ← place.isDir then return (files.createDirs path.parts).2
    else return (files.replace path.parts (← IO.FS.readFile place)).2
  else return files

/-- Add what lies in a directory, a number of directories deep. -/
def addDirectory (depth : Nat) (files : FileTree) (path : FilePath) : IO FileTree := do
  let place := (← IO.currentDir) / path.text
  let files ← addFile files path
  match depth with
  | 0 => return files
  | depth + 1 =>
    if ← place.isDir then
      (← place.readDir).toList.foldlM
        (fun files entry => addDirectory depth files (path.child entry.fileName)) files
    else return files

/-- The files that a configuration may be read from. -/
def candidates (path : FilePath) : List FilePath :=
  path :: Configuration.Format.byExtension.map fun (extension, _) =>
    Configuration.Source.withExtension path extension

/-- Add the files that an invocation may need: those of the configuration, the settings, and the
templates of the configured root. -/
def readFiles (vars : Configuration.Environment) (i : Invocation) : IO FileTree := do
  let path := i.configPath.map FilePath.ofText
  let files ← (candidates (path.getD Configuration.defaultPath)).foldlM addFile {}
  let files ← (i.settingsPath.map FilePath.ofText).toList.foldlM addFile files
  match Configuration.load files vars path with
  | .ok c => addDirectory 3 files (.ofText c.templates.root)
  | .error _ => return files

/-- Replace a file in one step. -/
def writeFile (path text : String) : IO Unit := do
  let fresh := path ++ ".new"
  IO.FS.writeFile fresh text
  IO.FS.rename fresh path

/-- A name for a session that no other session has. -/
def sessionName : IO String := do
  let digits := "0123456789ABCDEFGHJKMNPQRSTVWXYZ".toList
  let places ← (List.range 26).mapM fun _ => IO.rand 0 31
  return String.ofList (places.map fun n => digits.getD n '0')

/-- Make a call with the arguments of the program. -/
def run (arguments : List String) : IO Outcome := do
  let vars ← readVariables
  let files ← match Request.ofArguments arguments vars with
    | .invoke i => readFiles vars i
    | _ => pure {}
  return call files vars (← sessionName) arguments

end RuleEngine.Main

/-- Call the program and show how the call ends. -/
def main (arguments : List String) : IO UInt32 := do
  let outcome ← RuleEngine.Main.run arguments
  IO.print outcome.output
  match outcome.problem with
  | some problem => IO.eprintln ("Error: " ++ problem)
  | none => pure ()
  match outcome.written with
  | some path => RuleEngine.Main.writeFile path.text ((outcome.files.file? path.parts).getD "")
  | none => pure ()
  return outcome.code.toUInt32
