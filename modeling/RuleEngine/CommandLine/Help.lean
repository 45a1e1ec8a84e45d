import RuleEngine.CommandLine.Arguments

set_option autoImplicit false

/-! # Help texts

What the program prints when it is asked for help or for its version. -/

namespace RuleEngine.CommandLine

open RuleEngine.Configuration (Environment)

def programName : String := "autopilot-engine"

def programVersion : String := "0.1.0"

/-- Two columns: what is typed, and what it means. -/
abbrev Rows := List (String × String)

/-- The rows under a title, the second column as far left as the first one lets it. -/
def section_ (title : String) (rows : Rows) : String :=
  let width := rows.foldl (fun w r => max w r.1.length) 0
  let line (r : String × String) : String :=
    "  " ++ r.1 ++ String.ofList (List.replicate (width - r.1.length) ' ') ++ "  " ++ r.2 ++ "\n"
  "\n" ++ title ++ ":\n" ++ String.join (rows.map line)

def Word.about : Word → String
  | .run => "Run the configured template against a dry-run controller (ctrl-c stops)"
  | .merge => "Merge the configured template's fragments into one artifact"
  | .list => "List templates in a sub-directory"
  | .fields => "Print operation field schemas as JSON"
  | .help => "Print this message or the help of the given subcommand(s)"

def shownVariable (vars : Environment) (name : String) : String :=
  "[env: " ++ name ++ "=" ++ (vars.get? name).getD "" ++ "]"

def configRow (vars : Environment) : String × String :=
  ("    --config <CONFIG>",
    "Configuration file (defaults to ./autopilot.yaml when present) " ++
      shownVariable vars Environment.pathVariable)

def settingsRow (vars : Environment) : String × String :=
  ("    --settings <SETTINGS>",
    "Persisted settings file overriding selected config values " ++
      shownVariable vars settingsVariable)

def helpRow : String × String := ("-h, --help", "Print help")

/-- The options at a level, by their names. -/
def optionRows (vars : Environment) : Option Word → Rows
  | none =>
    [configRow vars, settingsRow vars, helpRow, ("-V, --version", "Print version")]
  | some .run =>
    [configRow vars, ("    --merged", "Load the merged artifact instead of raw fragments"),
     ("    --max-ticks <MAX_TICKS>", "Stop after this many ticks"), settingsRow vars, helpRow]
  | some .help => []
  | some _ => [configRow vars, settingsRow vars, helpRow]

def operandRows : Option Word → Rows
  | some .list => [("[SUB_DIR]", "Sub-directory (defaults to the configured one)")]
  | some .fields => [("[OPERATION]", "Only this operation")]
  | some .help => [("[COMMAND]...", "Print help for the subcommand(s)")]
  | _ => []

/-- How the program is called. -/
def usage (w : Option Word) : String :=
  let name := match w with
    | none => ""
    | some w => " " ++ ((Word.byName.find? fun e => e.2 == w).map (·.1)).getD ""
  let options := if w = some .help then "" else " [OPTIONS]"
  let operands := if w = none then " <COMMAND>"
    else String.join ((operandRows w).map fun r => " " ++ r.1)
  "\nUsage: " ++ programName ++ name ++ options ++ operands ++ "\n"

/-- The rows under a title, if there are any. -/
def sectionUnlessEmpty (title : String) (rows : Rows) : String :=
  if rows.isEmpty then "" else section_ title rows

def helpText (vars : Environment) (w : Option Word) : String :=
  let about := match w with
    | none => "Conditional-operation execution engine"
    | some w => w.about
  let commands := if w = none then Word.byName.map fun (name, w) => (name, w.about) else []
  about ++ "\n" ++ usage w ++ sectionUnlessEmpty "Commands" commands ++
    sectionUnlessEmpty "Arguments" (operandRows w) ++
    sectionUnlessEmpty "Options" (optionRows vars w)

def versionText : String := programName ++ " " ++ programVersion ++ "\n"

end RuleEngine.CommandLine
