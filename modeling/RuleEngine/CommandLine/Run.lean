import RuleEngine.CommandLine.Help
import RuleEngine.Configuration.Load
import RuleEngine.Metrics.Address
import RuleEngine.Operation.Builtin
import RuleEngine.Session.Run
import RuleEngine.Settings.Property

set_option autoImplicit false

/-! # Running the program

A call of the program loads the configuration, checks the address of the metrics, lets the settings
override what they may, and then does its task. What goes wrong is told in one line. -/

namespace RuleEngine.CommandLine

open RuleEngine.Configuration (Environment)

/-- How a call of the program ends. -/
structure Outcome where
  /-- 0 for success, 1 for a failure, 2 for arguments that make no sense, 101 for a panic. -/
  code : Nat
  /-- What is printed. -/
  output : String := ""
  /-- What went wrong. -/
  problem : Option String := none
  files : FileTree
  /-- The file that was written. -/
  written : Option FilePath := none

namespace Outcome

/-- The program did what it was asked for. -/
def success (files : FileTree) (output : String) : Outcome :=
  { code := 0, output := output, files := files }

/-- The program failed; of the message only the first line is told. -/
def failure (files : FileTree) (message : String) : Outcome :=
  { code := 1, problem := some (String.ofList (message.toList.takeWhile (· != '\n')))
    files := files }

/-- The program failed with an error of the engine. Of a text that cannot be read only the source is
named. -/
def ofError (files : FileTree) : EngineError → Outcome
  | .parse source _ _ => failure files ("Parse error in " ++ source)
  | e => failure files e.message

end Outcome

/-! ## Before the task -/

/-- The key of the setting that overrides where a template is loaded from. -/
def mergedKey : String := "read_from_merged"

def override (files : FileTree) (path : Option String) (c : Configuration) :
    Except EngineError Configuration :=
  match path with
  | none => .ok c
  | some path =>
    match Settings.open_ files (.ofText path) with
    | .error e => .error e
    | .ok settings =>
      let p : Property :=
        { key := mergedKey, default := .bool c.templates.readFromMerged
          onGet := some Json.truthy }
      (p.getAs settings DataSource.bool).map fun b =>
        { c with templates := { c.templates with readFromMerged := b } }

def Task.override (t : Task) (c : Configuration) : Configuration :=
  match t with
  | .run merged maxTicks =>
    { c with
      templates := { c.templates with readFromMerged := merged || c.templates.readFromMerged }
      session := { c.session with
        maxTicks := maxTicks.orElse fun _ => c.session.maxTicks } }
  | _ => c

def storeOf (c : Configuration) : TemplateStore := ⟨.ofText c.templates.root⟩

def operatorOf (c : Configuration) (fromArtifact : Bool) : Operator :=
  { store := storeOf c, registry := .builtin, subDir := c.templates.subDir
    name := c.templates.template, fromArtifact := fromArtifact }

/-! ## Tasks -/

/-- Run the template of the configuration against devices that do nothing. -/
def runTemplate (files : FileTree) (id : String) (c : Configuration) : Outcome :=
  let w : World :=
    { session := id, operator := operatorOf c c.templates.readFromMerged, files := files }
  match Session.run w c.session.tickIntervalMs c.session.maxTicks with
  | (.panicked _, _) => { code := 101, files := files }
  | (.finished (.error e), _) => .ofError files e
  | (.finished (.ok s), _) =>
    .success files ("session " ++ id ++ ": " ++ toString s.ticks ++ " ticks, " ++
      toString s.actions ++ " actions, " ++ toString s.failures ++ " failures\n")

/-- Merge the fragments of the template and say where the artifact is. -/
def mergeTemplate (files : FileTree) (c : Configuration) : Outcome :=
  match (operatorOf c false).load files with
  | .error e => .ofError files e
  | .ok (_, o) =>
    match o.save files with
    | (.error e, files) => .ofError files e
    | (.ok (_, path), files) => { Outcome.success files (path.text ++ "\n") with written := path }

def listTemplates (files : FileTree) (c : Configuration) (subDir : Option String) : Outcome :=
  match (storeOf c).list files (subDir.getD c.templates.subDir) with
  | .error e => .ofError files e
  | .ok names => .success files (String.join (names.map (· ++ "\n")))

def fieldsJson (names : List String) : Json :=
  .obj (names.filterMap fun name =>
    (Registry.builtin.fields? name).map fun fields => (name, .arr (fields.map Field.toJson)))

def printFields (files : FileTree) (operation : Option String) : Outcome :=
  match operation with
  | none => .success files ((fieldsJson Registry.builtin.names).indented 0 ++ "\n")
  | some name =>
    if Registry.builtin.contains name then
      .success files ((fieldsJson [name]).indented 0 ++ "\n")
    else .failure files ("unknown operation '" ++ name ++ "'")

def perform (files : FileTree) (id : String) (c : Configuration) (t : Task) : Outcome :=
  match t with
  | .run .. => runTemplate files id (t.override c)
  | .merge => mergeTemplate files c
  | .list subDir => listTemplates files c subDir
  | .fields operation => printFields files operation

/-! ## Calls -/

def Invocation.run (i : Invocation) (files : FileTree) (vars : Environment) (id : String) :
    Outcome :=
  match Configuration.load files vars (i.configPath.map FilePath.ofText) with
  | .error _ => .failure files "loading configuration"
  | .ok c =>
    match SocketAddress.check c.observability.metricsAddr with
    | .error e => .ofError files e
    | .ok _ =>
      match override files i.settingsPath c with
      | .error e => .ofError files e
      | .ok c => perform files id c i.task

def call (files : FileTree) (vars : Environment) (id : String) (arguments : List String) :
    Outcome :=
  match Request.ofArguments arguments vars with
  | .invoke i => i.run files vars id
  | .version => .success files versionText
  | .help w => .success files (helpText vars w)
  | .misuse => { code := 2, files := files }

end RuleEngine.CommandLine
