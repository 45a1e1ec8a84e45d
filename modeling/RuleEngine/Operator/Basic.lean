import RuleEngine.Event.Basic
import RuleEngine.Operator.Plan
import RuleEngine.Template.Store

set_option autoImplicit false

/-! # The operator

An operator loads one template, runs it tick by tick, and is stopped once:

    unloaded → loaded → running → stopped

Every operation that is being executed has an entry in the table of running operations, so that a
stop reaches it. Each of the smaller functions of this module is one step that nothing interrupts;
`track` and `stop` are sequences of such steps. -/

namespace RuleEngine

/-- Where an operator stands in its life. -/
inductive Lifecycle
  | unloaded
  | loaded
  | running
  | stopped
deriving DecidableEq, Inhabited

namespace Lifecycle

/-- The name in messages and events. -/
def name : Lifecycle → String
  | .unloaded => "unloaded"
  | .loaded => "loaded"
  | .running => "running"
  | .stopped => "stopped"

/-- The name where an operator is shown. -/
def title : Lifecycle → String
  | .unloaded => "Unloaded"
  | .loaded => "Loaded"
  | .running => "Running"
  | .stopped => "Stopped"

end Lifecycle

/-- An operation in the table of running operations. -/
structure Tracked where
  rule : String
  operation : String
deriving DecidableEq, Inhabited

/-- An operator and what it has at hand. -/
structure Operator where
  store : TemplateStore
  registry : Registry
  subDir : String
  name : String
  /-- Load the merged artifact, not the fragments. -/
  fromArtifact : Bool := false
  lifecycle : Lifecycle := .unloaded
  plan : Option Plan := none
  /-- The running operations by dispatch number. -/
  inFlight : List (Nat × Tracked) := []
  nextDispatch : Nat := 1
  /-- Dispatch numbers of the operations that were told to stop. -/
  signalled : List Nat := []

namespace Operator

def isStopped (o : Operator) : Bool := o.lifecycle == .stopped

def template? (o : Operator) : Option Template := o.plan.map (·.template)

/-- The operation of a dispatch was told to stop. -/
def isSignalled (o : Operator) (dispatch : Nat) : Bool := o.signalled.contains dispatch

/-! ## Steps of a dispatch -/

/-- Take a number for a dispatch. -/
def takeDispatch (o : Operator) : Nat × Operator :=
  (o.nextDispatch, { o with nextDispatch := o.nextDispatch + 1 })

def enter (o : Operator) (dispatch : Nat) (t : Tracked) : Operator :=
  { o with inFlight := o.inFlight ++ [(dispatch, t)] }

/-- Tell the operation of a dispatch to stop. -/
def signal (o : Operator) (dispatch : Nat) : Operator :=
  { o with signalled := o.signalled ++ [dispatch] }

def leave (o : Operator) (dispatch : Nat) : Operator :=
  { o with inFlight := o.inFlight.filter fun e => e.1 != dispatch }

/-- Enter an operation into the table before it is executed. If the operator has been stopped, the
operation is told to stop at once. -/
def track (o : Operator) (t : Tracked) : Nat × Operator :=
  let (dispatch, o) := o.takeDispatch
  let o := o.enter dispatch t
  (dispatch, if o.isStopped then (o.signal dispatch).leave dispatch else o)

/-! ## Steps of a tick -/

/-- Begin a tick: only a loaded operator can. -/
def enterTick (o : Operator) : Except EngineError Unit × Operator :=
  match o.lifecycle with
  | .loaded | .running => (.ok (), { o with lifecycle := .running })
  | state => (.error (.invalidState "run a tick" state.name), o)

/-- The plan of a tick; a stop may have taken it away. -/
def currentPlan (o : Operator) : Except EngineError Plan :=
  match o.plan with
  | some p => .ok p
  | none => .error (.invalidState "run a tick" "without a template")

/-! ## Steps of a stop -/

/-- Become stopped; gives the state before, unless the operator was stopped already. -/
def markStopped (o : Operator) : Option Lifecycle × Operator :=
  if o.isStopped then (none, o) else (some o.lifecycle, { o with lifecycle := .stopped })

/-- Tell all operations of the table to stop; how many there were. -/
def signalAll (o : Operator) : Nat × Operator :=
  (o.inFlight.length, o.inFlight.foldl (fun o e => o.signal e.1) o)

def clearTable (o : Operator) : Operator := { o with inFlight := [] }

/-- Give up the plan. -/
def dropPlan (o : Operator) : Operator := { o with plan := none }

def stoppedNotice (o : Operator) (previous : Lifecycle) (count : Nat) : Notice :=
  (.operatorStopped,
    .obj [("sub_dir", .str o.subDir), ("template", .str o.name),
      ("previous_state", .str previous.name), ("stopped_operations", .num (.int count))])

/-- Stop all running operations and give up the plan. A second stop does nothing. -/
def stop (o : Operator) : List Notice × Operator :=
  match o.markStopped with
  | (none, o) => ([], o)
  | (some previous, o) =>
    let (count, o) := o.signalAll
    ([o.stoppedNotice previous count], o.clearTable.dropPlan)

/-- What happens when nobody uses the operator any more: a running one is stopped. -/
def release (o : Operator) : List Notice × Operator :=
  if o.lifecycle = .running then o.stop else ([], o)

/-! ## Loading and saving -/

/-- A template that is not there is an error of the configuration. -/
def ofMissing : EngineError → EngineError
  | .notFound what => .configuration ("template does not exist: " ++ what)
  | e => e

def loadPlan (o : Operator) (files : FileTree) : Except EngineError Plan :=
  match o.store.load files o.subDir o.name o.fromArtifact with
  | .error e => .error (ofMissing e)
  | .ok t => Plan.compile o.registry t

def loadedNotice (o : Operator) (t : Template) : Notice :=
  (.templateLoaded,
    .obj [("sub_dir", .str o.subDir), ("template", .str o.name),
      ("rules", .num (.int t.rules.length)), ("operations", .num (.int t.operationCount)),
      ("merged", .bool o.fromArtifact)])

/-- Load the template. An operator that cannot load stays as it is. -/
def load (o : Operator) (files : FileTree) : Except EngineError (Notice × Operator) :=
  if o.lifecycle = .unloaded then
    match o.loadPlan files with
    | .error e => .error e
    | .ok plan =>
      .ok (o.loadedNotice plan.template, { o with lifecycle := .loaded, plan := some plan })
  else .error (.invalidState "load" o.lifecycle.name)

def mergedNotice (o : Operator) (t : Template) (path : FilePath) : Notice :=
  (.templateMerged,
    .obj [("sub_dir", .str o.subDir), ("template", .str o.name),
      ("fragments", .arr (t.fragments.map Json.str)), ("rules", .num (.int t.rules.length)),
      ("path", .str path.text), ("bytes", .num (.int t.artifact.utf8ByteSize))])

/-- The template that a save would write: the fragments as they are now, merged, if all their
operations compile. -/
def mergedTemplate (o : Operator) (files : FileTree) : Except EngineError Template :=
  if o.lifecycle = .unloaded then
    .error (.invalidState "save the merged template" o.lifecycle.name)
  else
    match o.store.loadFragments files o.subDir o.name with
    | .error e => .error e
    | .ok t => (Plan.compile o.registry t).map fun _ => t

/-- Merge the fragments and replace the artifact. -/
def save (o : Operator) (files : FileTree) :
    Except EngineError (Notice × FilePath) × FileTree :=
  match o.mergedTemplate files with
  | .error e => (.error e, files)
  | .ok t =>
    match o.store.writeArtifact files o.subDir o.name t.artifact with
    | (.error e, files) => (.error e, files)
    | (.ok path, files) => (.ok (o.mergedNotice t path, path), files)

def shown (o : Operator) : String :=
  "Operator \x7b sub_dir: " ++ Text.quoted o.subDir ++ ", name: " ++ Text.quoted o.name ++
    ", read_from_merged: " ++ (if o.fromArtifact then "true" else "false") ++
    ", state: " ++ o.lifecycle.title ++ ", in_flight: " ++ toString o.inFlight.length ++ " \x7d"

end Operator

end RuleEngine
