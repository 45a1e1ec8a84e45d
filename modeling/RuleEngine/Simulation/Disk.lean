import RuleEngine.Files.Staging
import RuleEngine.Simulation.Run

set_option autoImplicit false

/-! # Loading and saving on a disk

A load reads the fragments of its template one by one, or the artifact; a save reads the fragments
and then replaces the artifact. Here the disk may fail at any of these steps. -/

namespace RuleEngine

namespace TemplateStore

def readFragmentsOn (disk : Disk) (dir : FilePath) :
    List (String × String) → Except EngineError (List Fragment)
  | [] => .ok []
  | file :: files =>
    match disk.unreadable (dir.child file.1).parts with
    | some m => .error (.io (dir.child file.1).text m)
    | none =>
      match readFragment dir file with
      | .error e => .error e
      | .ok f => (readFragmentsOn disk dir files).map (f :: ·)

def fragmentsOn (disk : Disk) (s : TemplateStore) (files : FileTree) (subDir name : String) :
    Except EngineError (List Fragment) :=
  match s.fragmentDir subDir name with
  | .error e => .error e
  | .ok dir =>
    if files.entersDir dir.parts then readFragmentsOn disk dir (fragmentFiles files dir)
    else
      .error (.notFound ("fragments of template " ++ shown subDir name ++ " at " ++
        Text.quoted dir.text))

def loadFragmentsOn (disk : Disk) (s : TemplateStore) (files : FileTree) (subDir name : String) :
    Except EngineError Template :=
  match s.fragmentsOn disk files subDir name with
  | .error e => .error e
  | .ok fragments =>
    match Template.merge subDir name fragments with
    | .ok t => .ok t
    | .error e => .error e.toEngineError

/-- Read the template of an artifact, which must be the one that was asked for. -/
def loadArtifactOn (disk : Disk) (s : TemplateStore) (files : FileTree) (subDir name : String) :
    Except EngineError Template :=
  match s.readArtifact files subDir name with
  | .error e => .error e
  | .ok (path, _) =>
    match disk.unreadable path.parts with
    | some m =>
      -- an artifact is read first and decoded later
      if disk.garbled path.parts then .error (.parse path.text m none) else .error (.io path.text m)
    | none => s.loadArtifact files subDir name

def loadOn (disk : Disk) (s : TemplateStore) (files : FileTree) (subDir name : String)
    (merged : Bool) : Except EngineError Template :=
  if merged then s.loadArtifactOn disk files subDir name
  else s.loadFragmentsOn disk files subDir name

/-- The engine's error for a file of a directory that was not replaced. -/
def stagingError (dir path : FilePath) : StagingError → EngineError
  | .file e => ioError path e
  | .directory m => .io dir.text m
  | .temporary name m => .io (dir.child name).text m
  | .target m => .io path.text m

/-- Replace the artifact of a template; the path of it, and the files afterwards. -/
def writeArtifactOn (disk : Disk) (s : TemplateStore) (files : FileTree)
    (subDir name text : String) : Except EngineError FilePath × FileTree :=
  match s.artifactPath subDir name with
  | .error e => (.error e, files)
  | .ok path =>
    match files.replaceOn disk path.parts text with
    | (.ok _, files) => (.ok path, files)
    | (.error e, files) => (.error (stagingError (s.root.child subDir) path e), files)

end TemplateStore

namespace Operator

def loadPlanOn (disk : Disk) (o : Operator) (files : FileTree) : Except EngineError Plan :=
  match o.store.loadOn disk files o.subDir o.name o.fromArtifact with
  | .error e => .error (ofMissing e)
  | .ok t => Plan.compile o.registry t

/-- Load the template. An operator that cannot load stays as it is. -/
def loadOn (disk : Disk) (o : Operator) (files : FileTree) :
    Except EngineError (Notice × Operator) :=
  if o.lifecycle = .unloaded then
    match o.loadPlanOn disk files with
    | .error e => .error e
    | .ok plan =>
      .ok (o.loadedNotice plan.template, { o with lifecycle := .loaded, plan := some plan })
  else .error (.invalidState "load" o.lifecycle.name)

/-- The template that a save would write. -/
def mergedTemplateOn (disk : Disk) (o : Operator) (files : FileTree) :
    Except EngineError Template :=
  if o.lifecycle = .unloaded then
    .error (.invalidState "save the merged template" o.lifecycle.name)
  else
    match o.store.loadFragmentsOn disk files o.subDir o.name with
    | .error e => .error e
    | .ok t => (Plan.compile o.registry t).map fun _ => t

/-- Merge the fragments and replace the artifact. -/
def saveOn (disk : Disk) (o : Operator) (files : FileTree) :
    Except EngineError (Notice × FilePath) × FileTree :=
  match o.mergedTemplateOn disk files with
  | .error e => (.error e, files)
  | .ok t =>
    match o.store.writeArtifactOn disk files o.subDir o.name t.artifact with
    | (.error e, files) => (.error e, files)
    | (.ok path, files) => (.ok (o.mergedNotice t path, path), files)

end Operator

namespace World

/-- Merge the fragments and replace the artifact. -/
def saveOn (disk : Disk) (w : World) : Except EngineError FilePath × World :=
  match w.operator.saveOn disk w.files with
  | (.error e, files) => (.error e, { w with files := files })
  | (.ok (n, path), files) => (.ok path, ({ w with files := files } : World).emit n)

end World

end RuleEngine
