import RuleEngine.Files.Tree
import RuleEngine.Template.Merge
import RuleEngine.Yaml.Source
import RuleEngine.Yaml.Text

set_option autoImplicit false

/-! # The template store

Below its root, a store has a directory for every sub-directory of templates. There the fragments of
a template lie in a directory of its name, and its merged artifact in a file beside it:

    root/sub-directory/template/fragment.yaml
    root/sub-directory/template.yaml

Sub-directories and templates are named by single visible names, so no path leaves the root. -/

namespace RuleEngine

namespace Template

def artifact (t : Template) : String := Yaml.render t.toJson

def ofArtifact (source text : String) : Except EngineError Template :=
  match Yaml.decode decode text with
  | .ok t => .ok t
  | .error e => .error (Yaml.parseError source e)

end Template

namespace Fragment

/-- Read the text of a fragment; a blank text is an empty fragment. -/
def ofText (source text : String) : Except EngineError Fragment :=
  if Text.isBlankText text then .ok {}
  else match Yaml.decode decode text with
    | .ok f => .ok f
    | .error e => .error (Yaml.parseError source e)

/-- A fragment without a name is named for its file. -/
def named (file : String) (f : Fragment) : Fragment :=
  if f.name.isEmpty then { f with name := FilePath.stem file } else f

end Fragment

/-- A store of templates below a directory. -/
structure TemplateStore where
  root : FilePath
deriving DecidableEq, Inhabited

namespace TemplateStore

/-! ## Paths -/

/-- The name of an entry of one directory: visible and without separators. -/
def isComponent (name : String) : Bool :=
  !name.isEmpty && !FilePath.isHidden name && !name.toList.any fun c => c == '/' || c == '\\'

/-- Refuse what is no name of an entry. -/
def checkComponent (what name : String) : Except EngineError Unit :=
  if isComponent name then .ok ()
  else .error (.configuration ("invalid " ++ what ++ " '" ++ name ++ "'"))

def subDirPath (s : TemplateStore) (subDir : String) : Except EngineError FilePath :=
  (checkComponent "sub-directory" subDir).map fun _ => s.root.child subDir

def artifactPath (s : TemplateStore) (subDir name : String) : Except EngineError FilePath :=
  match checkComponent "template name" name with
  | .error e => .error e
  | .ok _ => (s.subDirPath subDir).map fun dir => dir.child (name ++ ".yaml")

def fragmentDir (s : TemplateStore) (subDir name : String) : Except EngineError FilePath :=
  match checkComponent "template name" name with
  | .error e => .error e
  | .ok _ => (s.subDirPath subDir).map fun dir => dir.child name

/-! ## Reading -/

def ioError (p : FilePath) (e : FileError) : EngineError := .io p.text e.message

def isYaml (name : String) : Bool :=
  FilePath.extension? name == some "yaml" || FilePath.extension? name == some "yml"

/-- The template that an entry of a sub-directory belongs to. -/
def templateOf? (name : String) (entry : FileEntry) : Option String :=
  if FilePath.isHidden name then none
  else match entry with
    | .directory => some name
    | .file _ => if isYaml name then some (FilePath.stem name) else none

def list (s : TemplateStore) (files : FileTree) (subDir : String) :
    Except EngineError (List String) :=
  match s.subDirPath subDir with
  | .error e => .error e
  | .ok dir =>
    match files.entries dir.parts with
    | .ok entries =>
      let names := entries.filterMap fun (name, entry) => templateOf? name entry
      .ok (Table.ofList (names.map fun name => (name, ()))).keys
    | .error .notFound =>
      .error (.notFound ("template sub-directory " ++ Text.quoted dir.text))
    | .error e => .error (ioError dir e)

/-- The name and text of every file of fragments, by name. -/
def fragmentFiles (files : FileTree) (dir : FilePath) : Table String :=
  Table.ofList ((files.filesIn dir.parts).filter fun (name, _) =>
    isYaml name && !FilePath.isHidden name)

def readFragment (dir : FilePath) (file : String × String) : Except EngineError Fragment :=
  (Fragment.ofText (dir.child file.1).text file.2).map (Fragment.named file.1)

def readFragments (dir : FilePath) : List (String × String) → Except EngineError (List Fragment)
  | [] => .ok []
  | file :: files =>
    match readFragment dir file with
    | .error e => .error e
    | .ok f => (readFragments dir files).map (f :: ·)

/-- How messages call a template. -/
def shown (subDir name : String) : String := "'" ++ subDir ++ "/" ++ name ++ "'"

def fragments (s : TemplateStore) (files : FileTree) (subDir name : String) :
    Except EngineError (List Fragment) :=
  match s.fragmentDir subDir name with
  | .error e => .error e
  | .ok dir =>
    if files.entersDir dir.parts then readFragments dir (fragmentFiles files dir)
    else
      .error (.notFound ("fragments of template " ++ shown subDir name ++ " at " ++
        Text.quoted dir.text))

def readArtifact (s : TemplateStore) (files : FileTree) (subDir name : String) :
    Except EngineError (FilePath × String) :=
  match s.artifactPath subDir name with
  | .error e => .error e
  | .ok path =>
    match files.read path.parts with
    | .ok text => .ok (path, text)
    | .error .notFound =>
      .error (.notFound ("merged artifact of " ++ shown subDir name ++ " at " ++
        Text.quoted path.text))
    | .error e => .error (ioError path e)

def loadFragments (s : TemplateStore) (files : FileTree) (subDir name : String) :
    Except EngineError Template :=
  match s.fragments files subDir name with
  | .error e => .error e
  | .ok fragments =>
    match Template.merge subDir name fragments with
    | .ok t => .ok t
    | .error e => .error e.toEngineError

/-- Read the template of an artifact, which must be the one that was asked for. -/
def loadArtifact (s : TemplateStore) (files : FileTree) (subDir name : String) :
    Except EngineError Template :=
  match s.readArtifact files subDir name with
  | .error e => .error e
  | .ok (path, text) =>
    match Template.ofArtifact path.text text with
    | .error e => .error e
    | .ok t =>
      if t.subDir = subDir ∧ t.name = name then .ok t
      else
        .error (.configuration ("artifact " ++ Text.quoted path.text ++ " holds template " ++
          shown t.subDir t.name))

def load (s : TemplateStore) (files : FileTree) (subDir name : String) (merged : Bool) :
    Except EngineError Template :=
  if merged then s.loadArtifact files subDir name else s.loadFragments files subDir name

/-! ## Writing -/

/-- Replace the artifact of a template; the path of it, and the files afterwards. -/
def writeArtifact (s : TemplateStore) (files : FileTree) (subDir name text : String) :
    Except EngineError FilePath × FileTree :=
  match s.artifactPath subDir name with
  | .error e => (.error e, files)
  | .ok path =>
    match files.replace path.parts text with
    | (.ok _, files) => (.ok path, files)
    | (.error e, files) => (.error (ioError path e), files)

end TemplateStore

end RuleEngine
