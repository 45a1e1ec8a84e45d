import RuleEngine.Proofs.Files.Staging
import RuleEngine.Proofs.Operator.Save
import RuleEngine.Simulation.Disk

set_option autoImplicit false

/-! # What a save leaves alone

A save that fails, wherever it fails, leaves the whole world as it was. A save that succeeds has
replaced the artifact of its template and reported it once, and that is all: the artifact lies where
no template has its fragments, so that whatever is loaded from fragments afterwards is what would
have been loaded before (`World.saveOn_frame`).
-/

namespace RuleEngine

namespace FileTree

variable {t t' : FileTree} {p : List String}

theorem entersDir_eq_true_iff : t.entersDir p = true ↔ t.resolve p = .ok .directory := by
  unfold entersDir
  split <;> simp_all

/-- A directory that can be entered lies in directories. -/
theorem isDir_of_entersDir (h : t.entersDir p = true) {front : List String} (hfront : front <+: p)
    (hne : front ≠ p) : t.isDir front = true := by
  rw [entersDir_eq_true_iff] at h
  unfold resolve at h
  by_cases hzero : hasZero p = true
  · rw [if_pos hzero] at h
    cases h
  · rw [if_neg hzero] at h
    exact (fronts_of_resolveFrom h).2 front hfront hne

/-- Which directories can be entered depends on the directories only. -/
theorem entersDir_congr (hdirs : t'.dirs = t.dirs) : t'.entersDir p = t.entersDir p := by
  have hsame : ∀ d, t'.isDir d = t.isDir d := by
    intro d
    unfold isDir
    rw [hdirs]
  rw [Bool.eq_iff_iff]
  constructor
  · exact entersDir_mono fun d hd => (hsame d).symm.trans hd
  · exact entersDir_mono fun d hd => (hsame d).trans hd

end FileTree

/-! ## Fragments -/

namespace TemplateStore

variable {s : TemplateStore} {files files' : FileTree} {disk : Disk} {subDir name : String}
variable {path : FilePath} {fs : List Fragment} {t : Template}

theorem fragmentsOn_congr (h : s.SameFragments files files' subDir name) :
    s.fragmentsOn disk files' subDir name = s.fragmentsOn disk files subDir name := by
  unfold fragmentsOn
  split
  · rfl
  · next dir hdir => rw [(h dir hdir).1, (h dir hdir).2]

theorem fragmentsOn_eq_ok {fs : List Fragment}
    (h : s.fragmentsOn disk files subDir name = .ok fs) :
    ∃ dir, s.fragmentDir subDir name = .ok dir ∧ files.entersDir dir.parts = true ∧
      readFragmentsOn disk dir (fragmentFiles files dir) = .ok fs := by
  unfold fragmentsOn at h
  split at h
  · cases h
  · next dir hdir =>
    by_cases henters : files.entersDir dir.parts = true
    · rw [if_pos henters] at h
      exact ⟨dir, hdir, henters, h⟩
    · rw [if_neg henters] at h
      cases h

theorem loadFragmentsOn_eq_ok (h : s.loadFragmentsOn disk files subDir name = .ok t) :
    ∃ fs, s.fragmentsOn disk files subDir name = .ok fs ∧
      Template.merge subDir name fs = .ok t := by
  unfold loadFragmentsOn at h
  split at h
  · cases h
  · next fs hfs =>
    split at h
    · next hmerge =>
      cases h
      exact ⟨fs, hfs, hmerge⟩
    · cases h

/-- Where the fragments are found there is a directory for the artifact. -/
theorem isDir_of_fragmentsOn (h : s.fragmentsOn disk files subDir name = .ok fs)
    (hpath : s.artifactPath subDir name = .ok path) {front : List String}
    (hfront : front <+: path.parts.dropLast) : files.isDir front = true := by
  obtain ⟨dir, hdir, henters, -⟩ := fragmentsOn_eq_ok h
  have hparent : path.parts.dropLast = s.root.parts ++ [subDir] := by
    rw [parts_of_artifactPath hpath, List.dropLast_concat]
  have hparts := parts_of_fragmentDir hdir
  rw [← hparent] at hparts
  have hbelow : front <+: dir.parts := by
    rw [hparts]
    exact hfront.trans (List.prefix_append _ _)
  refine FileTree.isDir_of_entersDir henters hbelow ?_
  -- the front is shorter than the path of the fragments
  intro heq
  have hlength := hfront.length_le
  rw [heq, hparts, List.length_append, List.length_singleton] at hlength
  omega

/-- The artifact of a template is no fragment of any. -/
theorem sameFragments_of_replace {text : String} {subDir' name' : String}
    (hpath : s.artifactPath subDir name = .ok path) (hdirs : files'.dirs = files.dirs)
    (h : files.replace path.parts text = (.ok (), files')) :
    s.SameFragments files files' subDir' name' := by
  intro dir hdir
  refine ⟨FileTree.entersDir_congr hdirs, ?_⟩
  -- fragments lie one level below the artifacts, whatever the template is called
  have hother : path.parts.dropLast ≠ dir.parts := by
    intro heq
    rw [parts_of_artifactPath hpath, List.dropLast_concat, parts_of_fragmentDir hdir] at heq
    have hlength := congrArg List.length heq
    simp at hlength
  unfold fragmentFiles
  rw [FileTree.filesIn_replace hother h]

/-! ## Disks that work -/

theorem readFragmentsOn_of_works (h : disk.Works) (dir : FilePath)
    (sources : List (String × String)) :
    readFragmentsOn disk dir sources = readFragments dir sources := by
  induction sources with
  | nil => rfl
  | cons source sources ih =>
      rewrite [readFragmentsOn, readFragments, h.readable, ih]
      rfl

theorem loadFragmentsOn_of_works (h : disk.Works) (s : TemplateStore) (files : FileTree)
    (subDir name : String) :
    s.loadFragmentsOn disk files subDir name = s.loadFragments files subDir name := by
  have hfragments : s.fragmentsOn disk files subDir name = s.fragments files subDir name := by
    have hread : readFragmentsOn disk = readFragments :=
      funext fun dir => funext fun sources => readFragmentsOn_of_works h dir sources
    unfold fragmentsOn fragments
    rewrite [hread]
    rfl
  unfold loadFragmentsOn loadFragments
  rewrite [hfragments]
  rfl

end TemplateStore

/-! ## Saving -/

namespace Operator

variable {o : Operator} {files files' : FileTree} {disk : Disk} {t : Template} {path : FilePath}

/-- A template is saved if its fragments can be read and make it up and its operations compile. -/
theorem mergedTemplateOn_eq_ok (h : o.mergedTemplateOn disk files = .ok t) :
    o.lifecycle ≠ .unloaded ∧
      (∃ fs, o.store.fragmentsOn disk files o.subDir o.name = .ok fs ∧
        Template.merge o.subDir o.name fs = .ok t) ∧
      ∃ plan, Plan.compile o.registry t = .ok plan := by
  unfold mergedTemplateOn at h
  by_cases hstate : o.lifecycle = .unloaded
  · rw [if_pos hstate] at h
    cases h
  · rw [if_neg hstate] at h
    split at h
    · cases h
    · next t' hload =>
      cases hcompile : Plan.compile o.registry t' with
      | error e =>
          rw [hcompile] at h
          cases h
      | ok plan =>
          rw [hcompile] at h
          cases h
          exact ⟨hstate, TemplateStore.loadFragmentsOn_eq_ok hload, plan, hcompile⟩

/-- How a save ends: nothing is changed, or the artifact is replaced in one step. -/
theorem saveOn_cases (o : Operator) (disk : Disk) (files : FileTree) :
    (∃ e, o.saveOn disk files = (.error e, files)) ∨
      ∃ t path, o.mergedTemplateOn disk files = .ok t ∧
        o.store.artifactPath o.subDir o.name = .ok path ∧
        files.replace path.parts t.artifact = (.ok (), files.put path.parts t.artifact) ∧
        o.saveOn disk files =
          (.ok (o.mergedNotice t path, path), files.put path.parts t.artifact) := by
  unfold saveOn
  cases hmerged : o.mergedTemplateOn disk files with
  | error e => exact Or.inl ⟨e, rfl⟩
  | ok t =>
      dsimp only
      unfold TemplateStore.writeArtifactOn
      cases hpath : o.store.artifactPath o.subDir o.name with
      | error e => exact Or.inl ⟨e, rfl⟩
      | ok path =>
          dsimp only
          obtain ⟨-, ⟨fs, hfs, -⟩, -⟩ := mergedTemplateOn_eq_ok hmerged
          have hdirs : ∀ front, front <+: path.parts.dropLast → front ≠ [] →
              files.isDir front = true :=
            fun front hfront _ => TemplateStore.isDir_of_fragmentsOn hfs hpath hfront
          obtain ⟨answer, after, hreplace⟩ : ∃ answer after,
              files.replaceOn disk path.parts t.artifact = (answer, after) := ⟨_, _, rfl⟩
          rw [hreplace]
          cases answer with
          | error e =>
              obtain rfl := FileTree.replaceOn_error_of_dirs hdirs hreplace
              exact Or.inl ⟨_, rfl⟩
          | ok _ =>
              have hone := FileTree.replaceOn_ok hreplace
              have hafter : after = files.put path.parts t.artifact := by
                obtain ⟨made, hcreate, -, -, -, rfl⟩ := FileTree.replace_ok hone
                have hmade : (files.createFrom [] path.parts.dropLast).2 = files :=
                  FileTree.createFrom_unchanged hdirs
                rw [hcreate] at hmade
                rw [show made = files from hmade]
              rw [hafter] at hone
              exact Or.inr ⟨t, path, rfl, rfl, hone, by rw [hafter]⟩

/-- On a disk that works a save is the save of an operator on a tree of files. -/
theorem saveOn_of_works (h : disk.Works)
    (hname : ∀ path, o.store.artifactPath o.subDir o.name = .ok path →
      disk.HasName files path.parent) :
    o.saveOn disk files = o.save files := by
  have hmerged : o.mergedTemplateOn disk files = o.mergedTemplate files := by
    unfold mergedTemplateOn mergedTemplate
    rewrite [TemplateStore.loadFragmentsOn_of_works h]
    rfl
  unfold saveOn save
  rw [hmerged]
  cases ht : o.mergedTemplate files with
  | error e => rfl
  | ok t =>
      dsimp only
      have hwrite : o.store.writeArtifactOn disk files o.subDir o.name t.artifact =
          o.store.writeArtifact files o.subDir o.name t.artifact := by
        unfold TemplateStore.writeArtifactOn TemplateStore.writeArtifact
        cases hpath : o.store.artifactPath o.subDir o.name with
        | error e => rfl
        | ok path =>
            dsimp only
            obtain ⟨-, ⟨fs, hfs, -⟩, -⟩ := mergedTemplateOn_eq_ok (hmerged.trans ht)
            have hmade : (files.createDirs path.parts.dropLast).2 = files :=
              FileTree.createDirs_unchanged fun front hfront _ =>
                TemplateStore.isDir_of_fragmentsOn hfs hpath hfront
            have hleft := hname path hpath
            unfold FilePath.parent at hleft
            rw [FileTree.replaceOn_of_works h (by rw [hmade]; exact hleft)]
            obtain ⟨answer, after, hreplace⟩ : ∃ answer after,
                files.replace path.parts t.artifact = (answer, after) := ⟨_, _, rfl⟩
            rw [hreplace]
            cases answer with
            | error e => rfl
            | ok _ => rfl
      rewrite [hwrite]
      rfl

end Operator

namespace World

/-- What a save that has succeeded has done to a world. -/
structure SavedAt (w : World) (disk : Disk) (path : FilePath) (w' : World) : Prop where
  /-- The path is that of the artifact. -/
  place : path.parts =
    w.operator.store.root.parts ++ [w.operator.subDir] ++ [w.operator.name ++ ".yaml"]
  /-- The artifact is what the fragments make up, and this is reported once. -/
  merged : ∃ fs t plan,
    w.operator.store.fragmentsOn disk w.files w.operator.subDir w.operator.name = .ok fs ∧
    Template.merge w.operator.subDir w.operator.name fs = .ok t ∧
    Plan.compile w.operator.registry t = .ok plan ∧
    w'.files.read path.parts = .ok t.artifact ∧
    w'.events =
      w.events ++ [⟨w.session, .templateMerged, (w.operator.mergedNotice t path).2⟩]
  /-- All other files are as before, and so are the directories. -/
  files : ∀ p, p ≠ path.parts → w'.files.file? p = w.files.file? p
  dirs : w'.files.dirs = w.files.dirs
  /-- Every template has the fragments that it had. -/
  fragments : ∀ (disk : Disk) (subDir name : String),
    w.operator.store.fragmentsOn disk w'.files subDir name =
      w.operator.store.fragmentsOn disk w.files subDir name
  /-- Nothing else has changed, the operator least of all. -/
  rest : w' = { w with files := w'.files, events := w'.events }

theorem savedAt_of_replace {disk : Disk} {w : World} {t : Template} {path : FilePath}
    (hmerged : w.operator.mergedTemplateOn disk w.files = .ok t)
    (hpath : w.operator.store.artifactPath w.operator.subDir w.operator.name = .ok path)
    (hone : w.files.replace path.parts t.artifact = (.ok (), w.files.put path.parts t.artifact)) :
    w.SavedAt disk path
      (({ w with files := w.files.put path.parts t.artifact } : World).emit
        (w.operator.mergedNotice t path)) := by
  obtain ⟨-, ⟨fs, hfs, hmerge⟩, plan, hcompile⟩ := Operator.mergedTemplateOn_eq_ok hmerged
  constructor
  case place => exact TemplateStore.parts_of_artifactPath hpath
  case merged => exact ⟨fs, t, plan, hfs, hmerge, hcompile, FileTree.read_replace hone, rfl⟩
  case files => exact fun p hp => FileTree.file?_put_of_ne hp
  case dirs => rfl
  case fragments =>
    intro disk' subDir name
    exact TemplateStore.fragmentsOn_congr (TemplateStore.sameFragments_of_replace hpath rfl hone)
  case rest => rfl

/-- **A save touches nothing but the artifact, and a save that fails touches nothing at all.** The
disk may fail wherever it likes. If it does not, and has a name left for the temporary file, the
save is the one that replaces the artifact in one step. -/
theorem saveOn_frame (disk : Disk) (w : World) :
    ((∃ e, w.saveOn disk = (.error e, w)) ∨
      ∃ path w', w.saveOn disk = (.ok path, w') ∧ w.SavedAt disk path w') ∧
    (disk.Works →
      (∀ path, w.operator.store.artifactPath w.operator.subDir w.operator.name = .ok path →
        disk.HasName w.files path.parent) →
      w.saveOn disk = w.save) := by
  constructor
  · unfold saveOn
    rcases w.operator.saveOn_cases disk w.files with
      ⟨e, hsave⟩ | ⟨t, path, hmerged, hpath, hone, hsave⟩
    · rw [hsave]
      exact Or.inl ⟨e, rfl⟩
    · rw [hsave]
      exact Or.inr ⟨path, _, rfl, savedAt_of_replace hmerged hpath hone⟩
  · intro hworks hname
    unfold saveOn save
    rewrite [Operator.saveOn_of_works hworks hname]
    rfl

/-- A template is saved on a disk that works; on a full disk everything stays as it is. -/
theorem saveOn_frame_of_full_disk : ∃ (w : World) (disk full : Disk) (path : FilePath) (w' : World),
    disk.Works ∧ w.saveOn disk = w.save ∧ w.saveOn disk = (.ok path, w') ∧
      w.SavedAt disk path w' ∧
      w.saveOn full = (.error (.io "rules/main/.tmp" "no space left on device"), w) := by
  let o : Operator :=
    { store := ⟨⟨"rules", ["rules"]⟩⟩, registry := .builtin, subDir := "main", name := "demo",
      lifecycle := .loaded }
  let files : FileTree :=
    { files := [(["rules", "main", "demo", "base.yaml"], "")]
      dirs := [["rules"], ["rules", "main"], ["rules", "main", "demo"]] }
  let w : World := { operator := o, files := files }
  let full : Disk :=
    { fault := fun step => if step = .write then some "no space left on device" else none
      progress := 3 }
  have hworks : ({} : Disk).Works := ⟨fun _ => rfl, fun _ => rfl⟩
  have hname : ∀ path, o.store.artifactPath o.subDir o.name = .ok path →
      ({} : Disk).HasName files path.parent := by
    intro path hpath
    have hparent : path.parent = ["rules", "main"] := by
      unfold FilePath.parent
      rw [TemplateStore.parts_of_artifactPath hpath]
      rfl
    exact ⟨".tmp", by simp, by rw [hparent]; decide⟩
  obtain ⟨hends, hsame⟩ := saveOn_frame {} w
  have hanswer : (w.saveOn {}).1 = .ok ⟨"rules/main/demo.yaml", ["rules", "main", "demo.yaml"]⟩ := by
    decide +kernel
  have hfull : (w.saveOn full).1 = .error (.io "rules/main/.tmp" "no space left on device") := by
    decide +kernel
  rcases hends with ⟨e, herror⟩ | ⟨path, w', hok, hsaved⟩
  · rw [herror] at hanswer
    cases hanswer
  · refine ⟨w, {}, full, path, w', hworks, hsame hworks hname, hok, hsaved, ?_⟩
    rcases (saveOn_frame full w).1 with ⟨e, herror⟩ | ⟨path, w', hok, -⟩
    · rw [herror] at hfull
      rw [herror, show e = _ from Except.error.inj hfull]
    · rw [hok] at hfull
      cases hfull

end World

end RuleEngine
