import RuleEngine.Proofs.Operator.Frame
import RuleEngine.Proofs.Template.Conflict

set_option autoImplicit false

/-! # Faults of stored templates

A template is read from its fragments (`TemplateStore.FragmentFault`) or from its artifact
(`TemplateStore.ArtifactFault`). Each of the two says what can be wrong there: with the names of the
template, with the files, with what they say, and with what they make up together. The store gives a
template only if nothing of this is wrong, and otherwise an error that is one of the faults
(`detects_loadFragmentsOn`, `detects_loadArtifactOn`).
-/

namespace RuleEngine

/-- An answer is one of the faults if it is an error; otherwise there is no fault. -/
def Detects {α : Type} (Fault : EngineError → Prop) : Except EngineError α → Prop
  | .ok _ => ∀ x, ¬Fault x
  | .error x => Fault x

theorem Detects.not_fault {α : Type} {Fault : EngineError → Prop} {answer : Except EngineError α}
    {a : α} (h : Detects Fault answer) (hok : answer = .ok a) (x : EngineError) : ¬Fault x := by
  rw [hok] at h
  exact h x

theorem Detects.fault {α : Type} {Fault : EngineError → Prop} {answer : Except EngineError α}
    {x : EngineError} (h : Detects Fault answer) (herror : answer = .error x) : Fault x := by
  rwa [herror] at h

theorem Detects.congr {α : Type} {Fault Fault' : EngineError → Prop}
    {answer : Except EngineError α} (h : Detects Fault answer) (hsame : ∀ x, Fault x ↔ Fault' x) :
    Detects Fault' answer := by
  cases answer with
  | ok a => exact fun x hx => h x ((hsame x).2 hx)
  | error x => exact (hsame x).1 h

/-! ## Texts -/

theorem Fragment.error_of_ofText {source text : String} {x : EngineError}
    (h : Fragment.ofText source text = .error x) : ∃ m cause, x = .parse source m cause := by
  unfold ofText at h
  split at h
  · cases h
  · split at h
    · cases h
    · exact ⟨_, _, (Except.error.inj h).symm⟩

theorem Template.error_of_ofArtifact {source text : String} {x : EngineError}
    (h : Template.ofArtifact source text = .error x) : ∃ m cause, x = .parse source m cause := by
  unfold ofArtifact at h
  split at h
  · cases h
  · exact ⟨_, _, (Except.error.inj h).symm⟩

namespace TemplateStore

variable {disk : Disk} {s : TemplateStore} {files : FileTree} {subDir name : String}
variable {dir path : FilePath} {x : EngineError} {t : Template}

/-! ## Names -/

/-- A name is no name of an entry of a directory. -/
@[mk_iff]
inductive NameFault (subDir name : String) : EngineError → Prop
  | name :
      isComponent name = false →
      NameFault subDir name (.configuration ("invalid template name '" ++ name ++ "'"))
  | subDir :
      isComponent name = true → isComponent subDir = false →
      NameFault subDir name (.configuration ("invalid sub-directory '" ++ subDir ++ "'"))

/-- A template has no place in the store if one of its names is none. -/
theorem place_eq_error (place : FilePath → FilePath) :
    (match checkComponent "template name" name with
      | .error e => Except.error e
      | .ok _ => (s.subDirPath subDir).map place) = .error x ↔ NameFault subDir name x := by
  unfold subDirPath checkComponent
  rw [nameFault_iff]
  cases isComponent name <;> cases isComponent subDir <;> simp [Except.map, eq_comm]

theorem fragmentDir_eq_error : s.fragmentDir subDir name = .error x ↔ NameFault subDir name x :=
  place_eq_error fun dir => dir.child name

theorem artifactPath_eq_error : s.artifactPath subDir name = .error x ↔ NameFault subDir name x :=
  place_eq_error fun dir => dir.child (name ++ ".yaml")

/-! ## Fragments -/

/-- What is wrong with one file of fragments. -/
inductive FileFault (disk : Disk) (dir : FilePath) (file : String × String) : EngineError → Prop
  | unreadable {m : String} :
      disk.unreadable (dir.child file.1).parts = some m →
      FileFault disk dir file (.io (dir.child file.1).text m)
  | malformed {e : EngineError} :
      disk.unreadable (dir.child file.1).parts = none →
      Fragment.ofText (dir.child file.1).text file.2 = .error e → FileFault disk dir file e

/-- What is wrong with the fragments of a template. -/
inductive FragmentFault (disk : Disk) (s : TemplateStore) (files : FileTree)
    (subDir name : String) : EngineError → Prop
  | name {e : EngineError} : NameFault subDir name e → FragmentFault disk s files subDir name e
  | missing {dir : FilePath} :
      s.fragmentDir subDir name = .ok dir → files.entersDir dir.parts = false →
      FragmentFault disk s files subDir name
        (.notFound ("fragments of template " ++ shown subDir name ++ " at " ++
          Text.quoted dir.text))
  | file {dir : FilePath} {file : String × String} {e : EngineError} :
      s.fragmentDir subDir name = .ok dir → files.entersDir dir.parts = true →
      file ∈ fragmentFiles files dir → FileFault disk dir file e →
      FragmentFault disk s files subDir name e
  /-- The fragments have no order. -/
  | unordered {fs : List Fragment} {e : MergeError} :
      s.fragmentsOn disk files subDir name = .ok fs → Fragment.inOrder fs = .error e →
      FragmentFault disk s files subDir name e.toEngineError
  /-- A rule has no id, or one that is declared twice. -/
  | unidentified {fs order : List Fragment} {e : EngineError} :
      s.fragmentsOn disk files subDir name = .ok fs → Fragment.inOrder fs = .ok order →
      Fragment.FirstRefusal (Fragment.declarations order) e →
      FragmentFault disk s files subDir name e

/-- Nothing is wrong with a file that is read and says a fragment. -/
theorem not_fileFault {file : String × String} {f : Fragment}
    (hreadable : disk.unreadable (dir.child file.1).parts = none)
    (htext : Fragment.ofText (dir.child file.1).text file.2 = .ok f) (x : EngineError) :
    ¬FileFault disk dir file x := by
  intro h
  cases h with
  | unreadable hsome =>
      rw [hreadable] at hsome
      cases hsome
  | malformed _ herror =>
      rw [htext] at herror
      cases herror

/-- Files are read up to the first one that is faulty. -/
theorem detects_readFragmentsOn (disk : Disk) (dir : FilePath) (sources : List (String × String)) :
    Detects (fun x => ∃ file ∈ sources, FileFault disk dir file x)
      (readFragmentsOn disk dir sources) := by
  induction sources with
  | nil =>
      rintro x ⟨file, hfile, -⟩
      cases hfile
  | cons source sources ih =>
      rw [readFragmentsOn]
      cases hreadable : disk.unreadable (dir.child source.1).parts with
      | some m => exact ⟨source, List.mem_cons_self, .unreadable hreadable⟩
      | none =>
          dsimp only
          unfold readFragment
          cases htext : Fragment.ofText (dir.child source.1).text source.2 with
          | error e => exact ⟨source, List.mem_cons_self, .malformed hreadable htext⟩
          | ok f =>
              cases hrest : readFragmentsOn disk dir sources with
              | error e =>
                  obtain ⟨file, hfile, hfault⟩ := ih.fault hrest
                  exact ⟨file, List.mem_cons_of_mem _ hfile, hfault⟩
              | ok fs =>
                  rintro x ⟨file, hfile, hfault⟩
                  rcases List.mem_cons.1 hfile with rfl | hfile
                  · exact not_fileFault hreadable htext x hfault
                  · exact ih.not_fault hrest x ⟨file, hfile, hfault⟩

/-- Nothing is wrong with fragments that make up a template. -/
theorem not_fragmentFault {fs : List Fragment} (hfs : s.fragmentsOn disk files subDir name = .ok fs)
    (hmerge : Template.merge subDir name fs = .ok t) (x : EngineError) :
    ¬FragmentFault disk s files subDir name x := by
  obtain ⟨dir, hdir, henters, hread⟩ := fragmentsOn_eq_ok hfs
  obtain ⟨order, horder, hids, -⟩ := Template.merge_eq_ok_iff.1 hmerge
  intro h
  cases h with
  | name hname =>
      rw [fragmentDir_eq_error.2 hname] at hdir
      cases hdir
  | missing hdir' hmissing =>
      obtain rfl := Except.ok.inj (hdir.symm.trans hdir')
      rw [henters] at hmissing
      cases hmissing
  | file hdir' _ hfile hfault =>
      obtain rfl := Except.ok.inj (hdir.symm.trans hdir')
      exact (detects_readFragmentsOn disk dir _).not_fault hread x ⟨_, hfile, hfault⟩
  | unordered hfs' herror =>
      obtain rfl := Except.ok.inj (hfs.symm.trans hfs')
      rw [horder] at herror
      cases herror
  | unidentified hfs' horder' hrefused =>
      obtain rfl := Except.ok.inj (hfs.symm.trans hfs')
      obtain rfl := Except.ok.inj (horder.symm.trans horder')
      rw [← Fragment.map_declarations] at hids
      exact hrefused.not_areIdentified hids

theorem fragmentFault_of_error (h : s.fragmentsOn disk files subDir name = .error x) :
    FragmentFault disk s files subDir name x := by
  unfold fragmentsOn at h
  split at h
  · next hdir =>
    cases h
    exact .name (fragmentDir_eq_error.1 hdir)
  · next dir hdir =>
    by_cases henters : files.entersDir dir.parts = true
    · rw [if_pos henters] at h
      obtain ⟨file, hfile, hfault⟩ := (detects_readFragmentsOn disk dir _).fault h
      exact .file hdir henters hfile hfault
    · rw [if_neg henters] at h
      cases h
      exact .missing hdir (Bool.eq_false_iff.2 henters)

/-- **The fragments make up the template that was asked for, or one of their faults is found.** -/
theorem detects_loadFragmentsOn (disk : Disk) (s : TemplateStore) (files : FileTree)
    (subDir name : String) :
    Detects (FragmentFault disk s files subDir name) (s.loadFragmentsOn disk files subDir name) := by
  unfold loadFragmentsOn
  cases hfs : s.fragmentsOn disk files subDir name with
  | error e => exact fragmentFault_of_error hfs
  | ok fs =>
      dsimp only
      cases hmerge : Template.merge subDir name fs with
      | ok t => exact not_fragmentFault hfs hmerge
      | error e =>
          cases horder : Fragment.inOrder fs with
          | ok order =>
              have hrefused := (Template.merge_eq_error_iff horder _).1 ⟨e, hmerge, rfl⟩
              exact .unidentified hfs horder hrefused
          | error e' =>
              have hsame : e' = e := by
                unfold Template.merge at hmerge
                rw [horder] at hmerge
                exact Except.error.inj hmerge
              rw [← hsame]
              exact .unordered hfs horder

theorem names_of_loadFragmentsOn (h : s.loadFragmentsOn disk files subDir name = .ok t) :
    t.subDir = subDir ∧ t.name = name := by
  obtain ⟨fs, -, hmerge⟩ := loadFragmentsOn_eq_ok h
  obtain ⟨order, -, rfl⟩ := Template.merge_eq_ok hmerge
  exact ⟨rfl, rfl⟩

/-! ## Artifacts -/

/-- What is wrong with the artifact of a template. -/
inductive ArtifactFault (disk : Disk) (s : TemplateStore) (files : FileTree)
    (subDir name : String) : EngineError → Prop
  | name {e : EngineError} : NameFault subDir name e → ArtifactFault disk s files subDir name e
  | missing {path : FilePath} :
      s.artifactPath subDir name = .ok path → files.read path.parts = .error .notFound →
      ArtifactFault disk s files subDir name
        (.notFound ("merged artifact of " ++ shown subDir name ++ " at " ++ Text.quoted path.text))
  /-- The path leads to something else than a regular file. -/
  | unusable {path : FilePath} {e : FileError} :
      s.artifactPath subDir name = .ok path → files.read path.parts = .error e → e ≠ .notFound →
      ArtifactFault disk s files subDir name (ioError path e)
  | unreadable {path : FilePath} {text m : String} :
      s.artifactPath subDir name = .ok path → files.read path.parts = .ok text →
      disk.unreadable path.parts = some m → disk.garbled path.parts = false →
      ArtifactFault disk s files subDir name (.io path.text m)
  | garbled {path : FilePath} {text m : String} :
      s.artifactPath subDir name = .ok path → files.read path.parts = .ok text →
      disk.unreadable path.parts = some m → disk.garbled path.parts = true →
      ArtifactFault disk s files subDir name (.parse path.text m none)
  | malformed {path : FilePath} {text : String} {e : EngineError} :
      s.artifactPath subDir name = .ok path → files.read path.parts = .ok text →
      disk.unreadable path.parts = none → Template.ofArtifact path.text text = .error e →
      ArtifactFault disk s files subDir name e
  /-- The artifact is that of another template. -/
  | other {path : FilePath} {text : String} {t : Template} :
      s.artifactPath subDir name = .ok path → files.read path.parts = .ok text →
      disk.unreadable path.parts = none → Template.ofArtifact path.text text = .ok t →
      ¬(t.subDir = subDir ∧ t.name = name) →
      ArtifactFault disk s files subDir name
        (.configuration ("artifact " ++ Text.quoted path.text ++ " holds template " ++
          shown t.subDir t.name))

/-- Nothing is wrong with an artifact that says the template that was asked for. -/
theorem not_artifactFault {text : String} (hpath : s.artifactPath subDir name = .ok path)
    (hread : files.read path.parts = .ok text) (hreadable : disk.unreadable path.parts = none)
    (hdecode : Template.ofArtifact path.text text = .ok t)
    (hsame : t.subDir = subDir ∧ t.name = name) (x : EngineError) :
    ¬ArtifactFault disk s files subDir name x := by
  intro h
  cases h with
  | name hname =>
      rw [artifactPath_eq_error.2 hname] at hpath
      cases hpath
  | missing hpath' herror | unusable hpath' herror =>
      obtain rfl := Except.ok.inj (hpath.symm.trans hpath')
      rw [hread] at herror
      cases herror
  | unreadable hpath' _ hsome | garbled hpath' _ hsome =>
      obtain rfl := Except.ok.inj (hpath.symm.trans hpath')
      rw [hreadable] at hsome
      cases hsome
  | malformed hpath' hread' _ herror =>
      obtain rfl := Except.ok.inj (hpath.symm.trans hpath')
      obtain rfl := Except.ok.inj (hread.symm.trans hread')
      rw [hdecode] at herror
      cases herror
  | other hpath' hread' _ hdecode' hother =>
      obtain rfl := Except.ok.inj (hpath.symm.trans hpath')
      obtain rfl := Except.ok.inj (hread.symm.trans hread')
      obtain rfl := Except.ok.inj (hdecode.symm.trans hdecode')
      exact hother hsame

theorem readArtifact_eq_read (hpath : s.artifactPath subDir name = .ok path) {text : String}
    (hread : files.read path.parts = .ok text) :
    s.readArtifact files subDir name = .ok (path, text) := by
  unfold readArtifact
  rw [hpath]
  dsimp only
  rw [hread]

/-- **The artifact says the template that was asked for, or its fault is found.** -/
theorem detects_loadArtifactOn (disk : Disk) (s : TemplateStore) (files : FileTree)
    (subDir name : String) :
    Detects (ArtifactFault disk s files subDir name) (s.loadArtifactOn disk files subDir name) := by
  unfold loadArtifactOn
  cases hpath : s.artifactPath subDir name with
  | error e =>
      unfold readArtifact
      rw [hpath]
      exact .name (artifactPath_eq_error.1 hpath)
  | ok path =>
      cases hread : files.read path.parts with
      | error e =>
          unfold readArtifact
          rw [hpath]
          dsimp only
          rw [hread]
          cases e with
          | notFound => exact .missing hpath hread
          | _ => exact .unusable hpath hread nofun
      | ok text =>
          have hartifact := readArtifact_eq_read hpath hread
          rw [hartifact]
          dsimp only
          cases hreadable : disk.unreadable path.parts with
          | some m =>
              cases hgarbled : disk.garbled path.parts with
              | true => exact .garbled hpath hread hreadable hgarbled
              | false => exact .unreadable hpath hread hreadable hgarbled
          | none =>
              dsimp only
              unfold loadArtifact
              rw [hartifact]
              dsimp only
              cases hdecode : Template.ofArtifact path.text text with
              | error e => exact .malformed hpath hread hreadable hdecode
              | ok t =>
                  by_cases hsame : t.subDir = subDir ∧ t.name = name
                  · simp only [if_pos hsame]
                    exact not_artifactFault hpath hread hreadable hdecode hsame
                  · simp only [if_neg hsame]
                    exact .other hpath hread hreadable hdecode hsame

theorem names_of_loadArtifactOn (h : s.loadArtifactOn disk files subDir name = .ok t) :
    t.subDir = subDir ∧ t.name = name := by
  unfold loadArtifactOn at h
  split at h
  · cases h
  · split at h
    · split at h <;> cases h
    · unfold loadArtifact at h
      split at h
      · cases h
      · split at h
        · cases h
        · split at h
          · next hsame =>
            cases h
            exact hsame
          · cases h

/-! ## Kinds of errors -/

/-- The content of a store is wrong, or cannot be read. -/
inductive IsContentError : EngineError → Prop
  | configuration (message : String) : IsContentError (.configuration message)
  | parse (source message : String) (cause : Option ConditionError) :
      IsContentError (.parse source message cause)
  | io (path message : String) : IsContentError (.io path message)

theorem NameFault.isContentError (h : NameFault subDir name x) : IsContentError x := by
  cases h with
  | name => exact .configuration _
  | subDir => exact .configuration _

theorem FileFault.isContentError {file : String × String} (h : FileFault disk dir file x) :
    IsContentError x := by
  cases h with
  | unreadable => exact .io _ _
  | malformed _ htext =>
      obtain ⟨m, cause, rfl⟩ := Fragment.error_of_ofText htext
      exact .parse _ _ _

/-- Fragments are missing, or their content is wrong, or two of them have a rule in common. -/
theorem FragmentFault.kind (h : FragmentFault disk s files subDir name x) :
    (∃ what, x = .notFound what) ∨ IsContentError x ∨
      ∃ id first second, x = .mergeConflict id first second := by
  cases h with
  | name hname => exact .inr (.inl hname.isContentError)
  | missing => exact .inl ⟨_, rfl⟩
  | file _ _ _ hfault => exact .inr (.inl hfault.isContentError)
  | @unordered _ e =>
      cases e with
      | conflict => exact .inr (.inr ⟨_, _, _, rfl⟩)
      | _ => exact .inr (.inl (.configuration _))
  | unidentified _ _ hrefused =>
      obtain ⟨front, d, back, -, -, hd⟩ := hrefused
      cases hd with
      | blank => exact .inr (.inl (.configuration _))
      | repeated => exact .inr (.inr ⟨_, _, _, rfl⟩)

theorem ArtifactFault.kind (h : ArtifactFault disk s files subDir name x) :
    (∃ what, x = .notFound what) ∨ IsContentError x := by
  cases h with
  | name hname => exact .inr hname.isContentError
  | missing => exact .inl ⟨_, rfl⟩
  | unusable | unreadable => exact .inr (.io _ _)
  | garbled => exact .inr (.parse _ _ _)
  | malformed _ _ _ herror =>
      obtain ⟨m, cause, rfl⟩ := Template.error_of_ofArtifact herror
      exact .inr (.parse _ _ _)
  | other => exact .inr (.configuration _)

/-! ## Templates -/

/-- What is wrong with a template where it is looked for. -/
inductive Fault (disk : Disk) (s : TemplateStore) (files : FileTree) (subDir name : String) :
    Bool → EngineError → Prop
  | fragments {e : EngineError} :
      FragmentFault disk s files subDir name e → Fault disk s files subDir name false e
  | artifact {e : EngineError} :
      ArtifactFault disk s files subDir name e → Fault disk s files subDir name true e

variable {merged : Bool}

theorem detects_loadOn (disk : Disk) (s : TemplateStore) (files : FileTree) (subDir name : String)
    (merged : Bool) :
    Detects (Fault disk s files subDir name merged) (s.loadOn disk files subDir name merged) := by
  cases merged with
  | true =>
      refine (detects_loadArtifactOn disk s files subDir name).congr fun x => ⟨.artifact, fun h => ?_⟩
      cases h with
      | artifact hfault => exact hfault
  | false =>
      refine (detects_loadFragmentsOn disk s files subDir name).congr fun x =>
        ⟨.fragments, fun h => ?_⟩
      cases h with
      | fragments hfault => exact hfault

/-- What is loaded is called what was asked for. -/
theorem names_of_loadOn (h : s.loadOn disk files subDir name merged = .ok t) :
    t.subDir = subDir ∧ t.name = name := by
  cases merged with
  | true => exact names_of_loadArtifactOn h
  | false => exact names_of_loadFragmentsOn h

/-- A template is missing, or its content is wrong, or two of its fragments have a rule in
common. -/
theorem Fault.kind (h : Fault disk s files subDir name merged x) :
    (∃ what, x = .notFound what) ∨ IsContentError x ∨
      (merged = false ∧ ∃ id first second, x = .mergeConflict id first second) := by
  cases h with
  | fragments hfault =>
      rcases hfault.kind with hmissing | hcontent | hconflict
      · exact .inl hmissing
      · exact .inr (.inl hcontent)
      · exact .inr (.inr ⟨rfl, hconflict⟩)
  | artifact hfault =>
      rcases hfault.kind with hmissing | hcontent
      · exact .inl hmissing
      · exact .inr (.inl hcontent)

/-! ## Disks -/

theorem readFragments_of_readFragmentsOn {sources : List (String × String)} {fs : List Fragment}
    (h : readFragmentsOn disk dir sources = .ok fs) : readFragments dir sources = .ok fs := by
  induction sources generalizing fs with
  | nil => exact h
  | cons source sources ih =>
      rw [readFragmentsOn] at h
      split at h
      · cases h
      · rw [readFragments]
        cases hfile : readFragment dir source with
        | error e =>
            rw [hfile] at h
            cases h
        | ok f =>
            rw [hfile] at h
            dsimp only at h ⊢
            cases hrest : readFragmentsOn disk dir sources with
            | error e =>
                rw [hrest] at h
                cases h
            | ok rest =>
                rw [hrest] at h
                rw [ih hrest]
                exact h

theorem load_of_loadOn (h : s.loadOn disk files subDir name merged = .ok t) :
    s.load files subDir name merged = .ok t := by
  cases merged with
  | true =>
      have hload : s.loadArtifactOn disk files subDir name = .ok t := h
      unfold loadArtifactOn at hload
      split at hload
      · cases hload
      · split at hload
        · split at hload <;> cases hload
        · exact hload
  | false =>
      obtain ⟨fs, hfs, hmerge⟩ := loadFragmentsOn_eq_ok h
      obtain ⟨dir, hdir, henters, hread⟩ := fragmentsOn_eq_ok hfs
      have hfragments : s.fragments files subDir name = .ok fs := by
        unfold fragments
        rw [hdir]
        dsimp only
        rw [if_pos henters]
        exact readFragments_of_readFragmentsOn hread
      show s.loadFragments files subDir name = .ok t
      unfold loadFragments
      rw [hfragments]
      dsimp only
      rw [hmerge]

theorem loadOn_of_works (h : disk.Works) (s : TemplateStore) (files : FileTree)
    (subDir name : String) (merged : Bool) :
    s.loadOn disk files subDir name merged = s.load files subDir name merged := by
  cases merged with
  | false => exact loadFragmentsOn_of_works h s files subDir name
  | true =>
      show s.loadArtifactOn disk files subDir name = s.loadArtifact files subDir name
      unfold loadArtifactOn
      split
      · next e herror =>
        unfold loadArtifact
        rw [herror]
      · rw [h.readable]

end TemplateStore

end RuleEngine
