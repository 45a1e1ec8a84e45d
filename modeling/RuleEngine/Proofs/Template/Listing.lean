import RuleEngine.Proofs.Template.Confinement

set_option autoImplicit false

/-! # Listing and loading

The names of templates are read off the entries of a sub-directory: directories by their names, YAML
files by their stems. A template is loaded from the directory of its name, or from the file with
`.yaml` behind its name. So a name that is listed can be loaded, unless it comes from a file with
`.yml` behind it and from nothing else (`TemplateStore.lists`).
-/

namespace RuleEngine

namespace TemplateStore

variable {disk : Disk} {s : TemplateStore} {files : FileTree} {subDir name template : String}
  {dir : FilePath} {entry : FileEntry} {entries : List (String × FileEntry)}

/-! ## The template of an entry -/

/-- A name has one of the extensions of YAML files, and this is its stem. -/
theorem isYaml_and_stem_iff : isYaml name = true ∧ FilePath.stem name = template ↔
    template ≠ "" ∧ (name = template ++ ".yaml" ∨ name = template ++ ".yml") := by
  have hyaml : '.' ∉ "yaml".toList := by decide
  have hyml : '.' ∉ "yml".toList := by decide
  unfold isYaml
  rw [Bool.or_eq_true, beq_iff_eq, beq_iff_eq]
  constructor
  · rintro ⟨hext | hext, rfl⟩
    · obtain ⟨hbase, hname⟩ := FilePath.stem_of_extension hext
      exact ⟨hbase, .inl hname⟩
    · obtain ⟨hbase, hname⟩ := FilePath.stem_of_extension hext
      exact ⟨hbase, .inr hname⟩
  · rintro ⟨hbase, rfl | rfl⟩
    · exact (FilePath.extension_append hbase hyaml).imp_left .inl
    · exact (FilePath.extension_append hbase hyml).imp_left .inr

/-- A directory belongs to the template of its name; a file belongs to the template that has `.yaml`
or `.yml` put behind its name. -/
theorem templateOf?_eq_some_iff (hname : name ≠ "") : templateOf? name entry = some template ↔
    template ≠ "" ∧ FilePath.isHidden template = false ∧
      ((entry = .directory ∧ name = template) ∨
        ∃ text, entry = .file text ∧ (name = template ++ ".yaml" ∨ name = template ++ ".yml")) := by
  unfold templateOf?
  cases hhidden : FilePath.isHidden name with
  | true =>
      rw [if_pos rfl]
      refine iff_of_false nofun ?_
      rintro ⟨htemplate, hvisible, ⟨-, rfl⟩ | ⟨text, -, rfl | rfl⟩⟩
      · rw [hhidden] at hvisible
        cases hvisible
      all_goals
        rw [FilePath.isHidden_append htemplate, hvisible] at hhidden
        cases hhidden
  | false =>
      rw [if_neg (by decide)]
      cases entry with
      | directory =>
          rw [Option.some.injEq]
          constructor
          · rintro rfl
            exact ⟨hname, hhidden, .inl ⟨rfl, rfl⟩⟩
          · rintro ⟨-, -, ⟨-, heq⟩ | ⟨text, hfile, -⟩⟩
            · exact heq
            · cases hfile
      | file text =>
          have hstem : (if isYaml name then some (FilePath.stem name) else none) = some template ↔
              isYaml name = true ∧ FilePath.stem name = template := by
            split <;> simp_all
          dsimp only
          rw [hstem, isYaml_and_stem_iff]
          constructor
          · rintro ⟨htemplate, heq⟩
            refine ⟨htemplate, ?_, .inr ⟨text, rfl, heq⟩⟩
            rcases heq with rfl | rfl
            all_goals rwa [FilePath.isHidden_append htemplate] at hhidden
          · rintro ⟨htemplate, -, ⟨hdirectory, -⟩ | ⟨_, -, heq⟩⟩
            · cases hdirectory
            · exact ⟨htemplate, heq⟩

/-! ## Missing templates -/

/-- Every fault of fragments but their absence is something else than that they are not found. -/
theorem FragmentFault.missing_of_notFound {what : String}
    (h : FragmentFault disk s files subDir name (.notFound what)) :
    ∃ dir, s.fragmentDir subDir name = .ok dir ∧ files.entersDir dir.parts = false := by
  generalize hx : EngineError.notFound what = x at h
  cases h with
  | name hfault =>
      rw [← hx] at hfault
      cases hfault.isContentError
  | missing hdir hmissing => exact ⟨_, hdir, hmissing⟩
  | file _ _ _ hfault =>
      rw [← hx] at hfault
      cases hfault.isContentError
  | @unordered _ e => cases e <;> cases hx
  | unidentified _ _ hrefused =>
      obtain ⟨front, d, back, -, -, hd⟩ := hrefused
      cases hd <;> cases hx

/-- The fragments of a template are not found if its directory cannot be entered. -/
theorem loadFragmentsOn_notFound_iff (hdir : s.fragmentDir subDir name = .ok dir) :
    (∃ what, s.loadFragmentsOn disk files subDir name = .error (.notFound what)) ↔
      files.entersDir dir.parts = false := by
  constructor
  · rintro ⟨what, hload⟩
    obtain ⟨dir', hdir', hmissing⟩ :=
      ((detects_loadFragmentsOn disk s files subDir name).fault hload).missing_of_notFound
    rw [Except.ok.inj (hdir.symm.trans hdir')]
    exact hmissing
  · intro hmissing
    unfold loadFragmentsOn fragmentsOn
    rw [hdir]
    dsimp only
    rw [if_neg (by rw [hmissing]; decide)]
    exact ⟨_, rfl⟩

/-- The artifact of a template is not found if nothing lies at its path. -/
theorem loadArtifactOn_notFound_iff {path : FilePath}
    (hpath : s.artifactPath subDir name = .ok path) :
    (∃ what, s.loadArtifactOn disk files subDir name = .error (.notFound what)) ↔
      files.read path.parts = .error .notFound := by
  constructor
  · rintro ⟨what, hload⟩
    have hfault := (detects_loadArtifactOn disk s files subDir name).fault hload
    generalize hx : EngineError.notFound what = x at hfault
    cases hfault with
    | name hname =>
        rw [← hx] at hname
        cases hname.isContentError
    | missing hpath' hmissing =>
        rw [Except.ok.inj (hpath.symm.trans hpath')]
        exact hmissing
    | malformed _ _ _ herror =>
        obtain ⟨m, cause, rfl⟩ := Template.error_of_ofArtifact herror
        cases hx
    | _ => cases hx
  · intro hmissing
    unfold loadArtifactOn readArtifact
    rw [hpath]
    dsimp only
    rw [hmissing]
    exact ⟨_, rfl⟩

/-! ## Listing -/

/-- A template can be loaded from its fragments or from its artifact, or is at least found by one of
these. -/
def IsFound (disk : Disk) (s : TemplateStore) (files : FileTree) (subDir name : String) : Prop :=
  ∃ merged, ∀ what, s.loadOn disk files subDir name merged ≠ .error (.notFound what)

/-- The names that are listed for the entries of a sub-directory, and which of them are found. -/
structure Lists (disk : Disk) (s : TemplateStore) (files : FileTree) (subDir : String)
    (entries : List (String × FileEntry)) (names : List String) : Prop where
  /-- Names are listed in order, each once. -/
  sorted : names.Pairwise (· < ·)
  /-- The visible names of directories are listed, and those that `.yaml` or `.yml` stands behind in
  the name of a file. -/
  listed : ∀ name, name ∈ names ↔ name ≠ "" ∧ FilePath.isHidden name = false ∧
    ((name, .directory) ∈ entries ∨
      ∃ text, (name ++ ".yaml", .file text) ∈ entries ∨ (name ++ ".yml", .file text) ∈ entries)
  /-- A listed name with a directory, or with an entry for its artifact, is found; any other one is
  not, unless no file can have the name of its artifact. -/
  found : ∀ name ∈ names, IsFound disk s files subDir name ↔ (name, .directory) ∈ entries ∨
    (∃ entry, (name ++ ".yaml", entry) ∈ entries) ∨ FileTree.isLong (name ++ ".yaml") = true

theorem checkComponent_ok {what : String} (h : isComponent name = true) :
    checkComponent what name = .ok () := if_pos h

/-- A template is not found if it has neither a directory nor anything at the path of its
artifact. -/
theorem isFound_iff (hdir : s.subDirPath subDir = .ok dir) (hname : isComponent name = true) :
    IsFound disk s files subDir name ↔ files.entersDir (dir.parts ++ [name]) = true ∨
      files.read (dir.parts ++ [name ++ ".yaml"]) ≠ .error .notFound := by
  have hfragments : s.fragmentDir subDir name = .ok (dir.child name) := by
    unfold fragmentDir
    rw [checkComponent_ok hname, hdir]
    rfl
  have hartifact : s.artifactPath subDir name = .ok (dir.child (name ++ ".yaml")) := by
    unfold artifactPath
    rw [checkComponent_ok hname, hdir]
    rfl
  have hfirst : (∀ what, s.loadOn disk files subDir name false ≠ .error (.notFound what)) ↔
      files.entersDir (dir.parts ++ [name]) = true := by
    rw [← not_exists, ← Bool.not_eq_false]
    exact not_congr (loadFragmentsOn_notFound_iff hfragments)
  have hsecond : (∀ what, s.loadOn disk files subDir name true ≠ .error (.notFound what)) ↔
      files.read (dir.parts ++ [name ++ ".yaml"]) ≠ .error .notFound := by
    rw [← not_exists]
    exact not_congr (loadArtifactOn_notFound_iff hartifact)
  unfold IsFound
  rw [Bool.exists_bool, hfirst, hsecond]

/-- A visible name without separators is one that the store takes. -/
theorem isComponent_of_plain (hne : name ≠ "") (hvisible : FilePath.isHidden name = false)
    (hplain : ∀ c ∈ name.toList, c ≠ '/' ∧ c ≠ '\\' ∧ c.toNat ≠ 0) : isComponent name = true :=
  isComponent_iff.2 ⟨hne, hvisible, fun c hc => ⟨(hplain c hc).1, (hplain c hc).2.1⟩⟩

/-- The names that are listed for entries belong to one of them. -/
theorem list_of_entries (hdir : s.subDirPath subDir = .ok dir)
    (hentries : files.entries dir.parts = .ok entries) :
    ∃ names, s.list files subDir = .ok names ∧ names.Pairwise (· < ·) ∧
      ∀ name, name ∈ names ↔ ∃ e ∈ entries, templateOf? e.1 e.2 = some name := by
  unfold list
  rw [hdir]
  dsimp only
  rw [hentries]
  refine ⟨_, rfl, List.pairwise_map.2 (Table.sorted_ofList _), fun name => ?_⟩
  rw [Table.mem_keys_ofList, List.map_map]
  show name ∈ List.map id _ ↔ _
  rw [List.map_id, List.mem_filterMap]

/-- The names that entries stand for. -/
theorem exists_templateOf?_iff (hnames : ∀ e ∈ entries, FilePath.IsEntryName e.1) :
    (∃ e ∈ entries, templateOf? e.1 e.2 = some name) ↔ name ≠ "" ∧ FilePath.isHidden name = false ∧
      ((name, .directory) ∈ entries ∨ ∃ text, (name ++ ".yaml", .file text) ∈ entries ∨
        (name ++ ".yml", .file text) ∈ entries) := by
  constructor
  · rintro ⟨⟨entryName, entry⟩, hentry, htemplate⟩
    obtain ⟨hne, hvisible, hcases⟩ :=
      (templateOf?_eq_some_iff (hnames _ hentry).nonempty).1 htemplate
    refine ⟨hne, hvisible, ?_⟩
    rcases hcases with ⟨rfl, rfl⟩ | ⟨text, rfl, rfl | rfl⟩
    · exact .inl hentry
    · exact .inr ⟨text, .inl hentry⟩
    · exact .inr ⟨text, .inr hentry⟩
  · rintro ⟨hne, hvisible, hentry | ⟨text, hentry | hentry⟩⟩
    all_goals
      refine ⟨_, hentry, (templateOf?_eq_some_iff (hnames _ hentry).nonempty).2 ?_⟩
      refine ⟨hne, hvisible, ?_⟩
    · exact .inl ⟨rfl, rfl⟩
    · exact .inr ⟨text, rfl, .inl rfl⟩
    · exact .inr ⟨text, rfl, .inr rfl⟩

/-- **Listing and loading.** The names that are listed for the entries of a sub-directory are the
visible names of directories and of YAML files without their extensions. Every one of them is found,
but those that come from a file with `.yml` behind its name and from nothing else. -/
theorem lists (hdir : s.subDirPath subDir = .ok dir) (hentries : files.entries dir.parts = .ok entries)
    (hnames : ∀ e ∈ entries, FilePath.IsEntryName e.1) :
    ∃ names, s.list files subDir = .ok names ∧ Lists disk s files subDir entries names := by
  obtain ⟨names, hlist, hsorted, hmem⟩ := list_of_entries hdir hentries
  have hlisted := fun name => (hmem name).trans (exists_templateOf?_iff hnames)
  refine ⟨names, hlist, hsorted, hlisted, fun name hname => ?_⟩
  obtain ⟨hne, hvisible, hsource⟩ := (hlisted name).1 hname
  -- an entry begins with the name, and so what holds of the names of entries holds of it
  obtain ⟨rest, hentryName⟩ : ∃ rest, FilePath.IsEntryName (name ++ rest) := by
    rcases hsource with hentry | ⟨text, hentry | hentry⟩
    · exact ⟨"", by rw [String.append_empty]; exact hnames _ hentry⟩
    · exact ⟨_, hnames _ hentry⟩
    · exact ⟨_, hnames _ hentry⟩
  have hplain := hentryName.plain_of_append
  have hzero : ∀ c ∈ (name ++ ".yaml").toList, c.toNat ≠ 0 := by
    rw [String.toList_append, List.forall_mem_append]
    exact ⟨fun c hc => (hplain c hc).2.2, by simp⟩
  rw [isFound_iff hdir (isComponent_of_plain hne hvisible hplain),
    FileTree.entersDir_child_iff hentries hnames fun c hc => (hplain c hc).2.2,
    Ne, FileTree.read_child_notFound_iff hentries hzero, not_and_or, Bool.not_eq_false, not_forall_not,
    or_comm (a := FileTree.isLong _ = true)]

/-- Directories, artifacts and a file with `.yml` behind its name are listed, hidden files and others
are not. -/
theorem lists_of_mixed : ∃ (s : TemplateStore) (files : FileTree) (dir : FilePath)
    (entries : List (String × FileEntry)), s.subDirPath "combat" = .ok dir ∧
      files.entries dir.parts = .ok entries ∧ (∀ e ∈ entries, FilePath.IsEntryName e.1) ∧
      s.list files "combat" = .ok ["boss", "farm", "old"] ∧
      Lists {} s files "combat" entries ["boss", "farm", "old"] := by
  let s : TemplateStore := ⟨⟨"root", []⟩⟩
  let files : FileTree :=
    { files := [(["combat", "boss.yaml"], ""), (["combat", "farm.yml"], ""),
        (["combat", "old.yaml"], ""), (["combat", ".tmp"], ""), (["combat", "notes.txt"], "")]
      dirs := [["combat"], ["combat", "boss"]] }
  have hdir : s.subDirPath "combat" = .ok ⟨"root/combat", ["combat"]⟩ := by decide
  have hentries : files.entries ["combat"] = .ok [("boss.yaml", .file ""), ("farm.yml", .file ""),
      ("old.yaml", .file ""), (".tmp", .file ""), ("notes.txt", .file ""), ("boss", .directory)] := by
    decide
  have hnames : ∀ e ∈ [("boss.yaml", FileEntry.file ""), ("farm.yml", .file ""),
      ("old.yaml", .file ""), (".tmp", .file ""), ("notes.txt", .file ""), ("boss", .directory)],
      FilePath.IsEntryName e.1 := by decide
  obtain ⟨names, hlist, hlists⟩ : ∃ names, s.list files "combat" = .ok names ∧
      Lists {} s files "combat" _ names := lists hdir hentries hnames
  have hsame : s.list files "combat" = .ok ["boss", "farm", "old"] := by decide +kernel
  obtain rfl := Except.ok.inj (hsame.symm.trans hlist)
  exact ⟨s, files, _, _, hdir, hentries, hnames, hsame, hlists⟩

/-- Not every name that is listed is found: that of a file with `.yml` behind it is not. -/
theorem not_found_of_yml : ¬∀ (s : TemplateStore) (files : FileTree) (subDir : String)
    (dir : FilePath) (entries : List (String × FileEntry)) (names : List String),
    s.subDirPath subDir = .ok dir → files.entries dir.parts = .ok entries →
    (∀ e ∈ entries, FilePath.IsEntryName e.1) → s.list files subDir = .ok names →
    ∀ name ∈ names, IsFound {} s files subDir name := by
  intro h
  let files : FileTree := { files := [(["combat", "farm.yml"], "")], dirs := [["combat"]] }
  obtain ⟨merged, hfound⟩ := h ⟨⟨"root", []⟩⟩ files "combat" ⟨"root/combat", ["combat"]⟩
    [("farm.yml", .file "")] ["farm"] (by decide) (by decide) (by decide) (by decide +kernel)
    "farm" (List.mem_singleton_self _)
  -- there is neither a directory `farm` nor a file `farm.yaml`
  cases merged with
  | false => exact hfound _ rfl
  | true => exact hfound _ rfl

end TemplateStore

end RuleEngine
