import RuleEngine.Proofs.Decode.Source
import RuleEngine.Proofs.Files.Staging
import RuleEngine.Proofs.Interleaving
import RuleEngine.Simulation.Settings

set_option autoImplicit false

/-! # Settings that cannot be written

A change of settings that cannot be written is answered with an error, and all files are as before.
The table in memory has the change all the same (`SettingsCall.leavesHalf`): whoever sets the same
value again notices nothing, but a key that could not be taken out of the file is gone from the table,
and the second attempt answers that there was no such key. What is in memory is what all calls make
of it, those that failed included (`values_of_run`), and the next change that can be written brings
them to the file.

On a disk that works the calls do what they do on a tree of files (`setOn_of_works`,
`removeOn_of_works`).
-/

namespace RuleEngine

namespace Settings

variable {s : Settings} {disk : Disk} {files files' : FileTree} {path : FilePath} {key : String}

/-! ## Writing the table -/

theorem stagingError_eq_io (dir path : FilePath) (e : StagingError) :
    ∃ place message, TemplateStore.stagingError dir path e = .io place message := by
  cases e with
  | file e => exact ⟨path.text, e.message, rfl⟩
  | directory m => exact ⟨dir.text, m, rfl⟩
  | temporary name m => exact ⟨(dir.child name).text, m, rfl⟩
  | target m => exact ⟨path.text, m, rfl⟩

/-- How a table is written: the file is replaced, or no file has changed, nor have the directories
if the file could be read. -/
theorem persistOn_cases (disk : Disk) (files : FileTree) (hpath : s.path = some path) :
    (∃ place message files', s.persistOn disk files = (.error (.io place message), files') ∧
        files'.files = files.files ∧ ∀ text, files.read path.parts = .ok text → files' = files) ∨
      ∃ files', s.persistOn disk files = (.ok (), files') ∧
        files.replace path.parts (render s.values) = (.ok (), files') := by
  obtain ⟨answer, files', hreplace⟩ : ∃ answer files',
      files.replaceOn disk path.parts (render s.values) = (answer, files') := ⟨_, _, rfl⟩
  unfold persistOn
  rw [hpath]
  dsimp only
  rw [hreplace]
  cases answer with
  | error e =>
      obtain ⟨place, message, herror⟩ := stagingError_eq_io path.directory path e
      refine Or.inl ⟨place, message, files', by rw [← herror], FileTree.replaceOn_error hreplace, ?_⟩
      intro text hread
      -- the file could be read, and so no directory was missing
      obtain ⟨-, -, -, hdirs⟩ := FileTree.dirs_of_read hread
      exact FileTree.replaceOn_error_of_dirs (fun front hfront _ => hdirs front hfront) hreplace
  | ok _ => exact Or.inr ⟨files', rfl, FileTree.replaceOn_ok hreplace⟩

/-- On a disk that works the table is written as on a tree of files. -/
theorem persistOn_of_works (h : disk.Works)
    (hname : ∀ path, s.path = some path → disk.HasName (files.createDirs path.parent).2 path.parent) :
    s.persistOn disk files = s.persist files := by
  unfold persistOn persist
  cases hpath : s.path with
  | none => rfl
  | some path =>
      dsimp only
      rw [FileTree.replaceOn_of_works h (hname path hpath)]
      obtain ⟨answer, files', hreplace⟩ : ∃ answer files',
          files.replace path.parts (render s.values) = (answer, files') := ⟨_, _, rfl⟩
      rw [hreplace]
      cases answer with
      | error e => rfl
      | ok _ => rfl

theorem setOn_of_works (h : disk.Works)
    (hname : ∀ path, s.path = some path → disk.HasName (files.createDirs path.parent).2 path.parent)
    (value : Json) : s.setOn disk files key value = s.set files key value := by
  have hwritten := persistOn_of_works (s := { s with values := s.values.insert key value }) h hname
  unfold setOn set
  dsimp only
  rw [hwritten]

theorem removeOn_of_works (h : disk.Works)
    (hname : ∀ path, s.path = some path → disk.HasName (files.createDirs path.parent).2 path.parent) :
    s.removeOn disk files key = s.remove files key := by
  unfold removeOn remove
  cases s.get? key with
  | none => rfl
  | some old =>
      have hwritten := persistOn_of_works (s := { s with values := s.values.erase key }) h hname
      dsimp only
      rw [hwritten]

/-! ## Opening -/

/-- Settings that are opened lie in their file, and their keys are in order. -/
theorem open_ok (h : open_ files path = .ok s) : s.path = some path ∧ s.values.Sorted := by
  unfold open_ at h
  split at h
  · next text _ =>
    unfold ofText at h
    split at h
    · cases h
      exact ⟨rfl, .nil⟩
    · split at h
      · next values hdecode =>
        cases h
        unfold Yaml.decode at hdecode
        dsimp only at hdecode
        split at hdecode
        · cases hdecode
        · next hvalues =>
          split at hdecode
          · cases hdecode
            exact ⟨rfl, (Decode.sorted_table .trivial trivial hvalues).1⟩
          · cases hdecode
      · cases h
  · cases h
    exact ⟨rfl, .nil⟩
  · cases h

end Settings

/-! ## Calls -/

/-- What happens to settings: a call is made on a disk that may fail anywhere, or somebody else
changes the files. -/
inductive SettingsEvent
  | call (disk : Disk) (c : SettingsCall)
  | outside (files : FileTree)

/-- The table in memory and the files, and what the events make of them. -/
inductive SettingsStep : Settings × FileTree → SettingsEvent → Settings × FileTree → Prop
  | call {s s' : Settings} {files files' : FileTree} {disk : Disk} {c : SettingsCall}
      {answer : Except EngineError (Option Json)} :
      c.run disk s files = (answer, s', files') →
      SettingsStep (s, files) (.call disk c) (s', files')
  | outside {s : Settings} {files : FileTree} (files' : FileTree) :
      SettingsStep (s, files) (.outside files') (s, files')

def SettingsEvent.call? : SettingsEvent → Option SettingsCall
  | .call _ c => some c
  | .outside _ => none

namespace SettingsCall

variable {c : SettingsCall} {s s' s₀ : Settings} {disk : Disk} {files files' start : FileTree}
  {path : FilePath} {values : Table Json} {e : EngineError} {es : List SettingsEvent}

/-- A call keeps the keys in order. -/
theorem sorted_apply (h : values.Sorted) (c : SettingsCall) : (c.apply values).Sorted := by
  cases c with
  | set key value => exact h.insert key value
  | remove key => exact h.erase key

/-- The only change that changes nothing gives a key the value that it has. -/
theorem apply_eq_self_iff (h : values.Sorted) (hwrites : c.writes values = true) :
    c.apply values = values ↔ ∃ key value, c = .set key value ∧ values.get? key = some value := by
  cases c with
  | set key value =>
      constructor
      · intro heq
        refine ⟨key, value, rfl, ?_⟩
        rw [← heq]
        exact Table.get?_insert_self values key value
      · rintro ⟨_, _, heq, hget⟩
        cases heq
        exact h.insert_present hget
  | remove key =>
      refine iff_of_false (fun heq => ?_) (by rintro ⟨_, _, heq, -⟩; cases heq)
      have hgone := h.get?_erase key
      rw [show values.erase key = values from heq] at hgone
      change (values.get? key).isSome = true at hwrites
      rw [hgone] at hwrites
      cases hwrites

/-- Nothing happens where a key is taken out that is not there. -/
theorem run_remove_of_missing {key : String} (h : s.values.get? key = none) :
    (remove key).run disk s files = (.ok none, s, files) := by
  show s.removeOn disk files key = _
  rw [Settings.removeOn, Settings.get?, h]

/-- **What a call does.** There is nothing to change and nothing is written, or the table has the
change and is written as it is then, and the call comes off if this does. -/
theorem run_cases (disk : Disk) (c : SettingsCall) (s : Settings) (files : FileTree) :
    (c.writes s.values = false ∧ c.apply s.values = s.values ∧
        c.run disk s files = (.ok none, s, files)) ∨
      (c.writes s.values = true ∧ ∃ answer files',
        ({ s with values := c.apply s.values } : Settings).persistOn disk files =
            (answer, files') ∧
          c.run disk s files = (answer.map fun _ => c.taken s.values,
            { s with values := c.apply s.values }, files')) := by
  cases c with
  | set key value => exact Or.inr ⟨rfl, _, _, rfl, rfl⟩
  | remove key =>
      cases hget : s.values.get? key with
      | none =>
          refine Or.inl ⟨?_, Table.erase_eq_self hget, ?_⟩
          · show (s.values.get? key).isSome = false
            rw [hget]
            rfl
          · exact run_remove_of_missing hget
      | some old =>
          refine Or.inr ⟨?_, _, _, rfl, ?_⟩
          · show (s.values.get? key).isSome = true
            rw [hget]
            rfl
          · show s.removeOn disk files key = _
            rw [Settings.removeOn, Settings.get?, hget]
            show _ = (Except.map (fun _ => s.values.get? key) _, _, _)
            rw [hget]
            rfl

/-- Whatever becomes of the file, the table has the change. -/
theorem table_of_run {answer : Except EngineError (Option Json)}
    (h : c.run disk s files = (answer, s', files')) :
    s' = { s with values := c.apply s.values } := by
  rcases run_cases disk c s files with ⟨-, happly, hrun⟩ | ⟨-, _, _, -, hrun⟩
  · rw [hrun] at h
    cases h
    rw [happly]
  · rw [hrun] at h
    cases h
    rfl

/-- **What is in memory is what all calls make of it**, those that failed included. -/
theorem values_of_run {x y : Settings × FileTree} (h : Run SettingsStep x es y) :
    y.1 = { x.1 with
      values := (es.filterMap SettingsEvent.call?).foldl (fun t c => c.apply t) x.1.values } := by
  induction h with
  | nil => rfl
  | snoc _ hstep ih =>
      rw [List.filterMap_append, List.foldl_append]
      cases hstep with
      | call hrun =>
          rw [table_of_run hrun]
          dsimp only at ih ⊢
          rw [ih]
          rfl
      | outside _ => exact ih

/-- Settings that were opened keep their file and the order of their keys. -/
theorem sorted_of_run (hopen : Settings.open_ start path = .ok s₀)
    (hrun : Run SettingsStep (s₀, start) es (s, files)) :
    s.path = some path ∧ s.values.Sorted := by
  obtain ⟨hpath, hsorted⟩ := Settings.open_ok hopen
  obtain rfl := values_of_run hrun
  refine ⟨hpath, ?_⟩
  show Table.Sorted (List.foldl _ s₀.values _)
  exact List.foldlRecOn _ _ hsorted fun t ht c _ => sorted_apply ht c

/-! ## Failure -/

/-- What a change leaves behind that could not be written: the files of before, and a table that has
the change. -/
structure LeavesHalf (c : SettingsCall) (path : FilePath) (e : EngineError) (s s' : Settings)
    (before after : FileTree) : Prop where
  /-- The error is one of the disk. -/
  error : ∃ place message, e = .io place message
  /-- All files are as before, and no temporary one is left; if the file could be read, the
  directories are as before as well. -/
  files : after.files = before.files
  tree : ∀ text, before.read path.parts = .ok text → after = before
  /-- The table has the change, -/
  table : s' = { s with values := c.apply s.values }
  /-- and so it is as before only where a key was given the value that it had. -/
  same_iff : s' = s ↔ ∃ key value, c = .set key value ∧ s.get? key = some value
  /-- To give the key its value again is as if nothing had happened before. -/
  setAgain : ∀ key value, c = .set key value → ∀ disk later, c.run disk s' later = c.run disk s later
  /-- To take the key out again does nothing: there is no such key, and nothing is written. -/
  removeAgain : ∀ key, c = .remove key → s.get? key ≠ none ∧
    ∀ disk later, c.run disk s' later = (.ok none, s', later)
  /-- The next change that is written brings this one to the file. -/
  carried : ∀ (next : SettingsCall) disk later answer s'' written, next.writes s'.values = true →
    next.run disk s' later = (.ok answer, s'', written) →
      written.read path.parts = .ok (Settings.render (next.apply (c.apply s.values)))

/-- A change that is written is what the file holds then. -/
theorem read_of_run {answer : Option Json} (hpath : s.path = some path)
    (hwrites : c.writes s.values = true) (h : c.run disk s files = (.ok answer, s', files')) :
    files'.read path.parts = .ok (Settings.render (c.apply s.values)) := by
  rcases run_cases disk c s files with ⟨hnone, -⟩ | ⟨-, written, files'', hpersist, hrun⟩
  · rw [hnone] at hwrites
    cases hwrites
  · rw [hrun] at h
    rcases Settings.persistOn_cases (s := { s with values := c.apply s.values }) disk files hpath
      with ⟨_, _, _, herror, -⟩ | ⟨_, hok, hreplace⟩
    · rw [herror] at hpersist
      cases hpersist
      cases h
    · rw [hok] at hpersist
      cases hpersist
      cases h
      exact FileTree.read_replace hreplace

/-- **A change that cannot be written stays in memory.** Settings were opened from a file, and then
calls were made on disks that failed where they liked, and others changed the files. A call that
fails in such a state leaves the files as they were, but the table with the change. -/
theorem leavesHalf (hopen : Settings.open_ start path = .ok s₀)
    (hrun : Run SettingsStep (s₀, start) es (s, files))
    (hfail : c.run disk s files = (.error e, s', files')) :
    c.LeavesHalf path e s s' files files' := by
  obtain ⟨hpath, hsorted⟩ := sorted_of_run hopen hrun
  have htable := table_of_run hfail
  rcases run_cases disk c s files with ⟨-, -, hnone⟩ | ⟨hwrites, answer, files'', hpersist, hcall⟩
  · rw [hnone] at hfail
    cases hfail
  -- the call failed because the table was not written
  obtain ⟨place, message, rfl, hfiles, htree⟩ : ∃ place message, e = .io place message ∧
      files'.files = files.files ∧ ∀ text, files.read path.parts = .ok text → files' = files := by
    rw [hcall] at hfail
    rcases Settings.persistOn_cases (s := { s with values := c.apply s.values }) disk files hpath
      with ⟨place, message, _, herror, hfiles, htree⟩ | ⟨_, hok, -⟩
    · rw [herror] at hpersist
      cases hpersist
      cases hfail
      exact ⟨place, message, rfl, hfiles, htree⟩
    · rw [hok] at hpersist
      cases hpersist
      cases hfail
  constructor
  case error => exact ⟨place, message, rfl⟩
  case files => exact hfiles
  case tree => exact htree
  case table => exact htable
  case same_iff =>
    refine Iff.trans ?_ (apply_eq_self_iff hsorted hwrites)
    rw [htable]
    exact ⟨fun heq => congrArg Settings.values heq, fun heq => by rw [heq]⟩
  case setAgain =>
    rintro key value rfl disk later
    rw [htable]
    unfold run Settings.setOn apply
    dsimp only
    rw [Table.insert_insert]
  case removeAgain =>
    rintro key rfl
    have hgone : s'.values.get? key = none := by
      rw [htable]
      exact hsorted.get?_erase key
    refine ⟨fun hnone => ?_, fun disk later => ?_⟩
    · change (s.values.get? key).isSome = true at hwrites
      rw [show s.values.get? key = none from hnone] at hwrites
      cases hwrites
    · exact run_remove_of_missing hgone
  case carried =>
    intro next disk later answer s'' written hnext hok
    have hread := read_of_run (by rw [htable]; exact hpath) hnext hok
    rwa [htable] at hread

/-- On a full disk a key is taken out of the table, but not of its file. -/
theorem leavesHalf_of_full_disk : ∃ (files : FileTree) (path : FilePath) (s : Settings)
    (full : Disk) (e : EngineError) (s' : Settings) (files' : FileTree),
    Settings.open_ files path = .ok s ∧
      (remove "hold_ms").run full s files = (.error e, s', files') ∧
      (remove "hold_ms").LeavesHalf path e s s' files files' := by
  let files : FileTree :=
    { files := [(["d", "s.yaml"], "hold_ms: 80\n")], dirs := [["d"]] }
  let path : FilePath := ⟨"d/s.yaml", ["d", "s.yaml"]⟩
  let s : Settings := ⟨some path, [("hold_ms", .num (.int 80))]⟩
  let full : Disk :=
    { fault := fun step => if step = .write then some "no space left on device" else none }
  have hopen : Settings.open_ files path = .ok s := by decide +kernel
  have hfail : (remove "hold_ms").run full s files =
      (.error (.io "d/.tmp" "no space left on device"), ⟨some path, []⟩, files) := by
    decide +kernel
  exact ⟨files, path, s, full, _, _, _, hopen, hfail, leavesHalf hopen .nil hfail⟩

/-- A call that fails is not undone: a key has the value that could not be written, because there is
a file where the directory should be. -/
theorem not_undone : ¬ ∀ (start : FileTree) (path : FilePath) (s₀ : Settings)
    (es : List SettingsEvent) (s s' : Settings) (files files' : FileTree) (c : SettingsCall)
    (disk : Disk) (e : EngineError),
    Settings.open_ start path = .ok s₀ → Run SettingsStep (s₀, start) es (s, files) →
      c.run disk s files = (.error e, s', files') →
        (∀ key, s'.get? key = s.get? key) ∧ s'.keys = s.keys ∧
          files'.read path.parts = files.read path.parts ∧
          ∀ disk later, c.run disk s' later = c.run disk s later := by
  intro hall
  let path : FilePath := ⟨"d/s.yaml", ["d", "s.yaml"]⟩
  let files : FileTree := { files := [(["d"], "x")] }
  have hopen : Settings.open_ {} path = .ok ⟨some path, []⟩ := by decide +kernel
  have hrun : Run SettingsStep (⟨some path, []⟩, {}) [.outside files] (⟨some path, []⟩, files) :=
    Run.nil.snoc (.outside files)
  have hfail : (set "a" (.num (.int 1))).run {} ⟨some path, []⟩ files =
      (.error (.io "d/s.yaml" "not a directory"), ⟨some path, [("a", .num (.int 1))]⟩, files) := by
    decide +kernel
  obtain ⟨hget, -⟩ := hall _ _ _ _ _ _ _ _ _ _ _ hopen hrun hfail
  exact absurd (hget "a") (by decide)

end SettingsCall

end RuleEngine
