import RuleEngine.Files.Staging
import RuleEngine.Proofs.Files.Tree

set_option autoImplicit false

/-! # Staged replacement

Wherever the disk fails, a replacement ends in one of two ways: the file has its new text, as if it
had been replaced in one step, or all files are as before. Either way the temporary file is gone. On
a disk that does not fail nothing else happens than on a tree that is changed in one step.
-/

namespace RuleEngine

/-- Nothing fails on a disk. -/
structure Disk.Works (disk : Disk) : Prop where
  readable : ∀ p, disk.unreadable p = none
  faultless : ∀ step, disk.fault step = none

/-- A directory has a name left for a temporary file. -/
def Disk.HasName (disk : Disk) (t : FileTree) (dir : List String) : Prop :=
  ∃ name ∈ disk.tempNames, t.isFree (dir ++ [name]) = true

namespace FileTree

variable {t t' : FileTree} {disk : Disk} {place names p temp dir : List String} {name text : String}

/-! ## Temporary files -/

theorem isFree_iff : t.isFree p = true ↔ t.file? p = none ∧ t.isDir p = false := by
  unfold isFree
  rw [Bool.and_eq_true, Option.isNone_iff_eq_none, Bool.not_eq_true']

/-- A temporary file that is thrown away leaves no trace. -/
theorem discard_put (hfree : t.file? temp = none) (text : String) :
    (t.put temp text).discard temp = t := by
  have hkept : t.files.filter (fun e => e.1 != temp) = t.files := by
    rw [List.filter_eq_self]
    intro e he
    have hne := List.lookup_eq_none_iff.1 hfree e he
    rw [bne_iff_ne] at hne ⊢
    exact hne.symm
  have hfiles : ((t.put temp text).files.filter fun e => e.1 != temp) = t.files := by
    show ((t.files.filter fun e => e.1 != temp) ++ [(temp, text)]).filter _ = t.files
    rw [List.filter_append, hkept, hkept, List.filter_cons_of_neg (by simp)]
    exact List.append_nil _
  show ({ t.put temp text with
    files := (t.put temp text).files.filter fun e => e.1 != temp } : FileTree) = t
  rw [hfiles]
  rfl

/-- What becomes of a tree when a file is replaced whose directory is there. -/
def replaceIn (t : FileTree) (p : List String) (text : String) :
    Except FileError Unit × FileTree :=
  if t.isDir p then (.error .isDirectory, t)
  else if hasZero p || p.any isLong then (.error .badName, t)
  else (.ok (), t.put p text)

theorem replace_eq : t.replace p text =
    match t.createDirs p.dropLast with
    | (.error e, t) => (.error e, t)
    | (.ok _, t) => t.replaceIn p text :=
  rfl

theorem replaceIn_cases (t : FileTree) (p : List String) (text : String) :
    (∃ e, t.replaceIn p text = (.error e, t)) ∨ t.replaceIn p text = (.ok (), t.put p text) := by
  unfold replaceIn
  by_cases hdir : t.isDir p = true
  · rw [if_pos hdir]
    exact Or.inl ⟨_, rfl⟩
  · rw [if_neg hdir]
    by_cases hname : (hasZero p || p.any isLong) = true
    · rw [if_pos hname]
      exact Or.inl ⟨_, rfl⟩
    · rw [if_neg hname]
      exact Or.inr rfl

/-- A temporary file that takes a name, or is thrown away, does what one step would do. -/
theorem persist_put (hfree : t.file? temp = none) (hfault : disk.fault .rename = none) :
    (t.put temp text).persist disk temp p =
      ((t.replaceIn p text).1.mapError .file, (t.replaceIn p text).2) := by
  unfold persist rename replaceIn
  rw [hfault, file?_put_self, show (t.put temp text).isDir p = t.isDir p from rfl]
  dsimp only
  by_cases hdir : t.isDir p = true
  · rw [if_pos hdir, if_pos hdir]
    dsimp only
    rw [discard_put hfree]
    rfl
  · rw [if_neg hdir, if_neg hdir]
    by_cases hname : (hasZero p || p.any isLong) = true
    · rw [if_pos hname, if_pos hname]
      dsimp only
      rw [discard_put hfree]
      rfl
    · rw [if_neg hname, if_neg hname]
      dsimp only
      rw [discard_put hfree]
      rfl

/-! ## Staging -/

/-- A disk without faults stages a file as if it were replaced in one step. -/
theorem stage_of_faultless (hfree : t.file? (dir ++ [name]) = none)
    (hfault : ∀ step, disk.fault step = none) :
    t.stage disk dir p name text =
      ((t.replaceIn p text).1.mapError .file, (t.replaceIn p text).2) := by
  unfold stage
  rw [hfault, hfault]
  exact persist_put hfree (hfault .rename)

/-- A staged file takes its name, or there are no traces of it. -/
theorem stage_cases (hfree : t.file? (dir ++ [name]) = none) :
    (∃ e, t.stage disk dir p name text = (.error e, t)) ∨
      (t.stage disk dir p name text = (.ok (), t.put p text) ∧
        t.replaceIn p text = (.ok (), t.put p text)) := by
  unfold stage
  dsimp only
  cases disk.fault .write with
  | some m =>
      refine Or.inl ⟨.temporary name m, ?_⟩
      dsimp only
      rw [discard_put hfree]
  | none =>
      cases disk.fault .sync with
      | some m =>
          refine Or.inl ⟨.temporary name m, ?_⟩
          dsimp only
          rw [discard_put hfree]
      | none =>
          dsimp only
          cases hfault : disk.fault .rename with
          | some m =>
              refine Or.inl ⟨.target m, ?_⟩
              unfold persist
              rw [hfault]
              dsimp only
              rw [discard_put hfree]
          | none =>
              rw [persist_put hfree hfault]
              rcases t.replaceIn_cases p text with ⟨e, hreplace⟩ | hreplace
              · exact Or.inl ⟨.file e, by rw [hreplace]; rfl⟩
              · exact Or.inr ⟨by rw [hreplace]; rfl, hreplace⟩

/-! ## Directories -/

theorem createFrom_files (t : FileTree) (place names : List String) :
    (t.createFrom place names).2.files = t.files := by
  induction names generalizing t place with
  | nil => rfl
  | cons name names ih =>
      rw [createFrom]
      split
      · rfl
      · split
        · exact ih t (place ++ [name])
        · split
          · rfl
          · exact ih { t with dirs := t.dirs ++ [place ++ [name]] } (place ++ [name])

theorem createFrom_unchanged
    (hdirs : ∀ front, front <+: names → front ≠ [] → t.isDir (place ++ front) = true) :
    (t.createFrom place names).2 = t := by
  induction names generalizing place with
  | nil => rfl
  | cons name names ih =>
      have hdir : t.isDir (place ++ [name]) = true :=
        hdirs [name] (List.cons_prefix_cons.2 ⟨rfl, List.nil_prefix⟩) (List.cons_ne_nil _ _)
      rw [createFrom]
      split
      · rfl
      · refine ih fun front hfront _ => ?_
        rw [← List.append_cons]
        exact hdirs _ (List.cons_prefix_cons.2 ⟨rfl, hfront⟩) (List.cons_ne_nil _ _)

theorem createDirs_files (t : FileTree) (p : List String) : (t.createDirs p).2.files = t.files := by
  unfold createDirs
  split
  · rfl
  · exact createFrom_files t [] p

theorem createDirs_unchanged (hdirs : ∀ front, front <+: p → front ≠ [] → t.isDir front = true) :
    (t.createDirs p).2 = t := by
  unfold createDirs
  split
  · rfl
  · refine createFrom_unchanged fun front hfront hne => ?_
    rw [List.nil_append]
    exact hdirs front hfront hne

/-! ## Replacing -/

/-- How a replacement on a disk ends: it fails after some directories were made at most, or it has
done what one step would have done. -/
theorem replaceOn_cases (t : FileTree) (disk : Disk) (p : List String) (text : String) :
    (∃ e made, made <+: p.dropLast ∧ t.replaceOn disk p text = (.error e, (t.createDirs made).2)) ∨
      ∃ t', t.replaceOn disk p text = (.ok (), t') ∧ t.replace p text = (.ok (), t') := by
  have hall : p.dropLast <+: p.dropLast := List.prefix_rfl
  unfold replaceOn
  rw [replace_eq]
  cases disk.fault .directories with
  | some m => exact Or.inl ⟨.directory m, _, List.take_prefix _ _, rfl⟩
  | none =>
      obtain ⟨made, s, hmade⟩ : ∃ made s, t.createDirs p.dropLast = (made, s) := ⟨_, _, rfl⟩
      have hs : (t.createDirs p.dropLast).2 = s := by rw [hmade]
      rw [hmade]
      cases made with
      | error e => exact Or.inl ⟨.file e, _, hall, by rw [hs]⟩
      | ok _ =>
          dsimp only
          cases disk.fault .create with
          | some m => exact Or.inl ⟨.directory m, _, hall, by rw [hs]⟩
          | none =>
              dsimp only
              split
              · exact Or.inl ⟨.directory _, _, hall, by rw [hs]⟩
              · next name hname =>
                have hnamed := List.find?_some hname
                have hfree : s.file? (p.dropLast ++ [name]) = none := (isFree_iff.1 hnamed).1
                rcases stage_cases hfree with ⟨e, hstage⟩ | ⟨hstage, hone⟩
                · exact Or.inl ⟨e, _, hall, by rw [hstage, hs]⟩
                · exact Or.inr ⟨_, hstage, hone⟩

/-- **Where a replacement fails, all files are as before, and no temporary file is left.** -/
theorem replaceOn_error {e : StagingError} (h : t.replaceOn disk p text = (.error e, t')) :
    t'.files = t.files := by
  rcases t.replaceOn_cases disk p text with ⟨e', made, -, herror⟩ | ⟨t'', hok, -⟩
  · rw [herror] at h
    cases h
    exact createDirs_files t made
  · rw [hok] at h
    cases h

/-- The directories are as before as well, if those that the file lies in were there. -/
theorem replaceOn_error_of_dirs {e : StagingError}
    (hdirs : ∀ front, front <+: p.dropLast → front ≠ [] → t.isDir front = true)
    (h : t.replaceOn disk p text = (.error e, t')) : t' = t := by
  rcases t.replaceOn_cases disk p text with ⟨e', made, hmade, herror⟩ | ⟨t'', hok, -⟩
  · rw [herror] at h
    cases h
    exact createDirs_unchanged fun front hfront => hdirs front (hfront.trans hmade)
  · rw [hok] at h
    cases h

/-- **Where a replacement succeeds, nothing has happened but what one step would have done.** -/
theorem replaceOn_ok (h : t.replaceOn disk p text = (.ok (), t')) :
    t.replace p text = (.ok (), t') := by
  rcases t.replaceOn_cases disk p text with ⟨e', made, -, herror⟩ | ⟨t'', hok, hone⟩
  · rw [herror] at h
    cases h
  · rw [hok] at h
    cases h
    exact hone

/-- On a disk that works a file is replaced as in one step. -/
theorem replaceOn_of_works (h : disk.Works)
    (hname : disk.HasName (t.createDirs p.dropLast).2 p.dropLast) :
    t.replaceOn disk p text = ((t.replace p text).1.mapError .file, (t.replace p text).2) := by
  unfold replaceOn
  rw [replace_eq, h.faultless .directories]
  obtain ⟨made, s, hmade⟩ : ∃ made s, t.createDirs p.dropLast = (made, s) := ⟨_, _, rfl⟩
  rw [hmade]
  cases made with
  | error e => rfl
  | ok _ =>
      dsimp only
      rw [h.faultless .create]
      dsimp only
      split
      · next hnone =>
        -- the name that is left would have been found
        obtain ⟨name, hmem, hfree⟩ := hname
        rw [hmade] at hfree
        exact absurd hfree (List.find?_eq_none.1 hnone name hmem)
      · next name hfound =>
        have hnamed := List.find?_some hfound
        have hfree : s.file? (p.dropLast ++ [name]) = none := (isFree_iff.1 hnamed).1
        exact stage_of_faultless hfree h.faultless

end FileTree

end RuleEngine
