import Mathlib.Data.List.Infix
import RuleEngine.Files.Tree

set_option autoImplicit false

/-! # Replacing a file

A file that was replaced has its new text, and the directories of before are still there. The other
files are as before. In a tree in which no path is a file and a directory at once, a file that can be
read can be replaced.
-/

namespace RuleEngine

namespace FileTree

variable {t t' : FileTree} {place names p dir : List String} {text : String}

/-! ## Following names -/

theorem prefix_dropLast {front : List String} (hfront : front <+: p) (hne : front ≠ p) :
    front <+: p.dropLast := by
  rcases List.eq_nil_or_concat p with rfl | ⟨init, last, rfl⟩
  · exact hfront
  · rw [List.concat_eq_append] at hfront hne ⊢
    rw [List.dropLast_concat]
    exact (List.prefix_concat_iff.1 hfront).resolve_left hne

/-- Names whose proper fronts are all directories are followed to their end. -/
theorem resolveFrom_of_fronts (hlong : names.any isLong = false)
    (hfronts : ∀ front, front <+: names → front ≠ names → t.isDir (place ++ front) = true) :
    t.resolveFrom place names = t.resolveFrom (place ++ names) [] := by
  induction names generalizing place with
  | nil => rw [List.append_nil]
  | cons name names ih =>
      rw [List.any_cons, Bool.or_eq_false_iff] at hlong
      have hplace : t.isDir place = true := by
        have h := hfronts [] List.nil_prefix (List.cons_ne_nil _ _).symm
        rwa [List.append_nil] at h
      have hstep : t.resolveFrom place (name :: names) = t.resolveFrom (place ++ [name]) names := by
        rw [resolveFrom, if_pos hplace, if_neg (by simp [hlong.1])]
      rw [hstep, ih hlong.2, ← List.append_cons]
      intro front hfront hne
      rw [← List.append_cons]
      exact hfronts (name :: front) (List.cons_prefix_cons.2 ⟨rfl, hfront⟩)
        (fun heq => hne (List.cons.inj heq).2)

/-- Names that lead to something have directories for proper fronts. -/
theorem fronts_of_resolveFrom {e : FileEntry} (h : t.resolveFrom place names = .ok e) :
    names.any isLong = false ∧
      ∀ front, front <+: names → front ≠ names → t.isDir (place ++ front) = true := by
  induction names generalizing place with
  | nil =>
      refine ⟨rfl, fun front hfront hne => ?_⟩
      exact absurd (List.prefix_nil.1 hfront) hne
  | cons name names ih =>
      rw [resolveFrom] at h
      by_cases hplace : t.isDir place = true
      · rw [if_pos hplace] at h
        by_cases hlong : isLong name = true
        · rw [if_pos hlong] at h
          cases h
        · rw [if_neg hlong] at h
          obtain ⟨hnames, hfronts⟩ := ih h
          refine ⟨by simp [hlong, hnames], fun front hfront hne => ?_⟩
          cases front with
          | nil => rwa [List.append_nil]
          | cons first front =>
              obtain ⟨rfl, hrest⟩ := List.cons_prefix_cons.1 hfront
              rw [List.append_cons]
              exact hfronts front hrest fun heq => hne (by rw [heq])
      · rw [if_neg hplace] at h
        split at h <;> cases h

theorem entersDir_iff : t.entersDir p = true ↔ t.resolve p = .ok .directory := by
  unfold entersDir
  split <;> simp_all

/-- A directory stays one if all directories stay. -/
theorem entersDir_mono (hdirs : ∀ d, t.isDir d = true → t'.isDir d = true)
    (h : t.entersDir p = true) : t'.entersDir p = true := by
  rw [entersDir_iff] at h ⊢
  unfold resolve at h ⊢
  by_cases hzero : hasZero p = true
  · rw [if_pos hzero] at h
    cases h
  · rw [if_neg hzero] at h ⊢
    obtain ⟨hlong, hfronts⟩ := fronts_of_resolveFrom h
    rw [resolveFrom_of_fronts hlong hfronts] at h
    rw [resolveFrom_of_fronts hlong fun front hfront hne => hdirs _ (hfronts front hfront hne)]
    -- a directory is what the names lead to at their end
    rw [resolveFrom] at h ⊢
    by_cases hdir : t.isDir ([] ++ p) = true
    · rw [if_pos (hdirs _ hdir)]
    · rw [if_neg hdir] at h
      split at h <;> cases h

/-! ## Making directories -/

/-- Directories are only added, and those that were asked for are there. -/
theorem createFrom_ok (h : t.createFrom place names = (.ok (), t')) :
    t'.files = t.files ∧ (∀ d, t.isDir d = true → t'.isDir d = true) ∧
      ∀ front, front <+: names → front ≠ [] → t'.isDir (place ++ front) = true := by
  induction names generalizing t place with
  | nil =>
      cases h
      refine ⟨rfl, fun _ hd => hd, fun front hfront hne => ?_⟩
      exact absurd (List.prefix_nil.1 hfront) hne
  | cons name names ih =>
      rw [createFrom] at h
      -- the next directory is there, or it is made
      obtain ⟨s, hs, hfiles, hdirs, hnext⟩ : ∃ s : FileTree,
          s.createFrom (place ++ [name]) names = (.ok (), t') ∧ s.files = t.files ∧
            (∀ d, t.isDir d = true → s.isDir d = true) ∧ s.isDir (place ++ [name]) = true := by
        split at h
        · cases h
        · split at h
          · next hdir => exact ⟨t, h, rfl, fun _ hd => hd, hdir⟩
          · split at h
            · cases h
            · refine ⟨_, h, rfl, fun d hd => ?_, by simp [isDir]⟩
              unfold isDir at hd ⊢
              simp only [List.contains_append, Bool.or_eq_true] at hd ⊢
              rcases hd with hd | hd
              · exact Or.inl hd
              · exact Or.inr (Or.inl hd)
      obtain ⟨hfiles', hdirs', hfronts⟩ := ih hs
      refine ⟨hfiles'.trans hfiles, fun d hd => hdirs' d (hdirs d hd), ?_⟩
      intro front hfront hne
      cases front with
      | nil => exact absurd rfl hne
      | cons first front =>
          obtain ⟨rfl, hrest⟩ := List.cons_prefix_cons.1 hfront
          rw [List.append_cons]
          by_cases hnil : front = []
          · rw [hnil, List.append_nil]
            exact hdirs' _ hnext
          · exact hfronts front hrest hnil

/-! ## Replacing -/

/-- What a replacement has done. -/
theorem replace_ok (h : t.replace p text = (.ok (), t')) :
    ∃ s, t.createFrom [] p.dropLast = (.ok (), s) ∧ s.isDir p = false ∧ hasZero p = false ∧
      p.any isLong = false ∧ t' = s.put p text := by
  unfold replace createDirs at h
  by_cases hzero : hasZero p.dropLast = true
  · rw [if_pos hzero] at h
    cases h
  · rw [if_neg hzero] at h
    split at h
    · cases h
    · next s hcreate =>
      split at h
      · cases h
      · next hdir =>
        split at h
        · cases h
        · next hname =>
          cases h
          rw [Bool.not_eq_true, Bool.or_eq_false_iff] at hname
          exact ⟨s, hcreate, Bool.eq_false_iff.2 hdir, hname.1, hname.2, rfl⟩

theorem file?_put_self (t : FileTree) (p : List String) (text : String) :
    (t.put p text).file? p = some text := by
  have hgone : (t.files.filter fun e => e.1 != p).lookup p = none := by
    rw [List.lookup_eq_none_iff]
    intro e he
    have hne := (List.mem_filter.1 he).2
    rw [bne_iff_ne] at hne
    rw [bne_iff_ne]
    exact hne.symm
  unfold file? put
  rw [List.lookup_append, hgone]
  simp

theorem file?_put_of_ne {q : List String} (hne : q ≠ p) :
    (t.put p text).file? q = t.file? q := by
  have hnew : ([(p, text)] : List (List String × String)).lookup q = none := by
    rw [List.lookup_cons, beq_eq_false_iff_ne.2 hne]
    rfl
  -- the entries that are taken out are not those of the other path
  have hkept : (t.files.filter fun e => e.1 != p).lookup q = t.files.lookup q := by
    induction t.files with
    | nil => rfl
    | cons e rest ih =>
        obtain ⟨k, old⟩ := e
        by_cases hk : k = p
        · rw [List.filter_cons_of_neg (by simp [hk]), ih, List.lookup_cons, hk,
            beq_eq_false_iff_ne.2 hne]
        · rw [List.filter_cons_of_pos (by simpa using hk), List.lookup_cons, List.lookup_cons, ih]
  unfold file? put
  rw [List.lookup_append, hkept, hnew, Option.or_none]

/-- **A file that was replaced has its new text.** -/
theorem read_replace (h : t.replace p text = (.ok (), t')) : t'.read p = .ok text := by
  obtain ⟨s, hcreate, hdir, hzero, hlong, rfl⟩ := replace_ok h
  obtain ⟨-, -, hfronts⟩ := createFrom_ok hcreate
  have hresolve : (s.put p text).resolveFrom [] p = .ok (.file text) := by
    rw [resolveFrom_of_fronts hlong, List.nil_append, resolveFrom]
    · rw [if_neg (by rw [show (s.put p text).isDir p = s.isDir p from rfl, hdir]; decide),
        file?_put_self]
    · intro front hfront hne
      show s.isDir ([] ++ front) = true
      by_cases hnil : front = []
      · rw [hnil]
        rfl
      · exact hfronts front (prefix_dropLast hfront hne) hnil
  unfold read resolve
  rw [if_neg (by rw [hzero]; decide), hresolve]

/-- Directories are still there after a replacement. -/
theorem isDir_replace (h : t.replace p text = (.ok (), t')) {d : List String}
    (hd : t.isDir d = true) : t'.isDir d = true := by
  obtain ⟨s, hcreate, -, -, -, rfl⟩ := replace_ok h
  exact (createFrom_ok hcreate).2.1 d hd

/-- The files of another directory are as before. -/
theorem filesIn_replace (hdir : p.dropLast ≠ dir) (h : t.replace p text = (.ok (), t')) :
    t'.filesIn dir = t.filesIn dir := by
  obtain ⟨s, hcreate, -, -, -, rfl⟩ := replace_ok h
  have hname : nameIn? dir p = none := if_neg hdir
  unfold filesIn put
  dsimp only
  rw [(createFrom_ok hcreate).1, List.filterMap_append, List.filterMap_filter]
  have hnew : [(p, text)].filterMap (fun e => (nameIn? dir e.1).map fun name => (name, e.2)) = [] := by
    simp [hname]
  rw [hnew, List.append_nil]
  refine List.filterMap_congr fun e _ => ?_
  by_cases he : e.1 = p
  · rw [if_neg (by simp [he]), he, hname]
    rfl
  · rw [if_pos (by simpa using he)]

/-! ## Sound trees -/

/-- No path is a file and a directory at once. -/
def IsSound (t : FileTree) : Prop := ∀ d ∈ t.dirs, t.file? d = none

instance (t : FileTree) : Decidable t.IsSound :=
  inferInstanceAs (Decidable (∀ d ∈ t.dirs, t.file? d = none))

theorem IsSound.createFrom (h : t.IsSound) {result : Except FileError Unit}
    (hcreate : t.createFrom place names = (result, t')) : t'.IsSound := by
  induction names generalizing t place with
  | nil =>
      cases hcreate
      exact h
  | cons name names ih =>
      rw [FileTree.createFrom] at hcreate
      split at hcreate
      · cases hcreate
        exact h
      · next hfile =>
        split at hcreate
        · exact ih h hcreate
        · split at hcreate
          · cases hcreate
            exact h
          · refine ih ?_ hcreate
            intro d hd
            rcases List.mem_append.1 hd with hd | hd
            · exact h d hd
            · rw [List.mem_singleton.1 hd]
              exact Option.not_isSome_iff_eq_none.1 hfile

theorem IsSound.replace (h : t.IsSound) (hreplace : t.replace p text = (.ok (), t')) :
    t'.IsSound := by
  obtain ⟨s, hcreate, hdir, -, -, rfl⟩ := replace_ok hreplace
  have hs : s.IsSound := h.createFrom hcreate
  intro d hd
  -- the file was not put where a directory is
  have hne : d ≠ p := by
    rintro rfl
    unfold isDir at hdir
    rw [Bool.or_eq_false_iff] at hdir
    have hcontains : s.dirs.contains d = true := List.contains_iff_mem.2 hd
    rw [hdir.2] at hcontains
    cases hcontains
  rw [file?_put_of_ne hne]
  exact hs d hd

/-- Making directories that are there changes nothing. -/
theorem createFrom_of_dirs (hsound : t.IsSound)
    (hdirs : ∀ front, front <+: names → front ≠ [] → t.isDir (place ++ front) = true) :
    t.createFrom place names = (.ok (), t) := by
  induction names generalizing place with
  | nil => rfl
  | cons name names ih =>
      have hdir : t.isDir (place ++ [name]) = true :=
        hdirs [name] (List.cons_prefix_cons.2 ⟨rfl, List.nil_prefix⟩) (List.cons_ne_nil _ _)
      have hmem : place ++ [name] ∈ t.dirs := by
        unfold isDir at hdir
        simpa using hdir
      rw [createFrom, hsound _ hmem, if_neg (by decide), if_pos hdir]
      refine ih fun front hfront _ => ?_
      rw [← List.append_cons]
      exact hdirs _ (List.cons_prefix_cons.2 ⟨rfl, hfront⟩) (List.cons_ne_nil _ _)

/-- A path to a file that can be read is a good one, and it leads through directories. -/
theorem dirs_of_read (h : t.read p = .ok text) :
    hasZero p = false ∧ p.any isLong = false ∧ t.isDir p = false ∧
      ∀ front, front <+: p.dropLast → t.isDir front = true := by
  unfold read resolve at h
  by_cases hzero : hasZero p = true
  · rw [if_pos hzero] at h
    cases h
  · rw [if_neg hzero] at h
    cases hresolve : t.resolveFrom [] p with
    | error e =>
        rw [hresolve] at h
        cases h
    | ok e =>
        obtain ⟨hlong, hfronts⟩ := fronts_of_resolveFrom hresolve
        have hdir : ¬ t.isDir p = true := by
          intro hdir
          rw [hresolve] at h
          rw [resolveFrom_of_fronts hlong hfronts, List.nil_append, resolveFrom, if_pos hdir]
            at hresolve
          cases hresolve
          cases h
        refine ⟨Bool.eq_false_iff.2 hzero, hlong, Bool.eq_false_iff.2 hdir, fun front hfront => ?_⟩
        refine hfronts front (hfront.trans (List.dropLast_prefix p)) ?_
        -- only the root is as long as its parent
        rintro rfl
        have hlength := hfront.length_le
        rw [List.length_dropLast] at hlength
        have hnil : front = [] := List.length_eq_zero_iff.1 (by omega)
        rw [hnil] at hdir
        exact hdir rfl

theorem replace_of_read (hsound : t.IsSound) {old : String} (h : t.read p = .ok old)
    (text : String) : t.replace p text = (.ok (), t.put p text) := by
  obtain ⟨hzero, hlong, hdir, hdirs⟩ := dirs_of_read h
  have hdropped : ¬ hasZero p.dropLast = true := by
    intro hdropped
    obtain ⟨name, hname, hbad⟩ := List.any_eq_true.1 hdropped
    rw [← Bool.not_eq_true] at hzero
    exact hzero (List.any_eq_true.2 ⟨name, List.mem_of_mem_dropLast hname, hbad⟩)
  have hcreate : t.createFrom [] p.dropLast = (.ok (), t) :=
    createFrom_of_dirs hsound fun front hfront _ => hdirs front hfront
  unfold replace createDirs
  rw [if_neg hdropped, hcreate]
  dsimp only
  rw [hdir, if_neg (by decide), if_neg (by simp [hzero, hlong])]

end FileTree

end RuleEngine
