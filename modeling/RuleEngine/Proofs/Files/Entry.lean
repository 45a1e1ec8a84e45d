import RuleEngine.Proofs.Files.Tree

set_option autoImplicit false

/-! # Entries of a directory

A file name with an extension consists of its stem, a dot and the extension. What the path to a name
in a directory leads to is said by the entries of the directory.
-/

namespace RuleEngine

namespace FilePath

/-! ## Extensions -/

variable {before after cs : List Char} {name base ext : String}

theorem splitDot_eq_none (h : '.' ∉ cs) : splitDot cs = none := by
  induction cs with
  | nil => rfl
  | cons c cs ih =>
      rw [List.mem_cons, not_or] at h
      rw [splitDot, ih h.2]
      exact if_neg (Ne.symm h.1)

/-- A list is split at a dot behind which there is no other. -/
theorem splitDot_append (before : List Char) (h : '.' ∉ after) :
    splitDot (before ++ '.' :: after) = some (before, after) := by
  induction before with
  | nil =>
      rw [List.nil_append, splitDot, splitDot_eq_none h]
      exact if_pos rfl
  | cons c before ih => rw [List.cons_append, splitDot, ih]

theorem eq_append_of_splitDot (h : splitDot cs = some (before, after)) :
    cs = before ++ '.' :: after := by
  induction cs generalizing before with
  | nil => cases h
  | cons c cs ih =>
      rw [splitDot] at h
      split at h
      · next hcs =>
        cases h
        rw [ih hcs, List.cons_append]
      · split at h
        · next hdot =>
          cases h
          rw [hdot, List.nil_append]
        · cases h

/-- A name with an extension is its stem, a dot and the extension. -/
theorem stem_of_extension (h : extension? name = some ext) :
    stem name ≠ "" ∧ name = stem name ++ ("." ++ ext) := by
  unfold extension? at h
  split at h
  · next c before after hsplit =>
    cases h
    have hstem : stem name = String.ofList (c :: before) := by
      unfold stem
      rw [hsplit]
    rw [hstem]
    refine ⟨by simp, String.toList_injective ?_⟩
    rw [eq_append_of_splitDot hsplit]
    simp
  · cases h

/-- An extension that was put behind a name is found there, and taken off by the stem. -/
theorem extension_append (hbase : base ≠ "") (hext : '.' ∉ ext.toList) :
    extension? (base ++ ("." ++ ext)) = some ext ∧ stem (base ++ ("." ++ ext)) = base := by
  have hsplit : splitDot (base ++ ("." ++ ext)).toList = some (base.toList, ext.toList) := by
    rw [String.toList_append, String.toList_append]
    exact splitDot_append base.toList hext
  obtain ⟨c, before, hcons⟩ : ∃ c before, base.toList = c :: before := by
    refine List.exists_cons_of_ne_nil fun hnil => hbase ?_
    exact String.toList_injective hnil
  unfold extension? stem
  rw [hsplit, hcons]
  refine ⟨by simp, ?_⟩
  show String.ofList (c :: before) = base
  rw [← hcons, String.ofList_toList]

theorem isHidden_append (hbase : base ≠ "") (rest : String) :
    isHidden (base ++ rest) = isHidden base := by
  have hne : base.toList ≠ [] := fun hnil => hbase (String.toList_injective hnil)
  unfold isHidden
  rw [String.toList_append, List.head?_append_of_ne_nil _ hne]

/-- A name that an entry of a directory can have, without a backslash. -/
structure IsEntryName (name : String) : Prop where
  nonempty : name ≠ ""
  plain : ∀ c ∈ name.toList, c ≠ '/' ∧ c ≠ '\\' ∧ c.toNat ≠ 0
  short : FileTree.isLong name = false

-- by a check of the characters: there are finitely many of them, and all would be tried
instance (name : String) : Decidable (IsEntryName name) :=
  decidable_of_iff (name ≠ "" ∧
      (name.toList.all fun c => c != '/' && c != '\\' && c.toNat != 0) = true ∧
      FileTree.isLong name = false) <| by
    have hplain : (name.toList.all fun c => c != '/' && c != '\\' && c.toNat != 0) = true ↔
        ∀ c ∈ name.toList, c ≠ '/' ∧ c ≠ '\\' ∧ c.toNat ≠ 0 := by
      simp only [List.all_eq_true, Bool.and_eq_true, bne_iff_ne, and_assoc]
    rw [hplain]
    exact ⟨fun h => ⟨h.1, h.2.1, h.2.2⟩, fun h => ⟨h.nonempty, h.plain, h.short⟩⟩

theorem IsEntryName.plain_of_append {rest : String} (h : IsEntryName (name ++ rest)) :
    ∀ c ∈ name.toList, c ≠ '/' ∧ c ≠ '\\' ∧ c.toNat ≠ 0 := by
  intro c hc
  refine h.plain c ?_
  rw [String.toList_append]
  exact List.mem_append_left _ hc

end FilePath

namespace FileTree

variable {t : FileTree} {dir names place : List String} {name text : String}
  {entries : List (String × FileEntry)}

/-! ## Paths into a directory -/

/-- Names behind those that lead to a directory are followed from there. -/
theorem resolveFrom_append (h : t.resolveFrom place names = .ok .directory) (more : List String) :
    t.resolveFrom place (names ++ more) = t.resolveFrom (place ++ names) more := by
  induction names generalizing place with
  | nil => rw [List.nil_append, List.append_nil]
  | cons name names ih =>
      rw [resolveFrom] at h
      rw [List.cons_append, resolveFrom]
      by_cases hplace : t.isDir place = true
      · rw [if_pos hplace] at h ⊢
        by_cases hlong : isLong name = true
        · rw [if_pos hlong] at h
          cases h
        · rw [if_neg hlong] at h ⊢
          rw [ih h, List.append_assoc, List.singleton_append]
      · rw [if_neg hplace] at h
        split at h <;> cases h

/-- What a name in a directory leads to. -/
theorem resolve_child (h : t.resolve dir = .ok .directory) (hzero : ∀ c ∈ name.toList, c.toNat ≠ 0) :
    t.resolve (dir ++ [name]) =
      if isLong name then .error .badName
      else if t.isDir (dir ++ [name]) then .ok .directory
      else match t.file? (dir ++ [name]) with
        | some text => .ok (.file text)
        | none => .error .notFound := by
  unfold resolve at h ⊢
  by_cases hbad : hasZero dir = true
  · rw [if_pos hbad] at h
    cases h
  · rw [if_neg hbad] at h
    have hname : ¬hasZero (dir ++ [name]) = true := by
      unfold hasZero at hbad ⊢
      simpa [List.any_append, hbad] using hzero
    have hdir : t.isDir dir = true := by
      have hend := resolveFrom_append h []
      rw [List.append_nil, h, resolveFrom, List.nil_append] at hend
      by_contra hnot
      rw [if_neg hnot] at hend
      split at hend <;> cases hend
    rw [if_neg hname, resolveFrom_append h, List.nil_append, resolveFrom, if_pos hdir]
    exact if_congr Iff.rfl rfl (resolveFrom.eq_1 t (dir ++ [name]))

/-! ## Entries -/

theorem nameIn?_eq_some_iff {p : List String} : nameIn? dir p = some name ↔ p = dir ++ [name] := by
  unfold nameIn?
  constructor
  · intro h
    split at h
    · next hdir =>
      rw [← hdir]
      exact (List.dropLast_append_getLast? name h).symm
    · cases h
  · rintro rfl
    rw [List.dropLast_concat, if_pos rfl, List.getLast?_concat]

theorem resolve_of_entries (h : t.entries dir = .ok entries) : t.resolve dir = .ok .directory := by
  unfold FileTree.entries at h
  split at h
  · assumption
  · cases h
  · cases h

theorem directory_mem_entries (h : t.entries dir = .ok entries) :
    (name, FileEntry.directory) ∈ entries ↔ t.isDir (dir ++ [name]) = true := by
  unfold FileTree.entries at h
  rw [resolve_of_entries h] at h
  cases h
  simp [dirsIn, List.mem_filterMap, nameIn?_eq_some_iff, isDir]

theorem file_mem_entries (h : t.entries dir = .ok entries) :
    (∃ text, (name, FileEntry.file text) ∈ entries) ↔ (t.file? (dir ++ [name])).isSome = true := by
  unfold FileTree.entries at h
  rw [resolve_of_entries h] at h
  cases h
  simp [filesIn, List.mem_filterMap, nameIn?_eq_some_iff, file?]

/-- The directories that can be entered are those among the entries. -/
theorem entersDir_child_iff (h : t.entries dir = .ok entries)
    (hnames : ∀ e ∈ entries, FilePath.IsEntryName e.1) (hzero : ∀ c ∈ name.toList, c.toNat ≠ 0) :
    t.entersDir (dir ++ [name]) = true ↔ (name, FileEntry.directory) ∈ entries := by
  rw [entersDir_iff, resolve_child (resolve_of_entries h) hzero]
  constructor
  · intro henters
    rw [directory_mem_entries h]
    by_contra hdir
    rw [if_neg hdir] at henters
    split at henters
    · cases henters
    · split at henters <;> cases henters
  · intro hmem
    have hshort : isLong name = false := (hnames _ hmem).short
    rw [hshort, if_neg (by decide), if_pos ((directory_mem_entries h).1 hmem)]

/-- Nothing is found under a name that no entry has, unless the name is too long for that. -/
theorem read_child_notFound_iff (h : t.entries dir = .ok entries)
    (hzero : ∀ c ∈ name.toList, c.toNat ≠ 0) :
    t.read (dir ++ [name]) = .error .notFound ↔
      isLong name = false ∧ ∀ entry, (name, entry) ∉ entries := by
  unfold read
  rw [resolve_child (resolve_of_entries h) hzero]
  constructor
  · intro hread
    by_cases hlong : isLong name = true
    · rw [if_pos hlong] at hread
      cases hread
    · rw [if_neg hlong] at hread
      refine ⟨Bool.eq_false_iff.2 hlong, fun entry hmem => ?_⟩
      by_cases hdir : t.isDir (dir ++ [name]) = true
      · rw [if_pos hdir] at hread
        cases hread
      · rw [if_neg hdir] at hread
        cases entry with
        | directory => exact hdir ((directory_mem_entries h).1 hmem)
        | file text =>
            obtain ⟨found, hfile⟩ := Option.isSome_iff_exists.1 ((file_mem_entries h).1 ⟨text, hmem⟩)
            rw [hfile] at hread
            cases hread
  · rintro ⟨hshort, hnone⟩
    have hdir : ¬t.isDir (dir ++ [name]) = true := fun hdir =>
      hnone _ ((directory_mem_entries h).2 hdir)
    have hfile : t.file? (dir ++ [name]) = none := by
      rw [← Option.not_isSome_iff_eq_none, ← file_mem_entries h]
      rintro ⟨text, hmem⟩
      exact hnone _ hmem
    rw [hshort, if_neg (by decide), if_neg hdir, hfile]

end FileTree

end RuleEngine
