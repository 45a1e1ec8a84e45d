import RuleEngine.Proofs.Template.Order
import RuleEngine.Template.Merge

set_option autoImplicit false

/-! # Merged templates

Fragments that can be put in order have different names, none of them blank, and the order holds
every one of them once. A merged template has the rules of all its fragments and no others.
-/

namespace RuleEngine

namespace Fragment

/-- Fragments with a table by name have new and different names, none of them blank. -/
theorem names_of_byName {table all : Table Fragment} {fs : List Fragment}
    (h : byName table fs = .ok all) :
    (∀ f ∈ fs, Text.isBlankText f.name = false) ∧ (fs.map (·.name)).Nodup ∧
      ∀ f ∈ fs, f.name ∉ table.map (·.1) := by
  induction fs generalizing table with
  | nil => simp
  | cons f fs ih =>
      rw [byName] at h
      by_cases hblank : Text.isBlankText f.name = true
      · rw [if_pos hblank] at h
        cases h
      · rw [if_neg hblank] at h
        by_cases hmem : table.contains f.name = true
        · rw [if_pos hmem] at h
          cases h
        · rw [if_neg hmem] at h
          obtain ⟨hblanks, hnodup, hnew⟩ := ih h
          rw [Table.contains_iff] at hmem
          refine ⟨List.forall_mem_cons.2 ⟨Bool.eq_false_iff.2 hblank, hblanks⟩, ?_, ?_⟩
          · rw [List.map_cons, List.nodup_cons]
            refine ⟨?_, hnodup⟩
            intro hf
            obtain ⟨g, hg, hname⟩ := List.mem_map.1 hf
            exact hnew g hg ((Table.mem_keys_insert _ _ _ _).2 (Or.inl hname))
          · refine List.forall_mem_cons.2 ⟨hmem, fun g hg hin => ?_⟩
            exact hnew g hg ((Table.mem_keys_insert _ _ _ _).2 (Or.inr hin))

/-- A table by name holds every fragment once, under its name. -/
theorem table_of_byName {fs : List Fragment} {table : Table Fragment}
    (h : byName [] fs = .ok table) :
    table.map (·.1) = (table.map (·.2)).map (·.name) ∧ (table.map (·.2)).Perm fs := by
  obtain ⟨hblank, hnodup, -⟩ := names_of_byName h
  obtain ⟨all, hall, -, hkeys, hperm⟩ := @byName_spec fs [] hblank hnodup .nil (by simp)
  obtain rfl : table = all := Except.ok.inj (h.symm.trans hall)
  rw [List.map_map]
  exact ⟨List.map_congr_left hkeys, hperm⟩

/-- An order holds every fragment once. -/
theorem perm_of_inOrder {fs order : List Fragment} (h : inOrder fs = .ok order) :
    order.Perm fs := by
  have hnames : (∀ f ∈ fs, Text.isBlankText f.name = false) ∧ (fs.map (·.name)).Nodup := by
    unfold inOrder at h
    split at h
    · cases h
    · next htable =>
      obtain ⟨hblank, hnodup, -⟩ := names_of_byName htable
      exact ⟨hblank, hnodup⟩
  have hspec := inOrder_spec hnames.1 hnames.2
  rw [h] at hspec
  exact hspec.2.1.perm

end Fragment

namespace Template

/-- A merged template has the rules of all its fragments, one fragment after another. -/
theorem merge_eq_ok {subDir name : String} {fs : List Fragment} {t : Template}
    (h : merge subDir name fs = .ok t) :
    ∃ order : List Fragment, order.Perm fs ∧
      t = ⟨subDir, name, order.map (·.name), order.flatMap (·.rules)⟩ := by
  unfold merge at h
  split at h
  · cases h
  · next order horder =>
    split at h
    · cases h
    · cases h
      exact ⟨order, Fragment.perm_of_inOrder horder, rfl⟩

end Template

end RuleEngine
