import RuleEngine.Proofs.Template.Merge

set_option autoImplicit false

/-! # The order of the sources does not matter

Fragments are put into a table by name before anything else is looked at, and a table lists its
entries in one order only. Whatever comes after, the search for unknown imports, the order of the
fragments, the names of a cycle and the ids that are declared twice, is read off that table. So the
fragments may be given in any order: the merged template is the same, and so is the error, with
all that it tells (`Template.merge_perm`).
-/

namespace RuleEngine

namespace Fragment

/-- No fragment is without a name, and no name stands for two of them. -/
def AreNamed (fs : List Fragment) : Prop :=
  (∀ f ∈ fs, Text.isBlankText f.name = false) ∧ (fs.map (·.name)).Nodup

instance (fs : List Fragment) : Decidable (AreNamed fs) :=
  inferInstanceAs (Decidable ((∀ f ∈ fs, Text.isBlankText f.name = false) ∧
    (fs.map (·.name)).Nodup))

theorem AreNamed.perm {fs gs : List Fragment} (hperm : fs.Perm gs) (h : AreNamed fs) :
    AreNamed gs :=
  ⟨fun g hg => h.1 g (hperm.mem_iff.2 hg), (hperm.map _).nodup_iff.1 h.2⟩

/-! ## The table of the fragments -/

/-- The table of named fragments does not depend on their order. -/
theorem byName_perm {fs gs : List Fragment} (hperm : fs.Perm gs) (h : AreNamed fs) :
    byName [] fs = byName [] gs := by
  have hgs := h.perm hperm
  have htable : ∀ {hs : List Fragment}, AreNamed hs → ∃ all, byName [] hs = .ok all ∧
      all.Sorted ∧ all.Perm (hs.map fun f => (f.name, f)) := by
    intro hs hnamed
    obtain ⟨all, hall, hsorted, hkeys, hvalues⟩ :=
      @byName_spec hs [] hnamed.1 hnamed.2 Table.Sorted.nil (by simp)
    refine ⟨all, hall, hsorted, ?_⟩
    -- every entry is a fragment under its own name
    have hentries : all = (all.map (·.2)).map fun f => (f.name, f) := by
      rw [List.map_map]
      refine (List.map_id _).symm.trans (List.map_congr_left fun e he => ?_)
      exact Prod.ext (hkeys e he) rfl
    rw [hentries]
    exact hvalues.map _
  obtain ⟨t, ht, htsorted, htperm⟩ := htable h
  obtain ⟨u, hu, husorted, huperm⟩ := htable hgs
  have hentries : t.Perm u := htperm.trans ((hperm.map _).trans huperm.symm)
  rw [ht, hu, htsorted.eq_of_perm husorted hentries]

/-- What keeps fragments out of a table is a name that is blank or taken. -/
theorem byName_error {table : Table Fragment} {fs : List Fragment} {e : MergeError}
    (h : byName table fs = .error e) : e = .unnamed ∨ ∃ name, e = .definedTwice name := by
  induction fs generalizing table with
  | nil => cases h
  | cons f fs ih =>
      rw [byName] at h
      by_cases hblank : Text.isBlankText f.name = true
      · rw [if_pos hblank] at h
        cases h
        exact Or.inl rfl
      · rw [if_neg hblank] at h
        by_cases hmem : table.contains f.name = true
        · rw [if_pos hmem] at h
          cases h
          exact Or.inr ⟨f.name, rfl⟩
        · rw [if_neg hmem] at h
          exact ih h

/-- Fragments that are not all named have no table. -/
theorem byName_of_not_areNamed {fs : List Fragment} (h : ¬ AreNamed fs) :
    ∃ e, byName [] fs = .error e ∧ ∃ text, e.toEngineError = .configuration text := by
  cases hresult : byName [] fs with
  | ok table =>
      obtain ⟨hblank, hnodup, -⟩ := names_of_byName hresult
      exact absurd ⟨hblank, hnodup⟩ h
  | error e =>
      refine ⟨e, rfl, ?_⟩
      rcases byName_error hresult with rfl | ⟨name, rfl⟩
      · exact ⟨_, rfl⟩
      · exact ⟨_, rfl⟩

end Fragment

namespace Template

theorem merge_of_byName_error {subDir name : String} {fs : List Fragment} {e : MergeError}
    (h : Fragment.byName [] fs = .error e) : merge subDir name fs = .error e := by
  unfold merge Fragment.inOrder
  rw [h]

/-- What is merged depends on the table of the fragments only. -/
theorem merge_congr {fs gs : List Fragment} (h : Fragment.byName [] fs = Fragment.byName [] gs)
    (subDir name : String) : merge subDir name fs = merge subDir name gs := by
  have horder : Fragment.inOrder fs = Fragment.inOrder gs := by
    unfold Fragment.inOrder
    rw [h]
  unfold merge
  rw [horder]

/-- **Merging does not depend on the order in which the fragments are given**: if all of them have
different names, none of them blank, the template is the same one or the error is the same one.
Otherwise there is no template in any order, and the error is one of the configuration. -/
theorem merge_perm (subDir name : String) {fs gs : List Fragment} (hperm : fs.Perm gs) :
    (Fragment.AreNamed fs → merge subDir name fs = merge subDir name gs) ∧
    (¬ Fragment.AreNamed fs →
      (∃ e, merge subDir name fs = .error e ∧ ∃ text, e.toEngineError = .configuration text) ∧
      (∃ e, merge subDir name gs = .error e ∧ ∃ text, e.toEngineError = .configuration text)) := by
  constructor
  · intro hnamed
    exact merge_congr (Fragment.byName_perm hperm hnamed) subDir name
  · intro hnot
    have hnot' : ¬ Fragment.AreNamed gs := fun hgs => hnot (hgs.perm hperm.symm)
    have herror : ∀ {hs : List Fragment}, ¬ Fragment.AreNamed hs →
        ∃ e, merge subDir name hs = .error e ∧ ∃ text, e.toEngineError = .configuration text := by
      intro hs hhs
      obtain ⟨e, he, htext⟩ := Fragment.byName_of_not_areNamed hhs
      exact ⟨e, merge_of_byName_error he, htext⟩
    exact ⟨herror hnot, herror hnot'⟩

/-- Two fragments declare one id. The one with the lesser name is blamed first, whichever of them is
given first. -/
theorem merge_perm_conflict : ∃ fs : List Fragment, fs.Perm fs.reverse ∧ Fragment.AreNamed fs ∧
    merge "main" "demo" fs = .error (.conflict "mark" "a" "b") ∧
    merge "main" "demo" fs = merge "main" "demo" fs.reverse := by
  let fs : List Fragment := [{ name := "b", rules := [{ id := "mark" }] },
    { name := "a", rules := [{ id := "mark" }] }]
  have hperm : fs.Perm fs.reverse := (List.reverse_perm fs).symm
  have hnamed : Fragment.AreNamed fs := by decide
  have hconflict : merge "main" "demo" fs = .error (.conflict "mark" "a" "b") := by decide +kernel
  exact ⟨fs, hperm, hnamed, hconflict, (merge_perm "main" "demo" hperm).1 hnamed⟩

end Template

end RuleEngine
