import RuleEngine.Proofs.Template.Conflict
import RuleEngine.Proofs.Template.Permutation

set_option autoImplicit false

/-! # One more fragment

A fragment is added to others that can be merged. It has a name and ids of its own and imports none
but them (`Fragment.Extends`), so that none of them waits for it. While fragments are placed, the new
one is among those that are left. Taking one out takes either the new one, and then the others
are as before, or the one that would have been taken out without it (`Fragment.takeReady?_insert`).
So the others are placed in the order that they had (`Fragment.place_insert`).

**Main result.** `Template.merge_extend`: the fragments can still be merged, and without the new name
and the new rules the template is what it was.
-/

namespace RuleEngine

namespace Fragment

/-! ## Placing one more fragment -/

/-- The fragment that is taken out first, with one more among those that are left. -/
theorem takeReady?_insert (front : List Waiting) (w : Waiting) (back : List Waiting) :
    (w.names = [] ∧ takeReady? (front ++ w :: back) = some (w.fragment, front ++ back)) ∨
    (∃ f front' back', takeReady? (front ++ back) = some (f, front' ++ back') ∧
      takeReady? (front ++ w :: back) = some (f, front' ++ w :: back')) ∨
    (w.names ≠ [] ∧ takeReady? (front ++ back) = none) := by
  induction front with
  | nil =>
      rw [List.nil_append, List.nil_append, takeReady?]
      by_cases hready : w.names.isEmpty = true
      · exact .inl ⟨List.isEmpty_iff.1 hready, if_pos hready⟩
      · rw [if_neg hready]
        cases takeReady? back with
        | none => exact .inr (.inr ⟨fun hnil => hready (List.isEmpty_iff.2 hnil), rfl⟩)
        | some r => exact .inr (.inl ⟨r.1, [], r.2, rfl, rfl⟩)
  | cons v front ih =>
      simp only [List.cons_append, takeReady?]
      by_cases hready : v.names.isEmpty = true
      · rw [if_pos hready, if_pos hready]
        exact .inr (.inl ⟨v.fragment, front, back, rfl, rfl⟩)
      · rw [if_neg hready, if_neg hready]
        rcases ih with ⟨hw, htake⟩ | ⟨f, front', back', htake, htake'⟩ | ⟨hw, hstuck⟩
        · exact .inl ⟨hw, by rw [htake]; rfl⟩
        · exact .inr (.inl ⟨f, v :: front', back', by rw [htake]; rfl, by rw [htake']; rfl⟩)
        · exact .inr (.inr ⟨hw, by rw [hstuck]; rfl⟩)

/-- What was left are the fragment that is taken out and those that are left then. -/
theorem perm_of_takeReady? {ws rest : List Waiting} {f : Fragment}
    (h : takeReady? ws = some (f, rest)) : ∃ v, v.fragment = f ∧ ws.Perm (v :: rest) := by
  obtain ⟨front, v, back, rfl, rfl, hv, -, -⟩ := takeReady?_eq_some h
  exact ⟨v, hv, List.perm_middle⟩

/-- None of the others waits for the new fragment, and it waits for none but them. -/
structure Joins (w : Waiting) (ws : List Waiting) : Prop where
  new : ∀ v ∈ ws, w.fragment.name ∉ v.names
  known : ∀ n ∈ w.names, n ∈ ws.map (·.fragment.name)

/-- The new fragment still joins the others when one of them is placed. -/
theorem Joins.release {w v : Waiting} {ws rest : List Waiting} (h : Joins w ws)
    (hperm : ws.Perm (v :: rest)) :
    Joins (w.release v.fragment.name) (rest.map (Waiting.release v.fragment.name)) where
  new := by
    intro u' hu' hmem
    obtain ⟨u, hu, rfl⟩ := List.mem_map.1 hu'
    exact h.new u (hperm.mem_iff.2 (List.mem_cons_of_mem v hu)) (List.mem_filter.1 hmem).1
  known := by
    intro n hn
    obtain ⟨hn, hne⟩ := List.mem_filter.1 hn
    have hleft := (hperm.map (·.fragment.name)).mem_iff.1 (h.known n hn)
    rw [List.map_map]
    exact (List.mem_cons.1 hleft).resolve_left (bne_iff_ne.1 hne)

/-- Placing the new fragment releases none of the others. -/
theorem Joins.map_release {w : Waiting} {ws : List Waiting} (h : Joins w ws) :
    ws.map (Waiting.release w.fragment.name) = ws := by
  refine (List.map_congr_left fun v hv => ?_).trans (List.map_id _)
  have hnames : v.names.filter (fun i => i != w.fragment.name) = v.names := by
    refine List.filter_eq_self.2 fun i hi => bne_iff_ne.2 ?_
    rintro rfl
    exact h.new v hv hi
  rw [Waiting.release, hnames, id]

/-- **One more fragment is placed among the others**, which keep their order. -/
theorem place_insert {front back : List Waiting} {w : Waiting} {order : List Fragment}
    (hw : Joins w (front ++ back)) (h : place (front ++ back) = .ok order) :
    ∃ before after, order = before ++ after ∧
      place (front ++ w :: back) = .ok (before ++ w.fragment :: after) := by
  rcases takeReady?_insert front w back with
    ⟨-, htake⟩ | ⟨f, front', back', htake, htake'⟩ | ⟨hwait, hstuck⟩
  · refine ⟨[], order, rfl, ?_⟩
    rw [place_of_ready htake, hw.map_release, h]
    rfl
  · -- the same one is taken out as without the new one, and the argument goes on behind it
    rw [place_of_ready htake] at h
    cases hrest : place ((front' ++ back').map (Waiting.release f.name)) with
    | error e =>
        rw [hrest] at h
        cases h
    | ok rest =>
        rw [hrest] at h
        cases h
        obtain ⟨v, rfl, hperm⟩ := perm_of_takeReady? htake
        have hw' := hw.release hperm
        rw [List.map_append] at hw' hrest
        obtain ⟨before, after, rfl, hplace⟩ := place_insert hw' hrest
        refine ⟨v.fragment :: before, after, rfl, ?_⟩
        rw [place_of_ready htake', List.map_append, List.map_cons, hplace]
        rfl
  · -- without the new one nothing is left, so that there is nothing that it could wait for
    rw [place_of_stuck hstuck] at h
    by_cases hempty : (front ++ back).isEmpty = true
    · have hknown := hw.known
      rw [List.isEmpty_iff.1 hempty] at hknown
      exact absurd (List.eq_nil_iff_forall_not_mem.2 fun n hn => by simpa using hknown n hn) hwait
    · rw [if_neg hempty] at h
      cases h
termination_by order.length

/-! ## The order with one more fragment -/

/-- The fragments have an order exactly if they have a table, all their imports are in it and they can
be placed. -/
theorem inOrder_eq_ok_iff {fs order : List Fragment} :
    inOrder fs = .ok order ↔ ∃ table, byName [] fs = .ok table ∧
      (∀ f ∈ table.map (·.2), ∀ i ∈ f.imports, i ∈ table.map (·.1)) ∧
      place ((table.map (·.2)).map Waiting.of) = .ok order := by
  unfold inOrder
  cases byName [] fs with
  | error e => simp
  | ok table =>
      have hknown : (table.map (·.2)).findSome? (missingImport? table) = none ↔
          ∀ f ∈ table.map (·.2), ∀ i ∈ f.imports, i ∈ table.map (·.1) := by
        rw [List.findSome?_eq_none_iff]
        exact forall₂_congr fun _ _ => missingImport?_eq_none
      simp only [Except.ok.injEq, exists_eq_left', ← hknown]
      cases (table.map (·.2)).findSome? (missingImport? table) with
      | none => simp
      | some e => simp

/-- Fragments are put into a table one part after the other. -/
theorem byName_append {table all : Table Fragment} {fs : List Fragment}
    (h : byName table fs = .ok all) (gs : List Fragment) :
    byName table (fs ++ gs) = byName all gs := by
  induction fs generalizing table with
  | nil =>
      cases h
      rfl
  | cons f fs ih =>
      rw [byName] at h
      rw [List.cons_append, byName]
      split at h
      · cases h
      · split at h
        · cases h
        · next hblank hmem =>
          rw [if_neg hblank, if_neg hmem]
          exact ih h

/-- A fragment can be added: it has a name of its own and imports none but the others or itself, and
its rules have ids of their own. -/
structure Extends (fs : List Fragment) (x : Fragment) : Prop where
  named : Text.isBlankText x.name = false
  fresh : x.name ∉ fs.map (·.name)
  known : ∀ i ∈ x.imports, i = x.name ∨ i ∈ fs.map (·.name)
  identified : Rule.AreIdentified x.rules
  apart : ∀ r ∈ x.rules, ∀ q ∈ fs.flatMap (·.rules), r.id ≠ q.id

/-- The order of the others does not matter to a fragment that is added. -/
theorem Extends.perm {fs order : List Fragment} {x : Fragment} (hx : Extends fs x)
    (hperm : order.Perm fs) : Extends order x where
  named := hx.named
  fresh := fun hmem => hx.fresh ((hperm.map _).mem_iff.1 hmem)
  known := fun i hi => (hx.known i hi).imp_right (hperm.map _).mem_iff.2
  identified := hx.identified
  apart := fun r hr q hq => hx.apart r hr q ((hperm.flatMap_right _).mem_iff.1 hq)

/-- All rules are still identified with those of a fragment that is added. -/
theorem Extends.areIdentified {before after : List Fragment} {x : Fragment}
    (hx : Extends (before ++ after) x)
    (h : Rule.AreIdentified ((before ++ after).flatMap (·.rules))) :
    Rule.AreIdentified ((before ++ x :: after).flatMap (·.rules)) := by
  have hfirst : Rule.AreIdentified ((x :: (before ++ after)).flatMap (·.rules)) :=
    Rule.areIdentified_append.2 ⟨hx.identified, h, hx.apart⟩
  exact hfirst.perm (List.perm_middle.symm.flatMap_right _)

/-- The table of fragments with one that is added. -/
theorem Extends.byName_eq {fs gs : List Fragment} {x : Fragment} (hx : Extends fs x)
    (hgs : gs.Perm (x :: fs)) {table : Table Fragment} (h : byName [] fs = .ok table)
    (hnew : table.contains x.name = false) : byName [] gs = .ok (table.insert x.name x) := by
  obtain ⟨hblank, hnodup, -⟩ := names_of_byName h
  have hnamed : AreNamed (x :: fs) :=
    ⟨List.forall_mem_cons.2 ⟨hx.named, hblank⟩, List.nodup_cons.2 ⟨hx.fresh, hnodup⟩⟩
  have hlast : gs.Perm (fs ++ [x]) := hgs.trans (List.perm_append_singleton x fs).symm
  rw [byName_perm hlast (hnamed.perm hgs.symm), byName_append h, byName, hx.named, hnew]
  rfl

/-- A fragment that can be added joins the others. -/
theorem Extends.joins {fs table : List Fragment} {x : Fragment} (hx : Extends fs x)
    (hperm : table.Perm fs) (hknown : ∀ f ∈ table, ∀ i ∈ f.imports, i ∈ table.map (·.name)) :
    Joins (.of x) (table.map .of) where
  new := by
    intro v hv hmem
    obtain ⟨f, hf, rfl⟩ := List.mem_map.1 hv
    exact hx.fresh ((hperm.map _).mem_iff.1 (hknown f hf _ (List.mem_filter.1 hmem).1))
  known := by
    intro n hn
    obtain ⟨himport, hne⟩ := List.mem_filter.1 hn
    have hmem := (hx.known n himport).resolve_left (bne_iff_ne.1 hne)
    rw [List.map_map]
    exact (hperm.map (·.name)).mem_iff.2 hmem

/-- The table with the added fragment lists all imports if the other one does. -/
theorem Extends.imports_insert {fs : List Fragment} {x : Fragment} (hx : Extends fs x)
    {table : Table Fragment} (hmem : ∀ n, n ∈ table.map (·.1) ↔ n ∈ fs.map (·.name))
    (hnew : table.contains x.name = false)
    (hknown : ∀ f ∈ table.map (·.2), ∀ i ∈ f.imports, i ∈ table.map (·.1)) :
    ∀ f ∈ (table.insert x.name x).map (·.2), ∀ i ∈ f.imports,
      i ∈ (table.insert x.name x).map (·.1) := by
  have hinserted := Table.insert_perm hnew x
  intro f hf i hi
  refine (hinserted.map _).mem_iff.2 (List.mem_cons.2 ?_)
  rcases List.mem_cons.1 ((hinserted.map _).mem_iff.1 hf) with rfl | hf
  · exact (hx.known i hi).imp_right (hmem i).2
  · exact .inr (hknown f hf i hi)

/-- **The others keep their order** when a fragment is added. -/
theorem Extends.inOrder_eq {fs gs order : List Fragment} {x : Fragment} (hx : Extends fs x)
    (hgs : gs.Perm (x :: fs)) (h : inOrder fs = .ok order) :
    ∃ before after, order = before ++ after ∧ inOrder gs = .ok (before ++ x :: after) := by
  obtain ⟨table, htable, hknown, hplace⟩ := inOrder_eq_ok_iff.1 h
  obtain ⟨hkeys, hperm⟩ := table_of_byName htable
  have hmem : ∀ n, n ∈ table.map (·.1) ↔ n ∈ fs.map (·.name) := by
    rw [hkeys]
    exact fun n => (hperm.map _).mem_iff
  have hnew : table.contains x.name = false := by
    rw [Bool.eq_false_iff]
    intro hcontains
    exact hx.fresh ((hmem _).1 ((Table.contains_iff _ _).1 hcontains))
  have hknown' := hx.imports_insert hmem hnew hknown
  rw [hkeys] at hknown
  have hjoins := hx.joins hperm hknown
  -- the new entry stands between others in the table
  obtain ⟨front, back, hsplit, hinsert⟩ := Table.insert_split hnew x
  rw [hsplit, List.map_append, List.map_append] at hjoins hplace
  obtain ⟨before, after, rfl, hplace'⟩ := place_insert hjoins hplace
  refine ⟨before, after, rfl, inOrder_eq_ok_iff.2 ⟨_, hx.byName_eq hgs htable hnew, hknown', ?_⟩⟩
  rw [hinsert, List.map_append, List.map_cons, List.map_append, List.map_cons]
  exact hplace'

end Fragment

namespace Template

/-! ## The merged template with one more fragment -/

/-- A part in the middle is told from the rest by a property. -/
theorem filter_middle {α : Type} {P : α → Prop} [DecidablePred P] {front middle back : List α}
    (hrest : ∀ a ∈ front ++ back, ¬ P a) (hmiddle : ∀ a ∈ middle, P a) :
    (front ++ (middle ++ back)).filter (fun a => ¬ P a) = front ++ back ∧
      (front ++ (middle ++ back)).filter (fun a => P a) = middle := by
  rw [List.forall_mem_append] at hrest
  have hnone : ∀ {l : List α}, (∀ a ∈ l, ¬ P a) → l.filter (fun a => P a) = [] :=
    fun h => List.filter_eq_nil_iff.2 fun a ha => by simp [h a ha]
  have hall : ∀ {l : List α}, (∀ a ∈ l, ¬ P a) → l.filter (fun a => ¬ P a) = l :=
    fun h => List.filter_eq_self.2 fun a ha => by simp [h a ha]
  have hmiddle' : middle.filter (fun a => P a) = middle :=
    List.filter_eq_self.2 fun a ha => by simp [hmiddle a ha]
  have hmiddle'' : middle.filter (fun a => ¬ P a) = [] :=
    List.filter_eq_nil_iff.2 fun a ha => by simp [hmiddle a ha]
  constructor
  · rw [List.filter_append, List.filter_append, hall hrest.1, hmiddle'', hall hrest.2,
      List.nil_append]
  · rw [List.filter_append, List.filter_append, hnone hrest.1, hmiddle', hnone hrest.2,
      List.append_nil, List.nil_append]

/-- **A fragment can be added to others that are merged.** Without its name the fragments stand in the
order that they had, and without its rules the rules are those of before, in their order. -/
theorem merge_extend {subDir name : String} {fs gs : List Fragment} {x : Fragment} {t : Template}
    (h : merge subDir name fs = .ok t) (hx : Fragment.Extends fs x) (hgs : gs.Perm (x :: fs)) :
    ∃ u, merge subDir name gs = .ok u ∧
      u.fragments.filter (· ≠ x.name) = t.fragments ∧
      u.fragments.filter (· = x.name) = [x.name] ∧
      u.rules.filter (· ∉ x.rules) = t.rules ∧
      u.rules.filter (· ∈ x.rules) = x.rules := by
  obtain ⟨order, horder, hids, rfl⟩ := merge_eq_ok_iff.1 h
  have hperm := Fragment.perm_of_inOrder horder
  obtain ⟨before, after, rfl, horder'⟩ := hx.inOrder_eq hgs horder
  have hx' := hx.perm hperm
  refine ⟨_, merge_eq_ok_iff.2 ⟨_, horder', hx'.areIdentified hids, rfl⟩, ?_⟩
  have hfresh : ∀ n ∈ before.map (·.name) ++ after.map (·.name), n ≠ x.name := by
    rintro n hn rfl
    rw [← List.map_append] at hn
    exact hx'.fresh hn
  have hnew : ∀ q ∈ before.flatMap (·.rules) ++ after.flatMap (·.rules), q ∉ x.rules := by
    intro q hq hmem
    rw [← List.flatMap_append] at hq
    exact hx'.apart q hmem q hq rfl
  obtain ⟨hothers, hname⟩ := filter_middle (P := (· = x.name)) hfresh
    (List.forall_mem_singleton.2 rfl)
  obtain ⟨hkept, hadded⟩ := filter_middle (P := (· ∈ x.rules)) hnew fun _ => id
  simp only [List.map_append, List.map_cons, List.flatMap_append, List.flatMap_cons]
  exact ⟨hothers, hname, hkept, hadded⟩

/-- The added fragment imports itself and one of the others, and its name puts it between the two. -/
theorem merge_extend_between : ∃ (fs gs : List Fragment) (x : Fragment) (t u : Template),
    merge "main" "demo" fs = .ok t ∧ Fragment.Extends fs x ∧ gs.Perm (x :: fs) ∧
      t.fragments = ["base", "core"] ∧ merge "main" "demo" gs = .ok u ∧
      u.fragments.filter (· ≠ x.name) = ["base", "core"] ∧
      u.rules.filter (· ∉ x.rules) = t.rules := by
  let base : Fragment := { name := "base", rules := [{ id := "mark" }] }
  let core : Fragment := { name := "core", imports := ["base"], rules := [{ id := "turn" }] }
  let bonus : Fragment :=
    { name := "bonus", imports := ["bonus", "base"], rules := [{ id := "press" }] }
  let t : Template := ⟨"main", "demo", ["base", "core"], [{ id := "mark" }, { id := "turn" }]⟩
  have hmerge : merge "main" "demo" [core, base] = .ok t := by decide +kernel
  have hbonus : Fragment.Extends [core, base] bonus :=
    ⟨by decide, by decide, by decide, ⟨by decide, by decide⟩, by decide⟩
  have hgs : [core, bonus, base].Perm (bonus :: [core, base]) := .swap _ _ _
  obtain ⟨u, hu, hfragments, -, hrules, -⟩ := merge_extend hmerge hbonus hgs
  exact ⟨_, _, bonus, t, u, hmerge, hbonus, hgs, rfl, hu, hfragments, hrules⟩

end Template

end RuleEngine
