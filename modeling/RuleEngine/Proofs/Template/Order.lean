import Mathlib.Data.Fintype.EquivFin
import Mathlib.Data.Fintype.Sets
import Mathlib.Data.List.Perm.Basic
import Mathlib.Logic.Relation
import Mathlib.Order.WellFounded
import RuleEngine.Proofs.Table
import RuleEngine.Template.Order

set_option autoImplicit false

/-! # The order of fragments is the least legal one

A list of fragments has a legal order if every import names one of them and no fragments wait for
each other in a circle. The order that is found places every fragment behind the others that it
imports, and among all such orders its names come first lexicographically
(`Fragment.inOrder_least`).

The argument runs along the placing of one fragment after the other. The fragments that are left
carry the names that they still wait for (`Fragment.Consistent`), and taking one out keeps this so.
If none can be taken out, every one of them waits for another one, and a finite set cannot do so
without a circle. If one can, it has the least name among all that could stand first in a legal
order, and the rest follows by induction.
-/

namespace RuleEngine

namespace Fragment

/-! ## Legal orders -/

/-- One fragment imports another one of the list. -/
def WaitsFor (fs : List Fragment) (f g : Fragment) : Prop :=
  f ∈ fs ∧ g ∈ fs ∧ f.name ≠ g.name ∧ g.name ∈ f.imports

/-- Fragments wait for each other. -/
def HasCycle (fs : List Fragment) : Prop := ∃ f, Relation.TransGen (WaitsFor fs) f f

/-- An import names no fragment of the list. -/
def HasUnknownImport (fs : List Fragment) : Prop :=
  ∃ f ∈ fs, ∃ i ∈ f.imports, i ∉ fs.map (·.name)

/-- The fragments in an order in which none precedes another one that it imports. -/
structure IsLegal (fs order : List Fragment) : Prop where
  perm : order.Perm fs
  importsFirst : order.Pairwise fun f g => g.name ∉ f.imports

/-- The names of an order, compared position by position, come before those of every other. -/
def IsFirst (fs order : List Fragment) : Prop :=
  ∀ other, IsLegal fs other →
    other = order ∨ List.Lex (· < ·) (order.map (·.name)) (other.map (·.name))

theorem WaitsFor.mono {fs gs : List Fragment} (hsub : fs ⊆ gs) {f g : Fragment}
    (h : WaitsFor fs f g) : WaitsFor gs f g :=
  ⟨hsub h.1, hsub h.2.1, h.2.2⟩

theorem HasCycle.mono {fs gs : List Fragment} (hsub : fs ⊆ gs) (h : HasCycle fs) :
    HasCycle gs := by
  obtain ⟨f, hf⟩ := h
  have hle : WaitsFor fs ≤ WaitsFor gs := fun _ _ hw => hw.mono hsub
  exact ⟨f, Relation.TransGen.mono hle f f hf⟩

/-- Fragments that all wait for another one have a cycle among them. -/
theorem hasCycle_of_all_waiting {fs : List Fragment} (hne : fs ≠ [])
    (h : ∀ f ∈ fs, ∃ g, WaitsFor fs f g) : HasCycle fs := by
  by_contra hno
  -- without a cycle, waiting is a strict order on finitely many fragments, which has a least one
  have hfinite : Finite { f // f ∈ fs } := Finite.of_fintype _
  let below (a b : { f // f ∈ fs }) : Prop := Relation.TransGen (WaitsFor fs) b.1 a.1
  have hirrefl : Std.Irrefl below := ⟨fun a ha => hno ⟨a.1, ha⟩⟩
  have htrans : IsTrans _ below := ⟨fun _ _ _ hab hbc => hbc.trans hab⟩
  have hwf := Finite.wellFounded_of_trans_of_irrefl below
  obtain ⟨f, hf⟩ := List.exists_mem_of_ne_nil fs hne
  obtain ⟨m, -, hmin⟩ := hwf.has_min Set.univ ⟨⟨f, hf⟩, trivial⟩
  obtain ⟨g, hg⟩ := h m.1 m.2
  exact hmin ⟨g, hg.2.1⟩ trivial (.single hg)

/-- A legal order has no cycle. -/
theorem IsLegal.not_hasCycle {fs order : List Fragment} (h : IsLegal fs order) : ¬ HasCycle fs := by
  -- whoever is waited for has the smaller position
  have hstep : ∀ f g, WaitsFor fs f g → order.idxOf g < order.idxOf f := by
    intro f g hw
    have hf : order.idxOf f < order.length := List.idxOf_lt_length_iff.2 (h.perm.mem_iff.2 hw.1)
    have hg : order.idxOf g < order.length := List.idxOf_lt_length_iff.2 (h.perm.mem_iff.2 hw.2.1)
    rcases Nat.lt_trichotomy (order.idxOf g) (order.idxOf f) with hlt | heq | hgt
    · exact hlt
    · have hsame : g = f := by
        rw [← List.getElem_idxOf hg, ← List.getElem_idxOf hf]
        congr 1
      exact absurd (by rw [hsame]) hw.2.2.1
    · have hfirst := List.pairwise_iff_getElem.1 h.importsFirst _ _ hf hg hgt
      rw [List.getElem_idxOf, List.getElem_idxOf] at hfirst
      exact absurd hw.2.2.2 hfirst
  rintro ⟨f, hf⟩
  have hpos : ∀ g, Relation.TransGen (WaitsFor fs) f g → order.idxOf g < order.idxOf f := by
    intro g hg
    induction hg with
    | single hw => exact hstep _ _ hw
    | tail _ hw ih => exact Nat.lt_trans (hstep _ _ hw) ih
  exact Nat.lt_irrefl _ (hpos f hf)

/-! ## Placing the first fragment -/

/-- The fragment that is taken out is the first one that waits for nothing. -/
theorem takeReady?_eq_some {ws rest : List Waiting} {f : Fragment}
    (h : takeReady? ws = some (f, rest)) :
    ∃ front w back, ws = front ++ w :: back ∧ rest = front ++ back ∧ w.fragment = f ∧
      w.names = [] ∧ ∀ v ∈ front, v.names ≠ [] := by
  induction ws generalizing rest with
  | nil => cases h
  | cons w ws ih =>
      unfold takeReady? at h
      by_cases hready : w.names.isEmpty = true
      · rw [if_pos hready, Option.some.injEq, Prod.mk.injEq] at h
        obtain ⟨rfl, rfl⟩ := h
        exact ⟨[], w, ws, rfl, rfl, rfl, List.isEmpty_iff.1 hready, fun v hv => absurd hv (by simp)⟩
      · rw [if_neg hready] at h
        obtain ⟨⟨g, rest'⟩, hg, he⟩ := Option.map_eq_some_iff.1 h
        rw [Prod.mk.injEq] at he
        obtain ⟨rfl, rfl⟩ := he
        obtain ⟨front, v, back, rfl, rfl, hv, hnames, hfront⟩ := ih hg
        refine ⟨w :: front, v, back, rfl, rfl, hv, hnames, ?_⟩
        intro u hu
        rcases List.mem_cons.1 hu with rfl | hu
        · exact fun hnil => hready (List.isEmpty_iff.2 hnil)
        · exact hfront u hu

/-- If nothing can be taken out, everything waits. -/
theorem takeReady?_eq_none {ws : List Waiting} (h : takeReady? ws = none) :
    ∀ w ∈ ws, w.names ≠ [] := by
  induction ws with
  | nil => exact fun w hw => absurd hw (by simp)
  | cons w ws ih =>
      unfold takeReady? at h
      by_cases hready : w.names.isEmpty = true
      · rw [if_pos hready] at h
        cases h
      · rw [if_neg hready, Option.map_eq_none_iff] at h
        intro v hv
        rcases List.mem_cons.1 hv with rfl | hv
        · exact fun hnil => hready (List.isEmpty_iff.2 hnil)
        · exact ih h v hv

/-- The fragments that are left stand in the order of their names, and each waits for those of
them that it imports. -/
structure Consistent (ws : List Waiting) : Prop where
  sorted : ws.Pairwise fun v w => v.fragment.name < w.fragment.name
  names : ∀ w ∈ ws, ∀ n, n ∈ w.names ↔
    n ∈ w.fragment.imports ∧ n ≠ w.fragment.name ∧ n ∈ ws.map (·.fragment.name)

theorem Consistent.nodup {ws : List Waiting} (h : Consistent ws) :
    (ws.map (·.fragment.name)).Nodup := by
  refine List.pairwise_map.2 (h.sorted.imp ?_)
  intro v w hlt heq
  rw [heq] at hlt
  exact String.lt_irrefl _ hlt

/-- A fragment that is left waits for those that are left and that it imports. -/
theorem Consistent.mem_names_iff {ws : List Waiting} (h : Consistent ws) {w : Waiting}
    (hw : w ∈ ws) (n : String) :
    n ∈ w.names ↔ ∃ g, WaitsFor (ws.map (·.fragment)) w.fragment g ∧ g.name = n := by
  rw [h.names w hw]
  constructor
  · rintro ⟨himport, hne, hmem⟩
    obtain ⟨v, hv, rfl⟩ := List.mem_map.1 hmem
    exact ⟨v.fragment, ⟨List.mem_map_of_mem hw, List.mem_map_of_mem hv, hne.symm, himport⟩, rfl⟩
  · rintro ⟨g, ⟨-, hg, hne, himport⟩, rfl⟩
    obtain ⟨v, hv, rfl⟩ := List.mem_map.1 hg
    exact ⟨himport, hne.symm, List.mem_map_of_mem hv⟩

/-- Taking a fragment out leaves the others as they have to be. -/
theorem Consistent.release {front back : List Waiting} {w : Waiting}
    (h : Consistent (front ++ w :: back)) :
    Consistent ((front ++ back).map (Waiting.release w.fragment.name)) := by
  have hsub : (front ++ back).Sublist (front ++ w :: back) :=
    (List.Sublist.refl front).append (List.sublist_cons_self w back)
  refine ⟨?_, ?_⟩
  · rw [List.pairwise_map]
    exact h.sorted.sublist hsub
  · intro v' hv' n
    obtain ⟨v, hv, rfl⟩ := List.mem_map.1 hv'
    have hnames := h.names v (hsub.subset hv) n
    -- the names that are left are those of before, but not the one that is taken out
    have hmem : n ∈ ((front ++ back).map (Waiting.release w.fragment.name)).map (·.fragment.name) ↔
        n ∈ (front ++ w :: back).map (·.fragment.name) ∧ n ≠ w.fragment.name := by
      have hfresh : w.fragment.name ∉ (front ++ back).map (·.fragment.name) := by
        have hnodup := h.nodup
        rw [List.map_append, List.map_cons, List.nodup_middle, List.nodup_cons] at hnodup
        rw [List.map_append]
        exact hnodup.1
      rw [List.map_map]
      show n ∈ (front ++ back).map (·.fragment.name) ↔ _
      constructor
      · intro hn
        refine ⟨(hsub.map _).subset hn, ?_⟩
        rintro rfl
        exact hfresh hn
      · rintro ⟨hn, hne⟩
        rw [List.map_append, List.map_cons, List.mem_append, List.mem_cons] at hn
        rw [List.map_append, List.mem_append]
        tauto
    rw [hmem]
    show n ∈ v.names.filter (fun i => i != w.fragment.name) ↔ _
    rw [List.mem_filter, hnames, bne_iff_ne]
    show _ ↔ n ∈ v.fragment.imports ∧ n ≠ v.fragment.name ∧ _
    tauto

/-! ## The rest of the order -/

section Step

variable {front back : List Waiting} {w : Waiting} {order : List Fragment}

/-- A fragment that waits for nothing may stand first. -/
theorem Consistent.isLegal_cons (h : Consistent (front ++ w :: back)) (hready : w.names = [])
    (ho : IsLegal ((front ++ back).map (·.fragment)) order) :
    IsLegal ((front ++ w :: back).map (·.fragment)) (w.fragment :: order) := by
  have hw : w ∈ front ++ w :: back := List.mem_append_right _ List.mem_cons_self
  have hperm : (w.fragment :: order).Perm ((front ++ w :: back).map (·.fragment)) := by
    rw [List.map_append, List.map_cons]
    refine (ho.perm.cons w.fragment).trans ?_
    rw [List.map_append]
    exact List.perm_middle.symm
  refine ⟨hperm, List.pairwise_cons.2 ⟨?_, ho.importsFirst⟩⟩
  intro g hg himport
  have hg' : g ∈ (front ++ w :: back).map (·.fragment) := hperm.subset (List.mem_cons_of_mem _ hg)
  -- its names are those of the others that it imports, and there are none
  have hwaits : g.name ∉ w.names := by
    rw [hready]
    exact List.not_mem_nil
  refine hwaits ((h.mem_names_iff hw g.name).2 ⟨g, ⟨List.mem_map_of_mem hw, hg', ?_, himport⟩, rfl⟩)
  intro heq
  have hnodup := h.nodup
  rw [List.map_append, List.map_cons, List.nodup_middle, List.nodup_cons, ← List.map_append] at hnodup
  refine hnodup.1 ?_
  obtain ⟨v, hv, rfl⟩ := List.mem_map.1 (ho.perm.subset hg)
  rw [heq]
  exact List.mem_map_of_mem hv

/-- The first fragment of a legal order waits for nothing. -/
theorem Consistent.names_eq_nil {ws : List Waiting} (h : Consistent ws) {v : Waiting} (hv : v ∈ ws)
    {others : List Fragment} (ho : IsLegal (ws.map (·.fragment)) (v.fragment :: others)) :
    v.names = [] := by
  rw [List.eq_nil_iff_forall_not_mem]
  intro n hn
  obtain ⟨g, hg, -⟩ := (h.mem_names_iff hv n).1 hn
  rcases List.mem_cons.1 (ho.perm.mem_iff.2 hg.2.1) with rfl | hmem
  · exact hg.2.2.1 rfl
  · exact (List.pairwise_cons.1 ho.importsFirst).1 g hmem hg.2.2.2

/-- The first fragment that waits for nothing stands first in the least order. -/
theorem Consistent.isFirst_cons (h : Consistent (front ++ w :: back))
    (hfront : ∀ v ∈ front, v.names ≠ [])
    (ho : IsFirst ((front ++ back).map (·.fragment)) order) :
    IsFirst ((front ++ w :: back).map (·.fragment)) (w.fragment :: order) := by
  intro other hother
  cases other with
  | nil =>
      have hnil := hother.perm.symm.eq_nil
      simp at hnil
  | cons g others =>
      obtain ⟨v, hv, rfl⟩ := List.mem_map.1 (hother.perm.mem_iff.1 List.mem_cons_self)
      have hready := h.names_eq_nil hv hother
      -- a legal order cannot start further in front; further back its first name is greater
      rcases List.mem_append.1 hv with hmem | hmem
      · exact absurd hready (hfront v hmem)
      rcases List.mem_cons.1 hmem with rfl | hmem
      · have hrest : IsLegal ((front ++ back).map (·.fragment)) others := by
          refine ⟨?_, (List.pairwise_cons.1 hother.importsFirst).2⟩
          have hperm := hother.perm
          rw [List.map_append, List.map_cons] at hperm
          rw [List.map_append]
          exact (hperm.trans List.perm_middle).cons_inv
        rcases ho others hrest with heq | hlt
        · exact Or.inl (by rw [heq])
        · exact Or.inr (.cons hlt)
      · have hlow : w.fragment.name < v.fragment.name :=
          (List.pairwise_cons.1 (List.pairwise_append.1 h.sorted).2.1).1 v hmem
        exact Or.inr (.rel hlow)

end Step

theorem place_of_ready {ws rest : List Waiting} {f : Fragment}
    (h : takeReady? ws = some (f, rest)) :
    place ws = (place (rest.map (Waiting.release f.name))).map (f :: ·) := by
  rw [place]
  split
  · next f' rest' h' =>
    rw [h, Option.some.injEq, Prod.mk.injEq] at h'
    rw [h'.1, h'.2]
  · next h' =>
    rw [h] at h'
    cases h'

theorem place_of_stuck {ws : List Waiting} (h : takeReady? ws = none) :
    place ws = if ws.isEmpty then .ok [] else .error (.cycle (ws.map (·.fragment.name))) := by
  rw [place]
  split
  · next h' =>
    rw [h] at h'
    cases h'
  · rfl

/-- If every fragment that is left waits for something, there is a cycle among them. -/
theorem Consistent.hasCycle {ws : List Waiting} (h : Consistent ws) (hne : ws ≠ [])
    (hwait : ∀ w ∈ ws, w.names ≠ []) : HasCycle (ws.map (·.fragment)) := by
  refine hasCycle_of_all_waiting ?_ ?_
  · intro hnil
    exact hne (List.map_eq_nil_iff.1 hnil)
  · intro f hf
    obtain ⟨w, hw, rfl⟩ := List.mem_map.1 hf
    obtain ⟨n, hn⟩ := List.exists_mem_of_ne_nil _ (hwait w hw)
    obtain ⟨g, hg, -⟩ := (h.mem_names_iff hw n).1 hn
    exact ⟨g, hg⟩

/-- **Placing finds the first legal order, or else there is a cycle.** -/
theorem place_spec {ws : List Waiting} (h : Consistent ws) :
    match place ws with
    | .ok order => IsLegal (ws.map (·.fragment)) order ∧ IsFirst (ws.map (·.fragment)) order
    | .error e => (∃ names, e = .cycle names) ∧ HasCycle (ws.map (·.fragment)) := by
  cases htake : takeReady? ws with
  | some r =>
      obtain ⟨f, rest⟩ := r
      have hlength := length_of_takeReady? htake
      obtain ⟨front, w, back, hws, rfl, rfl, hready, hfront⟩ := takeReady?_eq_some htake
      have hrest : ((front ++ back).map (Waiting.release w.fragment.name)).map (·.fragment)
          = (front ++ back).map (·.fragment) := by
        rw [List.map_map]
        rfl
      have hconsistent := h
      rw [hws] at hconsistent
      have ih := place_spec hconsistent.release
      rw [hrest] at ih
      -- the fragments that are left are placed behind the one that is taken out
      rw [place_of_ready htake]
      cases hplace : place ((front ++ back).map (Waiting.release w.fragment.name)) with
      | ok order =>
          rw [hplace] at ih
          show IsLegal _ (w.fragment :: order) ∧ IsFirst _ (w.fragment :: order)
          rw [hws]
          exact ⟨hconsistent.isLegal_cons hready ih.1, hconsistent.isFirst_cons hfront ih.2⟩
      | error e =>
          rw [hplace] at ih
          -- a cycle among some of the fragments is one among all of them
          show (∃ names, e = .cycle names) ∧ HasCycle _
          refine ⟨ih.1, ih.2.mono ?_⟩
          rw [hws]
          exact List.map_subset _ ((List.Sublist.refl front).append (List.sublist_cons_self w back)).subset
  | none =>
      have hwait := takeReady?_eq_none htake
      rw [place_of_stuck htake]
      by_cases hempty : ws.isEmpty = true
      · rw [if_pos hempty, List.isEmpty_iff.1 hempty]
        refine ⟨⟨List.Perm.refl _, List.Pairwise.nil⟩, ?_⟩
        intro other hother
        exact Or.inl hother.perm.eq_nil
      · rw [if_neg hempty]
        exact ⟨⟨_, rfl⟩, h.hasCycle (fun hnil => hempty (List.isEmpty_iff.2 hnil)) hwait⟩
termination_by ws.length
decreasing_by
  rw [List.length_map]
  omega

/-! ## Fragments by name -/

/-- Fragments with different names, none of them blank, become a table by name. -/
theorem byName_spec {fs : List Fragment} {table : Table Fragment}
    (hblank : ∀ f ∈ fs, Text.isBlankText f.name = false)
    (hnodup : (table.map (·.1) ++ fs.map (·.name)).Nodup) (hsorted : table.Sorted)
    (hkeys : ∀ e ∈ table, e.1 = e.2.name) :
    ∃ all, byName table fs = .ok all ∧ all.Sorted ∧ (∀ e ∈ all, e.1 = e.2.name) ∧
      (all.map (·.2)).Perm (table.map (·.2) ++ fs) := by
  induction fs generalizing table with
  | nil => exact ⟨table, rfl, hsorted, hkeys, by rw [List.append_nil]⟩
  | cons f fs ih =>
      rw [List.map_cons, List.nodup_middle, List.nodup_cons, List.mem_append, not_or] at hnodup
      -- the name is new to the table, so that its entry is added and none is replaced
      have hnew : table.contains f.name = false := by
        rw [Bool.eq_false_iff]
        intro hc
        exact hnodup.1.1 ((Table.contains_iff table f.name).1 hc)
      have hperm := Table.insert_perm hnew f
      have hnodup' : ((table.insert f.name f).map (·.1) ++ fs.map (·.name)).Nodup := by
        refine ((hperm.map _).append_right _).nodup_iff.2 ?_
        rw [List.map_cons, List.cons_append, List.nodup_cons, List.mem_append, not_or]
        exact hnodup
      have hkeys' : ∀ e ∈ table.insert f.name f, e.1 = e.2.name := by
        intro e he
        rcases List.mem_cons.1 (hperm.subset he) with rfl | he
        · rfl
        · exact hkeys e he
      obtain ⟨all, hall, hs, hk, hp⟩ := ih (fun g hg => hblank g (List.mem_cons_of_mem f hg)) hnodup'
        (hsorted.insert f.name f) hkeys'
      refine ⟨all, ?_, hs, hk, hp.trans ?_⟩
      · rw [byName, if_neg (by rw [hblank f List.mem_cons_self]; decide),
          if_neg (by rw [hnew]; decide), hall]
      · refine ((hperm.map (·.2)).append_right fs).trans ?_
        rw [List.map_cons, List.cons_append]
        exact List.perm_middle.symm

/-- No import is missing exactly if all of them are names of the table. -/
theorem missingImport?_eq_none {table : Table Fragment} {f : Fragment} :
    missingImport? table f = none ↔ ∀ i ∈ f.imports, i ∈ table.map (·.1) := by
  unfold missingImport?
  rw [Option.map_eq_none_iff, List.find?_eq_none]
  simp only [Bool.not_eq_true', Bool.not_eq_false, Table.contains_iff]

theorem missingImport?_eq_some {table : Table Fragment} {f : Fragment} {e : MergeError}
    (h : missingImport? table f = some e) :
    ∃ i ∈ f.imports, i ∉ table.map (·.1) ∧ e = .unknownImport f.name i := by
  obtain ⟨i, hfind, rfl⟩ := Option.map_eq_some_iff.1 h
  refine ⟨i, List.mem_of_find?_eq_some hfind, ?_, rfl⟩
  have hmiss := List.find?_some hfind
  rw [← Table.contains_iff]
  simpa using hmiss

/-! ## The whole order -/

theorem IsLegal.congr {fs gs order : List Fragment} (hperm : fs.Perm gs) (h : IsLegal fs order) :
    IsLegal gs order :=
  ⟨h.perm.trans hperm, h.importsFirst⟩

theorem IsFirst.congr {fs gs order : List Fragment} (hperm : fs.Perm gs) (h : IsFirst fs order) :
    IsFirst gs order :=
  fun other hother => h other (hother.congr hperm.symm)

/-- Fragments whose imports are all known start out waiting for those imports. -/
theorem consistent_of {fs : List Fragment} (hsorted : fs.Pairwise fun f g => f.name < g.name)
    (hknown : ∀ f ∈ fs, ∀ i ∈ f.imports, i ∈ fs.map (·.name)) :
    Consistent (fs.map Waiting.of) := by
  refine ⟨List.pairwise_map.2 hsorted, ?_⟩
  intro w hw n
  obtain ⟨f, hf, rfl⟩ := List.mem_map.1 hw
  rw [List.map_map]
  show n ∈ f.imports.filter (fun i => i != f.name) ↔
    n ∈ f.imports ∧ n ≠ f.name ∧ n ∈ fs.map (·.name)
  rw [List.mem_filter, bne_iff_ne]
  constructor
  · rintro ⟨himport, hne⟩
    exact ⟨himport, hne, hknown f hf n himport⟩
  · rintro ⟨himport, hne, -⟩
    exact ⟨himport, hne⟩

/-- Fragments by increasing name with known imports are placed in the first legal order, or else
there is a cycle. -/
theorem place_of_known {fs : List Fragment} (hsorted : fs.Pairwise fun f g => f.name < g.name)
    (hknown : ∀ f ∈ fs, ∀ i ∈ f.imports, i ∈ fs.map (·.name)) :
    match place (fs.map Waiting.of) with
    | .ok order => IsLegal fs order ∧ IsFirst fs order
    | .error e => (∃ names, e = .cycle names) ∧ HasCycle fs := by
  have hplace := place_spec (consistent_of hsorted hknown)
  have hfragments : (fs.map Waiting.of).map (·.fragment) = fs := by
    rw [List.map_map]
    exact List.map_id _
  rwa [hfragments] at hplace

/-- What is found for fragments with different names: the first legal order, or else an import is
unknown or there is a cycle. -/
theorem inOrder_spec {fs : List Fragment} (hblank : ∀ f ∈ fs, Text.isBlankText f.name = false)
    (hnodup : (fs.map (·.name)).Nodup) :
    match inOrder fs with
    | .ok order => ¬ HasUnknownImport fs ∧ IsLegal fs order ∧ IsFirst fs order
    | .error e => (∃ text, e.toEngineError = .configuration text) ∧
        (HasUnknownImport fs ∨ HasCycle fs) := by
  -- the table holds the same fragments, by increasing name
  have hempty : (([] : Table Fragment).map (·.1) ++ fs.map (·.name)).Nodup := hnodup
  obtain ⟨table, htable, hsorted, hkeys, hperm⟩ :=
    byName_spec hblank hempty Table.Sorted.nil (fun e he => absurd he (by simp))
  rw [List.map_nil, List.nil_append] at hperm
  have hnames : table.map (·.1) = (table.map (·.2)).map (·.name) := by
    rw [List.map_map]
    exact List.map_congr_left hkeys
  have hmem : ∀ i, i ∈ table.map (·.1) ↔ i ∈ fs.map (·.name) := by
    intro i
    rw [hnames]
    exact (hperm.map _).mem_iff
  unfold inOrder
  rw [htable]
  dsimp only
  cases hfind : (table.map (·.2)).findSome? (missingImport? table) with
  | some e =>
      obtain ⟨f, hf, he⟩ := List.exists_of_findSome?_eq_some hfind
      obtain ⟨i, hi, hmiss, rfl⟩ := missingImport?_eq_some he
      refine ⟨⟨_, rfl⟩, Or.inl ⟨f, hperm.subset hf, i, hi, ?_⟩⟩
      rwa [← hmem]
  | none =>
      have hknown : ∀ f ∈ table.map (·.2), ∀ i ∈ f.imports, i ∈ table.map (·.1) := by
        intro f hf
        exact missingImport?_eq_none.1 (List.findSome?_eq_none_iff.1 hfind f hf)
      have hincreasing : (table.map (·.2)).Pairwise fun f g => f.name < g.name := by
        rw [List.pairwise_map]
        refine List.Pairwise.imp_of_mem ?_ hsorted
        intro a b ha hb hlt
        rwa [hkeys a ha, hkeys b hb] at hlt
      have hplace := place_of_known hincreasing (by rwa [hnames] at hknown)
      dsimp only
      cases hresult : place ((table.map (·.2)).map Waiting.of) with
      | ok order =>
          rw [hresult] at hplace
          refine ⟨?_, hplace.1.congr hperm, hplace.2.congr hperm⟩
          rintro ⟨f, hf, i, hi, hmiss⟩
          exact hmiss ((hmem i).1 (hknown f (hperm.symm.subset hf) i hi))
      | error e =>
          rw [hresult] at hplace
          obtain ⟨⟨names, rfl⟩, hcycle⟩ := hplace
          exact ⟨⟨_, rfl⟩, Or.inr (hcycle.mono hperm.subset)⟩

/-- **Fragments with different names have an order exactly if all their imports are known and none
of them wait for each other, and then it is the first of the legal ones.** -/
theorem inOrder_isFirst {fs : List Fragment} (hblank : ∀ f ∈ fs, Text.isBlankText f.name = false)
    (hnodup : (fs.map (·.name)).Nodup) :
    ((∃ e, inOrder fs = .error e) ↔ HasUnknownImport fs ∨ HasCycle fs) ∧
    (∀ e, inOrder fs = .error e → ∃ text, e.toEngineError = .configuration text) ∧
    (∀ order, inOrder fs = .ok order → IsLegal fs order ∧ IsFirst fs order) := by
  have hspec := inOrder_spec hblank hnodup
  cases hresult : inOrder fs with
  | ok order =>
      rw [hresult] at hspec
      obtain ⟨hknown, hlegal, hfirst⟩ := hspec
      refine ⟨⟨?_, ?_⟩, ?_, ?_⟩
      · rintro ⟨e, he⟩
        cases he
      · rintro (hunknown | hcycle)
        · exact absurd hunknown hknown
        · exact absurd hcycle hlegal.not_hasCycle
      · intro e he
        cases he
      · intro o ho
        cases ho
        exact ⟨hlegal, hfirst⟩
  | error e =>
      rw [hresult] at hspec
      refine ⟨⟨fun _ => hspec.2, fun _ => ⟨e, rfl⟩⟩, ?_, ?_⟩
      · intro e' he
        cases he
        exact hspec.1
      · intro o ho
        cases ho

/-- The first of these two fragments imports the other one, which therefore has to precede it. -/
theorem inOrder_isFirst_pair :
    inOrder [⟨"core", ["base"], []⟩, ⟨"base", [], []⟩] =
      .ok [⟨"base", [], []⟩, ⟨"core", ["base"], []⟩] ∧
    IsLegal [⟨"core", ["base"], []⟩, ⟨"base", [], []⟩] [⟨"base", [], []⟩, ⟨"core", ["base"], []⟩] ∧
    IsFirst [⟨"core", ["base"], []⟩, ⟨"base", [], []⟩] [⟨"base", [], []⟩, ⟨"core", ["base"], []⟩] := by
  have horder : inOrder [⟨"core", ["base"], []⟩, ⟨"base", [], []⟩] =
      .ok [⟨"base", [], []⟩, ⟨"core", ["base"], []⟩] := by decide +kernel
  exact ⟨horder, (inOrder_isFirst (by decide) (by decide)).2.2 _ horder⟩

end Fragment

end RuleEngine
