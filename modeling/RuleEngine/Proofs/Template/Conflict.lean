import RuleEngine.Proofs.Template.Merge

set_option autoImplicit false

/-! # Conflicts between the rules of fragments

The rules of ordered fragments are read one after another, each together with the fragment that
declares it (`Fragment.declarations`). A declaration is refused if its id is blank or if one in front
of it has the same id (`Fragment.Refuses`). As long as none is refused, the owners of the ids are the
fragments of the declarations so far (`Fragment.Owned`); this is kept by every rule, and so by every
fragment. Hence the first declaration that is refused ends the merge, and the fragment that it is in
conflict with is that of the earlier declaration.

**Main result.** `Template.merge_of_inOrder`: fragments with an order make up the template of all
their rules exactly if no declaration is refused, and otherwise the first one that is decides the
error.
-/

namespace RuleEngine

/-- No rule is without an id, and no id stands for two of them. -/
structure Rule.AreIdentified (rules : List Rule) : Prop where
  named : ∀ r ∈ rules, Text.isBlankText r.id = false
  distinct : (rules.map (·.id)).Nodup

namespace Rule

theorem AreIdentified.nil : AreIdentified [] := ⟨by simp, List.nodup_nil⟩

theorem AreIdentified.sublist {rules part : List Rule} (h : AreIdentified rules)
    (hsub : part.Sublist rules) : AreIdentified part :=
  ⟨fun r hr => h.named r (hsub.subset hr), h.distinct.sublist (hsub.map _)⟩

theorem AreIdentified.perm {rules other : List Rule} (h : AreIdentified rules)
    (hperm : rules.Perm other) : AreIdentified other :=
  ⟨fun r hr => h.named r (hperm.mem_iff.2 hr), (hperm.map _).nodup_iff.1 h.distinct⟩

/-- Rules are identified together if both parts are and have no id in common. -/
theorem areIdentified_append {front back : List Rule} :
    AreIdentified (front ++ back) ↔
      AreIdentified front ∧ AreIdentified back ∧ ∀ r ∈ front, ∀ q ∈ back, r.id ≠ q.id := by
  constructor
  · intro h
    have hdistinct := h.distinct
    rw [List.map_append, List.nodup_append] at hdistinct
    refine ⟨h.sublist (List.sublist_append_left _ _), h.sublist (List.sublist_append_right _ _), ?_⟩
    exact fun r hr q hq => hdistinct.2.2 r.id (List.mem_map_of_mem hr) q.id (List.mem_map_of_mem hq)
  · rintro ⟨hfront, hback, hapart⟩
    refine ⟨List.forall_mem_append.2 ⟨hfront.named, hback.named⟩, ?_⟩
    rw [List.map_append]
    refine List.nodup_append.2 ⟨hfront.distinct, hback.distinct, fun i hi j hj => ?_⟩
    obtain ⟨r, hr, rfl⟩ := List.mem_map.1 hi
    obtain ⟨q, hq, rfl⟩ := List.mem_map.1 hj
    exact hapart r hr q hq

/-- One more rule behind identified ones needs an id, and one that is not taken. -/
theorem areIdentified_snoc {rules : List Rule} {r : Rule} :
    AreIdentified (rules ++ [r]) ↔
      AreIdentified rules ∧ Text.isBlankText r.id = false ∧ r.id ∉ rules.map (·.id) := by
  have hsingle : AreIdentified [r] ↔ Text.isBlankText r.id = false :=
    ⟨fun h => h.named r List.mem_cons_self, fun h => ⟨by simpa using h, List.nodup_singleton _⟩⟩
  simp only [areIdentified_append, hsingle, List.mem_singleton, forall_eq, List.mem_map, not_exists,
    not_and, ne_eq]

end Rule

namespace Fragment

/-! ## Declarations -/

/-- The rules of fragments, one fragment after another, each with the fragment that declares it. -/
def declarations (fs : List Fragment) : List (Fragment × Rule) :=
  fs.flatMap fun f => f.rules.map fun r => (f, r)

theorem map_declarations (fs : List Fragment) :
    (declarations fs).map (·.2) = fs.flatMap (·.rules) := by
  rw [declarations, List.map_flatMap]
  congr 1
  funext f
  rw [List.map_map]
  exact List.map_id _

/-- Why a declaration is refused behind others. -/
inductive Refuses (front : List (Fragment × Rule)) (d : Fragment × Rule) : EngineError → Prop
  | blank : Text.isBlankText d.2.id = true →
      Refuses front d
        (.configuration ("fragment '" ++ d.1.name ++ "' contains a rule without an id"))
  | repeated {g : Fragment × Rule} : Text.isBlankText d.2.id = false → g ∈ front →
      g.2.id = d.2.id → Refuses front d (.mergeConflict d.2.id g.1.name d.1.name)

/-- The first declaration that is refused is refused with this error. -/
def FirstRefusal (ds : List (Fragment × Rule)) (x : EngineError) : Prop :=
  ∃ front d back, ds = front ++ d :: back ∧ Rule.AreIdentified (front.map (·.2)) ∧
    Refuses front d x

/-- A declaration that is refused is not identified behind the others. -/
theorem Refuses.not_areIdentified {front : List (Fragment × Rule)} {d : Fragment × Rule}
    {x : EngineError} (h : Refuses front d x) :
    ¬ Rule.AreIdentified ((front ++ [d]).map (·.2)) := by
  intro hids
  rw [List.map_append, List.map_singleton, Rule.areIdentified_snoc] at hids
  cases h with
  | blank hblank =>
      rw [hids.2.1] at hblank
      cases hblank
  | repeated _ hg hid =>
      refine hids.2.2 (List.mem_map.2 ⟨_, List.mem_map_of_mem hg, hid⟩)

/-- A declaration is refused for one reason only, as long as those in front are not. -/
theorem Refuses.unique {front : List (Fragment × Rule)} {d : Fragment × Rule} {x y : EngineError}
    (hfront : Rule.AreIdentified (front.map (·.2))) (hx : Refuses front d x)
    (hy : Refuses front d y) : x = y := by
  cases hx with
  | blank hblank =>
      cases hy with
      | blank _ => rfl
      | repeated hnot _ _ =>
          rw [hblank] at hnot
          cases hnot
  | @repeated g hnot hg hid =>
      cases hy with
      | blank hblank =>
          rw [hblank] at hnot
          cases hnot
      | @repeated g' _ hg' hid' =>
          -- no two declarations in front have the id
          have hsame : g = g' := by
            have hdistinct := hfront.distinct
            rw [List.map_map] at hdistinct
            exact List.inj_on_of_nodup_map hdistinct hg hg' (hid.trans hid'.symm)
          rw [hsame]

theorem FirstRefusal.not_areIdentified {ds : List (Fragment × Rule)} {x : EngineError}
    (h : FirstRefusal ds x) : ¬ Rule.AreIdentified (ds.map (·.2)) := by
  obtain ⟨front, d, back, rfl, -, hd⟩ := h
  intro hids
  refine hd.not_areIdentified (hids.sublist (List.Sublist.map _ ?_))
  exact (List.Sublist.refl front).append (List.singleton_sublist.2 List.mem_cons_self)

/-- Identified declarations end in front of one that is refused. -/
theorem Refuses.length_le {front back front' : List (Fragment × Rule)} {d : Fragment × Rule}
    {x : EngineError} (h : Refuses front d x) (hpart : front' <+: front ++ d :: back)
    (hids : Rule.AreIdentified (front'.map (·.2))) : front'.length ≤ front.length := by
  by_contra hlong
  have hrefused : front ++ [d] <+: front ++ d :: back :=
    ⟨back, by rw [List.append_assoc, List.singleton_append]⟩
  have hinside : front ++ [d] <+: front' := by
    refine List.prefix_of_prefix_length_le hrefused hpart ?_
    rw [List.length_append, List.length_singleton]
    omega
  exact h.not_areIdentified (hids.sublist (hinside.sublist.map _))

/-- Only one declaration is the first that is refused. -/
theorem FirstRefusal.unique {ds : List (Fragment × Rule)} {x y : EngineError}
    (hx : FirstRefusal ds x) (hy : FirstRefusal ds y) : x = y := by
  obtain ⟨front, d, back, rfl, hfront, hd⟩ := hx
  obtain ⟨front', d', back', hsplit, hfront', hd'⟩ := hy
  have hle : front'.length ≤ front.length :=
    hd.length_le ⟨d' :: back', hsplit.symm⟩ hfront'
  have hge : front.length ≤ front'.length :=
    hd'.length_le ⟨d :: back, hsplit⟩ hfront
  obtain ⟨rfl, hrest⟩ := List.append_inj hsplit (Nat.le_antisymm hge hle)
  obtain ⟨rfl, -⟩ := List.cons.inj hrest
  exact hd.unique hfront hd'

/-! ## The owners of the ids -/

/-- The owners are the fragments of declarations of which none is refused. -/
structure Owned (owners : Owners) (ds : List (Fragment × Rule)) : Prop where
  identified : Rule.AreIdentified (ds.map (·.2))
  get? : ∀ id name, owners.get? id = some name ↔ ∃ d ∈ ds, d.2.id = id ∧ d.1.name = name

theorem Owned.nil : Owned [] [] := ⟨.nil, by simp [Table.get?]⟩

/-- An id without an owner is declared nowhere. -/
theorem Owned.not_mem {owners : Owners} {ds : List (Fragment × Rule)} (h : Owned owners ds)
    {id : String} (hid : owners.get? id = none) : id ∉ (ds.map (·.2)).map (·.id) := by
  rw [List.map_map]
  intro hmem
  obtain ⟨d, hd, hdid⟩ := List.mem_map.1 hmem
  have hsome := (h.get? id d.1.name).2 ⟨d, hd, hdid, rfl⟩
  rw [hid] at hsome
  cases hsome

/-- A rule that is not refused gets an owner. -/
theorem Owned.insert {owners : Owners} {ds : List (Fragment × Rule)} (h : Owned owners ds)
    (f : Fragment) {r : Rule} (hblank : Text.isBlankText r.id = false)
    (hnone : owners.get? r.id = none) :
    Owned (owners.insert r.id f.name) (ds ++ [(f, r)]) := by
  have hnew := h.not_mem hnone
  refine ⟨?_, fun id name => ?_⟩
  · rw [List.map_append, List.map_singleton]
    exact Rule.areIdentified_snoc.2 ⟨h.identified, hblank, hnew⟩
  · rw [Table.get?_insert]
    by_cases hid : r.id = id
    · rw [if_pos hid, Option.some.injEq]
      constructor
      · rintro rfl
        exact ⟨(f, r), by simp, hid, rfl⟩
      · rintro ⟨d, hd, hdid, rfl⟩
        rcases List.mem_append.1 hd with hd | hd
        · rw [List.map_map] at hnew
          exact absurd (List.mem_map.2 ⟨d, hd, hdid.trans hid.symm⟩) hnew
        · rw [List.mem_singleton.1 hd]
    · rw [if_neg hid, h.get?]
      constructor
      · rintro ⟨d, hd, hdid, hname⟩
        exact ⟨d, List.mem_append_left _ hd, hdid, hname⟩
      · rintro ⟨d, hd, hdid, hname⟩
        rcases List.mem_append.1 hd with hd | hd
        · exact ⟨d, hd, hdid, hname⟩
        · rw [List.mem_singleton.1 hd] at hdid
          exact absurd hdid hid

/-- The rules of one fragment get it as their owner up to the first one that is refused. -/
theorem own_spec (f : Fragment) (rules : List Rule) {owners : Owners}
    {ds : List (Fragment × Rule)} (h : Owned owners ds) :
    match own f.name owners rules with
    | .ok owners' => Owned owners' (ds ++ rules.map fun r => (f, r))
    | .error e => FirstRefusal (ds ++ rules.map fun r => (f, r)) e.toEngineError := by
  induction rules generalizing owners ds with
  | nil =>
      rw [List.map_nil, List.append_nil]
      exact h
  | cons r rs ih =>
      rw [own]
      by_cases hblank : Text.isBlankText r.id = true
      · rw [if_pos hblank]
        exact ⟨ds, (f, r), rs.map fun r => (f, r), rfl, h.identified, .blank hblank⟩
      · rw [if_neg hblank]
        rw [Bool.not_eq_true] at hblank
        cases hget : owners.get? r.id with
        | some first =>
            obtain ⟨d, hd, hid, rfl⟩ := (h.get? _ _).1 hget
            exact ⟨ds, (f, r), rs.map fun r => (f, r), rfl, h.identified, .repeated hblank hd hid⟩
        | none =>
            have hrest := ih (h.insert f hblank hget)
            rwa [List.append_assoc, List.singleton_append] at hrest

theorem FirstRefusal.append {ds : List (Fragment × Rule)} {x : EngineError}
    (h : FirstRefusal ds x) (more : List (Fragment × Rule)) : FirstRefusal (ds ++ more) x := by
  obtain ⟨front, d, back, rfl, hfront, hd⟩ := h
  exact ⟨front, d, back ++ more, by rw [List.append_assoc, List.cons_append], hfront, hd⟩

/-- All declarations get their owners, or the first one that is refused decides the error. -/
theorem ownAll_spec (fs : List Fragment) {owners : Owners} {ds : List (Fragment × Rule)}
    (h : Owned owners ds) :
    match ownAll owners fs with
    | .ok _ => Rule.AreIdentified ((ds ++ declarations fs).map (·.2))
    | .error e => FirstRefusal (ds ++ declarations fs) e.toEngineError := by
  induction fs generalizing owners ds with
  | nil =>
      rw [declarations, List.flatMap_nil, List.append_nil]
      exact h.identified
  | cons f fs ih =>
      have hsplit : ds ++ declarations (f :: fs) =
          (ds ++ f.rules.map fun r => (f, r)) ++ declarations fs := by
        rw [declarations, List.flatMap_cons, List.append_assoc]
        rfl
      have hown := own_spec f f.rules h
      rw [hsplit, ownAll]
      cases hresult : own f.name owners f.rules with
      | ok owners' =>
          rw [hresult] at hown
          exact ih hown
      | error e =>
          rw [hresult] at hown
          exact hown.append _

end Fragment

namespace Template

/-! ## The merged template -/

/-- Fragments are merged exactly if they have an order and their rules are identified. -/
theorem merge_eq_ok_iff {subDir name : String} {fs : List Fragment} {t : Template} :
    merge subDir name fs = .ok t ↔ ∃ order, Fragment.inOrder fs = .ok order ∧
      Rule.AreIdentified (order.flatMap (·.rules)) ∧
      t = ⟨subDir, name, order.map (·.name), order.flatMap (·.rules)⟩ := by
  unfold merge
  cases Fragment.inOrder fs with
  | error e => simp
  | ok order =>
      have hspec := Fragment.ownAll_spec order .nil
      rw [List.nil_append] at hspec
      simp only [Except.ok.injEq, exists_eq_left']
      cases hresult : Fragment.ownAll [] order with
      | ok owners =>
          rw [hresult] at hspec
          rw [Fragment.map_declarations] at hspec
          simp [hspec, eq_comm]
      | error e =>
          rw [hresult] at hspec
          have hnot := hspec.not_areIdentified
          rw [Fragment.map_declarations] at hnot
          simp [hnot]

/-- Fragments with an order are not merged exactly if a declaration is refused. -/
theorem merge_eq_error_iff {subDir name : String} {fs order : List Fragment}
    (horder : Fragment.inOrder fs = .ok order) (x : EngineError) :
    (∃ e, merge subDir name fs = .error e ∧ e.toEngineError = x) ↔
      Fragment.FirstRefusal (Fragment.declarations order) x := by
  have hspec := Fragment.ownAll_spec order .nil
  rw [List.nil_append] at hspec
  unfold merge
  rw [horder]
  dsimp only
  cases hresult : Fragment.ownAll [] order with
  | ok owners =>
      rw [hresult] at hspec
      constructor
      · rintro ⟨e, ⟨⟩, -⟩
      · exact fun h => absurd hspec h.not_areIdentified
  | error e =>
      rw [hresult] at hspec
      constructor
      · rintro ⟨_, ⟨⟩, rfl⟩
        exact hspec
      · exact fun h => ⟨e, rfl, hspec.unique h⟩

/-- **Fragments with an order are merged exactly if all their rules are identified**: the template
lists the names of the fragments and has all their rules, one fragment after another. Otherwise the
error is that of the first declaration whose id is blank or was declared before. -/
theorem merge_of_inOrder {subDir name : String} {fs order : List Fragment}
    (horder : Fragment.inOrder fs = .ok order) :
    (∀ t, merge subDir name fs = .ok t ↔ Rule.AreIdentified (order.flatMap (·.rules)) ∧
      t = ⟨subDir, name, order.map (·.name), order.flatMap (·.rules)⟩) ∧
    (∀ x, (∃ e, merge subDir name fs = .error e ∧ e.toEngineError = x) ↔
      ∃ front d back, Fragment.declarations order = front ++ d :: back ∧
        Rule.AreIdentified (front.map (·.2)) ∧ Fragment.Refuses front d x) :=
  ⟨fun t => by simp [merge_eq_ok_iff, horder], merge_eq_error_iff horder⟩

/-- A fragment repeats an id of the fragment that it imports, and then leaves one blank. The repeated
id comes first. -/
theorem merge_of_inOrder_conflict : ∃ fs order : List Fragment, Fragment.inOrder fs = .ok order ∧
    order = fs.reverse ∧ ∃ e, merge "main" "demo" fs = .error e ∧
      e.toEngineError = .mergeConflict "mark" "base" "core" := by
  let base : Fragment := { name := "base", rules := [{ id := "mark" }] }
  let core : Fragment :=
    { name := "core", imports := ["base"], rules := [{ id := "mark" }, { id := " " }] }
  have horder : Fragment.inOrder [core, base] = .ok [base, core] := by decide +kernel
  refine ⟨[core, base], [base, core], horder, rfl, ?_⟩
  refine ((merge_of_inOrder horder).2 _).2
    ⟨[(base, { id := "mark" })], (core, { id := "mark" }), [(core, { id := " " })], rfl, ?_, ?_⟩
  · exact ⟨by decide, by decide⟩
  · exact .repeated (g := (base, { id := "mark" })) (by decide) List.mem_cons_self rfl

end Template

end RuleEngine
