import Mathlib.Data.List.Forall2
import RuleEngine.Operator.Plan

set_option autoImplicit false

/-! # Compiled plans

A plan keeps its template, and the operations that it has for a rule are the compiled descriptors of
the rule, one by one and in their order.
-/

namespace RuleEngine

namespace Plan

variable {registry : Registry} {shown : String} {t : Template} {plan : Plan}

/-- The operations are what the registry makes of the descriptors, in their order. -/
def Compiles (registry : Registry) (descriptors : List Descriptor) (operations : List Compiled) :
    Prop :=
  List.Forall₂ (fun d c => registry.compile d = .ok c) descriptors operations

theorem Compiles.exists_descriptor {descriptors : List Descriptor} {operations : List Compiled}
    (h : Compiles registry descriptors operations) {c : Compiled} (hc : c ∈ operations) :
    ∃ d ∈ descriptors, registry.compile d = .ok c := by
  induction h with
  | nil => cases hc
  | cons hcompile _ ih =>
      rcases List.mem_cons.1 hc with rfl | hc
      · exact ⟨_, List.mem_cons_self, hcompile⟩
      · obtain ⟨d, hd, hcompile⟩ := ih hc
        exact ⟨d, List.mem_cons_of_mem _ hd, hcompile⟩

theorem compiles_compileRule {id : String} {descriptors : List Descriptor}
    {operations : List Compiled} (h : compileRule registry id descriptors = .ok operations) :
    Compiles registry descriptors operations := by
  induction descriptors generalizing operations with
  | nil =>
      cases h
      exact .nil
  | cons d ds ih =>
      rw [compileRule] at h
      cases hd : registry.compile d with
      | error e =>
          rw [hd] at h
          cases h
      | ok c =>
          rw [hd] at h
          cases hds : compileRule registry id ds with
          | error e =>
              rw [hds] at h
              cases h
          | ok cs =>
              rw [hds] at h
              cases h
              exact .cons hd (ih hds)

/-- One rule after another is entered under its id, which is new. -/
theorem compileRules_cons {operations operations' : Table (List Compiled)} {r : Rule}
    {rs : List Rule} (h : compileRules registry shown operations (r :: rs) = .ok operations') :
    ∃ compiled, Compiles registry r.operations compiled ∧ operations.contains r.id = false ∧
      compileRules registry shown (operations.insert r.id compiled) rs = .ok operations' := by
  rw [compileRules] at h
  by_cases hblank : Text.isBlankText r.id = true
  · rw [if_pos hblank] at h
    cases h
  · rw [if_neg hblank] at h
    cases hr : compileRule registry r.id r.operations with
    | error e =>
        rw [hr] at h
        cases h
    | ok compiled =>
        rw [hr] at h
        dsimp only at h
        by_cases hmem : operations.contains r.id = true
        · rw [if_pos hmem] at h
          cases h
        · rw [if_neg hmem] at h
          exact ⟨compiled, compiles_compileRule hr, Bool.eq_false_iff.2 hmem, h⟩

/-- What was entered stays, because no rule takes the id of another. -/
theorem get?_compileRules {operations operations' : Table (List Compiled)} {rs : List Rule}
    (h : compileRules registry shown operations rs = .ok operations') {key : String}
    (hkey : operations.contains key = true) : operations'.get? key = operations.get? key := by
  induction rs generalizing operations with
  | nil =>
      cases h
      rfl
  | cons r rs ih =>
      obtain ⟨compiled, -, hnew, hrest⟩ := compileRules_cons h
      -- the id of the rule is new, so it is not the key that is there already
      have hne : r.id ≠ key := by
        rintro rfl
        rw [hnew] at hkey
        cases hkey
      have hget : (operations.insert r.id compiled).get? key = operations.get? key := by
        rw [Table.get?_insert, if_neg hne]
      rw [← hget]
      refine ih hrest ?_
      unfold Table.contains at hkey ⊢
      rwa [hget]

theorem compiles_compileRules {operations operations' : Table (List Compiled)} {rs : List Rule}
    (h : compileRules registry shown operations rs = .ok operations') :
    ∀ r ∈ rs, Compiles registry r.operations ((operations'.get? r.id).getD []) := by
  induction rs generalizing operations with
  | nil => simp
  | cons r rs ih =>
      obtain ⟨compiled, hcompiled, -, hrest⟩ := compileRules_cons h
      refine List.forall_mem_cons.2 ⟨?_, ih hrest⟩
      rw [get?_compileRules hrest, Table.get?_insert_self]
      · exact hcompiled
      · unfold Table.contains
        rw [Table.get?_insert_self]
        rfl

theorem template_compile (h : compile registry t = .ok plan) : plan.template = t := by
  unfold compile at h
  generalize compileRules registry _ [] t.rules = result at h
  cases result with
  | error e => cases h
  | ok operations =>
      cases h
      rfl

/-- Every rule of a compiled template finds its operations in the plan. -/
theorem compiles_operationsOf (h : compile registry t = .ok plan) :
    ∀ r ∈ t.rules, Compiles registry r.operations (plan.operationsOf r) := by
  unfold compile at h
  cases hrules : compileRules registry ("'" ++ t.subDir ++ "/" ++ t.name ++ "'") [] t.rules with
  | error e =>
      rw [hrules] at h
      cases h
  | ok operations =>
      rw [hrules] at h
      cases h
      exact compiles_compileRules hrules

end Plan

end RuleEngine
