import RuleEngine.Operation.Builtin
import RuleEngine.Proofs.Table

set_option autoImplicit false

/-! # What registries refuse

A registry refuses a descriptor because it names no variant, because its parameters do not fit the
fields of the variant, or because the variant finds no effect for it (`Registry.compile_eq_error`).
The first two are errors of the configuration, and so is the third for all built-in operations
(`Registry.refusesByConfiguration_builtin`).
-/

namespace RuleEngine

theorem Field.error_of_check {operation : String} {fields : List Field} {params : Table Json}
    {e : EngineError} (h : Field.check operation fields params = .error e) :
    ∃ m, e = .configuration m := by
  unfold Field.check at h
  split at h
  · exact ⟨_, (Except.error.inj h).symm⟩
  · split at h
    · exact ⟨_, (Except.error.inj h).symm⟩
    · cases h

/-! ## Parameters -/

namespace Descriptor

variable {d : Descriptor} {key : String} {e : EngineError}

theorem error_of_number? (h : d.number? key = .error e) : ∃ m, e = .configuration m := by
  unfold number? at h
  split at h
  · cases h
  · split at h
    · cases h
    · exact ⟨_, (Except.error.inj h).symm⟩

theorem error_of_number (h : d.number key = .error e) : ∃ m, e = .configuration m := by
  unfold number at h
  split at h
  · next hnumber =>
    cases h
    exact error_of_number? hnumber
  · cases h
  · exact ⟨_, (Except.error.inj h).symm⟩

theorem error_of_millis? (h : d.millis? key = .error e) : ∃ m, e = .configuration m := by
  unfold millis? at h
  split at h
  · next hnumber =>
    cases h
    exact error_of_number? hnumber
  · cases h
  · split at h
    · exact ⟨_, (Except.error.inj h).symm⟩
    · split at h
      · cases h
      · exact ⟨_, (Except.error.inj h).symm⟩

theorem error_of_text (h : d.text key = .error e) : ∃ m, e = .configuration m := by
  unfold text at h
  split at h
  · exact ⟨_, (Except.error.inj h).symm⟩
  · split at h
    · exact ⟨_, (Except.error.inj h).symm⟩
    · split at h
      · exact ⟨_, (Except.error.inj h).symm⟩
      · cases h

end Descriptor

/-! ## Registries -/

/-- Why a registry refuses a descriptor. -/
inductive Registry.Refuses (r : Registry) (d : Descriptor) : EngineError → Prop
  | unknown :
      r.variants.get? d.name = none →
      Refuses r d (.configuration ("unknown operation '" ++ d.name ++ "'"))
  | parameters {v : Variant} {e : EngineError} :
      r.variants.get? d.name = some v → Field.check d.name v.fields d.params = .error e →
      Refuses r d e
  | effect {v : Variant} {e : EngineError} :
      r.variants.get? d.name = some v → Field.check d.name v.fields d.params = .ok () →
      v.effect d = .error e → Refuses r d e

/-- All that a registry answers to a descriptor that it refuses are errors of the configuration. -/
def Registry.RefusesByConfiguration (r : Registry) : Prop :=
  ∀ d e, r.compile d = .error e → ∃ m, e = .configuration m

theorem Except.map_eq_error {ε α β : Type} {f : α → β} {x : Except ε α} {e : ε} :
    x.map f = .error e ↔ x = .error e := by
  cases x <;> simp [Except.map]

theorem Except.map_eq_ok {ε α β : Type} {f : α → β} {x : Except ε α} {b : β} :
    x.map f = .ok b ↔ ∃ a, x = .ok a ∧ f a = b := by
  cases x <;> simp [Except.map]

/-- A registry compiles what its check accepts and its variant finds an effect for. -/
theorem Registry.compile_eq_ok {r : Registry} {d : Descriptor} {c : Compiled} :
    r.compile d = .ok c ↔ ∃ v effect, r.variants.get? d.name = some v ∧
      Field.check d.name v.fields d.params = .ok () ∧ v.effect d = .ok effect ∧ c = ⟨d, effect⟩ := by
  unfold compile
  cases r.variants.get? d.name with
  | none => simp
  | some v =>
      simp only [Option.some.injEq, exists_and_left, exists_eq_left']
      cases Field.check d.name v.fields d.params with
      | error e => simp
      | ok _ => simp [Except.map_eq_ok, eq_comm (b := c)]

theorem Registry.compile_eq_error {r : Registry} {d : Descriptor} {e : EngineError} :
    r.compile d = .error e ↔ r.Refuses d e := by
  unfold compile
  constructor
  · intro h
    split at h
    · next hnone =>
      cases h
      exact .unknown hnone
    · next v hv =>
      split at h
      · next hcheck =>
        cases h
        exact .parameters hv hcheck
      · next hcheck => exact .effect hv hcheck (Except.map_eq_error.1 h)
  · intro h
    cases h with
    | unknown hnone => rw [hnone]
    | parameters hv hcheck =>
        rw [hv]
        dsimp only
        rw [hcheck]
    | effect hv hcheck heffect =>
        rw [hv]
        dsimp only
        rw [hcheck]
        exact Except.map_eq_error.2 heffect

/-- A registry refuses by configuration if its variants do. -/
theorem Registry.refusesByConfiguration_of_effect {r : Registry}
    (h : ∀ name v d e, r.variants.get? name = some v → v.effect d = .error e →
      ∃ m, e = .configuration m) : r.RefusesByConfiguration := by
  intro d e he
  cases compile_eq_error.1 he with
  | unknown => exact ⟨_, rfl⟩
  | parameters _ hcheck => exact Field.error_of_check hcheck
  | effect hv _ heffect => exact h _ _ _ _ hv heffect

/-! ## The built-in operations -/

namespace Variant

variable {d : Descriptor} {e : EngineError}

theorem error_of_turn (h : turn.effect d = .error e) : ∃ m, e = .configuration m :=
  Descriptor.error_of_number (Except.map_eq_error.1 h)

theorem error_of_press (h : press.effect d = .error e) : ∃ m, e = .configuration m := by
  unfold press at h
  dsimp only at h
  split at h
  · next htext =>
    cases h
    exact Descriptor.error_of_text htext
  · exact Descriptor.error_of_millis? (Except.map_eq_error.1 h)

theorem error_of_wait (h : wait.effect d = .error e) : ∃ m, e = .configuration m := by
  unfold wait at h
  dsimp only at h
  split at h
  · next hmillis =>
    cases h
    exact Descriptor.error_of_millis? hmillis
  · exact ⟨_, (Except.error.inj h).symm⟩
  · cases h

theorem error_of_setFact (h : setFact.effect d = .error e) : ∃ m, e = .configuration m := by
  unfold setFact at h
  dsimp only at h
  split at h
  · exact ⟨_, (Except.error.inj h).symm⟩
  · split at h
    · next htext =>
      cases h
      exact Descriptor.error_of_text htext
    · split at h
      · cases h
      · exact ⟨_, (Except.error.inj h).symm⟩

theorem error_of_recognize (h : recognize.effect d = .error e) : ∃ m, e = .configuration m := by
  unfold recognize at h
  dsimp only at h
  split at h
  · next htext =>
    cases h
    exact Descriptor.error_of_text htext
  · exact Descriptor.error_of_text (Except.map_eq_error.1 h)

end Variant

theorem Registry.variants_builtin : Registry.builtin.variants =
    [("press", .press), ("recognize", .recognize), ("set_fact", .setFact), ("turn", .turn),
      ("wait", .wait)] := rfl

/-- **The built-in operations are refused by errors of the configuration only.** -/
theorem Registry.refusesByConfiguration_builtin : Registry.builtin.RefusesByConfiguration := by
  refine refusesByConfiguration_of_effect fun name v d e hv he => ?_
  have hmem := Table.mem_of_get? hv
  simp only [variants_builtin, List.mem_cons, Prod.mk.injEq, List.not_mem_nil, or_false] at hmem
  rcases hmem with ⟨-, rfl⟩ | ⟨-, rfl⟩ | ⟨-, rfl⟩ | ⟨-, rfl⟩ | ⟨-, rfl⟩
  · exact Variant.error_of_press he
  · exact Variant.error_of_recognize he
  · exact Variant.error_of_setFact he
  · exact Variant.error_of_turn he
  · exact Variant.error_of_wait he

end RuleEngine
