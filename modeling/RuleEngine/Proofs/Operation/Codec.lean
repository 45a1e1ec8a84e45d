import RuleEngine.Operation.Field
import RuleEngine.Proofs.Decode.Record

set_option autoImplicit false

/-! # Parameter fields that are read back

A field that has been decoded never has null as its default: to decoding, null is a default that is not
there. So what is left out of a field that is written, is just what reading back leaves as it was.
-/

namespace RuleEngine

variable {ν : Type} [DataSource ν]

/-- The default is sorted all through, and it is not null. -/
def Field.IsCanonical (f : Field) : Prop :=
  ∀ v, f.default = some v → v.isNull = false ∧ v.IsSorted

/-! ## What is decoded -/

section Decoded

variable {Q : ν → Prop} (hQ : Decode.OrderlyOn Q) (hnull : Decode.TellsNull Q) {x : ν}
include hQ hnull

theorem Field.isCanonical_of_decode {f : Field} (hx : Q x) (h : Field.decode x = .ok f) :
    f.IsCanonical := by
  refine Decode.RecordType.decode_keeps (P := Field.IsCanonical) hQ.hereditary ?_ ?_ hx h
  · show Field.IsCanonical { key := "", title := "", kind := .text }
    simp [Field.IsCanonical]
  · intro g hg
    simp only [recordType, List.mem_cons, List.not_mem_nil, or_false] at hg
    -- all but the default is nothing that the field has to be canonical in
    rcases hg with rfl | rfl | rfl | rfl | rfl | rfl | rfl | rfl | rfl
    case inr.inr.inr.inr.inr.inr.inr.inl =>
      refine Decode.Field.keeps_of fun y default _ hy _ hdefault => ?_
      rintro v rfl
      unfold Decode.option at hdefault
      split at hdefault
      · cases hdefault
      · cases hdefault
      · next z hoptional =>
        cases hjson : DataSource.json z with
        | error e =>
            rw [hjson] at hdefault
            cases hdefault
        | ok w =>
            rw [hjson] at hdefault
            cases hdefault
            exact ⟨hnull hy hoptional hjson, hQ.json (hQ.hereditary.optional hy hoptional) hjson⟩
    all_goals exact Decode.Field.keeps_of fun _ _ _ _ hf _ => hf

end Decoded

/-! ## Reading back -/

theorem Field.commutes : (recordType : Decode.RecordType ν Field).Commutes := by
  simp [Decode.RecordType.Commutes, recordType, Decode.Field.commute_of]

section ReadBack

variable {R : ν → Json → Prop} (hR : Decode.FaithfulInFull R) {x : ν}
include hR

theorem FieldKind.decode_of_shows {k : FieldKind} (hx : R x (.str k.name)) :
    FieldKind.decode x = .ok k := by
  have hknown : k.name ∈ names.map (·.1) := by cases k <;> decide
  rw [decode, hR.variant hx _ hknown]
  cases k <;> rfl

/-- A value that may be missing is read back if it is there. -/
theorem Decode.FaithfulInFull.option {β : Type} {decode : ν → Except DecodeError β} {b : β} {y : Json}
    (hy : y.isNull = false) (hdecode : ∀ x, R x y → decode x = .ok b) (hx : R x y) :
    Decode.option decode x = .ok (some b) := by
  obtain ⟨x', hoptional, hx'⟩ := hR.optional hx hy
  rw [Decode.option, hoptional]
  dsimp only
  rw [hdecode x' hx']
  rfl

/-- **A parameter field is read back** with its default and its options. -/
theorem Field.decode_of_shows {f : Field} (hf : f.IsCanonical) (hx : R x f.toJson) :
    Field.decode x = .ok f := by
  have hup := hR.toFaithfulUpToOrder
  refine Decode.RecordType.decode_of_writes hup Field.commutes ?_ ?_ hx
  · show ["var_suffix", "title", "icon", "field_type", "placeholder", "required", "options",
      "default", "language"].Nodup
    decide
  simp only [unlessEmpty, List.append_assoc]
  rw [← List.append_nil (f.language.toList.map _)]
  refine .always f.key (fun _ hy => hup.text hy "a string") ?_
  refine .always f.title (fun _ hy => hup.text hy "a string") ?_
  refine .optional f.icon "" String.isEmpty_iff.1 rfl (fun _ hy => hup.text hy "a string") ?_
  refine .always f.kind (fun _ hy => FieldKind.decode_of_shows hR hy) ?_
  refine .optional f.placeholder "" String.isEmpty_iff.1 rfl (fun _ hy => hup.text hy "a string") ?_
  refine .always f.required (fun _ hy => hup.bool hy) ?_
  refine .optional f.options [] List.isEmpty_iff.1 rfl (fun _ hy => hup.texts hy) ?_
  refine .option f.default rfl ?_ (.option f.language rfl ?_ (.nil f))
  · intro v hv y hy
    obtain ⟨hnull, hsorted⟩ := hf v hv
    exact hR.option hnull (fun _ hy => hup.json hy hsorted) hy
  · intro s _ y hy
    exact hR.option rfl (fun _ hy => hup.text hy "a string") hy

end ReadBack

end RuleEngine
