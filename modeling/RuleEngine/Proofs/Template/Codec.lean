import RuleEngine.Proofs.Condition.Canonical
import RuleEngine.Proofs.Decode.Record
import RuleEngine.Template.Basic

set_option autoImplicit false

/-! # Templates that are read back

Whatever is decoded is canonical: its conditions are well formed, its priorities fit, and its
parameters are sorted all through. A canonical template is read back from data that shows what it is
written as, with all its fields.
-/

namespace RuleEngine

/-! ## Canonical descriptors, rules and templates -/

/-- The parameters are sorted all through. -/
def Descriptor.IsCanonical (d : Descriptor) : Prop := (Json.obj d.params).IsSorted

/-- What every decoded rule satisfies. -/
structure Rule.IsCanonical (r : Rule) : Prop where
  condition : r.condition.isWellFormed = true
  least : IntType.i32.least ≤ r.priority
  most : r.priority ≤ IntType.i32.most
  operations : ∀ d ∈ r.operations, d.IsCanonical

/-! ## What is decoded -/

section Decoded

open Decode

variable {ν : Type} [DataSource ν] {x : ν}

theorem Condition.isWellFormed_of_decode {c : Condition} (h : Decode.condition x = .ok c) :
    c.isWellFormed = true := by
  rw [Decode.condition] at h
  split at h
  · cases h
  · cases h
    rfl
  · next s _ =>
    cases hparse : Condition.parse s with
    | error e =>
        rw [hparse] at h
        cases h
    | ok c' =>
        rw [hparse] at h
        cases h
        exact Condition.isWellFormed_of_parse hparse

variable {Q : ν → Prop} (hQ : OrderlyOn Q)
include hQ

theorem Descriptor.isCanonical_of_decode {d : Descriptor} (hx : Q x)
    (h : Descriptor.decode x = .ok d) : d.IsCanonical := by
  refine RecordType.decode_keeps (P := Descriptor.IsCanonical) hQ.hereditary ?_ ?_ hx h
  · show (Json.obj []).IsSorted
    exact .obj .nil (by simp)
  · refine List.forall_mem_cons.2 ⟨?_, List.forall_mem_cons.2 ⟨?_, List.forall_mem_singleton.2 ?_⟩⟩
    · exact Field.keeps_of fun _ _ _ _ hd _ => hd
    · refine Field.keeps_of fun _ t _ hy _ ht => ?_
      obtain ⟨hsorted, hvalues⟩ := sorted_table hQ.hereditary hy ht
      refine .obj hsorted fun e he => ?_
      obtain ⟨y, hy, hvalue⟩ := hvalues e he
      exact hQ.json hy hvalue
    · exact Field.keeps_of fun _ _ _ _ hd _ => hd

theorem Rule.isCanonical_of_decode {r : Rule} (hx : Q x) (h : Rule.decode x = .ok r) :
    r.IsCanonical := by
  refine RecordType.decode_keeps (P := Rule.IsCanonical) hQ.hereditary ?_ ?_ hx h
  · show Rule.IsCanonical { id := "" }
    exact ⟨rfl, by decide, by decide, by simp⟩
  · intro f hf
    simp only [recordType, List.mem_cons, List.not_mem_nil, or_false] at hf
    -- the id and the flags are nothing that the rule has to be canonical in
    rcases hf with rfl | rfl | rfl | rfl | rfl | rfl
    · exact Field.keeps_of fun _ _ _ _ hr _ => ⟨hr.condition, hr.least, hr.most, hr.operations⟩
    · exact Field.keeps_of fun _ c _ _ hr hc =>
        ⟨Condition.isWellFormed_of_decode hc, hr.least, hr.most, hr.operations⟩
    · exact Field.keeps_of fun _ n _ hy hr hn =>
        ⟨hr.condition, (hQ.int hy hn).1, (hQ.int hy hn).2, hr.operations⟩
    · exact Field.keeps_of fun _ _ _ _ hr _ => ⟨hr.condition, hr.least, hr.most, hr.operations⟩
    · exact Field.keeps_of fun _ _ _ _ hr _ => ⟨hr.condition, hr.least, hr.most, hr.operations⟩
    · refine Field.keeps_of fun _ ds _ hy hr hds => ⟨hr.condition, hr.least, hr.most, ?_⟩
      intro d hd
      obtain ⟨y, hy, hdecode⟩ := mem_list hQ.hereditary hy hds d hd
      exact Descriptor.isCanonical_of_decode hQ hy hdecode

theorem Rule.isCanonical_of_list {rs : List Rule} (hx : Q x)
    (h : Decode.list Rule.decode x = .ok rs) : ∀ r ∈ rs, r.IsCanonical := by
  intro r hr
  obtain ⟨y, hy, hdecode⟩ := mem_list hQ.hereditary hx h r hr
  exact Rule.isCanonical_of_decode hQ hy hdecode

theorem Fragment.isCanonical_of_decode {f : Fragment} (hx : Q x) (h : Fragment.decode x = .ok f) :
    ∀ r ∈ f.rules, r.IsCanonical := by
  refine RecordType.decode_keeps (P := fun f : Fragment => ∀ r ∈ f.rules, r.IsCanonical)
    hQ.hereditary (List.forall_mem_nil _) ?_ hx h
  intro g hg
  simp only [recordType, List.mem_cons, List.not_mem_nil, or_false] at hg
  rcases hg with rfl | rfl | rfl
  · exact Field.keeps_of fun _ _ _ _ hf _ => hf
  · exact Field.keeps_of fun _ _ _ _ hf _ => hf
  · exact Field.keeps_of fun _ _ _ hy _ hrs => Rule.isCanonical_of_list hQ hy hrs

theorem Template.isCanonical_of_decode {t : Template} (hx : Q x) (h : Template.decode x = .ok t) :
    ∀ r ∈ t.rules, r.IsCanonical := by
  refine RecordType.decode_keeps (P := fun t : Template => ∀ r ∈ t.rules, r.IsCanonical)
    hQ.hereditary (List.forall_mem_nil _) ?_ hx h
  intro g hg
  simp only [recordType, List.mem_cons, List.not_mem_nil, or_false] at hg
  rcases hg with rfl | rfl | rfl | rfl
  · exact Field.keeps_of fun _ _ _ _ ht _ => ht
  · exact Field.keeps_of fun _ _ _ _ ht _ => ht
  · exact Field.keeps_of fun _ _ _ _ ht _ => ht
  · exact Field.keeps_of fun _ _ _ hy _ hrs => Rule.isCanonical_of_list hQ hy hrs

end Decoded

/-! ## The order of the fields -/

section Order

open Decode

variable {ν : Type} [DataSource ν]

theorem Descriptor.commutes : (recordType : RecordType ν Descriptor).Commutes := by
  simp [RecordType.Commutes, recordType, Field.commute_of]

theorem Rule.commutes : (recordType : RecordType ν Rule).Commutes := by
  simp [RecordType.Commutes, recordType, Field.commute_of]

theorem Fragment.commutes : (recordType : RecordType ν Fragment).Commutes := by
  simp [RecordType.Commutes, recordType, Field.commute_of]

theorem Template.commutes : (recordType : RecordType ν Template).Commutes := by
  simp [RecordType.Commutes, recordType, Field.commute_of]

end Order

/-! ## Reading back -/

section ReadBack

open Decode

variable {ν : Type} [DataSource ν] {R : ν → Json → Prop} (hR : FaithfulUpToOrder R) {x : ν}
include hR

theorem Decode.FaithfulUpToOrder.decodeCondition {c : Condition} (hc : c.isWellFormed = true)
    (hx : R x (.str c.render)) : Decode.condition x = .ok c := by
  rw [Decode.condition, hR.condition hx]
  dsimp only
  rw [Condition.parse_render hc]
  rfl

theorem Descriptor.decode_of_shows {d : Descriptor} (hd : d.IsCanonical) (hx : R x d.toJson) :
    Descriptor.decode x = .ok d := by
  refine RecordType.decode_of_writes hR Descriptor.commutes ?_ ?_ hx
  · show ["name", "params", "async_op"].Nodup
    decide
  -- the fields are taken one by one, in declaration order
  rw [List.append_assoc, ← List.append_nil (ite (d.async = true) _ _)]
  refine .always d.name (fun _ hy => hR.text hy "a string") ?_
  refine .optional d.params [] List.isEmpty_iff.1 rfl (fun _ hy => hR.table hd hy) ?_
  exact .flag hR d.async rfl (.nil d)

theorem Rule.decode_of_shows {r : Rule} (hr : r.IsCanonical) (hx : R x r.toJson) :
    Rule.decode x = .ok r := by
  refine RecordType.decode_of_writes hR Rule.commutes ?_ ?_ hx
  · show ["id", "when", "priority", "exclusive", "critical", "operations"].Nodup
    decide
  simp only [List.append_assoc]
  refine .always r.id (fun _ hy => hR.text hy "a string") ?_
  refine .always r.condition (fun _ hy => hR.decodeCondition hr.condition hy) ?_
  -- a rule without a priority has the priority zero
  refine .optional r.priority 0 (fun hzero => hzero) rfl (fun _ hy => hR.int hy .i32 hr.least hr.most) ?_
  refine .flag hR r.exclusive rfl ?_
  refine .flag hR r.critical rfl ?_
  refine .always r.operations (fun _ hy => hR.list ?_ hy) (.nil r)
  exact fun d hd y hy => Descriptor.decode_of_shows hR (hr.operations d hd) hy

theorem Fragment.decode_of_shows {f : Fragment} (hf : ∀ r ∈ f.rules, r.IsCanonical)
    (hx : R x f.toJson) : Fragment.decode x = .ok f := by
  refine RecordType.decode_of_writes hR Fragment.commutes ?_ ?_ hx
  · show ["name", "imports", "rules"].Nodup
    decide
  simp only [List.append_assoc]
  refine .always f.name (fun _ hy => hR.text hy "a string") ?_
  refine .optional f.imports [] List.isEmpty_iff.1 rfl (fun _ hy => hR.texts hy) ?_
  refine .always f.rules (fun _ hy => hR.list ?_ hy) (.nil f)
  exact fun r hr y hy => Rule.decode_of_shows hR (hf r hr) hy

/-- **A template is read back** with its name, fragments and rules. -/
theorem Template.decode_of_shows {t : Template} (ht : ∀ r ∈ t.rules, r.IsCanonical)
    (hx : R x t.toJson) : Template.decode x = .ok t := by
  refine RecordType.decode_of_writes hR Template.commutes ?_ ?_ hx
  · show ["sub_dir", "name", "fragments", "rules"].Nodup
    decide
  refine .always t.subDir (fun _ hy => hR.text hy "a string") ?_
  refine .always t.name (fun _ hy => hR.text hy "a string") ?_
  refine .always t.fragments (fun _ hy => hR.texts hy) ?_
  refine .always t.rules (fun _ hy => hR.list ?_ hy) (.nil t)
  exact fun r hr y hy => Rule.decode_of_shows hR (ht r hr) hy

end ReadBack

end RuleEngine
