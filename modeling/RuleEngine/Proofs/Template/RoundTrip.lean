import RuleEngine.Proofs.Json.Sorted
import RuleEngine.Proofs.Operation.Codec
import RuleEngine.Proofs.Template.Codec

set_option autoImplicit false

/-! # Encoding and decoding again

Whatever is decoded, in whichever form it was given, is encoded as a value that decodes to the same
(`ModelType.decode_encode`): what is left out of the encoding is what decoding fills in, and a
condition is read back from its text.
-/

namespace RuleEngine

/-- The types that rule files, templates and declarations of parameters are made of. -/
inductive ModelType
  | descriptor
  | rule
  | fragment
  | template
  | field
deriving DecidableEq

namespace ModelType

abbrev Value : ModelType → Type
  | descriptor => Descriptor
  | rule => Rule
  | fragment => Fragment
  | template => Template
  | field => Field

def decode : (t : ModelType) → Json → Except DecodeError t.Value
  | descriptor => Descriptor.decode
  | rule => Rule.decode
  | fragment => Fragment.decode
  | template => Template.decode
  | field => Field.decode

/-- The record as JSON, with its fields as they are declared. -/
def toJson : (t : ModelType) → t.Value → Json
  | descriptor => Descriptor.toJson
  | rule => Rule.toJson
  | fragment => Fragment.toJson
  | template => Template.toJson
  | field => Field.toJson

/-- The record as a JSON value, with all fields listed by key. -/
def encode (t : ModelType) (a : t.Value) : Json := (t.toJson a).sorted

/-- What holds of every record that has been decoded. -/
def IsCanonical : (t : ModelType) → t.Value → Prop
  | descriptor => Descriptor.IsCanonical
  | rule => Rule.IsCanonical
  | fragment => fun f => ∀ r ∈ f.rules, r.IsCanonical
  | template => fun t => ∀ r ∈ t.rules, r.IsCanonical
  | field => Field.IsCanonical

variable {t : ModelType} {v : Json} {a : t.Value}

theorem isCanonical_of_decode (hv : v.IsSorted) (h : t.decode v = .ok a) : t.IsCanonical a := by
  have hQ := Json.orderlyOn_isSorted
  cases t with
  | descriptor => exact Descriptor.isCanonical_of_decode hQ hv h
  | rule => exact Rule.isCanonical_of_decode hQ hv h
  | fragment => exact Fragment.isCanonical_of_decode hQ hv h
  | template => exact Template.isCanonical_of_decode hQ hv h
  | field => exact Field.isCanonical_of_decode hQ (Json.tellsNull _) hv h

/-- A canonical record is read back from whatever shows it. -/
theorem decode_of_shows {R : Json → Json → Prop} (hR : Decode.FaithfulInFull R)
    (ha : t.IsCanonical a) (hv : R v (t.toJson a)) : t.decode v = .ok a := by
  have hup := hR.toFaithfulUpToOrder
  cases t with
  | descriptor => exact Descriptor.decode_of_shows hup ha hv
  | rule => exact Rule.decode_of_shows hup ha hv
  | fragment => exact Fragment.decode_of_shows hup ha hv
  | template => exact Template.decode_of_shows hup ha hv
  | field => exact Field.decode_of_shows hR ha hv

/-- **Encoding what has been decoded loses nothing.** It decodes to the same record, with the fields as
they are declared and with the fields listed by key, and encoding that record again gives the same
value. -/
theorem decode_encode (t : ModelType) {v : Json} {a : t.Value} (hv : v.IsSorted)
    (h : t.decode v = .ok a) :
    (t.encode a).IsSorted ∧ t.decode (t.encode a) = .ok a ∧ t.decode (t.toJson a) = .ok a ∧
      (t.decode (t.encode a)).map t.encode = .ok (t.encode a) := by
  have ha : t.IsCanonical a := isCanonical_of_decode hv h
  have hback : t.decode (t.encode a) = .ok a := decode_of_shows Json.faithfulInFull_sorted ha rfl
  refine ⟨Json.isSorted_sorted _, hback, decode_of_shows Json.faithfulInFull_self ha rfl, ?_⟩
  rw [hback]
  rfl

/-- A rule that is given by its items, with a truth value for its condition and no operations. -/
theorem decode_encode_items :
    (rule.encode { id := "r", priority := 2 }).IsSorted ∧
      rule.decode (rule.encode { id := "r", priority := 2 }) =
        .ok { id := "r", priority := 2 } ∧
      rule.decode (rule.toJson { id := "r", priority := 2 }) =
        .ok { id := "r", priority := 2 } ∧
      (rule.decode (rule.encode { id := "r", priority := 2 })).map rule.encode =
        .ok (rule.encode { id := "r", priority := 2 }) := by
  have hv : (Json.arr [.str "r", .bool true, .num (.int 2)]).IsSorted := by
    refine .arr fun x hx => ?_
    simp only [List.mem_cons, List.not_mem_nil, or_false] at hx
    rcases hx with rfl | rfl | rfl
    · exact .str _
    · exact .bool _
    · exact .num _
  exact decode_encode rule hv rfl

end ModelType

end RuleEngine
