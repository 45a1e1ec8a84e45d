import RuleEngine.Proofs.Decode.Source
import RuleEngine.Yaml.Source
import RuleEngine.Yaml.Text

set_option autoImplicit false

/-! # Documents that show JSON values

A value of a document shows a JSON value if it has no tags and is that value, with the fields in the
same order (`Value.shows`). Decoders read such a value as the JSON value says (`Value.faithful`), and
what they answer about any value of a document is in order (`Value.orderly`).
-/

namespace RuleEngine.Yaml

/-! ## The meaning of scalars -/

theorem truth?_of_meaning {s : String} {b : Bool} (h : meaning s = .bool b) :
    truth? s = some b := by
  unfold meaning meaning.asDouble at h
  repeat' split at h
  all_goals simp_all

theorem integer?_of_meaning {s : String} {n : Int} (h : meaning s = .int n) :
    integer? s = some n := by
  unfold meaning meaning.asDouble at h
  repeat' split at h
  all_goals simp_all

namespace Value

/-- A scalar stands for a leaf, whatever its tag. -/
theorem leaf_of_scalarJson {style : ScalarStyle} {tag : Option String} {text : String} {y : Json}
    (h : scalarJson style tag text = .ok y) :
    y = .null ∨ (∃ b, y = .bool b) ∨ (∃ n, y = .num n) ∨ ∃ s, y = .str s := by
  unfold scalarJson at h
  dsimp only at h
  repeat' split at h
  all_goals cases h
  all_goals simp

/-- A scalar without a tag stands for its text, unless it is plain and means something else. -/
theorem scalarJson_cases {style : ScalarStyle} {text : String} {y : Json}
    (h : scalarJson style none text = .ok y) :
    y = .str text ∨ style = .plain ∧
      (y = .null ∨ (∃ b, y = .bool b ∧ meaning text = .bool b) ∨
        (∃ n, y = .num (.int n) ∧ meaning text = .int n) ∨ ∃ d, y = .num (.double d)) := by
  change (if style != .plain then (.ok (.str text) : Except DecodeError Json) else _) = _ at h
  by_cases hplain : (style != .plain) = true
  · rw [if_pos hplain] at h
    cases h
    exact Or.inl rfl
  · rw [if_neg hplain] at h
    have hstyle : style = .plain := by simpa using hplain
    cases hmeaning : meaning text with
    | text =>
        rw [hmeaning] at h
        cases h
        exact Or.inl rfl
    | null =>
        rw [hmeaning] at h
        cases h
        exact Or.inr ⟨hstyle, Or.inl rfl⟩
    | bool b =>
        rw [hmeaning] at h
        cases h
        exact Or.inr ⟨hstyle, Or.inr (Or.inl ⟨b, rfl, rfl⟩)⟩
    | int n =>
        rw [hmeaning] at h
        simp only at h
        split at h
        · cases h
          exact Or.inr ⟨hstyle, Or.inr (Or.inr (Or.inl ⟨n, rfl, rfl⟩))⟩
        · cases h
    | double d =>
        rw [hmeaning] at h
        simp only at h
        split at h
        · cases h
          exact Or.inr ⟨hstyle, Or.inr (Or.inr (Or.inr ⟨d, rfl⟩))⟩
        · cases h
          exact Or.inr ⟨hstyle, Or.inl rfl⟩

/-! ## Values that show JSON values -/

/-- A scalar without a tag stands for this JSON value. -/
def scalarShows (style : ScalarStyle) (text : String) (y : Json) : Bool :=
  match scalarJson style none text with
  | .ok z => z == y
  | .error _ => false

mutual

/-- The value has no tags and is this JSON value, with the fields in this order. -/
def shows : Value → Json → Bool
  | .scalar style none text, y => scalarShows style text y
  | .sequence none xs, .arr ys => itemsShow xs ys
  | .mapping none es, .obj fields => fieldsShow es fields
  | _, _ => false

def itemsShow : List Value → List Json → Bool
  | [], [] => true
  | x :: xs, y :: ys => shows x y && itemsShow xs ys
  | _, _ => false

/-- Entries show the fields of an object. -/
def fieldsShow : List (Value × Value) → List (String × Json) → Bool
  | [], [] => true
  | (k, x) :: es, (key, y) :: fields => shows k (.str key) && shows x y && fieldsShow es fields
  | _, _ => false

end

theorem scalarShows_iff {style : ScalarStyle} {text : String} {y : Json} :
    scalarShows style text y = true ↔ scalarJson style none text = .ok y := by
  unfold scalarShows
  split
  · next z hz => rw [hz, beq_iff_eq, Except.ok.injEq]
  · next hz => simp [hz]

/-! ## Reading what is shown -/

/-- Only a scalar without a tag shows a leaf. -/
theorem scalar_of_shows {x : Value} {y : Json} (h : x.shows y = true) (harr : ∀ ys, y ≠ .arr ys)
    (hobj : ∀ fields, y ≠ .obj fields) :
    ∃ style text, x = .scalar style none text ∧ scalarJson style none text = .ok y := by
  unfold shows at h
  split at h
  · exact ⟨_, _, rfl, scalarShows_iff.1 h⟩
  · exact absurd rfl (harr _)
  · exact absurd rfl (hobj _)
  · cases h

theorem text_of_shows {x : Value} {s : String} (h : x.shows (.str s) = true) :
    ∃ style, x = .scalar style none s ∧ scalarJson style none s = .ok (.str s) := by
  obtain ⟨style, text, rfl, hjson⟩ := scalar_of_shows h nofun nofun
  rcases scalarJson_cases hjson with hs | ⟨-, hs | ⟨b, hs, -⟩ | ⟨n, hs, -⟩ | ⟨d, hs⟩⟩ <;> cases hs
  exact ⟨style, rfl, hjson⟩

theorem bool_of_shows {x : Value} {b : Bool} (h : x.shows (.bool b) = true) :
    x.decodeBool = .ok b := by
  obtain ⟨style, text, rfl, hjson⟩ := scalar_of_shows h nofun nofun
  rcases scalarJson_cases hjson with hb | ⟨rfl, hb | ⟨b', hb, hmeaning⟩ | ⟨n, hb, -⟩ | ⟨d, hb⟩⟩ <;>
    cases hb
  rw [decodeBool, readable?, Option.bind_some, truth?_of_meaning hmeaning]

theorem int_of_shows {x : Value} {n : Int} (h : x.shows (.num (.int n)) = true) (type : IntType)
    (hleast : type.least ≤ n) (hmost : n ≤ type.most) : x.decodeInt type = .ok n := by
  obtain ⟨style, text, rfl, hjson⟩ := scalar_of_shows h nofun nofun
  rcases scalarJson_cases hjson with hn | ⟨rfl, hn | ⟨b, hn, -⟩ | ⟨n', hn, hmeaning⟩ | ⟨d, hn⟩⟩ <;>
    cases hn
  rw [decodeInt, readable?, Option.bind_some, integer?_of_meaning hmeaning]
  exact if_pos ⟨hleast, hmost⟩

theorem leaf_of_shows {style : ScalarStyle} {tag : Option String} {text : String} {y : Json}
    (h : (Value.scalar style tag text).shows y = true) :
    tag = none ∧ scalarJson style none text = .ok y := by
  cases tag with
  | none => exact ⟨rfl, scalarShows_iff.1 h⟩
  | some tag => cases h

theorem array_of_shows {tag : Option String} {xs : List Value} {y : Json}
    (h : (Value.sequence tag xs).shows y = true) :
    tag = none ∧ ∃ ys, y = .arr ys ∧ itemsShow xs ys = true := by
  unfold shows at h
  split at h
  · next heq => cases heq
  · next heq =>
    cases heq
    exact ⟨rfl, _, rfl, h⟩
  · next heq => cases heq
  · cases h

theorem object_of_shows {tag : Option String} {es : List (Value × Value)} {y : Json}
    (h : (Value.mapping tag es).shows y = true) :
    tag = none ∧ ∃ fields, y = .obj fields ∧ fieldsShow es fields = true := by
  unfold shows at h
  split at h
  · next heq => cases heq
  · next heq => cases heq
  · next heq =>
    cases heq
    exact ⟨rfl, _, rfl, h⟩
  · cases h

theorem items_of_shows {x : Value} {ys : List Json} (h : x.shows (.arr ys) = true) :
    ∃ xs, x = .sequence none xs ∧ itemsShow xs ys = true := by
  cases x with
  | void | broken => cases h
  | scalar style tag text =>
      rcases leaf_of_scalarJson (leaf_of_shows h).2 with hy | ⟨b, hy⟩ | ⟨n, hy⟩ | ⟨s, hy⟩ <;> cases hy
  | sequence tag xs =>
      obtain ⟨rfl, ys, hy, hitems⟩ := array_of_shows h
      cases hy
      exact ⟨xs, rfl, hitems⟩
  | mapping tag es =>
      obtain ⟨-, fields, hy, -⟩ := object_of_shows h
      cases hy

theorem fields_of_shows {x : Value} {fields : List (String × Json)}
    (h : x.shows (.obj fields) = true) :
    ∃ es, x = .mapping none es ∧ fieldsShow es fields = true := by
  cases x with
  | void | broken => cases h
  | scalar style tag text =>
      rcases leaf_of_scalarJson (leaf_of_shows h).2 with hy | ⟨b, hy⟩ | ⟨n, hy⟩ | ⟨s, hy⟩ <;> cases hy
  | sequence tag xs =>
      obtain ⟨-, ys, hy, -⟩ := array_of_shows h
      cases hy
  | mapping tag es =>
      obtain ⟨rfl, fields, hy, hfields⟩ := object_of_shows h
      cases hy
      exact ⟨es, rfl, hfields⟩

theorem forall₂_of_itemsShow {xs : List Value} {ys : List Json} (h : itemsShow xs ys = true) :
    List.Forall₂ (fun x y => x.shows y = true) xs ys := by
  induction xs generalizing ys with
  | nil =>
      cases ys with
      | nil => exact .nil
      | cons y ys => cases h
  | cons x xs ih =>
      cases ys with
      | nil => cases h
      | cons y ys =>
          obtain ⟨hx, hxs⟩ := Bool.and_eq_true_iff.1 h
          exact .cons hx (ih hxs)

theorem forall₂_of_fieldsShow {es : List (Value × Value)} {fields : List (String × Json)}
    (h : fieldsShow es fields = true) :
    List.Forall₂ (Decode.ShowsField fun x y => x.shows y = true) es fields := by
  induction es generalizing fields with
  | nil =>
      cases fields with
      | nil => exact .nil
      | cons f fields => cases h
  | cons e es ih =>
      cases fields with
      | nil => cases h
      | cons f fields =>
          obtain ⟨hkx, hes⟩ := Bool.and_eq_true_iff.1 h
          obtain ⟨hk, hx⟩ := Bool.and_eq_true_iff.1 hkx
          obtain ⟨k, x⟩ := e
          obtain ⟨style, rfl, -⟩ := text_of_shows hk
          exact .cons ⟨rfl, hx⟩ (ih hes)

mutual

theorem decodeJson_of_shows : ∀ (x : Value) (y : Json), x.shows y = true → y.IsSorted →
    decodeJson x = .ok y
  | .void, _, h, _ => nomatch h
  | .broken, _, h, _ => nomatch h
  | .scalar style tag text, y, h, _ => by
      obtain ⟨rfl, hjson⟩ := leaf_of_shows h
      rw [decodeJson]
      exact hjson
  | .sequence tag xs, y, h, hy => by
      obtain ⟨rfl, ys, rfl, hitems⟩ := array_of_shows h
      cases hy with
      | arr hys =>
          rw [decodeJson, jsonItems_of_show xs ys hitems hys]
          rfl
  | .mapping tag es, y, h, hy => by
      obtain ⟨rfl, fields, rfl, hfields⟩ := object_of_shows h
      cases hy with
      | obj hsorted hvalues =>
          rw [decodeJson, jsonEntries_of_show [] es fields hfields hsorted hvalues]
          rfl

theorem jsonItems_of_show : ∀ (xs : List Value) (ys : List Json), itemsShow xs ys = true →
    (∀ y ∈ ys, y.IsSorted) → jsonItems xs = .ok ys
  | [], [], _, _ => rfl
  | x :: xs, y :: ys, h, hys => by
      obtain ⟨hx, hxs⟩ := Bool.and_eq_true_iff.1 h
      obtain ⟨hy, hys⟩ := List.forall_mem_cons.1 hys
      rw [jsonItems, decodeJson_of_shows x y hx hy, jsonItems_of_show xs ys hxs hys]
      rfl

theorem jsonEntries_of_show (front : Table Json) : ∀ (es : List (Value × Value))
    (fields : Table Json), fieldsShow es fields = true → Table.Sorted (front ++ fields) →
    (∀ f ∈ fields, f.2.IsSorted) → jsonEntries front es = .ok (front ++ fields)
  | [], [], _, _, _ => by
      rw [List.append_nil]
      rfl
  | (k, x) :: es, (key, y) :: fields, h, hsorted, hvalues => by
      obtain ⟨hkx, hes⟩ := Bool.and_eq_true_iff.1 h
      obtain ⟨hk, hx⟩ := Bool.and_eq_true_iff.1 hkx
      obtain ⟨hy, hvalues⟩ := List.forall_mem_cons.1 hvalues
      obtain ⟨style, rfl, -⟩ := text_of_shows hk
      -- the keys increase, so that every entry is put in behind those before it
      rw [List.append_cons] at hsorted ⊢
      rw [jsonEntries, decodeText, decodeJson_of_shows x y hx hy]
      dsimp only
      rw [Table.insert_last (List.pairwise_append.1 hsorted).1]
      exact jsonEntries_of_show _ es fields hes hsorted hvalues

end

/-! ## What any value is as JSON -/

mutual

theorem isSorted_of_decodeJson : ∀ (x : Value) (y : Json), decodeJson x = .ok y → y.IsSorted
  | .void, y, h => by
      cases h
      exact .null
  | .broken, y, h => by cases h
  | .scalar style tag text, y, h => by
      rcases leaf_of_scalarJson h with rfl | ⟨b, rfl⟩ | ⟨n, rfl⟩ | ⟨s, rfl⟩
      · exact .null
      · exact .bool b
      · exact .num n
      · exact .str s
  | .sequence tag xs, y, h => by
      rw [decodeJson] at h
      split at h
      · cases h
      · cases hitems : jsonItems xs with
        | error e =>
            rw [hitems] at h
            cases h
        | ok ys =>
            rw [hitems] at h
            cases h
            exact .arr (isSorted_of_jsonItems xs ys hitems)
  | .mapping tag es, y, h => by
      rw [decodeJson] at h
      split at h
      · cases h
      · cases hfields : jsonEntries [] es with
        | error e =>
            rw [hfields] at h
            cases h
        | ok fields =>
            rw [hfields] at h
            cases h
            obtain ⟨hsorted, hvalues⟩ :=
              isSorted_of_jsonEntries [] es fields hfields .nil (by simp)
            exact .obj hsorted hvalues

theorem isSorted_of_jsonItems : ∀ (xs : List Value) (ys : List Json), jsonItems xs = .ok ys →
    ∀ y ∈ ys, y.IsSorted
  | [], ys, h => by
      cases h
      simp
  | x :: xs, ys, h => by
      rw [jsonItems] at h
      split at h
      · cases h
      · next y hy =>
        cases hitems : jsonItems xs with
        | error e =>
            rw [hitems] at h
            cases h
        | ok ys' =>
            rw [hitems] at h
            cases h
            exact List.forall_mem_cons.2
              ⟨isSorted_of_decodeJson x y hy, isSorted_of_jsonItems xs ys' hitems⟩

theorem isSorted_of_jsonEntries (front : Table Json) : ∀ (es : List (Value × Value))
    (fields : Table Json), jsonEntries front es = .ok fields → front.Sorted →
    (∀ f ∈ front, f.2.IsSorted) → fields.Sorted ∧ ∀ f ∈ fields, f.2.IsSorted
  | [], fields, h, hsorted, hvalues => by
      cases h
      exact ⟨hsorted, hvalues⟩
  | (k, x) :: es, fields, h, hsorted, hvalues => by
      rw [jsonEntries] at h
      split at h
      · cases h
      · next key _ =>
        split at h
        · cases h
        · next y hy =>
          refine isSorted_of_jsonEntries _ es fields h (Table.Sorted.insert hsorted key y) ?_
          intro f hf
          rcases Table.mem_insert hf with rfl | hf
          · exact isSorted_of_decodeJson x y hy
          · exact hvalues f hf

end

/-! ## Documents as data -/

/-- Decoders read a value as the JSON value says that it shows. -/
theorem faithful : Decode.Faithful fun (x : Value) (y : Json) => x.shows y = true where
  text h expected := by
    obtain ⟨style, rfl, -⟩ := text_of_shows h
    rfl
  bool h := bool_of_shows h
  int h type hleast hmost := int_of_shows h type hleast hmost
  items h := by
    obtain ⟨xs, rfl, hitems⟩ := items_of_shows h
    exact ⟨xs, rfl, forall₂_of_itemsShow hitems⟩
  entries h := by
    obtain ⟨es, rfl, hfields⟩ := fields_of_shows h
    exact ⟨es, rfl, forall₂_of_fieldsShow hfields⟩
  record h expected := by
    obtain ⟨es, rfl, hfields⟩ := fields_of_shows h
    exact ⟨es, rfl, forall₂_of_fieldsShow hfields⟩
  condition h := by
    obtain ⟨style, rfl, hjson⟩ := text_of_shows h
    show decodeTruthOrText _ = _
    rw [decodeTruthOrText, hjson]
  json h hy := decodeJson_of_shows _ _ h hy

/-- The answers about any value are in order. -/
theorem orderly : Decode.Orderly Value where
  int {x type n} h := by
    change decodeInt x type = .ok n at h
    rw [decodeInt] at h
    split at h
    · split at h
      · next hbounds =>
        cases h
        exact hbounds
      · cases h
    · unfold refuse at h
      split at h <;> cases h
  json h := isSorted_of_decodeJson _ _ h

end Value

/-- The text of a JSON value, read again, is one document, and it shows the value. -/
def ReadsBack (y : Json) : Prop :=
  (Document.ofText (render y)).whole = true ∧ (Document.ofText (render y)).value.shows y = true

instance (y : Json) : Decidable (ReadsBack y) := inferInstanceAs (Decidable (_ ∧ _))

end RuleEngine.Yaml
