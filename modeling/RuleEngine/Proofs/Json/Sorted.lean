import RuleEngine.Json.Source
import RuleEngine.Proofs.Decode.Source

set_option autoImplicit false

/-! # JSON values with sorted fields

Sorting lists the fields of every object by key, and changes nothing where they are. A value shows
itself to whoever decodes it, and its sorted form shows it up to the order of the fields.
-/

namespace RuleEngine.Json

/-! ## Sorting -/

theorem sortedItems_eq_map (items : List Json) : sortedItems items = items.map sorted := by
  induction items with
  | nil => rfl
  | cons x xs ih => rw [sortedItems, ih, List.map_cons]

theorem sortedFields_eq_map (fields : List (String × Json)) :
    sortedFields fields = Table.mapValues sorted fields := by
  unfold Table.mapValues
  induction fields with
  | nil => rfl
  | cons f fs ih => rw [sortedFields, ih, List.map_cons]

theorem names_sortedFields (fields : List (String × Json)) :
    (sortedFields fields).map (·.1) = fields.map (·.1) := by
  rw [sortedFields_eq_map, Table.mapValues, List.map_map]
  rfl

mutual

theorem isSorted_sorted : (v : Json) → v.sorted.IsSorted
  | .null => .null
  | .bool b => .bool b
  | .num n => .num n
  | .str s => .str s
  | .arr items => by
      rw [sorted]
      exact .arr (isSorted_sortedItems items)
  | .obj fields => by
      rw [sorted]
      exact .obj (Table.sorted_ofList _) fun f hf =>
        isSorted_sortedFields fields f (Table.mem_ofList hf)

theorem isSorted_sortedItems : (items : List Json) → ∀ x ∈ sortedItems items, x.IsSorted
  | [] => List.forall_mem_nil _
  | x :: xs => List.forall_mem_cons.2 ⟨isSorted_sorted x, isSorted_sortedItems xs⟩

theorem isSorted_sortedFields :
    (fields : List (String × Json)) → ∀ f ∈ sortedFields fields, f.2.IsSorted
  | [] => List.forall_mem_nil _
  | (_, x) :: fs => List.forall_mem_cons.2 ⟨isSorted_sorted x, isSorted_sortedFields fs⟩

end

/-- Of fields that are listed by key, sorting only sorts the values. -/
theorem ofList_sortedFields {fields : Table Json} (h : fields.Sorted) :
    Table.ofList (sortedFields fields) = Table.mapValues sorted fields := by
  rw [sortedFields_eq_map]
  exact Table.Sorted.ofList_eq (List.pairwise_map.2 h)

/-- What is sorted stays as it is. -/
theorem IsSorted.sorted_eq {v : Json} (h : v.IsSorted) : v.sorted = v := by
  induction h with
  | null => rfl
  | bool => rfl
  | num => rfl
  | str => rfl
  | arr _ ih =>
      rw [sorted, sortedItems_eq_map, List.map_congr_left ih, List.map_id']
  | @obj fields hfields _ ih =>
      have hvalues : Table.mapValues sorted fields = fields := by
        calc fields.map (fun f => (f.1, f.2.sorted))
            = fields.map fun f => f :=
              List.map_congr_left fun f hf => Prod.ext rfl (ih f hf)
          _ = fields := List.map_id' fields
      rw [sorted, ofList_sortedFields hfields, hvalues]

/-! ## Values as data -/

/-- A number within its bounds is read. -/
theorem decodeInt_int {type : IntType} {n : Int} (hleast : type.least ≤ n) (hmost : n ≤ type.most) :
    decodeInt (.num (.int n)) type = .ok n := by
  rw [decodeInt, if_pos ⟨hleast, hmost⟩]

/-- The names of fields are texts. -/
theorem showsField_keyed {R : Json → Json → Prop} {fields fields' : List (String × Json)}
    (h : List.Forall₂ (fun f g => f.1 = g.1 ∧ R f.2 g.2) fields fields') :
    List.Forall₂ (Decode.ShowsField R) (keyed fields) fields' := by
  refine List.forall₂_map_left_iff.2 (h.imp fun f g hfg => ⟨?_, hfg.2⟩)
  show Except.ok f.1 = Except.ok g.1
  rw [hfg.1]

/-- A variant is read off its name. -/
theorem decodeVariant_str {s : String} {known : List String} (h : s ∈ known) :
    decodeVariant (.str s) known = .ok s := by
  have hknown : known.contains s = true := List.contains_iff_mem.2 h
  simp only [decodeVariant, if_pos hknown]

/-- **The sorted form shows a value**, with the fields in another order. -/
theorem faithfulInFull_sorted : Decode.FaithfulInFull fun x y : Json => x = y.sorted where
  text := by
    rintro x s rfl expected
    rfl
  bool := by
    rintro x b rfl
    rfl
  int := by
    rintro x n rfl type hleast hmost
    exact decodeInt_int hleast hmost
  items := by
    rintro x ys rfl
    refine ⟨ys.map sorted, ?_, List.forall₂_map_left_iff.2 (List.forall₂_same.2 fun _ _ => rfl)⟩
    rw [sorted, sortedItems_eq_map]
    rfl
  entries := by
    rintro x fields rfl hfields
    refine ⟨keyed (Table.mapValues sorted fields), ?_, showsField_keyed ?_⟩
    · rw [sorted, ofList_sortedFields hfields]
      rfl
    · exact List.forall₂_map_left_iff.2 (List.forall₂_same.2 fun _ _ => ⟨rfl, rfl⟩)
  record := by
    rintro x fields rfl hnodup expected
    refine ⟨keyed (Table.ofList (sortedFields fields)), keyed (sortedFields fields), ?_, ?_, ?_⟩
    · rw [sorted]
      rfl
    · refine (Table.ofList_perm ?_).map _
      rw [names_sortedFields]
      exact hnodup
    · rw [sortedFields_eq_map]
      exact showsField_keyed (List.forall₂_map_left_iff.2 (List.forall₂_same.2 fun _ _ => ⟨rfl, rfl⟩))
  condition := by
    rintro x s rfl
    rfl
  json := by
    rintro x y rfl hy
    rw [hy.sorted_eq]
    rfl
  optional := by
    rintro x y rfl hy
    refine ⟨y.sorted, ?_, rfl⟩
    have hsorted : y.sorted.isNull = false := by cases y <;> first | rfl | cases hy
    show Except.ok (if y.sorted.isNull then none else some y.sorted) = _
    rw [hsorted]
    rfl
  variant := by
    rintro x s rfl known hs
    exact decodeVariant_str hs

/-- **A value shows itself.** -/
theorem faithfulInFull_self : Decode.FaithfulInFull fun x y : Json => x = y where
  text := by
    rintro x s rfl expected
    rfl
  bool := by
    rintro x b rfl
    rfl
  int := by
    rintro x n rfl type hleast hmost
    exact decodeInt_int hleast hmost
  items := by
    rintro x ys rfl
    exact ⟨ys, rfl, List.forall₂_same.2 fun _ _ => rfl⟩
  entries := by
    rintro x fields rfl _
    exact ⟨keyed fields, rfl, showsField_keyed (List.forall₂_same.2 fun _ _ => ⟨rfl, rfl⟩)⟩
  record := by
    rintro x fields rfl _ expected
    exact ⟨keyed fields, keyed fields, rfl, .refl _,
      showsField_keyed (List.forall₂_same.2 fun _ _ => ⟨rfl, rfl⟩)⟩
  condition := by
    rintro x s rfl
    rfl
  json := by
    rintro x y rfl _
    rfl
  optional := by
    rintro x y rfl hx
    refine ⟨x, ?_, rfl⟩
    show Except.ok (if x.isNull then none else some x) = _
    rw [hx]
    rfl
  variant := by
    rintro x s rfl known hs
    exact decodeVariant_str hs

/-- The parts of a sorted value are sorted. -/
theorem hereditary_isSorted : Decode.Hereditary IsSorted where
  items := by
    rintro x xs hx h
    cases hx <;> cases h
    assumption
  entries := by
    rintro x es hx h
    cases hx <;> cases h
    next hvalues => exact List.forall_mem_map.2 hvalues
  fields := by
    rintro x expected es hx h
    cases hx <;> cases h
    next hvalues => exact List.forall_mem_map.2 hvalues
  positions := by
    rintro x expected xs hx h
    cases hx <;> cases h
    assumption
  optional := by
    rintro x y hx h
    change Except.ok (if x.isNull then none else some x) = _ at h
    split at h
    · cases h
    · cases h
      exact hx

/-- **What is decoded from a sorted value is in order.** -/
theorem orderlyOn_isSorted : Decode.OrderlyOn IsSorted where
  hereditary := hereditary_isSorted
  int := by
    intro x type n _ h
    change decodeInt x type = .ok n at h
    unfold decodeInt at h
    split at h
    · split at h
      · next hbounds =>
        cases h
        exact hbounds
      · cases h
    · cases h
  json := by
    rintro x y hx h
    cases h
    exact hx

/-- Null stands for a value that is missing. -/
theorem tellsNull (Q : Json → Prop) : Decode.TellsNull Q := by
  intro x y v _ hoptional hjson
  cases hjson
  change Except.ok (if x.isNull then none else some x) = _ at hoptional
  split at hoptional
  · cases hoptional
  · next hnull =>
    cases hoptional
    exact Bool.eq_false_iff.2 hnull

end RuleEngine.Json
