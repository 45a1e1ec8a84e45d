import RuleEngine.Operation.Params
import RuleEngine.Proofs.Table

set_option autoImplicit false

/-! # Which parameters are accepted

Parameters are accepted if all of them are declared and no field is offended: a field that must have a
value and has no default is offended if there is none, and a combo with options is offended by a value
that is none of them (`Field.Accepts`). Otherwise one fault is named (`Field.FirstFault`): the least
parameter that no field declares, or, if all are declared, what offends the first field that is
offended. Several fields may have one key; each of them is checked. The check decides between these
two, for all fields and all parameters (`Field.check_decides`).
-/

namespace RuleEngine

/-- The text that stands for a value: a string itself, and the compact JSON of any other value. -/
inductive Json.HasText : Json → String → Prop
  | str (s : String) : HasText (.str s) s
  | other {v : Json} : (∀ s, v ≠ .str s) → HasText v v.compact

/-- Every value has exactly one text. -/
theorem Json.hasText_iff {v : Json} {text : String} : v.HasText text ↔ text = v.plainText := by
  constructor
  · intro h
    cases h with
    | str => rfl
    | other hother =>
        cases v with
        | str s => exact absurd rfl (hother s)
        | null | bool | num | arr | obj => rfl
  · rintro rfl
    cases v with
    | str s => exact .str s
    | null | bool | num | arr | obj => exact .other nofun

namespace Field

variable {operation : String} {fields : List Field} {params : Table Json} {f : Field}
  {key m : String} {e : EngineError}

/-! ## What is asked of parameters -/

/-- The parameter of a field has a value; null is none. -/
def Gets (f : Field) (params : Table Json) (v : Json) : Prop :=
  params.get? f.key = some v ∧ v ≠ .null

/-- Some field declares the parameter. -/
def Declares (fields : List Field) (key : String) : Prop := ∃ f ∈ fields, f.key = key

/-- What offends a field, and the message about it. -/
inductive Offence (operation : String) (params : Table Json) (f : Field) : String → Prop
  /-- There is no value, and none to take in its place. -/
  | missing :
      f.required = true → f.default = none → (∀ v, ¬f.Gets params v) →
      Offence operation params f
        ("operation '" ++ operation ++ "' is missing required parameter '" ++ f.key ++ "'")
  /-- The value is none of the options. -/
  | unlisted {v : Json} {text : String} :
      f.kind = .combo → f.options ≠ [] → f.Gets params v → v.HasText text → text ∉ f.options →
      Offence operation params f
        ("operation '" ++ operation ++ "': '" ++ text ++ "' is not one of " ++
          Text.quotedList f.options ++ " for '" ++ f.key ++ "'")

/-- The parameters are such as the fields ask for. -/
structure Accepts (fields : List Field) (params : Table Json) : Prop where
  /-- Every parameter is declared, also one whose value is null. -/
  declared : ∀ key ∈ params.keys, Declares fields key
  /-- What must be there is there. -/
  present : ∀ f ∈ fields, f.required = true → f.default = none → ∃ v, f.Gets params v
  /-- The value of a combo is one of its options, if it has any. -/
  listed : ∀ f ∈ fields, f.kind = .combo → f.options ≠ [] →
    ∀ v text, f.Gets params v → v.HasText text → text ∈ f.options

/-- The fault that is named if there is any. -/
inductive FirstFault (operation : String) (fields : List Field) (params : Table Json) :
    EngineError → Prop
  /-- The least parameter that no field declares. -/
  | undeclared {key : String} :
      key ∈ params.keys → ¬Declares fields key →
      (∀ other ∈ params.keys, ¬Declares fields other → key ≤ other) →
      FirstFault operation fields params
        (.configuration ("operation '" ++ operation ++ "' has no parameter '" ++ key ++ "'"))
  /-- All parameters are declared, and this is the first field that is offended. -/
  | offended {front back : List Field} {f : Field} {m : String} :
      (∀ key ∈ params.keys, Declares fields key) → fields = front ++ f :: back →
      (∀ g ∈ front, ∀ m, ¬g.Offence operation params m) → f.Offence operation params m →
      FirstFault operation fields params (.configuration m)

/-! ## Parameters that no field declares -/

theorem any_key_eq_false : (!fields.any fun f => f.key == key) = true ↔ ¬Declares fields key := by
  simp [Declares]

theorem undeclared?_eq_none_iff :
    undeclared? fields params = none ↔ ∀ key ∈ params.keys, Declares fields key := by
  unfold undeclared?
  rw [List.find?_eq_none]
  refine forall₂_congr fun key _ => ?_
  rw [any_key_eq_false, not_not]

/-- The parameters are gone through by their names, so the first one that is not declared is the
least. -/
theorem undeclared?_eq_some_iff (h : Table.Sorted params) :
    undeclared? fields params = some key ↔ key ∈ params.keys ∧ ¬Declares fields key ∧
      ∀ other ∈ params.keys, ¬Declares fields other → key ≤ other := by
  have hsorted : params.keys.Pairwise (· < ·) := List.pairwise_map.2 h
  unfold undeclared?
  generalize params.keys = keys at hsorted
  rw [List.find?_eq_some_iff_append, any_key_eq_false]
  constructor
  · rintro ⟨hkey, front, back, rfl, hfront⟩
    refine ⟨List.mem_append_right _ List.mem_cons_self, hkey, fun other hother hundeclared => ?_⟩
    rcases List.mem_append.1 hother with hmem | hmem
    · exact absurd (any_key_eq_false.2 hundeclared) (by simpa using hfront other hmem)
    · rcases List.mem_cons.1 hmem with rfl | hmem
      · exact String.le_refl _
      · have hlt := (List.pairwise_cons.1 (List.pairwise_append.1 hsorted).2.1).1 other hmem
        exact String.not_lt.1 (String.lt_asymm hlt)
  · rintro ⟨hmem, hkey, hleast⟩
    obtain ⟨front, back, rfl⟩ := List.append_of_mem hmem
    refine ⟨hkey, front, back, rfl, fun other hother => ?_⟩
    have hlt : other < key :=
      (List.pairwise_append.1 hsorted).2.2 other hother key List.mem_cons_self
    -- what is below the least one is declared
    by_contra hnot
    have hundeclared : ¬Declares fields other := any_key_eq_false.1 (by simpa using hnot)
    exact absurd (hleast other (List.mem_append_left _ hother) hundeclared) (String.not_le.2 hlt)

/-! ## Fields that are offended -/

theorem given?_eq_some_iff {v : Json} : f.given? params = some v ↔ f.Gets params v := by
  unfold given? Gets
  rw [Option.filter_eq_some_iff]
  refine and_congr_right fun _ => ?_
  cases v <;> simp [Json.isNull]

theorem given?_eq_none_iff : f.given? params = none ↔ ∀ v, ¬f.Gets params v := by
  simp only [← given?_eq_some_iff]
  exact Option.eq_none_iff_forall_ne_some

theorem problem?_eq_some_iff :
    f.problem? operation params = some m ↔ f.Offence operation params m := by
  unfold problem?
  constructor
  · intro h
    cases hgiven : f.given? params with
    | none =>
        rw [hgiven] at h
        obtain ⟨hmissing, hm⟩ := Option.ite_none_right_eq_some.1 h
        obtain ⟨hrequired, hdefault⟩ := Bool.and_eq_true_iff.1 hmissing
        rw [← Option.some.inj hm]
        exact .missing hrequired (Option.isNone_iff_eq_none.1 hdefault) (given?_eq_none_iff.1 hgiven)
    | some v =>
        rw [hgiven] at h
        obtain ⟨hunlisted, hm⟩ := Option.ite_none_right_eq_some.1 h
        simp only [Bool.and_eq_true, decide_eq_true_eq, Bool.not_eq_true', List.isEmpty_eq_false_iff,
          List.contains_eq_mem, decide_eq_false_iff_not] at hunlisted
        obtain ⟨⟨hkind, hoptions⟩, hmem⟩ := hunlisted
        rw [← Option.some.inj hm]
        exact .unlisted hkind hoptions (given?_eq_some_iff.1 hgiven) (Json.hasText_iff.2 rfl) hmem
  · intro h
    cases h with
    | missing hrequired hdefault hnone =>
        rw [given?_eq_none_iff.2 hnone, hrequired, hdefault]
        rfl
    | unlisted hkind hoptions hgets htext hmem =>
        obtain rfl := Json.hasText_iff.1 htext
        rw [given?_eq_some_iff.2 hgets]
        simp [hkind, hoptions, hmem]

theorem problem?_isNone_iff :
    f.problem? operation params = none ↔ ∀ m, ¬f.Offence operation params m := by
  simp only [← problem?_eq_some_iff]
  exact Option.eq_none_iff_forall_ne_some

/-! ## The check -/

/-- Parameters are accepted if all of them are declared and no field is offended. -/
theorem accepts_iff (operation : String) : Accepts fields params ↔
    (∀ key ∈ params.keys, Declares fields key) ∧
      ∀ f ∈ fields, ∀ m, ¬f.Offence operation params m := by
  constructor
  · intro h
    refine ⟨h.declared, fun f hf m hoffence => ?_⟩
    cases hoffence with
    | missing hrequired hdefault hnone =>
        obtain ⟨v, hv⟩ := h.present f hf hrequired hdefault
        exact hnone v hv
    | unlisted hkind hoptions hgets htext hmem =>
        exact hmem (h.listed f hf hkind hoptions _ _ hgets htext)
  · rintro ⟨hdeclared, hfree⟩
    refine ⟨hdeclared, fun f hf hrequired hdefault => ?_, fun f hf hkind hoptions v text hgets htext => ?_⟩
    · by_contra hnone
      exact hfree f hf _ (.missing hrequired hdefault (not_exists.1 hnone))
    · by_contra hmem
      exact hfree f hf _ (.unlisted hkind hoptions hgets htext hmem)

theorem findSome?_problem?_eq_none_iff : fields.findSome? (problem? operation params) = none ↔
    ∀ f ∈ fields, ∀ m, ¬f.Offence operation params m := by
  rw [List.findSome?_eq_none_iff]
  exact forall₂_congr fun f _ => problem?_isNone_iff

theorem findSome?_problem?_eq_some_iff : fields.findSome? (problem? operation params) = some m ↔
    ∃ front f back, fields = front ++ f :: back ∧ f.Offence operation params m ∧
      ∀ g ∈ front, ∀ m, ¬g.Offence operation params m := by
  simp only [List.findSome?_eq_some_iff, problem?_eq_some_iff, problem?_isNone_iff]

/-- A parameter that is not declared is the fault, whatever the fields say. -/
theorem firstFault_iff_of_undeclared (hkey : key ∈ params.keys) (hnot : ¬Declares fields key)
    (hleast : ∀ other ∈ params.keys, ¬Declares fields other → key ≤ other) :
    FirstFault operation fields params e ↔
      e = .configuration ("operation '" ++ operation ++ "' has no parameter '" ++ key ++ "'") := by
  constructor
  · intro hfault
    cases hfault with
    | undeclared hother hothernot hotherleast =>
        rw [String.le_antisymm (hleast _ hother hothernot) (hotherleast key hkey hnot)]
    | offended hdeclared => exact absurd (hdeclared key hkey) hnot
  · rintro rfl
    exact .undeclared hkey hnot hleast

/-- If all parameters are declared, the fault is what offends the first field that is offended. -/
theorem firstFault_iff_of_declared (h : ∀ key ∈ params.keys, Declares fields key) :
    FirstFault operation fields params e ↔
      ∃ m, fields.findSome? (problem? operation params) = some m ∧ e = .configuration m := by
  simp only [findSome?_problem?_eq_some_iff]
  constructor
  · intro hfault
    cases hfault with
    | undeclared hkey hnot => exact absurd (h _ hkey) hnot
    | offended _ hfields hfront hoffence => exact ⟨_, ⟨_, _, _, hfields, hoffence, hfront⟩, rfl⟩
  · rintro ⟨m, ⟨front, f, back, hfields, hoffence, hfront⟩, rfl⟩
    exact .offended h hfields hfront hoffence

theorem check_eq_error_iff (h : Table.Sorted params) :
    check operation fields params = .error e ↔ FirstFault operation fields params e := by
  unfold check
  cases hundeclared : undeclared? fields params with
  | some key =>
      obtain ⟨hkey, hnot, hleast⟩ := (undeclared?_eq_some_iff h).1 hundeclared
      rw [firstFault_iff_of_undeclared hkey hnot hleast]
      simp [eq_comm]
  | none =>
      rw [firstFault_iff_of_declared (undeclared?_eq_none_iff.1 hundeclared)]
      cases fields.findSome? (problem? operation params) <;> simp [eq_comm]

/-- **The check accepts exactly the parameters that the fields ask for, and otherwise names the first
fault.** -/
theorem check_decides (h : Table.Sorted params) :
    (check operation fields params = .ok () ↔ Accepts fields params) ∧
      ∀ e, check operation fields params = .error e ↔ FirstFault operation fields params e := by
  refine ⟨?_, fun e => check_eq_error_iff h⟩
  rw [accepts_iff operation, ← undeclared?_eq_none_iff,
    ← findSome?_problem?_eq_none_iff]
  unfold check
  cases undeclared? fields params with
  | some key => simp
  | none => cases fields.findSome? (problem? operation params) <;> simp

/-- Two fields have one key. The value is an option of the first, and not of the second; a third field
is offended as well, and a null that no field declares would be named before all of them. -/
theorem check_decides_of_repeated : ∃ (fields : List Field) (params undeclared : Table Json),
    Table.Sorted params ∧ Table.Sorted undeclared ∧
      FirstFault "press" fields params
        (.configuration "operation 'press': '2' is not one of [\"1\"] for 'mode'") ∧
      FirstFault "press" fields undeclared
        (.configuration "operation 'press' has no parameter 'a'") := by
  let mode (options : List String) : Field :=
    { key := "mode", title := "Mode", kind := .combo, options }
  let fields : List Field :=
    [mode ["1", "2"], mode ["1"], { key := "key", title := "Key", kind := .text, required := true }]
  let params : Table Json := .ofList [("mode", .num (.int 2)), ("key", .null)]
  let undeclared : Table Json := .ofList [("z", .null), ("mode", .num (.int 2)), ("a", .null)]
  have hparams : Table.Sorted params := Table.sorted_ofList _
  have hundeclared : Table.Sorted undeclared := Table.sorted_ofList _
  refine ⟨fields, params, undeclared, hparams, hundeclared, ?_, ?_⟩
  · exact ((check_decides hparams).2 _).1 (by decide +kernel)
  · exact ((check_decides hundeclared).2 _).1 (by decide +kernel)

end Field

end RuleEngine
