import Mathlib.Data.List.TakeWhile
import RuleEngine.Operation.Binding
import RuleEngine.Proofs.Decimal.Numeral
import RuleEngine.Proofs.Double.Duration
import RuleEngine.Proofs.Operation.Builtin

set_option autoImplicit false

/-! # What the built-in operations accept

A descriptor is accepted if its name is that of a built-in operation, if the operation has all the
parameters that are given, and if the values are there and are such as the operation needs
(`Descriptor.IsAcceptable`). This is said without the fields of the variants and without the functions
that read values; the registry compiles exactly these descriptors, and refuses all others by errors of
the configuration (`Registry.compiles_acceptable`).
-/

namespace RuleEngine

/-! ## Texts that are not blank -/

theorem Text.trimChars_eq_nil_iff {cs : List Char} :
    trimChars cs = [] ↔ ∀ c ∈ cs, isBlank c = true := by
  unfold trimChars
  rw [List.reverse_eq_nil_iff, List.dropWhile_eq_nil_iff]
  constructor
  · intro h c hc
    rw [← List.takeWhile_append_dropWhile (p := isBlank) (l := cs), List.mem_append] at hc
    rcases hc with hc | hc
    · exact List.mem_takeWhile_imp hc
    · exact h c (List.mem_reverse.2 hc)
  · intro h c hc
    exact h c ((List.dropWhile_sublist _).mem (List.mem_reverse.1 hc))

theorem Text.trim_eq_empty_iff {s : String} : trim s = "" ↔ isBlankText s = true := by
  unfold trim isBlankText
  rw [List.all_eq_true, ← trimChars_eq_nil_iff, ← String.toList_inj, String.toList_ofList]
  rfl

theorem Layout.withPoint_ne_empty (l : Layout) {digits : List Char} (h : digits ≠ []) (point : Int) :
    withPoint l.fraction digits point ≠ "" := by
  unfold withPoint
  split
  · split
    · simp
    · split
      · simp [h]
      · simp
  · simp

theorem Layout.render_ne_empty (l : Layout) (d : Double) : l.render d ≠ "" := by
  unfold render
  split
  · decide
  · dsimp only
    split
    · simp
    · split
      · cases l.fraction <;> simp
      · intro hempty
        have hdigits := Numeral.toString_toList_ne_nil (Decimal.shortest l.tie d).coefficient
        have hbody := (String.append_eq_empty_iff.1 hempty).2
        rcases (ite_eq_or_eq _ _ _).imp (·.symm.trans hbody) (·.symm.trans hbody) with h | h
        · exact withPoint_ne_empty l hdigits _ h
        · simp [withPower] at h

theorem Json.numberText_ne_empty (n : Number) : numberText n ≠ "" := by
  cases n with
  | double d => exact Layout.render_ne_empty _ d
  | int n =>
      cases n with
      | ofNat m =>
        show toString m ≠ ""
        intro h
        exact Numeral.toString_toList_ne_nil m (by rw [h]; rfl)
      | negSucc m =>
        show "-" ++ _ ≠ ""
        simp

/-! ## Values -/

/-- The number that a value denotes: a number, or a text that can be read as one. -/
inductive Json.Denotes : Json → Double → Prop
  | number (n : Number) : Denotes (.num n) n.toDouble
  | text {s : String} {x : Double} : Double.parse? (Text.trim s) = some x → Denotes (.str s) x

/-- What the value of a parameter must be. -/
inductive ParamKind
  | number
  | millis
  | text
  | value

/-- A value is such as a parameter of a kind needs. -/
def ParamKind.Admits : ParamKind → Json → Prop
  | .number, v => ∃ x, v.Denotes x ∧ x.isFinite = true
  | .millis, v => ∃ x, v.Denotes x ∧ x.isFinite = true ∧ 0 ≤ x.signedValue ∧
      (Duration.secondsOfMillis x).value < 2 ^ 64
  | .text, v => (∃ s, v = .str s ∧ Text.isBlankText s = false) ∨ (∃ n, v = .num n) ∨
      ∃ b, v = .bool b
  | .value, _ => True

/-- A parameter of an operation. -/
structure Param where
  key : String
  kind : ParamKind
  required : Bool

/-- The built-in operations with their parameters. -/
def builtinParams : List (String × List Param) :=
  [("turn", [⟨"distance", .number, true⟩]),
   ("press", [⟨"key", .text, true⟩, ⟨"hold_ms", .millis, false⟩]),
   ("wait", [⟨"ms", .millis, true⟩]),
   ("set_fact", [⟨"key", .text, true⟩, ⟨"value", .value, true⟩]),
   ("recognize", [⟨"target", .text, true⟩, ⟨"result_key", .text, true⟩])]

namespace Descriptor

variable {d : Descriptor} {key : String} {params : List Param}

/-- A parameter is given as it must be; null is no value. -/
structure Gives (d : Descriptor) (p : Param) : Prop where
  present : p.required = true → ∃ v, d.params.get? p.key = some v ∧ v ≠ .null
  admitted : ∀ v, d.params.get? p.key = some v → v ≠ .null → p.kind.Admits v

/-- A descriptor is one of a built-in operation, and fits its parameters. -/
def IsAcceptable (d : Descriptor) : Prop :=
  ∃ params, (d.name, params) ∈ builtinParams ∧
    (∀ key ∈ d.params.keys, ∃ p ∈ params, p.key = key) ∧ (∀ p ∈ params, d.Gives p) ∧
    (d.name = "set_fact" → d.async = false)

/-! ## Reading parameters -/

theorem param?_eq_some_iff {v : Json} :
    d.param? key = some v ↔ d.params.get? key = some v ∧ v ≠ .null := by
  unfold param?
  rw [Option.filter_eq_some_iff]
  refine and_congr_right fun _ => ?_
  cases v <;> simp [Json.isNull]

theorem numberOf?_eq_some_iff {v : Json} {x : Double} : numberOf? v = some x ↔ v.Denotes x := by
  constructor
  · intro h
    cases v with
    | num n =>
        cases h
        exact .number n
    | str s => exact .text h
    | null | bool | arr | obj => cases h
  · intro h
    cases h with
    | number => rfl
    | text h => exact h

theorem number?_eq_some_iff {x : Double} : d.number? key = .ok (some x) ↔
    ∃ v, d.param? key = some v ∧ v.Denotes x ∧ x.isFinite = true := by
  have hread : ∀ v, (numberOf? v).filter (·.isFinite) = some x ↔ v.Denotes x ∧ x.isFinite = true := by
    intro v
    rw [Option.filter_eq_some_iff, numberOf?_eq_some_iff]
  unfold number?
  cases d.param? key with
  | none => simp
  | some v =>
      simp only [Option.some.injEq, exists_eq_left', ← hread]
      cases (numberOf? v).filter (·.isFinite) <;> simp

theorem number?_eq_none_iff : d.number? key = .ok none ↔ d.param? key = none := by
  unfold number?
  cases d.param? key with
  | none => simp
  | some v =>
      dsimp only
      cases (numberOf? v).filter (·.isFinite) <;> simp

/-- A number that must be there is read if the value denotes one. -/
theorem number_isOk_iff : (∃ x, d.number key = .ok x) ↔
    ∃ v, d.param? key = some v ∧ ParamKind.number.Admits v := by
  have hnumber : (∃ x, d.number key = .ok x) ↔ ∃ x, d.number? key = .ok (some x) := by
    unfold number
    cases d.number? key with
    | error e => simp
    | ok given => cases given <;> simp
  rw [hnumber]
  simp only [number?_eq_some_iff]
  exact exists_comm.trans (exists_congr fun v => exists_and_left)

theorem millis?_eq_none_iff : d.millis? key = .ok none ↔ d.param? key = none := by
  rw [← number?_eq_none_iff]
  unfold millis?
  cases d.number? key with
  | error e => simp
  | ok given =>
      cases given with
      | none => simp
      | some ms =>
          dsimp only
          split
          · simp
          · split <;> simp

/-- The two bounds of a number of milliseconds, once the number is read. -/
theorem millis?_of_number {x : Double} (hread : d.number? key = .ok (some x)) :
    (∃ t, d.millis? key = .ok (some t)) ↔
      0 ≤ x.signedValue ∧ (Duration.secondsOfMillis x).value < 2 ^ 64 := by
  obtain ⟨v, -, -, hfinite⟩ := number?_eq_some_iff.1 hread
  have hsign := Double.isBelowZero_iff hfinite
  unfold millis?
  simp only [hread]
  by_cases hbelow : x.isBelowZero = true
  · rw [if_pos hbelow]
    simp [not_le.2 (hsign.1 hbelow)]
  · have hscaled : (Duration.secondsOfMillis x).isBelowZero = false :=
      Double.isBelowZero_scale hfinite (Bool.eq_false_iff.2 hbelow) 1 1000
    rw [if_neg hbelow, ← Duration.ofSeconds?_isSome_iff hscaled]
    cases Duration.ofSeconds? (Duration.secondsOfMillis x) <;>
      simp [not_lt.1 fun hlt => hbelow (hsign.2 hlt)]

/-- A number of milliseconds is read if it is not below zero and not out of range. -/
theorem millis?_isSome_iff : (∃ t, d.millis? key = .ok (some t)) ↔
    ∃ v, d.param? key = some v ∧ ParamKind.millis.Admits v := by
  have hnumber : (∃ t, d.millis? key = .ok (some t)) ↔ ∃ x, d.number? key = .ok (some x) ∧
      0 ≤ x.signedValue ∧ (Duration.secondsOfMillis x).value < 2 ^ 64 := by
    cases hread : d.number? key with
    | error e => simp [millis?, hread]
    | ok given =>
        cases given with
        | none => simp [millis?, hread]
        | some x =>
            rw [millis?_of_number hread]
            simp
  rw [hnumber]
  constructor
  · rintro ⟨x, hread, hbounds⟩
    obtain ⟨v, hv, hdenotes, hfinite⟩ := number?_eq_some_iff.1 hread
    exact ⟨v, hv, x, hdenotes, hfinite, hbounds⟩
  · rintro ⟨v, hv, x, hdenotes, hfinite, hbounds⟩
    exact ⟨x, number?_eq_some_iff.2 ⟨v, hv, hdenotes, hfinite⟩, hbounds⟩

/-- A text that must be there is read if the value is a text that is not blank, a number or a truth
value. -/
theorem text_isOk_iff : (∃ s, d.text key = .ok s) ↔
    ∃ v, d.param? key = some v ∧ ParamKind.text.Admits v := by
  have hread : ∀ v, ParamKind.text.Admits v ↔ ∃ s, textOf? v = some s ∧ s ≠ "" := by
    intro v
    cases v with
    | str s => simp [textOf?, ParamKind.Admits, Text.trim_eq_empty_iff]
    | num n => simp [textOf?, ParamKind.Admits, Json.numberText_ne_empty]
    | bool b => cases b <;> simp [textOf?, ParamKind.Admits]
    | null | arr | obj => simp [textOf?, ParamKind.Admits]
  unfold text
  cases d.param? key with
  | none => simp
  | some v =>
      simp only [Option.some.injEq, exists_eq_left', hread]
      cases textOf? v with
      | none => simp
      | some s => by_cases hempty : s = "" <;> simp [hempty]

end Descriptor

/-! ## Fields -/

/-- Fields have these parameters: their keys, and which of them must be given. No field has a list of
options. -/
structure Field.AreParams (fields : List Field) (params : List Param) : Prop where
  shape : fields.map (fun f => (f.key, f.required && f.default.isNone)) =
    params.map fun p => (p.key, p.required)
  free : ∀ f ∈ fields, f.kind ≠ .combo

theorem Field.given?_isSome_iff {f : Field} {values : Table Json} :
    (f.given? values).isSome = true ↔ ∃ v, values.get? f.key = some v ∧ v ≠ .null := by
  unfold given?
  cases values.get? f.key with
  | none => simp
  | some v => cases v <;> simp [Option.filter, Json.isNull]

/-- A field without options has a problem only where its value is missing. -/
theorem Field.problem?_eq_none_iff {operation : String} {values : Table Json} {f : Field}
    (hfree : f.kind ≠ .combo) : f.problem? operation values = none ↔
      ((f.required && f.default.isNone) = true →
        ∃ v, values.get? f.key = some v ∧ v ≠ .null) := by
  rw [← given?_isSome_iff]
  unfold problem?
  cases f.given? values with
  | none => cases f.required && f.default.isNone <;> simp
  | some v => simp [hfree]

/-- The check accepts parameters that are all declared, if those that must be given are. -/
theorem Field.check_eq_ok_iff {operation : String} {fields : List Field} {values : Table Json}
    {params : List Param} (h : Field.AreParams fields params) :
    Field.check operation fields values = .ok () ↔
      (∀ key ∈ values.keys, ∃ p ∈ params, p.key = key) ∧
      ∀ p ∈ params, p.required = true → ∃ v, values.get? p.key = some v ∧ v ≠ .null := by
  have hundeclared : undeclared? fields values = none ↔
      ∀ key ∈ values.keys, ∃ p ∈ params, p.key = key := by
    have hkeys : fields.map (·.key) = params.map (·.key) := by
      have hfirst := congrArg (List.map Prod.fst) h.shape
      rwa [List.map_map, List.map_map] at hfirst
    unfold undeclared?
    rw [List.find?_eq_none]
    refine forall₂_congr fun key _ => ?_
    have hmem : key ∈ fields.map (·.key) ↔ key ∈ params.map (·.key) := by rw [hkeys]
    simpa using hmem
  have hproblem : fields.findSome? (problem? operation values) = none ↔
      ∀ p ∈ params, p.required = true → ∃ v, values.get? p.key = some v ∧ v ≠ .null := by
    have hpairs : (∀ e ∈ fields.map (fun f => (f.key, f.required && f.default.isNone)),
        e.2 = true → ∃ v, values.get? e.1 = some v ∧ v ≠ .null) ↔
        ∀ e ∈ params.map (fun p => (p.key, p.required)),
          e.2 = true → ∃ v, values.get? e.1 = some v ∧ v ≠ .null := by rw [h.shape]
    rw [List.forall_mem_map, List.forall_mem_map] at hpairs
    rw [List.findSome?_eq_none_iff, ← hpairs]
    exact forall₂_congr fun f hf => problem?_eq_none_iff (h.free f hf)
  unfold check
  rw [← hundeclared, ← hproblem]
  cases undeclared? fields values with
  | some key => simp
  | none => cases fields.findSome? (problem? operation values) <;> simp

/-! ## The variants -/

namespace Descriptor

variable {d : Descriptor} {key : String} {kind : ParamKind}

theorem gives_required_iff :
    d.Gives ⟨key, kind, true⟩ ↔ ∃ v, d.param? key = some v ∧ kind.Admits v := by
  simp only [param?_eq_some_iff]
  constructor
  · intro h
    obtain ⟨v, hv, hnull⟩ := h.present rfl
    exact ⟨v, ⟨hv, hnull⟩, h.admitted v hv hnull⟩
  · rintro ⟨v, ⟨hv, hnull⟩, hadmits⟩
    refine ⟨fun _ => ⟨v, hv, hnull⟩, fun w hw _ => ?_⟩
    rwa [Option.some.inj (hw.symm.trans hv)]

theorem gives_optional_iff : d.Gives ⟨key, kind, false⟩ ↔
    d.param? key = none ∨ ∃ v, d.param? key = some v ∧ kind.Admits v := by
  constructor
  · intro h
    cases hparam : d.param? key with
    | none => exact .inl rfl
    | some v =>
        obtain ⟨hv, hnull⟩ := param?_eq_some_iff.1 hparam
        exact .inr ⟨v, rfl, h.admitted v hv hnull⟩
  · intro h
    refine ⟨nofun, fun w hw hnull => ?_⟩
    have hparam := param?_eq_some_iff.2 ⟨hw, hnull⟩
    rcases h with hnone | ⟨v, hv, hadmits⟩
    · rw [hparam] at hnone
      cases hnone
    · rwa [Option.some.inj (hparam.symm.trans hv)]

end Descriptor

/-- A variant takes the parameters, and reads its effect off them if they are as they must be. -/
structure Variant.Takes (v : Variant) (params : List Param) (sync : Bool) : Prop where
  fields : Field.AreParams v.fields params
  effect : ∀ d : Descriptor,
    (∀ p ∈ params, p.required = true → ∃ x, d.params.get? p.key = some x ∧ x ≠ .null) →
      ((∃ e, v.effect d = .ok e) ↔ (∀ p ∈ params, d.Gives p) ∧ (sync = true → d.async = false))

namespace Variant

theorem takes_turn : turn.Takes [⟨"distance", .number, true⟩] false where
  fields := ⟨rfl, by decide⟩
  effect d _ := by
    show (∃ e, (d.number "distance").map _ = _) ↔ _
    simp [Except.map_eq_ok, Descriptor.number_isOk_iff, Descriptor.gives_required_iff]

theorem takes_press : press.Takes [⟨"key", .text, true⟩, ⟨"hold_ms", .millis, false⟩] false where
  fields := ⟨rfl, by decide⟩
  effect d _ := by
    have hhold : (∃ hold, d.millis? "hold_ms" = .ok hold) ↔ d.Gives ⟨"hold_ms", .millis, false⟩ := by
      rw [Descriptor.gives_optional_iff, ← Descriptor.millis?_eq_none_iff,
        ← Descriptor.millis?_isSome_iff, Option.exists]
    have hkey := @Descriptor.text_isOk_iff d "key"
    rw [← Descriptor.gives_required_iff] at hkey
    simp only [List.forall_mem_cons, List.not_mem_nil, false_implies, implies_true, and_true,
      Bool.false_eq_true, ← hhold, ← hkey]
    unfold press
    dsimp only
    cases d.text "key" with
    | error e => simp
    | ok key => simp [Except.map_eq_ok]

theorem takes_wait : wait.Takes [⟨"ms", .millis, true⟩] false where
  fields := ⟨rfl, by decide⟩
  effect d _ := by
    have hms := @Descriptor.millis?_isSome_iff d "ms"
    rw [← Descriptor.gives_required_iff] at hms
    simp only [List.forall_mem_cons, List.not_mem_nil, false_implies, implies_true, and_true,
      Bool.false_eq_true, ← hms]
    unfold wait
    dsimp only
    cases d.millis? "ms" with
    | error e => simp
    | ok given => cases given <;> simp

theorem takes_setFact : setFact.Takes [⟨"key", .text, true⟩, ⟨"value", .value, true⟩] true where
  fields := ⟨rfl, by decide⟩
  effect d hpresent := by
    have hkey := @Descriptor.text_isOk_iff d "key"
    rw [← Descriptor.gives_required_iff] at hkey
    obtain ⟨x, hx, hnull⟩ := hpresent ⟨"value", .value, true⟩ (by simp) rfl
    have hvalue : d.Gives ⟨"value", .value, true⟩ := ⟨fun _ => ⟨x, hx, hnull⟩, fun _ _ _ => trivial⟩
    simp only [List.forall_mem_cons, List.not_mem_nil, false_implies, implies_true, and_true,
      ← hkey, hvalue, forall_const]
    unfold setFact
    dsimp only at hx ⊢
    rw [hx]
    cases d.async with
    | true => simp
    | false => cases d.text "key" <;> simp

theorem takes_recognize :
    recognize.Takes [⟨"target", .text, true⟩, ⟨"result_key", .text, true⟩] false where
  fields := ⟨rfl, by decide⟩
  effect d _ := by
    have htext : ∀ key, (∃ s, d.text key = .ok s) ↔ d.Gives ⟨key, .text, true⟩ := fun key => by
      rw [Descriptor.gives_required_iff, Descriptor.text_isOk_iff]
    simp only [List.forall_mem_cons, List.not_mem_nil, false_implies, implies_true, and_true,
      Bool.false_eq_true, ← htext]
    unfold recognize
    dsimp only
    cases d.text "target" with
    | error e => simp
    | ok target => simp [Except.map_eq_ok]

/-! ## What is bound -/

variable {d : Descriptor} {e : Effect}

theorem base_turn (h : turn.effect d = .ok e) : e.base d.async = ⟨"turn", d.async⟩ := by
  obtain ⟨x, -, rfl⟩ := Except.map_eq_ok.1 h
  rfl

theorem base_press (h : press.effect d = .ok e) : e.base d.async = ⟨"press", d.async⟩ := by
  unfold press at h
  dsimp only at h
  split at h
  · cases h
  · obtain ⟨x, -, rfl⟩ := Except.map_eq_ok.1 h
    rfl

theorem base_wait (h : wait.effect d = .ok e) : e.base d.async = ⟨"wait", d.async⟩ := by
  unfold wait at h
  dsimp only at h
  split at h
  · cases h
  · cases h
  · cases h
    rfl

theorem base_setFact (h : setFact.effect d = .ok e) : e.base d.async = ⟨"set_fact", d.async⟩ := by
  unfold setFact at h
  dsimp only at h
  split at h
  · cases h
  · next hasync =>
    split at h
    · cases h
    · split at h
      · cases h
        -- it has passed the guard, so it was not asked to be asynchronous
        rw [Bool.not_eq_true] at hasync
        rw [hasync]
        rfl
      · cases h

theorem base_recognize (h : recognize.effect d = .ok e) :
    e.base d.async = ⟨"recognize", d.async⟩ := by
  unfold recognize at h
  dsimp only at h
  split at h
  · cases h
  · obtain ⟨x, -, rfl⟩ := Except.map_eq_ok.1 h
    rfl

end Variant

/-! ## The registry -/

namespace Registry

variable {d : Descriptor} {name : String} {v : Variant} {params : List Param}

/-- The variants of the built-in operations take their parameters. -/
theorem takes_builtin (h : (name, params) ∈ builtinParams) :
    ∃ v, builtin.variants.get? name = some v ∧ v.Takes params (name == "set_fact") := by
  simp only [builtinParams, List.mem_cons, Prod.mk.injEq, List.not_mem_nil, or_false] at h
  rcases h with ⟨rfl, rfl⟩ | ⟨rfl, rfl⟩ | ⟨rfl, rfl⟩ | ⟨rfl, rfl⟩ | ⟨rfl, rfl⟩
  · exact ⟨_, rfl, Variant.takes_turn⟩
  · exact ⟨_, rfl, Variant.takes_press⟩
  · exact ⟨_, rfl, Variant.takes_wait⟩
  · exact ⟨_, rfl, Variant.takes_setFact⟩
  · exact ⟨_, rfl, Variant.takes_recognize⟩

/-- The built-in operations have no other variants. -/
theorem mem_builtinParams (h : builtin.variants.get? name = some v) :
    ∃ params, (name, params) ∈ builtinParams := by
  have hmem := Table.mem_of_get? h
  simp only [variants_builtin, List.mem_cons, Prod.mk.injEq, List.not_mem_nil, or_false] at hmem
  rcases hmem with ⟨rfl, -⟩ | ⟨rfl, -⟩ | ⟨rfl, -⟩ | ⟨rfl, -⟩ | ⟨rfl, -⟩
  all_goals exact ⟨_, by simp [builtinParams]; rfl⟩

/-- What is bound has the name of its descriptor, and is asynchronous if that says so. -/
theorem base_of_compile {c : Compiled} (h : builtin.compile d = .ok c) :
    c.base = ⟨d.name, d.async⟩ := by
  obtain ⟨v, effect, hv, -, heffect, rfl⟩ := compile_eq_ok.1 h
  have hmem := Table.mem_of_get? hv
  -- one case for each name of the table, in its order
  simp only [variants_builtin, List.mem_cons, Prod.mk.injEq, List.not_mem_nil, or_false] at hmem
  show effect.base d.async = _
  rcases hmem with ⟨hname, rfl⟩ | ⟨hname, rfl⟩ | ⟨hname, rfl⟩ | ⟨hname, rfl⟩ | ⟨hname, rfl⟩
  all_goals rw [hname]
  · exact Variant.base_press heffect
  · exact Variant.base_recognize heffect
  · exact Variant.base_setFact heffect
  · exact Variant.base_turn heffect
  · exact Variant.base_wait heffect

theorem compile_isOk_iff : (∃ c, builtin.compile d = .ok c) ↔ d.IsAcceptable := by
  constructor
  · rintro ⟨c, hc⟩
    obtain ⟨v, effect, hv, hcheck, heffect, -⟩ := compile_eq_ok.1 hc
    obtain ⟨params, hparams⟩ := mem_builtinParams hv
    obtain ⟨v', hv', htakes⟩ := takes_builtin hparams
    obtain rfl := Option.some.inj (hv.symm.trans hv')
    obtain ⟨hdeclared, hpresent⟩ := (Field.check_eq_ok_iff htakes.fields).1 hcheck
    obtain ⟨hgives, hsync⟩ := (htakes.effect d hpresent).1 ⟨effect, heffect⟩
    exact ⟨params, hparams, hdeclared, hgives, fun hname => hsync (beq_iff_eq.2 hname)⟩
  · rintro ⟨params, hparams, hdeclared, hgives, hsync⟩
    obtain ⟨v, hv, htakes⟩ := takes_builtin hparams
    have hpresent := fun p hp => (hgives p hp).present
    obtain ⟨effect, heffect⟩ :=
      (htakes.effect d hpresent).2 ⟨hgives, fun hname => hsync (beq_iff_eq.1 hname)⟩
    have hcheck : Field.check d.name v.fields d.params = .ok () :=
      (Field.check_eq_ok_iff htakes.fields).2 ⟨hdeclared, hpresent⟩
    exact ⟨_, compile_eq_ok.2 ⟨v, effect, hv, hcheck, heffect, rfl⟩⟩

/-- **What the built-in operations accept.** The registry compiles a descriptor if and only if it is
acceptable, and otherwise answers an error of the configuration. Whatever is bound from a compiled
descriptor has the name and the mode that the descriptor asked for, and so the tick dispatches it as
it was checked. -/
theorem compiles_acceptable (d : Descriptor) :
    ((∃ c, builtin.compile d = .ok c) ↔ d.IsAcceptable) ∧
    (¬d.IsAcceptable → ∃ m, builtin.compile d = .error (.configuration m)) ∧
    ∀ c, builtin.compile d = .ok c →
      c.base = ⟨d.name, d.async⟩ ∧ c.name = d.name ∧ c.isAsync = d.async := by
  refine ⟨compile_isOk_iff, fun hnot => ?_, fun c hc => ?_⟩
  · cases hcompile : builtin.compile d with
    | ok c => exact absurd (compile_isOk_iff.1 ⟨c, hcompile⟩) hnot
    | error e =>
        obtain ⟨m, rfl⟩ := refusesByConfiguration_builtin d e hcompile
        exact ⟨m, rfl⟩
  · refine ⟨base_of_compile hc, ?_⟩
    obtain ⟨-, -, -, -, -, rfl⟩ := compile_eq_ok.1 hc
    exact ⟨rfl, rfl⟩

end Registry

end RuleEngine
