import RuleEngine.Condition.Grammar

set_option autoImplicit false

/-! # The grammar as a relation

The rules of the grammar, one constructor each, relate a row of tokens to the tree that it denotes.
The readers of `Condition/Grammar` find exactly these derivations: what a reader takes off the
front of its tokens is derivable (`isOr_of_orPhrase`), and a derivable row is read back whatever
comes behind it, as long as that does not carry the phrase on (`finds_orPhrase`).
-/

namespace RuleEngine

namespace Condition

/-! ## The rules -/

/-- A value is a quoted text, or a word that is no number out of range. -/
inductive IsValue : Token → Literal → Prop
  | word {w : String} {v : Literal} : literalOfWord w = .ok v → IsValue (.word w) v
  | quoted (s : String) : IsValue (.quoted s) (.text s)

mutual

/-- `or := and ( "||" and )*` -/
inductive IsOr : List Token → Condition → Prop
  | chain {ts us : List Token} {c : Condition} {cs : List Condition} :
      IsAnd ts c → IsOrTail us cs → IsOr (ts ++ us) (anyOf c cs)

/-- The part `( "||" and )*` of a disjunction. -/
inductive IsOrTail : List Token → List Condition → Prop
  | nil : IsOrTail [] []
  | cons {ts us : List Token} {c : Condition} {cs : List Condition} :
      IsAnd ts c → IsOrTail us cs → IsOrTail (.or :: (ts ++ us)) (c :: cs)

/-- `and := unary ( "&&" unary )*` -/
inductive IsAnd : List Token → Condition → Prop
  | chain {ts us : List Token} {c : Condition} {cs : List Condition} :
      IsUnary ts c → IsAndTail us cs → IsAnd (ts ++ us) (allOf c cs)

/-- The part `( "&&" unary )*` of a conjunction. -/
inductive IsAndTail : List Token → List Condition → Prop
  | nil : IsAndTail [] []
  | cons {ts us : List Token} {c : Condition} {cs : List Condition} :
      IsUnary ts c → IsAndTail us cs → IsAndTail (.and :: (ts ++ us)) (c :: cs)

/-- `unary := "!" unary | primary` -/
inductive IsUnary : List Token → Condition → Prop
  | not {ts : List Token} {c : Condition} : IsUnary ts c → IsUnary (.not :: ts) (.not c)
  | primary {ts : List Token} {c : Condition} : IsPrimary ts c → IsUnary ts c

/-- `primary := "(" or ")" | "true" | "false" | "exists" "(" name ")" | name op value` -/
inductive IsPrimary : List Token → Condition → Prop
  | group {ts : List Token} {c : Condition} :
      IsOr ts c → IsPrimary (.lparen :: (ts ++ [.rparen])) c
  | yes : IsPrimary [.word "true"] (.const true)
  | no : IsPrimary [.word "false"] (.const false)
  | present {key : String} : Token.isIdentifier key →
      IsPrimary [.word "exists", .lparen, .word key, .rparen] (.present key)
  | compare {key : String} {op : Comparison} {t : Token} {v : Literal} :
      Token.isIdentifier key → IsValue t v →
      IsPrimary [.word key, .compare op, t] (.compare key op v)

end

/-! ## Where a phrase ends -/

/-- A comparison operator, which carries on any phrase that ends in a word. -/
def carriesPrimary : Token → Bool
  | .compare _ => true
  | _ => false

/-- The tokens that carry on a conjunction. -/
def carriesAnd (t : Token) : Bool := t == .and || carriesPrimary t

/-- The tokens that carry on a disjunction. -/
def carriesOr (t : Token) : Bool := t == .or || carriesAnd t

/-- No token of a kind comes next. -/
def Stops (carries : Token → Bool) (rest : List Token) : Prop :=
  ∀ t ∈ rest.head?, carries t = false

theorem Stops.nil (carries : Token → Bool) : Stops carries [] := by
  intro t ht
  simp at ht

theorem Stops.cons {carries : Token → Bool} {t : Token} (rest : List Token)
    (h : carries t = false) : Stops carries (t :: rest) := by
  intro u hu
  simp only [List.head?_cons, Option.mem_def, Option.some.injEq] at hu
  rw [← hu, h]

theorem Stops.and_of_or {rest : List Token} (h : Stops carriesOr rest) : Stops carriesAnd rest := by
  intro t ht
  have := h t ht
  simp only [carriesOr, Bool.or_eq_false_iff] at this
  exact this.2

theorem Stops.primary_of_and {rest : List Token} (h : Stops carriesAnd rest) :
    Stops carriesPrimary rest := by
  intro t ht
  have := h t ht
  simp only [carriesAnd, Bool.or_eq_false_iff] at this
  exact this.2

/-- More operands of a disjunction do not carry on its last conjunction. -/
theorem Stops.append_orTail {us rest : List Token} {cs : List Condition} (hu : IsOrTail us cs)
    (h : Stops carriesOr rest) : Stops carriesAnd (us ++ rest) := by
  cases hu with
  | nil => exact h.and_of_or
  | cons => exact Stops.cons _ rfl

/-- More operands of a conjunction do not carry on its last operand. -/
theorem Stops.append_andTail {us rest : List Token} {cs : List Condition} (hu : IsAndTail us cs)
    (h : Stops carriesAnd rest) : Stops carriesPrimary (us ++ rest) := by
  cases hu with
  | nil => exact h.primary_of_and
  | cons => exact Stops.cons _ rfl

/-! ## What is derivable is read -/

/-- A reader finds a result; the bound that comes with it does not matter. -/
def Finds {α : Type} {P : α → Prop} (p : Except ConditionError { a : α // P a }) (a : α) : Prop :=
  ∃ h : P a, p = .ok ⟨a, h⟩

theorem Finds.of_val {α : Type} {P : α → Prop} {x : { a : α // P a }} {a : α} (h : x.val = a) :
    Finds (.ok x) a := by
  subst h
  exact ⟨x.property, rfl⟩

theorem Finds.unique {α : Type} {P : α → Prop} {p : Except ConditionError { a : α // P a }}
    {a b : α} (ha : Finds p a) (hb : Finds p b) : a = b := by
  obtain ⟨_, ea⟩ := ha
  obtain ⟨_, eb⟩ := hb
  rw [ea] at eb
  simpa using eb

/-- A disjunction has no more operands where no `||` follows. -/
theorem finds_orOperands_nil {ts : List Token} (h : ∀ us, ts ≠ .or :: us) :
    Finds (orOperands ts) ([], ts) := by
  rw [orOperands.eq_def]
  split
  · exact absurd rfl (h _)
  · exact Finds.of_val rfl

/-- A conjunction has no more operands where no `&&` follows. -/
theorem finds_andOperands_nil {ts : List Token} (h : ∀ us, ts ≠ .and :: us) :
    Finds (andOperands ts) ([], ts) := by
  rw [andOperands.eq_def]
  split
  · exact absurd rfl (h _)
  · exact Finds.of_val rfl

/-- What does not begin with `!` is read as a primary phrase. -/
theorem finds_unaryPhrase_iff {ts : List Token} (h : ∀ us, ts ≠ .not :: us)
    (r : Condition × List Token) : Finds (unaryPhrase ts) r ↔ Finds (primaryPhrase ts) r := by
  rw [unaryPhrase.eq_def]
  split
  · exact absurd rfl (h _)
  · exact Iff.rfl

/-- The words of the constants are read as such unless a comparison follows. -/
theorem finds_worded_const (b : Bool) {rest : List Token} (h : Stops carriesPrimary rest) :
    Finds (worded (if b then "true" else "false") rest) (.const b, rest) := by
  rw [worded.eq_def]
  split
  · next op ts' => exact absurd (h (.compare op) rfl) (by simp [carriesPrimary])
  · cases b <;> exact Finds.of_val rfl

theorem finds_value {t : Token} {v : Literal} (h : IsValue t v) (rest : List Token) :
    Finds (value (t :: rest)) (v, rest) := by
  cases h with
  | word hw =>
      simp only [value, hw]
      exact Finds.of_val rfl
  | quoted s => exact Finds.of_val rfl

mutual

/-- A derivable disjunction is read off the front of its tokens. -/
theorem finds_orPhrase {ts rest : List Token} {c : Condition} (h : IsOr ts c)
    (hr : Stops carriesOr rest) : Finds (orPhrase (ts ++ rest)) (c, rest) := by
  cases h with
  | @chain ts us c cs ha ht =>
      obtain ⟨_, e₁⟩ := finds_andPhrase ha (Stops.append_orTail ht hr)
      obtain ⟨_, e₂⟩ := finds_orOperands ht hr
      rw [List.append_assoc, orPhrase, e₁]
      simp only [e₂]
      exact Finds.of_val rfl
-- every reader calls one that stands below it, or has fewer tokens left
termination_by (ts.length, 4)
decreasing_by all_goals (simp only [Prod.lex_def, List.length_append]; omega)

theorem finds_orOperands {ts rest : List Token} {cs : List Condition} (h : IsOrTail ts cs)
    (hr : Stops carriesOr rest) : Finds (orOperands (ts ++ rest)) (cs, rest) := by
  cases h with
  | nil =>
      refine finds_orOperands_nil fun us hus => ?_
      rw [List.nil_append] at hus
      subst hus
      exact absurd (hr .or rfl) (by simp [carriesOr])
  | @cons ts us c cs ha ht =>
      obtain ⟨_, e₁⟩ := finds_andPhrase ha (Stops.append_orTail ht hr)
      obtain ⟨_, e₂⟩ := finds_orOperands ht hr
      rw [List.cons_append, List.append_assoc, orOperands, e₁]
      simp only [e₂]
      exact Finds.of_val rfl
termination_by (ts.length, 0)
decreasing_by all_goals (simp only [Prod.lex_def, List.length_append, List.length_cons]; omega)

theorem finds_andPhrase {ts rest : List Token} {c : Condition} (h : IsAnd ts c)
    (hr : Stops carriesAnd rest) : Finds (andPhrase (ts ++ rest)) (c, rest) := by
  cases h with
  | @chain ts us c cs ha ht =>
      obtain ⟨_, e₁⟩ := finds_unaryPhrase ha (Stops.append_andTail ht hr)
      obtain ⟨_, e₂⟩ := finds_andOperands ht hr
      rw [List.append_assoc, andPhrase, e₁]
      simp only [e₂]
      exact Finds.of_val rfl
termination_by (ts.length, 3)
decreasing_by all_goals (simp only [Prod.lex_def, List.length_append]; omega)

theorem finds_andOperands {ts rest : List Token} {cs : List Condition} (h : IsAndTail ts cs)
    (hr : Stops carriesAnd rest) : Finds (andOperands (ts ++ rest)) (cs, rest) := by
  cases h with
  | nil =>
      refine finds_andOperands_nil fun us hus => ?_
      rw [List.nil_append] at hus
      subst hus
      exact absurd (hr .and rfl) (by simp [carriesAnd])
  | @cons ts us c cs ha ht =>
      obtain ⟨_, e₁⟩ := finds_unaryPhrase ha (Stops.append_andTail ht hr)
      obtain ⟨_, e₂⟩ := finds_andOperands ht hr
      rw [List.cons_append, List.append_assoc, andOperands, e₁]
      simp only [e₂]
      exact Finds.of_val rfl
termination_by (ts.length, 0)
decreasing_by all_goals (simp only [Prod.lex_def, List.length_append, List.length_cons]; omega)

theorem finds_unaryPhrase {ts rest : List Token} {c : Condition} (h : IsUnary ts c)
    (hr : Stops carriesPrimary rest) : Finds (unaryPhrase (ts ++ rest)) (c, rest) := by
  match h with
  | .not h =>
      obtain ⟨_, e₁⟩ := finds_unaryPhrase h hr
      rw [List.cons_append, unaryPhrase, e₁]
      exact Finds.of_val rfl
  | .primary h =>
      have hp := finds_primaryPhrase h hr
      -- no primary phrase begins with `!`
      have hne : ∀ us, ts ++ rest ≠ .not :: us := by
        intro us
        cases h <;> simp
      exact (finds_unaryPhrase_iff hne _).2 hp
termination_by (ts.length, 2)
decreasing_by all_goals simp [Prod.lex_def]

theorem finds_primaryPhrase {ts rest : List Token} {c : Condition} (h : IsPrimary ts c)
    (hr : Stops carriesPrimary rest) : Finds (primaryPhrase (ts ++ rest)) (c, rest) := by
  cases h with
  | @group ts c h =>
      -- inside of parentheses the closing one is what ends the phrase
      obtain ⟨_, e₁⟩ := finds_orPhrase h (Stops.cons rest rfl : Stops carriesOr (.rparen :: rest))
      rw [List.cons_append, List.append_assoc, List.singleton_append, primaryPhrase, e₁]
      exact Finds.of_val rfl
  | yes =>
      rw [List.singleton_append, primaryPhrase]
      exact finds_worded_const true hr
  | no =>
      rw [List.singleton_append, primaryPhrase]
      exact finds_worded_const false hr
  | present hk =>
      simp only [List.cons_append, List.nil_append, primaryPhrase, worded, presence, hk, if_true]
      exact Finds.of_val rfl
  | compare hk hv =>
      obtain ⟨_, e₁⟩ := finds_value hv rest
      simp only [List.cons_append, List.nil_append, primaryPhrase, worded, comparison, hk,
        if_true, e₁]
      exact Finds.of_val rfl
termination_by (ts.length, 1)
decreasing_by all_goals (simp only [Prod.lex_def, List.length_append, List.length_cons]; omega)

end

/-! ## What is read is derivable -/

theorem isValue_of_value {ts rest : List Token} {v : Literal} (h : Finds (value ts) (v, rest)) :
    ∃ t, ts = t :: rest ∧ IsValue t v := by
  obtain ⟨_, e⟩ := h
  unfold value at e
  split at e
  · next w rest' =>
      split at e
      · next v' hv =>
          simp only [Except.ok.injEq, Subtype.mk.injEq, Prod.mk.injEq] at e
          exact ⟨_, by rw [e.2], by rw [← e.1]; exact .word hv⟩
      · cases e
  · simp only [Except.ok.injEq, Subtype.mk.injEq, Prod.mk.injEq] at e
    exact ⟨_, by rw [e.2], by rw [← e.1]; exact .quoted _⟩
  · cases e
  · cases e

/-- The key and the parenthesis behind `exists (`. -/
theorem isPrimary_of_presence {ts rest : List Token} {c : Condition}
    (h : Finds (presence ts) (c, rest)) :
    ∃ us, .word "exists" :: .lparen :: ts = us ++ rest ∧ IsPrimary us c := by
  obtain ⟨_, e⟩ := h
  unfold presence at e
  split at e
  · split at e
    · next hk =>
        split at e
        · simp only [Except.ok.injEq, Subtype.mk.injEq, Prod.mk.injEq] at e
          obtain ⟨rfl, rfl⟩ := e
          exact ⟨_, rfl, .present hk⟩
        · cases e
        · cases e
    · cases e
  · cases e

theorem isPrimary_of_comparison {w : String} {op : Comparison} {ts rest : List Token}
    {c : Condition} (h : Finds (comparison w op ts) (c, rest)) :
    ∃ us, .word w :: .compare op :: ts = us ++ rest ∧ IsPrimary us c := by
  obtain ⟨_, e⟩ := h
  unfold comparison at e
  split at e
  · next hk =>
      split at e
      · next v rest' hl hv =>
          simp only [Except.ok.injEq, Subtype.mk.injEq, Prod.mk.injEq] at e
          obtain ⟨rfl, rfl⟩ := e
          obtain ⟨t, rfl, ht⟩ := isValue_of_value ⟨hl, hv⟩
          exact ⟨_, rfl, .compare hk ht⟩
      · cases e
  · cases e

theorem isPrimary_of_worded {w : String} {ts rest : List Token} {c : Condition}
    (h : Finds (worded w ts) (c, rest)) : ∃ us, .word w :: ts = us ++ rest ∧ IsPrimary us c := by
  obtain ⟨_, e⟩ := h
  unfold worded at e
  split at e
  -- what follows the word tells a comparison from a word that stands alone
  · split at e
    · next hl he =>
        simp only [Except.ok.injEq, Subtype.mk.injEq] at e
        subst e
        exact isPrimary_of_comparison ⟨hl, he⟩
    · cases e
  · split at e
    · next hw =>
        simp only [Except.ok.injEq, Subtype.mk.injEq, Prod.mk.injEq] at e
        obtain ⟨rfl, rfl⟩ := e
        exact ⟨[.word w], rfl, hw ▸ .yes⟩
    · split at e
      · next hw =>
          simp only [Except.ok.injEq, Subtype.mk.injEq, Prod.mk.injEq] at e
          obtain ⟨rfl, rfl⟩ := e
          exact ⟨[.word w], rfl, hw ▸ .no⟩
      · split at e
        · split at e
          · next hl he =>
              simp only [Except.ok.injEq, Subtype.mk.injEq] at e
              subst e
              exact isPrimary_of_presence ⟨hl, he⟩
          · cases e
        · cases e

mutual

/-- What is read as a disjunction is derivable as one. -/
theorem isOr_of_orPhrase {ts rest : List Token} {c : Condition}
    (h : Finds (orPhrase ts) (c, rest)) : ∃ us, ts = us ++ rest ∧ IsOr us c := by
  obtain ⟨_, e⟩ := h
  rw [orPhrase] at e
  split at e
  · cases e
  · next c₁ ts₁ h₁ e₁ =>
      split at e
      · cases e
      · next cs ts₂ h₂ e₂ =>
          simp only [Except.ok.injEq, Subtype.mk.injEq, Prod.mk.injEq] at e
          obtain ⟨rfl, rfl⟩ := e
          have hl : ts₁.length < ts.length := h₁
          obtain ⟨us₁, hu₁, hc⟩ := isAnd_of_andPhrase ⟨h₁, e₁⟩
          obtain ⟨us₂, hu₂, hcs⟩ := isOrTail_of_orOperands ⟨h₂, e₂⟩
          exact ⟨us₁ ++ us₂, by rw [hu₁, hu₂, List.append_assoc], .chain hc hcs⟩
termination_by (ts.length, 4)
decreasing_by
  · simp [Prod.lex_def]
  · simp only [Prod.lex_def]
    omega

theorem isOrTail_of_orOperands {ts rest : List Token} {cs : List Condition}
    (h : Finds (orOperands ts) (cs, rest)) : ∃ us, ts = us ++ rest ∧ IsOrTail us cs := by
  by_cases ht : ∃ ts', ts = .or :: ts'
  · obtain ⟨ts', ht⟩ := ht
    rw [ht] at h
    obtain ⟨_, e⟩ := h
    rw [orOperands] at e
    split at e
    · cases e
    · next c ts₁ h₁ e₁ =>
        split at e
        · cases e
        · next cs ts₂ h₂ e₂ =>
            simp only [Except.ok.injEq, Subtype.mk.injEq, Prod.mk.injEq] at e
            obtain ⟨rfl, rfl⟩ := e
            have hl : ts₁.length < ts'.length := h₁
            obtain ⟨us₁, hu₁, hc⟩ := isAnd_of_andPhrase ⟨h₁, e₁⟩
            obtain ⟨us₂, hu₂, hcs⟩ := isOrTail_of_orOperands ⟨h₂, e₂⟩
            exact ⟨.or :: (us₁ ++ us₂), by rw [ht, hu₁, hu₂]; simp, .cons hc hcs⟩
  -- where no `||` follows, the reader can only find the empty tail
  · have hr := h.unique (finds_orOperands_nil fun us hus => ht ⟨us, hus⟩)
    simp only [Prod.mk.injEq] at hr
    obtain ⟨rfl, rfl⟩ := hr
    exact ⟨[], rfl, .nil⟩
termination_by (ts.length, 0)
decreasing_by all_goals (simp only [Prod.lex_def, ht, List.length_cons]; omega)

theorem isAnd_of_andPhrase {ts rest : List Token} {c : Condition}
    (h : Finds (andPhrase ts) (c, rest)) : ∃ us, ts = us ++ rest ∧ IsAnd us c := by
  obtain ⟨_, e⟩ := h
  rw [andPhrase] at e
  split at e
  · cases e
  · next c₁ ts₁ h₁ e₁ =>
      split at e
      · cases e
      · next cs ts₂ h₂ e₂ =>
          simp only [Except.ok.injEq, Subtype.mk.injEq, Prod.mk.injEq] at e
          obtain ⟨rfl, rfl⟩ := e
          have hl : ts₁.length < ts.length := h₁
          obtain ⟨us₁, hu₁, hc⟩ := isUnary_of_unaryPhrase ⟨h₁, e₁⟩
          obtain ⟨us₂, hu₂, hcs⟩ := isAndTail_of_andOperands ⟨h₂, e₂⟩
          exact ⟨us₁ ++ us₂, by rw [hu₁, hu₂, List.append_assoc], .chain hc hcs⟩
termination_by (ts.length, 3)
decreasing_by
  · simp [Prod.lex_def]
  · simp only [Prod.lex_def]
    omega

theorem isAndTail_of_andOperands {ts rest : List Token} {cs : List Condition}
    (h : Finds (andOperands ts) (cs, rest)) : ∃ us, ts = us ++ rest ∧ IsAndTail us cs := by
  by_cases ht : ∃ ts', ts = .and :: ts'
  · obtain ⟨ts', ht⟩ := ht
    rw [ht] at h
    obtain ⟨_, e⟩ := h
    rw [andOperands] at e
    split at e
    · cases e
    · next c ts₁ h₁ e₁ =>
        split at e
        · cases e
        · next cs ts₂ h₂ e₂ =>
            simp only [Except.ok.injEq, Subtype.mk.injEq, Prod.mk.injEq] at e
            obtain ⟨rfl, rfl⟩ := e
            have hl : ts₁.length < ts'.length := h₁
            obtain ⟨us₁, hu₁, hc⟩ := isUnary_of_unaryPhrase ⟨h₁, e₁⟩
            obtain ⟨us₂, hu₂, hcs⟩ := isAndTail_of_andOperands ⟨h₂, e₂⟩
            exact ⟨.and :: (us₁ ++ us₂), by rw [ht, hu₁, hu₂]; simp, .cons hc hcs⟩
  · have hr := h.unique (finds_andOperands_nil fun us hus => ht ⟨us, hus⟩)
    simp only [Prod.mk.injEq] at hr
    obtain ⟨rfl, rfl⟩ := hr
    exact ⟨[], rfl, .nil⟩
termination_by (ts.length, 0)
decreasing_by all_goals (simp only [Prod.lex_def, ht, List.length_cons]; omega)

theorem isUnary_of_unaryPhrase {ts rest : List Token} {c : Condition}
    (h : Finds (unaryPhrase ts) (c, rest)) : ∃ us, ts = us ++ rest ∧ IsUnary us c := by
  by_cases ht : ∃ ts', ts = .not :: ts'
  · obtain ⟨ts', ht⟩ := ht
    rw [ht] at h
    obtain ⟨_, e⟩ := h
    rw [unaryPhrase] at e
    split at e
    · cases e
    · next c₁ ts₁ h₁ e₁ =>
        simp only [Except.ok.injEq, Subtype.mk.injEq, Prod.mk.injEq] at e
        obtain ⟨rfl, rfl⟩ := e
        obtain ⟨us, hu, hc⟩ := isUnary_of_unaryPhrase ⟨h₁, e₁⟩
        exact ⟨.not :: us, by rw [ht, hu, List.cons_append], .not hc⟩
  -- what does not begin with `!` is read as a primary phrase
  · have hp := (finds_unaryPhrase_iff (fun us hus => ht ⟨us, hus⟩) _).1 h
    obtain ⟨us, hu, hc⟩ := isPrimary_of_primaryPhrase hp
    exact ⟨us, hu, .primary hc⟩
termination_by (ts.length, 2)
decreasing_by all_goals simp [Prod.lex_def, ht]

theorem isPrimary_of_primaryPhrase {ts rest : List Token} {c : Condition}
    (h : Finds (primaryPhrase ts) (c, rest)) : ∃ us, ts = us ++ rest ∧ IsPrimary us c := by
  by_cases ht : ∃ ts', ts = .lparen :: ts'
  · obtain ⟨ts', ht⟩ := ht
    rw [ht] at h
    obtain ⟨_, e⟩ := h
    rw [primaryPhrase] at e
    split at e
    · cases e
    · next c₁ ts₁ h₁ e₁ =>
        simp only [Except.ok.injEq, Subtype.mk.injEq, Prod.mk.injEq] at e
        obtain ⟨rfl, rfl⟩ := e
        obtain ⟨us, hu, hc⟩ := isOr_of_orPhrase ⟨h₁, e₁⟩
        exact ⟨.lparen :: (us ++ [.rparen]), by rw [ht, hu]; simp, .group hc⟩
    · cases e
    · cases e
  · obtain ⟨_, e⟩ := h
    rw [primaryPhrase.eq_def] at e
    split at e
    · exact absurd ⟨_, rfl⟩ ht
    · exact isPrimary_of_worded ⟨_, e⟩
    · cases e
    · cases e
termination_by (ts.length, 1)
decreasing_by simp [Prod.lex_def, ht]

end

/-! ## Whole texts -/

/-- **The readers decide the grammar.** A whole row of tokens denotes a tree exactly when the row
is derivable as a disjunction with that tree. -/
theorem ofTokens_eq_ok_iff {ts : List Token} {c : Condition} :
    ofTokens ts = .ok c ↔ IsOr ts c := by
  constructor
  · intro h
    unfold ofTokens at h
    split at h
    · cases h
    · next c₁ hl e =>
        simp only [Except.ok.injEq] at h
        subst h
        obtain ⟨us, rfl, hc⟩ := isOr_of_orPhrase ⟨hl, e⟩
        simpa using hc
    · cases h
  · intro h
    have hf := finds_orPhrase h (Stops.nil carriesOr)
    rw [List.append_nil] at hf
    obtain ⟨_, e⟩ := hf
    simp only [ofTokens, e]

/-- No condition is denoted by nothing. -/
theorem IsOr.ne_nil {ts : List Token} {c : Condition} (h : IsOr ts c) : ts ≠ [] := by
  rintro rfl
  have hread := ofTokens_eq_ok_iff.2 h
  have hnone : ofTokens [] = .error (.unexpected none) := by
    simp [ofTokens, orPhrase, andPhrase, unaryPhrase, primaryPhrase]
  rw [hnone] at hread
  cases hread

theorem parse_eq_ok_iff {s : String} {c : Condition} :
    parse s = .ok c ↔ ∃ ts, Token.ofText s = .ok ts ∧ IsOr ts c := by
  unfold parse
  constructor
  · intro h
    split at h
    · cases h
    · next ts hts => exact ⟨ts, hts, ofTokens_eq_ok_iff.1 h⟩
  · rintro ⟨ts, hts, hc⟩
    rw [hts]
    exact ofTokens_eq_ok_iff.2 hc

end Condition

end RuleEngine
