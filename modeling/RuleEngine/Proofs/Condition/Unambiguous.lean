import RuleEngine.Proofs.Condition.Derivation

set_option autoImplicit false

/-! # The grammar is unambiguous

A derivation is a tree with one node for each rule of the grammar that is applied. It spells a row of
tokens, and it denotes a condition: operands of a chain are collected in order, and parentheses leave
no node behind. A row of tokens is accepted exactly if some derivation spells it
(`Condition.ofTokens_eq_ok_iff_derivation`), and then only one does (`OrDerivation.eq_of_tokens`).
-/

namespace RuleEngine

namespace Condition

/-! ## Values -/

/-- A word that is a number too large for a double. -/
def IsOverflowing (w : String) : Prop :=
  Token.looksNumeric w = true ∧ ∃ d, Double.parse? w = some d ∧ d.isFinite = false

/-- What a word means as a value if it does not overflow. -/
def wordMeaning (w : String) : Literal :=
  if w = "true" then .bool true
  else if w = "false" then .bool false
  else if Token.looksNumeric w then
    match Double.parse? w with
    | some d => .number d
    | none => .text w
  else .text w

/-- The words that are values are those that do not overflow. -/
theorem literalOfWord_eq_ok_iff {w : String} {v : Literal} :
    literalOfWord w = .ok v ↔ ¬ IsOverflowing w ∧ wordMeaning w = v := by
  unfold literalOfWord wordMeaning IsOverflowing
  by_cases ht : w = "true"
  · have hn : Token.looksNumeric "true" = false := by decide
    subst ht
    simp [hn]
  by_cases hf : w = "false"
  · have hn : Token.looksNumeric "false" = false := by decide
    subst hf
    simp [hn]
  rw [if_neg ht, if_neg hf, if_neg ht, if_neg hf]
  by_cases hn : Token.looksNumeric w = true
  · cases hp : Double.parse? w with
    | none => simp [hn]
    | some d => cases hd : d.isFinite <;> simp [hn, hd]
  · simp [hn]

/-- A value: a quoted text, or a word that does not overflow. -/
inductive ValueDerivation
  | quoted (s : String)
  | word (w : String) (inRange : ¬ IsOverflowing w)

namespace ValueDerivation

def token : ValueDerivation → Token
  | .quoted s => .quoted s
  | .word w _ => .word w

def literal : ValueDerivation → Literal
  | .quoted s => .text s
  | .word w _ => wordMeaning w

theorem eq_of_token {d e : ValueDerivation} (h : d.token = e.token) : d = e := by
  cases d <;> cases e <;> simp_all [token]

end ValueDerivation

theorem isValue_iff {t : Token} {v : Literal} :
    IsValue t v ↔ ∃ d : ValueDerivation, d.token = t ∧ d.literal = v := by
  constructor
  · intro h
    cases h with
    | word hw =>
        obtain ⟨hrange, hv⟩ := literalOfWord_eq_ok_iff.1 hw
        exact ⟨.word _ hrange, rfl, hv⟩
    | quoted s => exact ⟨.quoted s, rfl, rfl⟩
  · rintro ⟨d, rfl, rfl⟩
    cases d with
    | quoted s => exact .quoted s
    | word w hrange => exact .word (literalOfWord_eq_ok_iff.2 ⟨hrange, rfl⟩)

/-! ## Derivations -/

mutual

/-- `or := and ( "||" and )*` -/
inductive OrDerivation
  | chain (first : AndDerivation) (more : OrTailDerivation)

/-- The part `( "||" and )*` of a disjunction. -/
inductive OrTailDerivation
  | nil
  | cons (operand : AndDerivation) (more : OrTailDerivation)

/-- `and := unary ( "&&" unary )*` -/
inductive AndDerivation
  | chain (first : UnaryDerivation) (more : AndTailDerivation)

/-- The part `( "&&" unary )*` of a conjunction. -/
inductive AndTailDerivation
  | nil
  | cons (operand : UnaryDerivation) (more : AndTailDerivation)

/-- `unary := "!" unary | primary` -/
inductive UnaryDerivation
  | not (operand : UnaryDerivation)
  | primary (phrase : PrimaryDerivation)

/-- `primary := "(" or ")" | "true" | "false" | "exists" "(" name ")" | name op value` -/
inductive PrimaryDerivation
  | group (inner : OrDerivation)
  | const (b : Bool)
  | present (key : String) (isName : Token.isIdentifier key = true)
  | compare (key : String) (isName : Token.isIdentifier key = true) (op : Comparison)
      (value : ValueDerivation)

end

mutual

def OrDerivation.tokens : OrDerivation → List Token
  | .chain first more => first.tokens ++ more.tokens

def OrTailDerivation.tokens : OrTailDerivation → List Token
  | .nil => []
  | .cons operand more => .or :: (operand.tokens ++ more.tokens)

def AndDerivation.tokens : AndDerivation → List Token
  | .chain first more => first.tokens ++ more.tokens

def AndTailDerivation.tokens : AndTailDerivation → List Token
  | .nil => []
  | .cons operand more => .and :: (operand.tokens ++ more.tokens)

def UnaryDerivation.tokens : UnaryDerivation → List Token
  | .not operand => .not :: operand.tokens
  | .primary phrase => phrase.tokens

def PrimaryDerivation.tokens : PrimaryDerivation → List Token
  | .group inner => .lparen :: (inner.tokens ++ [.rparen])
  | .const b => [.word (if b then "true" else "false")]
  | .present key _ => [.word "exists", .lparen, .word key, .rparen]
  | .compare key _ op value => [.word key, .compare op, value.token]

end

mutual

def OrDerivation.condition : OrDerivation → Condition
  | .chain first .nil => first.condition
  | .chain first (.cons operand more) =>
    .any (first.condition :: operand.condition :: more.conditions)

def OrTailDerivation.conditions : OrTailDerivation → List Condition
  | .nil => []
  | .cons operand more => operand.condition :: more.conditions

def AndDerivation.condition : AndDerivation → Condition
  | .chain first .nil => first.condition
  | .chain first (.cons operand more) =>
    .all (first.condition :: operand.condition :: more.conditions)

def AndTailDerivation.conditions : AndTailDerivation → List Condition
  | .nil => []
  | .cons operand more => operand.condition :: more.conditions

def UnaryDerivation.condition : UnaryDerivation → Condition
  | .not operand => .not operand.condition
  | .primary phrase => phrase.condition

def PrimaryDerivation.condition : PrimaryDerivation → Condition
  | .group inner => inner.condition
  | .const b => .const b
  | .present key _ => .present key
  | .compare key _ op value => .compare key op value.literal

end

/-! ## Derivations and the rules -/

theorem OrDerivation.condition_chain (first : AndDerivation) (more : OrTailDerivation) :
    (OrDerivation.chain first more).condition = anyOf first.condition more.conditions := by
  cases more with
  | nil => simp [OrDerivation.condition, OrTailDerivation.conditions, anyOf]
  | cons => simp [OrDerivation.condition, OrTailDerivation.conditions, anyOf]

theorem AndDerivation.condition_chain (first : UnaryDerivation) (more : AndTailDerivation) :
    (AndDerivation.chain first more).condition = allOf first.condition more.conditions := by
  cases more with
  | nil => simp [AndDerivation.condition, AndTailDerivation.conditions, allOf]
  | cons => simp [AndDerivation.condition, AndTailDerivation.conditions, allOf]

mutual

/-- What a derivation spells follows the rules, with the condition that it denotes. -/
theorem isOr_of_derivation (d : OrDerivation) : IsOr d.tokens d.condition := by
  cases d with
  | chain first more =>
      rw [OrDerivation.condition_chain, OrDerivation.tokens]
      exact .chain (isAnd_of_derivation first) (isOrTail_of_derivation more)

theorem isOrTail_of_derivation (d : OrTailDerivation) : IsOrTail d.tokens d.conditions := by
  cases d with
  | nil => exact .nil
  | cons operand more => exact .cons (isAnd_of_derivation operand) (isOrTail_of_derivation more)

theorem isAnd_of_derivation (d : AndDerivation) : IsAnd d.tokens d.condition := by
  cases d with
  | chain first more =>
      rw [AndDerivation.condition_chain, AndDerivation.tokens]
      exact .chain (isUnary_of_derivation first) (isAndTail_of_derivation more)

theorem isAndTail_of_derivation (d : AndTailDerivation) : IsAndTail d.tokens d.conditions := by
  cases d with
  | nil => exact .nil
  | cons operand more => exact .cons (isUnary_of_derivation operand) (isAndTail_of_derivation more)

theorem isUnary_of_derivation (d : UnaryDerivation) : IsUnary d.tokens d.condition := by
  cases d with
  | not operand => exact .not (isUnary_of_derivation operand)
  | primary phrase => exact .primary (isPrimary_of_derivation phrase)

theorem isPrimary_of_derivation (d : PrimaryDerivation) : IsPrimary d.tokens d.condition := by
  cases d with
  | group inner => exact .group (isOr_of_derivation inner)
  | const b =>
      cases b with
      | true => exact .yes
      | false => exact .no
  | present key hkey => exact .present hkey
  | compare key hkey op value => exact .compare hkey (isValue_iff.2 ⟨value, rfl, rfl⟩)

end

mutual

/-- What follows the rules is spelled by a derivation. -/
theorem exists_orDerivation {ts : List Token} {c : Condition} (h : IsOr ts c) :
    ∃ d : OrDerivation, d.tokens = ts ∧ d.condition = c := by
  match h with
  | .chain ha ht =>
      obtain ⟨d, rfl, rfl⟩ := exists_andDerivation ha
      obtain ⟨e, rfl, rfl⟩ := exists_orTailDerivation ht
      exact ⟨.chain d e, rfl, OrDerivation.condition_chain d e⟩

theorem exists_orTailDerivation {ts : List Token} {cs : List Condition} (h : IsOrTail ts cs) :
    ∃ d : OrTailDerivation, d.tokens = ts ∧ d.conditions = cs := by
  match h with
  | .nil => exact ⟨.nil, rfl, rfl⟩
  | .cons ha ht =>
      obtain ⟨d, rfl, rfl⟩ := exists_andDerivation ha
      obtain ⟨e, rfl, rfl⟩ := exists_orTailDerivation ht
      exact ⟨.cons d e, rfl, rfl⟩

theorem exists_andDerivation {ts : List Token} {c : Condition} (h : IsAnd ts c) :
    ∃ d : AndDerivation, d.tokens = ts ∧ d.condition = c := by
  match h with
  | .chain hu ht =>
      obtain ⟨d, rfl, rfl⟩ := exists_unaryDerivation hu
      obtain ⟨e, rfl, rfl⟩ := exists_andTailDerivation ht
      exact ⟨.chain d e, rfl, AndDerivation.condition_chain d e⟩

theorem exists_andTailDerivation {ts : List Token} {cs : List Condition} (h : IsAndTail ts cs) :
    ∃ d : AndTailDerivation, d.tokens = ts ∧ d.conditions = cs := by
  match h with
  | .nil => exact ⟨.nil, rfl, rfl⟩
  | .cons hu ht =>
      obtain ⟨d, rfl, rfl⟩ := exists_unaryDerivation hu
      obtain ⟨e, rfl, rfl⟩ := exists_andTailDerivation ht
      exact ⟨.cons d e, rfl, rfl⟩

theorem exists_unaryDerivation {ts : List Token} {c : Condition} (h : IsUnary ts c) :
    ∃ d : UnaryDerivation, d.tokens = ts ∧ d.condition = c := by
  match h with
  | .not hu =>
      obtain ⟨d, rfl, rfl⟩ := exists_unaryDerivation hu
      exact ⟨.not d, rfl, rfl⟩
  | .primary hp =>
      obtain ⟨d, rfl, rfl⟩ := exists_primaryDerivation hp
      exact ⟨.primary d, rfl, rfl⟩

theorem exists_primaryDerivation {ts : List Token} {c : Condition} (h : IsPrimary ts c) :
    ∃ d : PrimaryDerivation, d.tokens = ts ∧ d.condition = c := by
  match h with
  | .group ho =>
      obtain ⟨d, rfl, rfl⟩ := exists_orDerivation ho
      exact ⟨.group d, rfl, rfl⟩
  | .yes => exact ⟨.const true, rfl, rfl⟩
  | .no => exact ⟨.const false, rfl, rfl⟩
  | .present hkey => exact ⟨.present _ hkey, rfl, rfl⟩
  | .compare hkey hv =>
      obtain ⟨d, rfl, rfl⟩ := isValue_iff.1 hv
      exact ⟨.compare _ hkey _ d, rfl, rfl⟩

end

/-- A row of tokens denotes a condition exactly if a derivation spells it and denotes that. -/
theorem ofTokens_eq_ok_iff_derivation {ts : List Token} {c : Condition} :
    ofTokens ts = .ok c ↔ ∃ d : OrDerivation, d.tokens = ts ∧ d.condition = c := by
  rw [ofTokens_eq_ok_iff]
  constructor
  · exact exists_orDerivation
  · rintro ⟨d, rfl, rfl⟩
    exact isOr_of_derivation d

/-! ## Uniqueness -/

/-- Two conjunctions at the front of a row of tokens end at the same place, because the reader ends
there. -/
theorem AndDerivation.split {d e : AndDerivation} {rest rest' : List Token}
    (hr : Stops carriesAnd rest) (hr' : Stops carriesAnd rest')
    (h : d.tokens ++ rest = e.tokens ++ rest') : d.tokens = e.tokens ∧ rest = rest' := by
  have hd := finds_andPhrase (isAnd_of_derivation d) hr
  have he := finds_andPhrase (isAnd_of_derivation e) hr'
  rw [h] at hd
  have hrest : rest = rest' := (Prod.mk.inj (hd.unique he)).2
  subst hrest
  exact ⟨List.append_cancel_right h, rfl⟩

/-- Two operands of a conjunction at the front of a row of tokens end at the same place. -/
theorem UnaryDerivation.split {d e : UnaryDerivation} {rest rest' : List Token}
    (hr : Stops carriesPrimary rest) (hr' : Stops carriesPrimary rest')
    (h : d.tokens ++ rest = e.tokens ++ rest') : d.tokens = e.tokens ∧ rest = rest' := by
  have hd := finds_unaryPhrase (isUnary_of_derivation d) hr
  have he := finds_unaryPhrase (isUnary_of_derivation e) hr'
  rw [h] at hd
  have hrest : rest = rest' := (Prod.mk.inj (hd.unique he)).2
  subst hrest
  exact ⟨List.append_cancel_right h, rfl⟩

/-- What follows a conjunction in a disjunction does not carry it on. -/
theorem OrTailDerivation.stops (d : OrTailDerivation) : Stops carriesAnd d.tokens := by
  have h := Stops.append_orTail (isOrTail_of_derivation d) (Stops.nil carriesOr)
  rwa [List.append_nil] at h

/-- What follows an operand in a conjunction does not carry it on. -/
theorem AndTailDerivation.stops (d : AndTailDerivation) : Stops carriesPrimary d.tokens := by
  have h := Stops.append_andTail (isAndTail_of_derivation d) (Stops.nil carriesAnd)
  rwa [List.append_nil] at h

/-- No primary phrase begins with `!`. -/
theorem PrimaryDerivation.tokens_ne_not (d : PrimaryDerivation) (ts : List Token) :
    d.tokens ≠ .not :: ts := by
  cases d <;> simp [PrimaryDerivation.tokens]

mutual

/-- **The grammar is unambiguous.** -/
theorem OrDerivation.eq_of_tokens {d e : OrDerivation} (h : d.tokens = e.tokens) : d = e := by
  match d, e with
  | .chain first more, .chain first' more' =>
      simp only [OrDerivation.tokens] at h
      obtain ⟨hfirst, hmore⟩ := AndDerivation.split more.stops more'.stops h
      rw [AndDerivation.eq_of_tokens hfirst, OrTailDerivation.eq_of_tokens hmore]

theorem OrTailDerivation.eq_of_tokens {d e : OrTailDerivation} (h : d.tokens = e.tokens) :
    d = e := by
  match d, e with
  | .nil, .nil => rfl
  | .nil, .cons .. => cases h
  | .cons .., .nil => cases h
  | .cons operand more, .cons operand' more' =>
      simp only [OrTailDerivation.tokens, List.cons.injEq, true_and] at h
      obtain ⟨hoperand, hmore⟩ := AndDerivation.split more.stops more'.stops h
      rw [AndDerivation.eq_of_tokens hoperand, OrTailDerivation.eq_of_tokens hmore]

theorem AndDerivation.eq_of_tokens {d e : AndDerivation} (h : d.tokens = e.tokens) : d = e := by
  match d, e with
  | .chain first more, .chain first' more' =>
      simp only [AndDerivation.tokens] at h
      obtain ⟨hfirst, hmore⟩ := UnaryDerivation.split more.stops more'.stops h
      rw [UnaryDerivation.eq_of_tokens hfirst, AndTailDerivation.eq_of_tokens hmore]

theorem AndTailDerivation.eq_of_tokens {d e : AndTailDerivation} (h : d.tokens = e.tokens) :
    d = e := by
  match d, e with
  | .nil, .nil => rfl
  | .nil, .cons .. => cases h
  | .cons .., .nil => cases h
  | .cons operand more, .cons operand' more' =>
      simp only [AndTailDerivation.tokens, List.cons.injEq, true_and] at h
      obtain ⟨hoperand, hmore⟩ := UnaryDerivation.split more.stops more'.stops h
      rw [UnaryDerivation.eq_of_tokens hoperand, AndTailDerivation.eq_of_tokens hmore]

theorem UnaryDerivation.eq_of_tokens {d e : UnaryDerivation} (h : d.tokens = e.tokens) :
    d = e := by
  match d, e with
  | .not operand, .not operand' =>
      simp only [UnaryDerivation.tokens, List.cons.injEq, true_and] at h
      rw [UnaryDerivation.eq_of_tokens h]
  | .not _, .primary phrase => exact absurd h.symm (phrase.tokens_ne_not _)
  | .primary phrase, .not _ => exact absurd h (phrase.tokens_ne_not _)
  | .primary phrase, .primary phrase' => rw [PrimaryDerivation.eq_of_tokens h]

theorem PrimaryDerivation.eq_of_tokens {d e : PrimaryDerivation} (h : d.tokens = e.tokens) :
    d = e := by
  match d, e with
  | .group inner, .group inner' =>
      simp only [PrimaryDerivation.tokens, List.cons.injEq, true_and] at h
      rw [OrDerivation.eq_of_tokens (List.append_cancel_right h)]
  | .const b, .const b' => cases b <;> cases b' <;> simp_all [PrimaryDerivation.tokens]
  | .present .., .present .. => simp_all [PrimaryDerivation.tokens]
  | .compare _ _ _ value, .compare _ _ _ value' =>
      simp only [PrimaryDerivation.tokens, List.cons.injEq, Token.word.injEq, Token.compare.injEq,
        and_true] at h
      obtain ⟨rfl, rfl, hvalue⟩ := h
      rw [ValueDerivation.eq_of_token hvalue]
  -- phrases of two kinds differ in their first or second token
  | .group _, .const _ | .group _, .present .. | .group _, .compare .. | .const _, .group _
  | .const _, .present .. | .const _, .compare .. | .present .., .group _ | .present .., .const _
  | .present .., .compare .. | .compare .., .group _ | .compare .., .const _
  | .compare .., .present .. => simp [PrimaryDerivation.tokens] at h

end

/-! ## Whole texts -/

/-- **The parser accepts exactly the grammar.** A text denotes a condition exactly if it splits into
tokens that a derivation spells; that derivation is the only one, and the condition is what it
denotes. Any other text is answered with an error. -/
theorem parse_eq_ok_iff_derivation (s : String) :
    (∀ c, parse s = .ok c ↔ ∃ ts d, Token.ofText s = .ok ts ∧
      (∀ e : OrDerivation, e.tokens = ts ↔ e = d) ∧ d.condition = c) ∧
    ((∃ e, parse s = .error e) ↔
      ∀ ts, Token.ofText s = .ok ts → ∀ d : OrDerivation, d.tokens ≠ ts) := by
  have haccept : ∀ c, parse s = .ok c ↔ ∃ ts, Token.ofText s = .ok ts ∧
      ∃ d : OrDerivation, d.tokens = ts ∧ d.condition = c := by
    intro c
    rw [parse_eq_ok_iff]
    simp only [← ofTokens_eq_ok_iff, ofTokens_eq_ok_iff_derivation]
  refine ⟨fun c => (haccept c).trans ?_, ?_⟩
  · constructor
    · rintro ⟨ts, hts, d, rfl, hc⟩
      exact ⟨_, d, hts, fun e => ⟨OrDerivation.eq_of_tokens, fun he => he ▸ rfl⟩, hc⟩
    · rintro ⟨ts, d, hts, hd, hc⟩
      exact ⟨ts, hts, d, (hd d).2 rfl, hc⟩
  · constructor
    · rintro ⟨e, he⟩ ts hts d hd
      have hok := (haccept d.condition).2 ⟨ts, hts, d, hd, rfl⟩
      rw [he] at hok
      cases hok
    · intro hnone
      cases hp : parse s with
      | error e => exact ⟨e, rfl⟩
      | ok c =>
          obtain ⟨ts, hts, d, hd, -⟩ := (haccept c).1 hp
          exact absurd hd (hnone ts hts d)

end Condition

end RuleEngine
