import RuleEngine.Condition.Text
import RuleEngine.Proofs.Condition.WellFormed
import RuleEngine.Proofs.Condition.Writing
import RuleEngine.Proofs.Decimal.Numeral

set_option autoImplicit false

/-! # Canonical texts of conditions

The canonical text of a well-formed condition is written from a row of tokens (`Condition.tokens`)
from which the grammar derives the condition: the parentheses of the text are those of the row, and
they stand where a rule would not take the phrase as it is. So the text is read back as the
condition (`Condition.parse_render`).
-/

namespace RuleEngine

namespace Condition

/-! ## The canonical tokens -/

/-- A row of tokens, in parentheses if asked for. -/
def enclosed (b : Bool) (ts : List Token) : List Token :=
  if b then .lparen :: (ts ++ [.rparen]) else ts

end Condition

def Literal.token (v : Literal) : Token :=
  match v with
  | .text s => if Token.isBareWord s then .word s else .quoted s
  | v => .word v.render

namespace Condition

mutual

/-- The tokens of the canonical text. -/
def tokens : Condition → List Token
  | .const b => [.word (if b then "true" else "false")]
  | .present key => [.word "exists", .lparen, .word key, .rparen]
  | .compare key op value => [.word key, .compare op, value.token]
  | .not c => .not :: enclosed (!c.negatesBare) (tokens c)
  | .all cs => tokensAll cs
  | .any cs => tokensAny cs

/-- The tokens of the operands of a conjunction. -/
def tokensAll : List Condition → List Token
  | [] => []
  | [c] => enclosed c.isChain (tokens c)
  | c :: d :: cs => enclosed c.isChain (tokens c) ++ .and :: tokensAll (d :: cs)

/-- The tokens of the operands of a disjunction. -/
def tokensAny : List Condition → List Token
  | [] => []
  | [c] => enclosed c.isAny (tokens c)
  | c :: d :: cs => enclosed c.isAny (tokens c) ++ .or :: tokensAny (d :: cs)

end

end Condition

/-! ## The tokens derive the condition -/

namespace Literal

/-- A written number looks like one. -/
theorem looksNumeric_render {d : Double} (hfin : d.isFinite = true) :
    Token.looksNumeric (Layout.plain.render d) = true := by
  obtain ⟨whole, fraction, htext, hne, hw, -, -⟩ := Layout.render_plain hfin
  obtain ⟨c, cs, rfl⟩ := List.exists_cons_of_ne_nil hne
  have hc := hw c List.mem_cons_self
  unfold Token.looksNumeric
  rw [htext]
  cases d.negative with
  | true => exact hc
  | false =>
      show (if c = '-' ∨ c = '+' then _ else c.isDigit) = true
      rw [if_neg, hc]
      rintro (rfl | rfl) <;> exact absurd hc (by decide)

/-- A finite number is written as a word that denotes it. -/
theorem literalOfWord_render {d : Double} (hfin : d.isFinite = true) :
    Condition.literalOfWord (Layout.plain.render d) = .ok (.number d) := by
  have hnum := looksNumeric_render hfin
  have hne : ∀ w : String, Token.looksNumeric w = false → Layout.plain.render d ≠ w := by
    intro w hw heq
    rw [heq, hw] at hnum
    cases hnum
  unfold Condition.literalOfWord
  rw [if_neg (hne "true" (by decide)), if_neg (hne "false" (by decide)), if_pos hnum,
    Double.parse?_render hfin]
  dsimp only
  rw [if_pos hfin]

theorem literalOfWord_of_isBareWord {s : String} (h : Token.isBareWord s = true) :
    Condition.literalOfWord s = .ok (.text s) := by
  simp only [Token.isBareWord, Bool.and_eq_true, bne_iff_ne, Bool.not_eq_true'] at h
  unfold Condition.literalOfWord
  rw [if_neg h.1.2, if_neg h.2, if_neg (by rw [h.1.1.2]; decide)]

/-- The token of a finite literal is a value that denotes it. -/
theorem isValue_token {v : Literal} (h : v.isFinite = true) : Condition.IsValue v.token v := by
  cases v with
  | number d => exact .word (literalOfWord_render h)
  | bool b => cases b <;> exact .word rfl
  | text s =>
      unfold token
      dsimp only
      split
      · next hb => exact .word (literalOfWord_of_isBareWord hb)
      · exact .quoted s

end Literal

namespace Condition

/-- In parentheses every condition is a primary phrase; without them it must be one already. -/
theorem isUnary_enclosed {b : Bool} {ts : List Token} {c : Condition} (h : IsOr ts c)
    (hbare : b = false → IsUnary ts c) : IsUnary (enclosed b ts) c := by
  cases b with
  | true => exact .primary (.group h)
  | false => exact hbare rfl

theorem isAnd_enclosed {b : Bool} {ts : List Token} {c : Condition} (h : IsOr ts c)
    (hbare : b = false → IsAnd ts c) : IsAnd (enclosed b ts) c := by
  cases b with
  | true =>
      have := IsAnd.chain (.primary (.group h)) .nil
      rwa [List.append_nil] at this
  | false => exact hbare rfl

theorem IsUnary.isAnd {ts : List Token} {c : Condition} (h : IsUnary ts c) : IsAnd ts c := by
  have := IsAnd.chain h .nil
  rwa [List.append_nil] at this

theorem IsAnd.isOr {ts : List Token} {c : Condition} (h : IsAnd ts c) : IsOr ts c := by
  have := IsOr.chain h .nil
  rwa [List.append_nil] at this

/-- The canonical tokens of a condition derive it, as the tightest kind of phrase that it can be. -/
structure Derives (c : Condition) : Prop where
  isOr : IsOr c.tokens c
  isAnd : c.isAny = false → IsAnd c.tokens c
  isUnary : c.isChain = false → IsUnary c.tokens c

theorem Derives.of_isUnary {c : Condition} (h : IsUnary c.tokens c) : Derives c :=
  ⟨h.isAnd.isOr, fun _ => h.isAnd, fun _ => h⟩

/-- What `!` stands in front of without parentheses is no chain. -/
theorem isChain_of_negatesBare {c : Condition} (h : c.negatesBare = true) : c.isChain = false := by
  cases c <;> first | rfl | cases h

mutual

/-- **The canonical tokens of a well-formed condition derive it.** -/
theorem derives_tokens {c : Condition} (h : c.isWellFormed = true) : Derives c := by
  match c with
  | .const b => cases b <;> exact .of_isUnary (.primary (by constructor))
  | .present key => exact .of_isUnary (.primary (.present h))
  | .compare key op value =>
      rw [isWellFormed, Bool.and_eq_true] at h
      exact .of_isUnary (.primary (.compare h.1 (Literal.isValue_token h.2)))
  | .not c =>
      rw [isWellFormed] at h
      have hc := derives_tokens h
      -- without parentheses the operand has to be a unary phrase of its own
      refine .of_isUnary (.not (isUnary_enclosed hc.isOr fun hb => hc.isUnary ?_))
      exact isChain_of_negatesBare (by simpa using hb)
  -- a chain of fewer than two operands is not well formed
  | .all [] => cases h
  | .all [_] => cases h
  | .all (c :: d :: cs) =>
      simp only [isWellFormed, areWellFormed, Bool.and_eq_true] at h
      have hcs : areWellFormed (d :: cs) = true := by
        rw [areWellFormed, Bool.and_eq_true]
        exact h.2.2
      obtain ⟨ts, us, he, hu, ht⟩ := tokensAll_eq h.2.1 hcs
      have hall : IsAnd (tokens (.all (c :: d :: cs))) (.all (c :: d :: cs)) := by
        rw [tokens, he]
        exact .chain hu ht
      exact ⟨hall.isOr, fun _ => hall, nofun⟩
  | .any [] => cases h
  | .any [_] => cases h
  | .any (c :: d :: cs) =>
      simp only [isWellFormed, areWellFormed, Bool.and_eq_true] at h
      have hcs : areWellFormed (d :: cs) = true := by
        rw [areWellFormed, Bool.and_eq_true]
        exact h.2.2
      obtain ⟨ts, us, he, hu, ht⟩ := tokensAny_eq h.2.1 hcs
      have hany : IsOr (tokens (.any (c :: d :: cs))) (.any (c :: d :: cs)) := by
        rw [tokens, he]
        exact .chain hu ht
      exact ⟨hany, nofun, nofun⟩
termination_by sizeOf c

/-- The first operand of a conjunction and the others. -/
theorem tokensAll_eq {c : Condition} {cs : List Condition} (hc : c.isWellFormed = true)
    (hcs : areWellFormed cs = true) :
    ∃ ts us, tokensAll (c :: cs) = ts ++ us ∧ IsUnary ts c ∧ IsAndTail us cs := by
  have h := derives_tokens hc
  have hu := isUnary_enclosed (b := c.isChain) h.isOr h.isUnary
  match cs with
  | [] => exact ⟨_, [], by rw [tokensAll, List.append_nil], hu, .nil⟩
  | d :: ds =>
      rw [areWellFormed, Bool.and_eq_true] at hcs
      obtain ⟨ts, us, he, hd, ht⟩ := tokensAll_eq hcs.1 hcs.2
      exact ⟨_, _, by rw [tokensAll, he], hu, .cons hd ht⟩
termination_by sizeOf (c :: cs)

/-- The first operand of a disjunction and the others. -/
theorem tokensAny_eq {c : Condition} {cs : List Condition} (hc : c.isWellFormed = true)
    (hcs : areWellFormed cs = true) :
    ∃ ts us, tokensAny (c :: cs) = ts ++ us ∧ IsAnd ts c ∧ IsOrTail us cs := by
  have h := derives_tokens hc
  have ha := isAnd_enclosed (b := c.isAny) h.isOr h.isAnd
  match cs with
  | [] => exact ⟨_, [], by rw [tokensAny, List.append_nil], ha, .nil⟩
  | d :: ds =>
      rw [areWellFormed, Bool.and_eq_true] at hcs
      obtain ⟨ts, us, he, hd, ht⟩ := tokensAny_eq hcs.1 hcs.2
      exact ⟨_, _, by rw [tokensAny, he], ha, .cons hd ht⟩
termination_by sizeOf (c :: cs)

end

end Condition

/-! ## The text is written from the tokens -/

namespace Token

theorem isWordChar_of_isAlphanum {c : Char} (h : c.isAlphanum = true) : isWordChar c = true := by
  unfold isWordChar
  rw [Text.isAlphanumeric_of_isAlphanum h]
  rfl

theorem isWordChar_of_isDigit {c : Char} (h : c.isDigit = true) : isWordChar c = true := by
  refine isWordChar_of_isAlphanum ?_
  rw [Char.isAlphanum, h, Bool.or_true]

theorem isSpellable_of_isIdentifier {key : String} (h : isIdentifier key = true) :
    (Token.word key).isSpellable = true := by
  have hpunct : ∀ c : Char, c = '_' ∨ c = '.' ∨ c = '-' → isWordChar c = true := by
    rintro c (rfl | rfl | rfl) <;> decide
  unfold isIdentifier at h
  split at h
  · cases h
  · next c rest hkey =>
    simp only [Bool.and_eq_true, Bool.or_eq_true, beq_iff_eq, List.all_eq_true] at h
    -- whatever an identifier is made of belongs to words
    have hhead : isWordChar c = true := by
      rcases h.1 with hc | hc
      · exact isWordChar_of_isAlphanum (by rw [Char.isAlphanum, hc, Bool.true_or])
      · exact hpunct c (Or.inl hc)
    have htail : ∀ d ∈ rest, isWordChar d = true := by
      intro d hd
      rcases h.2 d hd with ((hc | hc) | hc) | hc
      · exact isWordChar_of_isAlphanum hc
      · exact hpunct d (Or.inl hc)
      · exact hpunct d (Or.inr (Or.inl hc))
      · exact hpunct d (Or.inr (Or.inr hc))
    rw [isSpellable_word, hkey]
    exact ⟨List.cons_ne_nil c rest, List.forall_mem_cons.2 ⟨hhead, htail⟩⟩

/-- A spelled number is a word. -/
theorem isSpellable_render {d : Double} (hfin : d.isFinite = true) :
    (Token.word (Layout.plain.render d)).isSpellable = true := by
  obtain ⟨whole, fraction, htext, hne, hw, hf, -⟩ := Layout.render_plain hfin
  rw [isSpellable_word, htext]
  constructor
  · simp [Numeral.spell, hne]
  · intro c hc
    simp only [Numeral.spell, List.mem_append] at hc
    rcases hc with (hc | hc) | hc
    · split at hc
      · rw [List.mem_singleton.1 hc]
        decide
      · cases hc
    · exact isWordChar_of_isDigit (hw c hc)
    · split at hc
      · cases hc
      · rcases List.mem_cons.1 hc with rfl | hc
        · decide
        · exact isWordChar_of_isDigit (hf c hc)

/-- Behind a phrase comes what does not make its last token longer. -/
def Soft (cs : List Char) : Prop := ∀ c ∈ cs.head?, isWordChar c = false ∧ (c == '=') = false

theorem Soft.nil : Soft [] := by
  intro c hc
  simp at hc

theorem Soft.cons {c : Char} (cs : List Char) (h : isWordChar c = false ∧ (c == '=') = false) :
    Soft (c :: cs) := by
  intro d hd
  simp only [List.head?_cons, Option.mem_def, Option.some.injEq] at hd
  rw [← hd]
  exact h

theorem Soft.clear {cs : List Char} (h : Soft cs) (t : Token) : t.Clear cs := by
  intro c hc
  obtain ⟨hword, heq⟩ := h c hc
  cases t with
  | word s => exact hword
  | not => exact heq
  | compare op => cases op <;> first | rfl | exact heq
  | _ => rfl

/-- A token in front of a written text. -/
theorem Written.cons {t : Token} {cs : List Char} {ts : List Token} (ht : t.isSpellable = true)
    (hs : t.Clear cs) (h : Written cs ts) : Written (t.spell '"' ++ cs) (t :: ts) :=
  .token (Or.inl rfl) ht hs h

theorem Written.soft {t : Token} {cs : List Char} {ts : List Token} (ht : t.isSpellable = true)
    (hs : Soft cs) (h : Written cs ts) : Written (t.spell '"' ++ cs) (t :: ts) :=
  h.cons ht (hs.clear t)

end Token

namespace Literal

open Token

theorem toList_render (v : Literal) : v.render.toList = v.token.spell '"' := by
  cases v with
  | number d => rfl
  | bool b => rfl
  | text s =>
      unfold render token
      dsimp only
      split
      · rfl
      · simp only [String.toList_append, String.toList_ofList]
        rfl

theorem isSpellable_token {v : Literal} (h : v.isFinite = true) : v.token.isSpellable = true := by
  cases v with
  | number d => exact isSpellable_render h
  | bool b => cases b <;> decide
  | text s =>
      unfold token
      dsimp only
      split
      · next hb =>
        simp only [isBareWord, Bool.and_eq_true, bne_iff_ne, List.all_eq_true] at hb
        obtain ⟨⟨⟨⟨hne, hall⟩, -⟩, -⟩, -⟩ := hb
        exact isSpellable_word.2 ⟨fun hnil => hne (String.toList_eq_nil_iff.1 hnil), hall⟩
      · rfl

end Literal

namespace Condition

open Token (Soft Written)

/-- A phrase is written from its tokens, whatever is written behind it. -/
def Writes (s : String) (ts : List Token) : Prop :=
  ∀ (rest : List Char) (us : List Token), Soft rest → Written rest us →
    Written (s.toList ++ rest) (ts ++ us)

theorem Writes.token {s : String} {t : Token} (hs : s.toList = t.spell '"')
    (ht : t.isSpellable = true) : Writes s [t] := by
  intro rest us hsoft hrest
  rw [hs]
  exact hrest.soft ht hsoft

theorem Writes.parenthesized {s : String} {ts : List Token} (h : Writes s ts) (b : Bool) :
    Writes (parenthesized b s) (enclosed b ts) := by
  cases b with
  | false => exact h
  | true =>
      intro rest us hsoft hrest
      have hclose := hrest.soft (t := .rparen) rfl hsoft
      have hbody := h _ _ (Soft.cons _ (by decide)) hclose
      have hopen := hbody.cons (t := .lparen) rfl fun _ _ => rfl
      simpa [Condition.parenthesized, enclosed, Token.spell] using hopen

/-- Two phrases with a token between them, which stands between blanks. -/
theorem Writes.chain {a b : String} {ts us : List Token} {t : Token} (ha : Writes a ts)
    (ht : t.isSpellable = true) (glue : String) (hglue : glue.toList = ' ' :: (t.spell '"' ++ [' ']))
    (hb : Writes b us) : Writes (a ++ glue ++ b) (ts ++ t :: us) := by
  intro rest vs hsoft hrest
  have hsecond := Written.blank (c := ' ') (by decide) (hb rest vs hsoft hrest)
  have hglued := Written.blank (c := ' ') (by decide)
    (hsecond.soft ht (Soft.cons _ (by decide)))
  have hfirst := ha _ _ (Soft.cons _ (by decide)) hglued
  simpa [hglue] using hfirst

/-- What `!` stands in front of does not begin with an equals sign. -/
theorem clear_not_render {c : Condition} (h : c.isWellFormed = true) (hbare : c.negatesBare = true)
    (rest : List Char) : Token.Clear .not (c.render.toList ++ rest) := by
  cases c with
  | const b => cases b <;> exact Token.Clear.cons _ (by decide)
  | present key =>
      rw [render, String.toList_append, String.toList_append]
      exact Token.Clear.cons _ (by decide)
  | compare key op value =>
      rw [isWellFormed, Bool.and_eq_true] at h
      have hk := h.1
      unfold Token.isIdentifier at hk
      split at hk
      · cases hk
      · next k ks hkey =>
        simp only [render, String.toList_append, hkey, List.cons_append]
        refine Token.Clear.cons _ ?_
        rw [Bool.and_eq_true] at hk
        -- an identifier begins with a letter or an underscore
        show (k == '=') = false
        rw [beq_eq_false_iff_ne]
        rintro rfl
        exact absurd hk.1 (by decide)
  | not c =>
      rw [render, String.toList_append]
      exact Token.Clear.cons _ (by decide)
  | all cs => cases hbare
  | any cs => cases hbare

mutual

/-- **The canonical text of a well-formed condition is written from its tokens.** -/
theorem writes_render {c : Condition} (h : c.isWellFormed = true) : Writes c.render c.tokens := by
  match c with
  | .const b => cases b <;> exact .token rfl (by decide)
  | .present key =>
      -- the four tokens are strung together from the last to the first
      intro rest us hsoft hrest
      have hclose := hrest.soft (t := .rparen) rfl hsoft
      have hkey := hclose.soft (Token.isSpellable_of_isIdentifier h) (Soft.cons _ (by decide))
      have hopen := hkey.cons (t := .lparen) rfl fun _ _ => rfl
      have hword := hopen.soft (t := .word "exists") (by decide) (Soft.cons _ (by decide))
      simpa [render, tokens, Token.spell] using hword
  | .compare key op value =>
      rw [isWellFormed, Bool.and_eq_true] at h
      have hkey : Writes key [.word key] := .token rfl (Token.isSpellable_of_isIdentifier h.1)
      have hvalue : Writes value.render [value.token] :=
        .token value.toList_render (Literal.isSpellable_token h.2)
      have := hkey.chain (t := .compare op) rfl (" " ++ op.text ++ " ") (by simp [Token.spell])
        hvalue
      simpa [render, tokens, String.append_assoc] using this
  | .not c =>
      rw [isWellFormed] at h
      intro rest us hsoft hrest
      have hbody := (writes_render h).parenthesized (!c.negatesBare) rest us hsoft hrest
      -- `!` must not become `!=` by what follows it
      have hclear : Token.Clear .not
          ((parenthesized (!c.negatesBare) c.render).toList ++ rest) := by
        cases hb : c.negatesBare with
        | true => exact clear_not_render h hb rest
        | false =>
            simp only [parenthesized, Bool.not_false, if_true, String.toList_append]
            exact Token.Clear.cons _ (by decide)
      have hnot := hbody.cons rfl hclear
      simpa [render, tokens, Token.spell] using hnot
  | .all cs =>
      rw [isWellFormed, Bool.and_eq_true] at h
      exact writes_renderAll h.2
  | .any cs =>
      rw [isWellFormed, Bool.and_eq_true] at h
      exact writes_renderAny h.2
termination_by sizeOf c

theorem writes_renderAll {cs : List Condition} (h : areWellFormed cs = true) :
    Writes (renderAll cs) (tokensAll cs) := by
  match cs with
  | [] =>
      intro rest us _ hrest
      exact hrest
  | [c] =>
      rw [areWellFormed, Bool.and_eq_true] at h
      exact (writes_render h.1).parenthesized c.isChain
  | c :: d :: ds =>
      rw [areWellFormed, Bool.and_eq_true] at h
      have hc := (writes_render h.1).parenthesized c.isChain
      exact hc.chain (t := .and) rfl " && " rfl (writes_renderAll h.2)
termination_by sizeOf cs

theorem writes_renderAny {cs : List Condition} (h : areWellFormed cs = true) :
    Writes (renderAny cs) (tokensAny cs) := by
  match cs with
  | [] =>
      intro rest us _ hrest
      exact hrest
  | [c] =>
      rw [areWellFormed, Bool.and_eq_true] at h
      exact (writes_render h.1).parenthesized c.isAny
  | c :: d :: ds =>
      rw [areWellFormed, Bool.and_eq_true] at h
      have hc := (writes_render h.1).parenthesized c.isAny
      exact hc.chain (t := .or) rfl " || " rfl (writes_renderAny h.2)
termination_by sizeOf cs

end

/-! ## Reading and writing -/

theorem tokens_ne_nil {c : Condition} (h : c.isWellFormed = true) : c.tokens ≠ [] :=
  (derives_tokens h).isOr.ne_nil

/-- Every condition that a text denotes is well formed. -/
theorem isWellFormed_of_parse {s : String} {c : Condition} (h : parse s = .ok c) :
    c.isWellFormed = true := by
  obtain ⟨ts, -, hor⟩ := parse_eq_ok_iff.1 h
  exact hor.isWellFormed

/-- The canonical text of a well-formed condition denotes it. -/
theorem parse_render {c : Condition} (h : c.isWellFormed = true) : parse c.render = .ok c := by
  have hwritten := writes_render h [] [] Soft.nil .nil
  rw [List.append_nil, List.append_nil] at hwritten
  exact parse_eq_ok_iff.2
    ⟨c.tokens, Token.ofText_of_written hwritten (tokens_ne_nil h), (derives_tokens h).isOr⟩

/-- **Parsing yields well-formed conditions only, and exactly these are read back from their
canonical texts**, be it up to the equality of numbers or as the very same tree. -/
theorem parse_render_iff_isWellFormed :
    (∀ (s : String) (c : Condition), parse s = .ok c → c.isWellFormed = true) ∧
    (∀ c : Condition, (∃ c', parse c.render = .ok c' ∧ c'.eqv c = true) ↔ c.isWellFormed = true) ∧
    (∀ c : Condition, parse c.render = .ok c ↔ c.isWellFormed = true) := by
  refine ⟨fun s c h => isWellFormed_of_parse h, fun c => ⟨?_, ?_⟩, fun c => ⟨?_, parse_render⟩⟩
  · rintro ⟨c', hread, heqv⟩
    exact isWellFormed_of_eqv heqv (isWellFormed_of_parse hread)
  · intro h
    exact ⟨c, parse_render h, eqv_self h⟩
  · exact fun h => isWellFormed_of_parse h

end Condition

end RuleEngine
