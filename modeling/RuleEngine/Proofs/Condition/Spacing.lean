import RuleEngine.Proofs.Condition.Composition

set_option autoImplicit false

/-! # Tokens between blanks

Blanks belong to no token, and behind every token they end it. So any row of tokens can be written
down: each one in its spelling, a quoted text in quotes of either kind, with any blanks in front of
the row, behind it and, one at least, between two tokens (`Token.Row`). What is read is the row.

**Main result.** `Token.ofText_inverse`: a text that was written in this way denotes the tokens that
it was written from, and two accepted texts with a blank between them denote the tokens of both.
-/

namespace RuleEngine

namespace Token

/-! ## Rows of tokens -/

/-- The quotes that a text can stand in. -/
inductive Quotes
  | single
  | double
deriving DecidableEq

/-- The character that opens and closes the quotes. -/
def Quotes.char : Quotes → Char
  | .single => '\x27'
  | .double => '"'

theorem Quotes.char_cases (q : Quotes) : q.char = '"' ∨ q.char = '\x27' := by
  cases q with
  | single => exact .inr rfl
  | double => exact .inl rfl

/-- Blank characters, of any kind and number. -/
structure Blanks where
  chars : List Char
  areBlank : chars.all Text.isBlank = true

theorem Blanks.isBlank (b : Blanks) : ∀ c ∈ b.chars, Text.isBlank c = true :=
  List.all_eq_true.1 b.areBlank

/-- Blanks that separate two tokens. -/
structure Gap extends Blanks where
  nonempty : chars ≠ []

/-- A token with the quotes that it is written in if it is a quoted text; a word has characters, all of
them characters of words. -/
structure Spelled where
  token : Token
  quotes : Quotes
  isSpellable : token.isSpellable = true

def Spelled.chars (t : Spelled) : List Char := t.token.spell t.quotes.char

/-- A row of at least one token, with all that stands around the tokens. -/
structure Row where
  front : Blanks
  head : Spelled
  more : List (Gap × Spelled)
  back : Blanks

/-- What is written behind a token: the other tokens, each with the blanks in front of it, and the last
blanks. -/
def behind (more : List (Gap × Spelled)) (back : Blanks) : List Char :=
  more.flatMap (fun m => m.1.chars ++ m.2.chars) ++ back.chars

namespace Row

def tokens (r : Row) : List Token := r.head.token :: r.more.map fun m => m.2.token

def text (r : Row) : String := String.ofList (r.front.chars ++ r.head.chars ++ behind r.more r.back)

end Row

/-! ## Reading a row -/

/-- A blank makes no token longer. -/
theorem soft_of_isBlank {c : Char} (h : Text.isBlank c = true) (cs : List Char) : Soft (c :: cs) := by
  refine Soft.cons cs ⟨?_, ?_⟩
  · cases hword : isWordChar c with
    | false => rfl
    | true =>
        rw [isBlank_of_isWordChar hword] at h
        cases h
  · rw [beq_eq_false_iff_ne]
    rintro rfl
    exact absurd h (by decide)

/-- Neither do blanks with nothing behind them. -/
theorem Blanks.soft (b : Blanks) : Soft b.chars := by
  cases hchars : b.chars with
  | nil => exact .nil
  | cons c cs => exact soft_of_isBlank (b.isBlank c (by simp [hchars])) cs

theorem Gap.soft (g : Gap) (cs : List Char) : Soft (g.chars ++ cs) := by
  obtain ⟨c, blanks, hchars⟩ := List.exists_cons_of_ne_nil g.nonempty
  rw [hchars, List.cons_append]
  exact soft_of_isBlank (g.isBlank c (by simp [hchars])) _

/-- Blanks may stand in front of a written text. -/
theorem Written.blanks {blanks cs : List Char} {ts : List Token} (h : Written cs ts)
    (hblank : ∀ c ∈ blanks, Text.isBlank c = true) :
    Written (blanks ++ cs) ts := by
  induction blanks with
  | nil => exact h
  | cons c blanks ih =>
      rw [List.forall_mem_cons] at hblank
      exact .blank hblank.1 (ih hblank.2)

/-- A token may stand in front of a written text that does not make it longer. -/
theorem Written.spelled {cs : List Char} {ts : List Token} (h : Written cs ts) (t : Spelled)
    (hsoft : Soft cs) : Written (t.chars ++ cs) (t.token :: ts) :=
  .token t.quotes.char_cases t.isSpellable (hsoft.clear t.token) h

/-- What stands behind a token of a row does not make it longer. -/
theorem soft_behind (more : List (Gap × Spelled)) (back : Blanks) : Soft (behind more back) := by
  cases more with
  | nil => exact back.soft
  | cons m more =>
      unfold behind
      rw [List.flatMap_cons, List.append_assoc, List.append_assoc]
      exact m.1.soft _

/-- It is written from the tokens that stand there. -/
theorem written_behind (more : List (Gap × Spelled)) (back : Blanks) :
    Written (behind more back) (more.map fun m => m.2.token) := by
  induction more with
  | nil =>
      have h := Written.nil.blanks back.isBlank
      rwa [List.append_nil] at h
  | cons m more ih =>
      have h := (ih.spelled m.2 (soft_behind more back)).blanks m.1.isBlank
      unfold behind at h ⊢
      rwa [List.flatMap_cons, List.append_assoc, List.append_assoc, List.map_cons]

/-- **A row is written from its tokens.** -/
theorem Row.written (r : Row) : Written r.text.toList r.tokens := by
  have hhead := (written_behind r.more r.back).spelled r.head (soft_behind r.more r.back)
  rw [text, String.toList_ofList, List.append_assoc]
  exact hhead.blanks r.front.isBlank

/-- Every token that can be spelled can be written in a row, and with it any others. -/
theorem Row.exists_iff {ts : List Token} :
    (∃ r : Row, r.tokens = ts) ↔ ts ≠ [] ∧ ∀ t ∈ ts, t.isSpellable = true := by
  constructor
  · rintro ⟨r, rfl⟩
    refine ⟨List.cons_ne_nil _ _, List.forall_mem_cons.2 ⟨r.head.isSpellable, ?_⟩⟩
    rw [List.forall_mem_map]
    exact fun m _ => m.2.isSpellable
  · rintro ⟨hne, hall⟩
    obtain ⟨t, ts, rfl⟩ := List.exists_cons_of_ne_nil hne
    rw [List.forall_mem_cons] at hall
    let gap : Gap := ⟨⟨[' '], by decide⟩, by decide⟩
    let more := ts.attach.map fun u => (gap, (⟨u.1, .double, hall.2 u.1 u.2⟩ : Spelled))
    refine ⟨⟨⟨[], rfl⟩, ⟨t, .double, hall.1⟩, more, ⟨[], rfl⟩⟩, ?_⟩
    simp [tokens, more]

/-! ## Two texts -/

/-- A blank between two texts keeps their tokens apart. -/
theorem Splits.apart {a b : String} {ts us : List Token} (ha : Splits a ts) (hb : Splits b us) :
    Splits (a ++ " " ++ b) (ts ++ us) := by
  have hchars : (" " ++ b).toList = ' ' :: b.toList := by simp
  have hblank : Splits (" " ++ b) us := by
    rw [Splits, hchars, scan, if_pos (by decide)]
    exact hb
  rw [String.append_assoc]
  refine ha.soft hblank ?_
  rw [hchars]
  exact soft_of_isBlank (by decide) _

/-- **Reading undoes writing.** All rows of tokens that can be spelled can be written, and a row is read
from every text that it is written as. The tokens of two accepted texts, one behind the other, are read
from the texts with a blank between them. -/
theorem ofText_inverse :
    (∀ ts : List Token, (∃ r : Row, r.tokens = ts) ↔ ts ≠ [] ∧ ∀ t ∈ ts, t.isSpellable = true) ∧
    (∀ r : Row, ofText r.text = .ok r.tokens) ∧
    ∀ (a b : String) (ts us : List Token), ofText a = .ok ts → ofText b = .ok us →
      ofText (a ++ " " ++ b) = .ok (ts ++ us) := by
  refine ⟨fun ts => Row.exists_iff, fun r => ?_, fun a b ts us ha hb => ?_⟩
  · exact ofText_of_written r.written (List.cons_ne_nil _ _)
  · rw [ofText_eq_ok_iff] at ha hb ⊢
    exact ⟨ha.1.apart hb.1, List.append_ne_nil_of_left_ne_nil ha.2 us⟩

/-- A row with several kinds of blanks and with both kinds of quotes in a quoted text; and two texts
that could not stand side by side without the blank between them. -/
theorem ofText_inverse_of_quoted : ∃ (r : Row) (ts us : List Token),
    r.text = "\t! note\x0a >=\u3000'it\\'s \\\\ \"x\"'\u00a0" ∧
    r.tokens = [.not, .word "note", .compare .ge, .quoted "it's \\ \"x\""] ∧
    ofText r.text = .ok r.tokens ∧
    ofText "a >" = .ok ts ∧ ofText "== b" = .ok us ∧
    ofText ("a >" ++ " " ++ "== b") = .ok (ts ++ us) := by
  let r : Row :=
    { front := ⟨['\t'], by decide⟩
      head := ⟨.not, .double, rfl⟩
      more :=
        [(⟨⟨[' '], by decide⟩, by decide⟩, ⟨.word "note", .double, by decide⟩),
          (⟨⟨['\n', ' '], by decide⟩, by decide⟩, ⟨.compare .ge, .double, rfl⟩),
          (⟨⟨['\u3000'], by decide⟩, by decide⟩, ⟨.quoted "it's \\ \"x\"", .single, rfl⟩)]
      back := ⟨['\u00a0'], by decide⟩ }
  have ha : ofText "a >" = .ok [.word "a", .compare .gt] := by decide +kernel
  have hb : ofText "== b" = .ok [.compare .eq, .word "b"] := by decide +kernel
  obtain ⟨-, hrow, happend⟩ :
      (∀ ts : List Token, (∃ r : Row, r.tokens = ts) ↔ ts ≠ [] ∧ ∀ t ∈ ts, t.isSpellable = true) ∧
      (∀ r : Row, ofText r.text = .ok r.tokens) ∧
      ∀ (a b : String) (ts us : List Token), ofText a = .ok ts → ofText b = .ok us →
        ofText (a ++ " " ++ b) = .ok (ts ++ us) := ofText_inverse
  exact ⟨r, _, _, by decide, rfl, hrow r, ha, hb, happend _ _ _ _ ha hb⟩

end Token

end RuleEngine
