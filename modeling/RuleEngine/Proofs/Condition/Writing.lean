import RuleEngine.Condition.Token
import RuleEngine.Proofs.Text.Class

set_option autoImplicit false

/-! # How tokens are written

A text is written from tokens when it strings their spellings together, with blanks wherever one
likes, and nothing behind a token makes it longer: no character of a word follows a word, and no
equals sign follows an operator that one would complete (`Token.Written`). Such a text is split
into exactly these tokens (`Token.scan_of_written`).
-/

namespace RuleEngine

namespace Token

theorem isBlank_of_isWordChar {c : Char} (h : isWordChar c = true) : Text.isBlank c = false := by
  cases hb : Text.isBlank c with
  | false => rfl
  | true =>
    have ha := Text.isAlphanumeric_of_isBlank hb
    simp only [isWordChar, ha, Bool.false_or, Bool.or_eq_true, beq_iff_eq] at h
    rcases h with (((rfl | rfl) | rfl) | rfl) | rfl <;> exact absurd hb (by decide)

/-! ## Spellings -/

def escape (quote c : Char) : List Char := if c = quote ∨ c = '\\' then ['\\', c] else [c]

/-- How a token is written; a quoted text in the given quotes. -/
def spell (quote : Char) : Token → List Char
  | .lparen => ['(']
  | .rparen => [')']
  | .and => ['&', '&']
  | .or => ['|', '|']
  | .not => ['!']
  | .compare op => op.text.toList
  | .word s => s.toList
  | .quoted s => quote :: (s.toList.flatMap (escape quote) ++ [quote])

/-- A token that can be written: words have characters, all of them characters of words. -/
def isSpellable : Token → Bool
  | .word s => !s.toList.isEmpty && s.toList.all isWordChar
  | _ => true

theorem isSpellable_word {s : String} :
    (Token.word s).isSpellable = true ↔ s.toList ≠ [] ∧ ∀ c ∈ s.toList, isWordChar c = true := by
  simp [isSpellable]

/-- The character would make a token longer if it followed right behind. -/
def lengthens (c : Char) : Token → Bool
  | .word _ => isWordChar c
  | .not => c == '='
  | .compare .gt => c == '='
  | .compare .lt => c == '='
  | _ => false

/-- What follows does not make a token longer. -/
def Clear (t : Token) (cs : List Char) : Prop := ∀ c ∈ cs.head?, lengthens c t = false

theorem Clear.cons {t : Token} {c : Char} (cs : List Char) (h : lengthens c t = false) :
    t.Clear (c :: cs) := by
  intro d hd
  simp only [List.head?_cons, Option.mem_def, Option.some.injEq] at hd
  rw [← hd, h]

/-! ## Reading a spelling -/

/-- A quoted text is read up to its closing quote. -/
theorem quotedBody?_escape {quote : Char} (hq : quote ≠ '\\') (body cs : List Char) :
    quotedBody? quote (body.flatMap (escape quote) ++ quote :: cs) = some (body, cs) := by
  induction body with
  | nil =>
      show quotedBody? quote (quote :: cs) = some ([], cs)
      rw [quotedBody?, if_pos rfl]
      · exact fun h _ => hq h
      · exact fun _ _ h => absurd h hq
  | cons c body ih =>
      rw [List.flatMap_cons, List.append_assoc, escape]
      split
      -- an escaped character is taken as it is, any other one is neither a quote nor a backslash
      · show quotedBody? quote ('\\' :: c :: (body.flatMap (escape quote) ++ quote :: cs)) = _
        rw [quotedBody?, ih, Option.map_some]
      · next hc =>
        rw [not_or] at hc
        show quotedBody? quote (c :: (body.flatMap (escape quote) ++ quote :: cs)) = _
        rw [quotedBody?, if_neg hc.1, ih, Option.map_some]
        · exact fun h _ => hc.2 h
        · exact fun _ _ h => absurd h hc.2

theorem first_word {c : Char} {w cs : List Char} (hc : isWordChar c = true)
    (hw : ∀ d ∈ w, isWordChar d = true) (h : (Token.word (String.ofList (c :: w))).Clear cs) :
    first c (w ++ cs) = .ok (.word (String.ofList (c :: w)), cs) := by
  unfold first
  split
  -- a word begins with none of the characters that `first` looks for before it takes a word
  all_goals first
    | exact absurd hc (by decide)
    | skip
  rw [if_neg, if_pos hc, Text.takeWhile_run hw h, Text.dropWhile_run hw h]
  rintro (rfl | rfl) <;> exact absurd hc (by decide)

theorem first_quoted {quote : Char} (hq : quote = '"' ∨ quote = '\x27') (s : String)
    (cs : List Char) :
    first quote (s.toList.flatMap (escape quote) ++ quote :: cs) = .ok (.quoted s, cs) := by
  have hb : quote ≠ '\\' := by rcases hq with rfl | rfl <;> decide
  have hbody := quotedBody?_escape hb s.toList cs
  unfold first
  split
  all_goals first
    | exact absurd hq (by decide)
    | skip
  rw [if_pos hq, hbody]
  show Except.ok (Token.quoted (String.ofList s.toList), cs) = .ok (.quoted s, cs)
  rw [String.ofList_toList]

/-- An operator that an equals sign would complete stands alone where none follows. -/
theorem maybeEquals_of_clear {plain equals : Token} {cs : List Char}
    (h : ∀ c ∈ cs.head?, (c == '=') = false) : maybeEquals plain equals cs = (plain, cs) := by
  unfold maybeEquals
  split
  · have := h '=' (by simp)
    simp at this
  · rfl

/-- A comparison operator is read off the front of a text. -/
theorem first_compare {op : Comparison} {cs : List Char} (h : (Token.compare op).Clear cs) :
    ∃ c rest, op.text.toList ++ cs = c :: rest ∧ Text.isBlank c = false ∧
      first c rest = .ok (.compare op, cs) := by
  cases op with
  | eq => exact ⟨'=', '=' :: cs, rfl, by decide, by simp [first, paired]⟩
  | ne => exact ⟨'!', '=' :: cs, rfl, by decide, by simp [first, maybeEquals]⟩
  | gt => exact ⟨'>', cs, rfl, by decide, by simp [first, maybeEquals_of_clear h]⟩
  | ge => exact ⟨'>', '=' :: cs, rfl, by decide, by simp [first, maybeEquals]⟩
  | lt => exact ⟨'<', cs, rfl, by decide, by simp [first, maybeEquals_of_clear h]⟩
  | le => exact ⟨'<', '=' :: cs, rfl, by decide, by simp [first, maybeEquals]⟩

/-- **A token is read off the front of its spelling.** -/
theorem first_spell {quote : Char} (hq : quote = '"' ∨ quote = '\x27') {t : Token}
    (ht : t.isSpellable = true) {cs : List Char} (h : t.Clear cs) :
    ∃ c rest, t.spell quote ++ cs = c :: rest ∧ Text.isBlank c = false ∧
      first c rest = .ok (t, cs) := by
  cases t with
  | lparen => exact ⟨'(', cs, rfl, by decide, by simp [first]⟩
  | rparen => exact ⟨')', cs, rfl, by decide, by simp [first]⟩
  | and => exact ⟨'&', '&' :: cs, rfl, by decide, by simp [first, paired]⟩
  | or => exact ⟨'|', '|' :: cs, rfl, by decide, by simp [first, paired]⟩
  | not => exact ⟨'!', cs, rfl, by decide, by simp [first, maybeEquals_of_clear h]⟩
  | compare op => exact first_compare h
  | word s =>
      obtain ⟨hne, hall⟩ := isSpellable_word.1 ht
      obtain ⟨c, w, hs⟩ := List.exists_cons_of_ne_nil hne
      have he : s = String.ofList (c :: w) := by rw [← hs, String.ofList_toList]
      rw [hs, List.forall_mem_cons] at hall
      subst he
      -- the word ends where the text goes on with what does not make it longer
      refine ⟨c, w ++ cs, ?_, isBlank_of_isWordChar hall.1, first_word hall.1 hall.2 h⟩
      simp [spell]
  | quoted s =>
      refine ⟨quote, s.toList.flatMap (escape quote) ++ quote :: cs, ?_, ?_, first_quoted hq s cs⟩
      · simp [spell]
      · rcases hq with rfl | rfl <;> decide

/-! ## Written texts -/

/-- The text strings the spellings of the tokens together, with blanks between them. -/
inductive Written : List Char → List Token → Prop
  | nil : Written [] []
  | blank {c : Char} {cs : List Char} {ts : List Token} :
      Text.isBlank c = true → Written cs ts → Written (c :: cs) ts
  | token {quote : Char} {t : Token} {cs : List Char} {ts : List Token} :
      quote = '"' ∨ quote = '\x27' → t.isSpellable = true → t.Clear cs → Written cs ts →
      Written (t.spell quote ++ cs) (t :: ts)

/-- Splitting a text whose first token is known. -/
theorem scan_cons {c : Char} {cs rest : List Char} {t : Token} {ts : List Token}
    (hb : Text.isBlank c = false) (hf : first c cs = .ok (t, rest)) (hr : scan rest = .ok ts) :
    scan (c :: cs) = .ok (t :: ts) := by
  rw [scan, if_neg (by simp [hb])]
  split
  · next h =>
    rw [hf] at h
    cases h
  · next t' rest' h =>
    rw [hf] at h
    cases h
    rw [hr]

/-- **A written text is split into the tokens it was written from.** -/
theorem scan_of_written {cs : List Char} {ts : List Token} (h : Written cs ts) :
    scan cs = .ok ts := by
  induction h with
  | nil => rw [scan]
  | blank hb _ ih => rw [scan, if_pos hb, ih]
  | token hq ht hclear _ ih =>
      obtain ⟨c, rest, hs, hb, hf⟩ := first_spell hq ht hclear
      rw [hs]
      exact scan_cons hb hf ih

/-- A text that is written from at least one token denotes them. -/
theorem ofText_of_written {s : String} {ts : List Token} (h : Written s.toList ts)
    (hne : ts ≠ []) : ofText s = .ok ts := by
  rw [ofText, scan_of_written h]
  cases ts with
  | nil => exact absurd rfl hne
  | cons => rfl

end Token

end RuleEngine
