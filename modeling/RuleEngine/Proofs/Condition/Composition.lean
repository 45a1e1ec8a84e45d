import RuleEngine.Proofs.Condition.Canonical

set_option autoImplicit false

/-! # Conditions put together as texts

Where one text ends and another one follows, the tokens of both stay what they are, unless the second
text makes the last token of the first one longer (`Token.scan_append`). So operators and parentheses
may be written around the texts of conditions. A phrase in parentheses is the condition that stands in
them. Behind `||` the operands of the first disjunction go on with those of the second one, which gives
another tree than the two conditions would, but one of the same value (`Condition.IsOr.or`).

**Main result.** `Condition.parse_compose`: texts of conditions can be joined by `||`, and in
parentheses they can be joined by `&&` and negated, and what is read has the value of the
disjunction, the conjunction and the negation.
-/

namespace RuleEngine

namespace Token

/-! ## One text behind another -/

/-- What is not a backslash is the closing quote or stands for itself. -/
theorem quotedBody?_cons {quote c : Char} (hc : c ≠ '\\') (cs : List Char) :
    quotedBody? quote (c :: cs) =
      if c = quote then some ([], cs) else (quotedBody? quote cs).map fun r => (c :: r.1, r.2) := by
  rw [quotedBody?]
  · exact fun h _ => hc h
  · exact fun _ _ h => absurd h hc

/-- A quoted text ends at its closing quote, whatever follows. -/
theorem quotedBody?_append {quote : Char} {cs body rest : List Char}
    (h : quotedBody? quote cs = some (body, rest)) (more : List Char) :
    quotedBody? quote (cs ++ more) = some (body, rest ++ more) := by
  -- a backslash is the last character or has another one behind it
  have hplain : ∀ {c : Char} {ds : List Char}, (c = '\\' → ds = [] → False) →
      (∀ d es, c = '\\' → ds = d :: es → False) → c ≠ '\\' := by
    intro c ds hlast hescape hc
    cases ds with
    | nil => exact hlast hc rfl
    | cons d es => exact hescape d es hc rfl
  fun_induction quotedBody? quote cs generalizing body rest with
  | case1 => cases h
  | case2 => cases h
  | case3 c cs ih =>
      obtain ⟨⟨b, r⟩, hr, he⟩ := Option.map_eq_some_iff.1 h
      cases he
      rw [List.cons_append, List.cons_append, quotedBody?, ih hr]
      rfl
  | case4 cs hlast hescape =>
      cases h
      rw [List.cons_append, quotedBody?_cons (hplain hlast hescape), if_pos rfl]
  | case5 c cs hlast hescape hquote ih =>
      obtain ⟨⟨b, r⟩, hr, he⟩ := Option.map_eq_some_iff.1 h
      cases he
      rw [List.cons_append, quotedBody?_cons (hplain hlast hescape), if_neg hquote, ih hr]
      rfl

theorem paired_append {c : Char} {t u : Token} {cs rest : List Char}
    (h : paired c t cs = .ok (u, rest)) (more : List Char) :
    paired c t (cs ++ more) = .ok (u, rest ++ more) := by
  cases cs with
  | nil => cases h
  | cons d cs =>
      rw [paired] at h
      rw [List.cons_append, paired]
      split at h
      · next hd =>
        cases h
        rw [if_pos hd]
      · cases h

/-- An operator that only an equals sign makes longer ends where it ended before. -/
theorem maybeEquals_append {plain equals t : Token} {cs rest more : List Char}
    (h : maybeEquals plain equals cs = (t, rest)) (hplain : ∀ c, lengthens c plain = (c == '='))
    (hclear : rest = [] → t.Clear more) :
    maybeEquals plain equals (cs ++ more) = (t, rest ++ more) := by
  unfold maybeEquals at h
  split at h
  · cases h
    rfl
  · next hne =>
    cases h
    cases cs with
    | nil => exact maybeEquals_of_clear fun c hc => (hplain c).symm.trans (hclear rfl c hc)
    | cons c cs =>
        refine maybeEquals_of_clear fun d hd => ?_
        cases hd
        rw [beq_eq_false_iff_ne]
        rintro rfl
        exact hne cs rfl

/-- A word ends where it ended before, unless it reached the end and is made longer. -/
theorem first_word_append {c : Char} (hc : isWordChar c = true) {cs more : List Char}
    (hclear : cs.dropWhile isWordChar = [] →
      (Token.word (String.ofList (c :: cs.takeWhile isWordChar))).Clear more) :
    first c (cs ++ more) = .ok (.word (String.ofList (c :: cs.takeWhile isWordChar)),
      cs.dropWhile isWordChar ++ more) := by
  have hsplit : cs ++ more = cs.takeWhile isWordChar ++ (cs.dropWhile isWordChar ++ more) := by
    rw [← List.append_assoc, List.takeWhile_append_dropWhile]
  rw [hsplit]
  refine first_word hc (List.all_eq_true.1 List.all_takeWhile) ?_
  cases hrest : cs.dropWhile isWordChar with
  | nil => exact hclear hrest
  | cons d ds =>
      have hd := List.head?_dropWhile_not isWordChar cs
      rw [hrest] at hd
      exact Clear.cons _ hd

/-- **The first token of a text** stays what it is with more text behind, unless it reaches the end and
is made longer. -/
theorem first_append {c : Char} {cs rest more : List Char} {t : Token}
    (h : first c cs = .ok (t, rest)) (hclear : rest = [] → t.Clear more) :
    first c (cs ++ more) = .ok (t, rest ++ more) := by
  unfold first at h
  split at h
  · cases h
    rfl
  · cases h
    rfl
  · exact paired_append h more
  · exact paired_append h more
  · exact paired_append h more
  · exact congrArg Except.ok (maybeEquals_append (Except.ok.inj h) (fun _ => rfl) hclear)
  · exact congrArg Except.ok (maybeEquals_append (Except.ok.inj h) (fun _ => rfl) hclear)
  · exact congrArg Except.ok (maybeEquals_append (Except.ok.inj h) (fun _ => rfl) hclear)
  · split at h
    · next hquote =>
      split at h
      · next body rest' hbody =>
        cases h
        have hmore := quotedBody?_append hbody more
        rcases hquote with rfl | rfl <;> simp [first, hmore]
      · cases h
    · split at h
      · next hword =>
        cases h
        exact first_word_append hword hclear
      · cases h

/-- **The tokens of two texts**, one behind the other, are those of the first and then those of the
second, unless the second text makes the last token of the first one longer. -/
theorem scan_append {cs more : List Char} {ts us : List Token} (h : scan cs = .ok ts)
    (hclear : ∀ t ∈ ts.getLast?, t.Clear more) (hmore : scan more = .ok us) :
    scan (cs ++ more) = .ok (ts ++ us) := by
  fun_induction scan cs generalizing ts with
  | case1 =>
      cases h
      exact hmore
  | case2 c cs hblank ih =>
      rw [List.cons_append, scan, if_pos hblank]
      exact ih h hclear
  | case3 => cases h
  | case4 => cases h
  | case5 c cs hblank t rest hfirst ts hrest ih =>
      cases h
      rw [List.cons_append]
      refine scan_cons (by simpa using hblank) (first_append hfirst ?_) (ih hrest ?_)
      · -- a token that reaches the end is the last one
        rintro rfl
        rw [scan] at hrest
        cases hrest
        exact hclear t rfl
      · intro u hu
        refine hclear u ?_
        rw [List.getLast?_cons, hu]
        rfl

/-- A text is split into these tokens. -/
def Splits (s : String) (ts : List Token) : Prop := scan s.toList = .ok ts

instance (s : String) (ts : List Token) : Decidable (Splits s ts) :=
  inferInstanceAs (Decidable (scan s.toList = .ok ts))

/-- A text is accepted if it is split into at least one token. -/
theorem ofText_eq_ok_iff {s : String} {ts : List Token} :
    ofText s = .ok ts ↔ Splits s ts ∧ ts ≠ [] := by
  unfold ofText Splits
  cases scan s.toList with
  | error e => simp
  | ok us => cases us <;> cases ts <;> simp

/-- A text may begin with what makes no token longer. -/
theorem Splits.soft {a b : String} {ts us : List Token} (ha : Splits a ts) (hb : Splits b us)
    (hsoft : Soft b.toList) : Splits (a ++ b) (ts ++ us) := by
  rw [Splits, String.toList_append]
  exact scan_append ha (fun t _ => hsoft.clear t) hb

/-- A text may end in a token that is never longer. -/
theorem Splits.closed {a b : String} {ts us : List Token} {t : Token} (ha : Splits a ts)
    (hlast : ts.getLast? = some t) (ht : ∀ c, lengthens c t = false) (hb : Splits b us) :
    Splits (a ++ b) (ts ++ us) := by
  rw [Splits, String.toList_append]
  refine scan_append ha (fun u hu c _ => ?_) hb
  rw [hlast] at hu
  cases hu
  exact ht c

end Token

namespace Condition

/-! ## Values of chains -/

theorem evalAny_append (facts : FactSource) (cs ds : List Condition) :
    evalAny facts (cs ++ ds) = (evalAny facts cs || evalAny facts ds) := by
  induction cs with
  | nil => rfl
  | cons c cs ih => rw [List.cons_append, evalAny, evalAny, ih, Bool.or_assoc]

/-- A disjunction of one operand has the value of that operand. -/
theorem eval_anyOf (facts : FactSource) (c : Condition) (cs : List Condition) :
    (anyOf c cs).eval facts = (c.eval facts || evalAny facts cs) := by
  cases cs with
  | nil => rw [anyOf, evalAny, Bool.or_false]
  | cons d ds =>
      show (Condition.any (c :: d :: ds)).eval facts = _
      rw [eval, evalAny]

/-! ## Phrases put together -/

theorem IsOrTail.append {ts us : List Token} {cs ds : List Condition} (hc : IsOrTail ts cs)
    (hd : IsOrTail us ds) : IsOrTail (ts ++ us) (cs ++ ds) := by
  induction cs generalizing ts with
  | nil =>
      cases hc
      exact hd
  | cons c cs ih =>
      cases hc with
      | cons hfirst htail =>
          rw [List.cons_append, List.append_assoc, List.cons_append]
          exact .cons hfirst (ih htail)

/-- Two disjunctions with `||` between them are one, which holds where one of them holds. -/
theorem IsOr.or {ts us : List Token} {c d : Condition} (hc : IsOr ts c) (hd : IsOr us d) :
    ∃ e, IsOr (ts ++ .or :: us) e ∧ ∀ facts, e.eval facts = (c.eval facts || d.eval facts) := by
  cases hc with
  | @chain ts ts' c cs hfirst htail =>
      cases hd with
      | @chain us us' d ds hfirst' htail' =>
          refine ⟨anyOf c (cs ++ d :: ds), ?_, fun facts => ?_⟩
          · rw [List.append_assoc]
            exact .chain hfirst (htail.append (.cons hfirst' htail'))
          · rw [eval_anyOf, eval_anyOf, eval_anyOf, evalAny_append, evalAny, Bool.or_assoc]

/-- Two conditions in parentheses with `&&` between them are their conjunction. -/
theorem IsOr.and {ts us : List Token} {c d : Condition} (hc : IsOr ts c) (hd : IsOr us d) :
    IsOr ([.lparen] ++ ts ++ [.rparen, .and, .lparen] ++ us ++ [.rparen]) (.all [c, d]) := by
  have h := (IsAnd.chain (.primary (.group hc)) (.cons (.primary (.group hd)) .nil)).isOr
  simpa [allOf] using h

/-- A condition in parentheses with `!` in front is its negation. -/
theorem IsOr.not {ts : List Token} {c : Condition} (hc : IsOr ts c) :
    IsOr ([.not, .lparen] ++ ts ++ [.rparen]) (.not c) := by
  have h := (IsUnary.not (.primary (.group hc))).isAnd.isOr
  simpa using h

/-! ## Texts put together -/

open Token (Splits Soft)

theorem parse_eq_ok_iff_splits {s : String} {c : Condition} :
    parse s = .ok c ↔ ∃ ts, Splits s ts ∧ IsOr ts c := by
  rw [parse_eq_ok_iff]
  refine exists_congr fun ts => and_congr_left fun hor => ?_
  rw [Token.ofText_eq_ok_iff, and_iff_left hor.ne_nil]

section Texts

variable {a b : String} {c d : Condition}

/-- Texts with `||` between them are read as a disjunction. -/
theorem parse_or (ha : parse a = .ok c) (hb : parse b = .ok d) :
    ∃ e, parse (a ++ " || " ++ b) = .ok e ∧
      ∀ facts, e.eval facts = (c.eval facts || d.eval facts) := by
  obtain ⟨ts, hts, hc⟩ := parse_eq_ok_iff_splits.1 ha
  obtain ⟨us, hus, hd⟩ := parse_eq_ok_iff_splits.1 hb
  obtain ⟨e, he, heval⟩ := hc.or hd
  have hop : Splits " || " [.or] := by decide +kernel
  have hfront := hts.soft hop (Soft.cons _ (by decide))
  have hsplits := hfront.closed List.getLast?_concat (fun _ => rfl) hus
  rw [List.append_assoc, List.singleton_append] at hsplits
  exact ⟨e, parse_eq_ok_iff_splits.2 ⟨_, hsplits, he⟩, heval⟩

/-- Texts in parentheses with `&&` between them are read as a conjunction. -/
theorem parse_and (ha : parse a = .ok c) (hb : parse b = .ok d) :
    parse ("(" ++ a ++ ") && (" ++ b ++ ")") = .ok (.all [c, d]) := by
  obtain ⟨ts, hts, hc⟩ := parse_eq_ok_iff_splits.1 ha
  obtain ⟨us, hus, hd⟩ := parse_eq_ok_iff_splits.1 hb
  have hopen : Splits "(" [.lparen] := by decide +kernel
  have hop : Splits ") && (" [.rparen, .and, .lparen] := by decide +kernel
  have hclose : Splits ")" [.rparen] := by decide +kernel
  have hfirst := (hopen.closed rfl (fun _ => rfl) hts).soft hop (Soft.cons _ (by decide))
  have hboth := hfirst.closed (by rw [List.getLast?_append]; rfl) (fun _ => rfl) hus
  exact parse_eq_ok_iff_splits.2 ⟨_, hboth.soft hclose (Soft.cons _ (by decide)), hc.and hd⟩

/-- A text in parentheses with `!` in front is read as a negation. -/
theorem parse_not (ha : parse a = .ok c) : parse ("!(" ++ a ++ ")") = .ok (.not c) := by
  obtain ⟨ts, hts, hc⟩ := parse_eq_ok_iff_splits.1 ha
  have hopen : Splits "!(" [.not, .lparen] := by decide +kernel
  have hclose : Splits ")" [.rparen] := by decide +kernel
  have hfront := hopen.closed rfl (fun _ => rfl) hts
  exact parse_eq_ok_iff_splits.2 ⟨_, hfront.soft hclose (Soft.cons _ (by decide)), hc.not⟩

/-- **Texts of conditions can be put together**: by `||`, in parentheses by `&&`, and in parentheses
behind `!`. What is read has the value of the disjunction, the conjunction and the negation. -/
theorem parse_compose (ha : parse a = .ok c) (hb : parse b = .ok d) :
    (∃ e, parse (a ++ " || " ++ b) = .ok e ∧
      ∀ facts, e.eval facts = (c.eval facts || d.eval facts)) ∧
    (∃ e, parse ("(" ++ a ++ ") && (" ++ b ++ ")") = .ok e ∧
      ∀ facts, e.eval facts = (c.eval facts && d.eval facts)) ∧
    (∃ e, parse ("!(" ++ a ++ ")") = .ok e ∧ ∀ facts, e.eval facts = !c.eval facts) := by
  refine ⟨parse_or ha hb, ⟨_, parse_and ha hb, fun facts => ?_⟩, _, parse_not ha, fun facts => ?_⟩
  · rw [eval, evalAll, evalAll, evalAll, Bool.and_true]
  · rw [eval]

end Texts

/-- Two disjunctions: one is written without blanks and ends in a word, the other one begins with `!`. -/
theorem parse_compose_chains : ∃ c d : Condition,
    parse "exists(target)||facing==east" = .ok c ∧ parse "!mode == 'idle' || true" = .ok d ∧
    (∃ e, parse ("exists(target)||facing==east" ++ " || " ++ "!mode == 'idle' || true") = .ok e ∧
      ∀ facts, e.eval facts = (c.eval facts || d.eval facts)) ∧
    (∃ e, parse ("(" ++ "exists(target)||facing==east" ++ ") && (" ++
        "!mode == 'idle' || true" ++ ")") = .ok e ∧
      ∀ facts, e.eval facts = (c.eval facts && d.eval facts)) ∧
    (∃ e, parse ("!(" ++ "exists(target)||facing==east" ++ ")") = .ok e ∧
      ∀ facts, e.eval facts = !c.eval facts) := by
  have hpresent : IsAnd [.word "exists", .lparen, .word "target", .rparen] (.present "target") :=
    (IsUnary.primary (.present (by decide))).isAnd
  have heast : IsAnd [.word "facing", .compare .eq, .word "east"]
      (.compare "facing" .eq (.text "east")) :=
    (IsUnary.primary (.compare (by decide) (.word (Literal.literalOfWord_of_isBareWord rfl)))).isAnd
  have hidle : IsAnd [.not, .word "mode", .compare .eq, .quoted "idle"]
      (.not (.compare "mode" .eq (.text "idle"))) :=
    (IsUnary.not (.primary (.compare (by decide) (.quoted _)))).isAnd
  have hyes : IsAnd [.word "true"] (.const true) := (IsUnary.primary .yes).isAnd
  have ha := parse_eq_ok_iff_splits (s := "exists(target)||facing==east").2
    ⟨_, by decide +kernel, .chain hpresent (.cons heast .nil)⟩
  have hb := parse_eq_ok_iff_splits (s := "!mode == 'idle' || true").2
    ⟨_, by decide +kernel, .chain hidle (.cons hyes .nil)⟩
  exact ⟨_, _, ha, hb, parse_compose ha hb⟩

end Condition

end RuleEngine
