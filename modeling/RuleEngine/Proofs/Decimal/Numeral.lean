import RuleEngine.Decimal.Layout
import RuleEngine.Decimal.Numeral
import RuleEngine.Proofs.Decimal.Shortest
import RuleEngine.Proofs.Text.Class

set_option autoImplicit false

/-! # Written numbers read back

The positional layout writes a sign, digits and perhaps a point with more digits behind it
(`Numeral.spell`). Such a text denotes the decimal with these digits, and the digits that are
written for a double have the value of its shortest decimal; so the text denotes the double
(`Double.parse?_render`).
-/

namespace RuleEngine

namespace Numeral

/-! ## Digits -/

theorem digitsValue_eq (cs : List Char) : digitsValue cs = Nat.ofDigitChars 10 cs 0 := by
  rw [Nat.ofDigitChars_eq_foldl, digitsValue]
  congr 1
  funext n c
  rw [Nat.mul_comm]
  rfl

theorem digitsValue_toString (n : Nat) : digitsValue (toString n).toList = n := by
  rw [digitsValue_eq, Nat.toString_eq_repr, Nat.toList_repr, Nat.ofDigitChars_ten_toDigits]

theorem isDigit_of_mem_toString {n : Nat} {c : Char} (h : c ∈ (toString n).toList) :
    c.isDigit = true := by
  rw [Nat.toString_eq_repr, Nat.toList_repr] at h
  exact Nat.isDigit_of_mem_toDigits (by decide) (by decide) h

theorem toString_toList_ne_nil (n : Nat) : (toString n).toList ≠ [] := by
  rw [Nat.toString_eq_repr, Nat.toList_repr]
  exact Nat.toDigits_ne_nil

theorem digitsValue_append_zeros (cs : List Char) (n : Nat) :
    digitsValue (cs ++ List.replicate n '0') = digitsValue cs * 10 ^ n := by
  rw [digitsValue_eq, digitsValue_eq, Nat.ofDigitChars_append, Nat.ofDigitChars_replicate_zero,
    Nat.mul_comm]

theorem digitsValue_zeros_append (cs : List Char) (n : Nat) :
    digitsValue (List.replicate n '0' ++ cs) = digitsValue cs := by
  rw [digitsValue_eq, digitsValue_eq, Nat.ofDigitChars_append, Nat.ofDigitChars_replicate_zero,
    Nat.mul_zero]

/-! ## Spellings -/

/-- A sign, digits and perhaps a point with more digits behind it. -/
def spell (negative : Bool) (whole fraction : List Char) : List Char :=
  (if negative then ['-'] else []) ++ whole ++ if fraction = [] then [] else '.' :: fraction

/-- A row of digits. -/
abbrev AreDigits (cs : List Char) : Prop := ∀ c ∈ cs, c.isDigit = true

theorem areDigits_zeros (n : Nat) : AreDigits (List.replicate n '0') := by
  intro c hc
  rw [List.eq_of_mem_replicate hc]
  rfl

theorem AreDigits.append {as bs : List Char} (ha : AreDigits as) (hb : AreDigits bs) :
    AreDigits (as ++ bs) := by
  intro c hc
  rcases List.mem_append.1 hc with h | h
  · exact ha c h
  · exact hb c h

theorem takeSign_spell {negative : Bool} {whole fraction : List Char} (hne : whole ≠ [])
    (hw : AreDigits whole) :
    takeSign (spell negative whole fraction) = (negative, spell false whole fraction) := by
  cases negative with
  | true => rfl
  | false =>
      obtain ⟨c, cs, rfl⟩ := List.exists_cons_of_ne_nil hne
      have hc := hw c List.mem_cons_self
      -- a digit is no sign
      show takeSign (c :: (cs ++ _)) = _
      unfold takeSign
      split
      · next h =>
        cases h
        exact absurd hc (by decide)
      · next h =>
        cases h
        exact absurd hc (by decide)
      · rfl

/-- The digits of an unsigned numeral are its parts. -/
theorem parts?_spell {whole fraction : List Char} (hne : whole ≠ []) (hw : AreDigits whole)
    (hf : AreDigits fraction) : parts? (spell false whole fraction) = some (whole, fraction, 0) := by
  have hempty : whole.isEmpty = false := List.isEmpty_eq_false_iff.2 hne
  unfold parts?
  by_cases hnil : fraction = []
  · subst hnil
    have hspell : spell false whole [] = whole ++ [] := rfl
    rw [hspell, Text.dropWhile_run hw (by simp), Text.takeWhile_run hw (by simp)]
    simp [hempty, exponent?]
  -- the point is what the digits in front of it end at
  · have hspell : spell false whole fraction = whole ++ '.' :: fraction := by
      unfold spell
      rw [if_neg hnil]
      rfl
    have hstop : ∀ c ∈ ('.' :: fraction).head?, c.isDigit = false := by
      intro c hc
      cases hc
      rfl
    have htake : fraction.takeWhile Char.isDigit = fraction := by
      have hrun : (fraction ++ []).takeWhile Char.isDigit = fraction :=
        Text.takeWhile_run hf (by simp)
      rwa [List.append_nil] at hrun
    have hdrop : fraction.dropWhile Char.isDigit = [] := by
      have hrun : (fraction ++ []).dropWhile Char.isDigit = [] :=
        Text.dropWhile_run hf (by simp)
      rwa [List.append_nil] at hrun
    rw [hspell, Text.dropWhile_run hw hstop, Text.takeWhile_run hw hstop]
    simp [hempty, exponent?, htake, hdrop]

/-- A digit is no upper-case letter. -/
theorem toLower_of_isDigit {c : Char} (h : c.isDigit = true) : c.toLower = c := by
  simp only [Char.isDigit, Bool.and_eq_true, decide_eq_true_eq, ge_iff_le,
    UInt32.le_iff_toNat_le] at h
  unfold Char.toLower
  rw [dif_neg]
  rintro ⟨hupper, -⟩
  simp only [ge_iff_le, UInt32.le_iff_toNat_le] at hupper
  have : 'A'.val.toNat = 0x41 := rfl
  have : '9'.val.toNat = 0x39 := rfl
  omega

/-- **A spelled number denotes the decimal with its digits.** -/
theorem parse?_spell {negative : Bool} {whole fraction : List Char} (hne : whole ≠ [])
    (hw : AreDigits whole) (hf : AreDigits fraction) :
    Double.parse? (String.ofList (spell negative whole fraction)) =
      some (.ofDecimal negative (digitsValue (whole ++ fraction)) (-fraction.length)) := by
  -- the text is none of the words, since it starts with a digit
  have hword : ∀ w : String, w.toList.head?.any Char.isDigit = false →
      String.ofList ((spell false whole fraction).map Char.toLower) ≠ w := by
    intro w hlead heq
    obtain ⟨c, cs, rfl⟩ := List.exists_cons_of_ne_nil hne
    have hc := hw c List.mem_cons_self
    have hhead : w.toList.head? = some c := by
      rw [← heq, String.toList_ofList]
      show some c.toLower = some c
      rw [toLower_of_isDigit hc]
    rw [hhead, Option.any_some, hc] at hlead
    cases hlead
  unfold Double.parse?
  rw [String.toList_ofList, takeSign_spell hne hw]
  dsimp only
  rw [if_neg, if_neg (hword "nan" (by decide)), parts?_spell hne hw hf, Option.map_some, zero_sub]
  rintro (h | h)
  · exact hword "inf" (by decide) h
  · exact hword "infinity" (by decide) h

end Numeral

namespace Layout

open Numeral

/-! ## Positional digits -/

/-- A text spells a decimal out: its digits have the same value, and there are no more of them
behind the point than the power of ten asks for. -/
structure SpellsOut (cs : List Char) (negative : Bool) (x : Decimal) (whole fraction : List Char) :
    Prop where
  text : cs = spell negative whole fraction
  whole_ne_nil : whole ≠ []
  whole_digits : AreDigits whole
  fraction_digits : AreDigits fraction
  value : (digitsValue (whole ++ fraction) : ℚ) * 10 ^ (-(fraction.length : Int)) = x.value
  length : (fraction.length : Int) = max 0 (-x.power)

section WithPoint

variable {digits : List Char} (hne : digits ≠ []) (hd : AreDigits digits) {p : Int}
include hne hd

/-- All digits stand behind the point, with zeros between it and them. -/
theorem spellsOut_below {n : Nat} (hp : p = -((n + digits.length : Nat) : Int)) :
    SpellsOut ("0.".toList ++ (List.replicate n '0' ++ digits)) false ⟨digitsValue digits, p⟩ ['0']
      (List.replicate n '0' ++ digits) where
  text := by simp [spell, hne]
  whole_ne_nil := by decide
  whole_digits := areDigits_zeros 1
  fraction_digits := (areDigits_zeros n).append hd
  value := by
    have hpower : -((List.replicate n '0' ++ digits).length : Int) = p := by
      rw [List.length_append, List.length_replicate, hp]
    rw [hpower]
    refine congrArg (fun n : Nat => (n : ℚ) * 10 ^ p) ?_
    rw [← digitsValue_zeros_append digits (n + 1)]
    rfl
  length := by
    rw [List.length_append, List.length_replicate]
    dsimp only
    omega

/-- Zeros behind the digits fill the decimal up to a whole number. -/
theorem spellsOut_above {n : Nat} (hp : p = n) :
    SpellsOut (digits ++ List.replicate n '0') false ⟨digitsValue digits, p⟩
      (digits ++ List.replicate n '0') [] where
  text := by simp [spell]
  whole_ne_nil := by simp [hne]
  whole_digits := hd.append (areDigits_zeros n)
  fraction_digits := fun c hc => absurd hc (by simp)
  value := by
    unfold Decimal.value
    rw [List.append_nil, digitsValue_append_zeros]
    dsimp only
    rw [hp, zpow_natCast]
    simp
  length := by
    rw [List.length_nil]
    dsimp only
    omega

/-- The point stands between two digits. -/
theorem spellsOut_inside {k : Nat} (hpos : k ≠ 0) (hk : k < digits.length)
    (hp : p = k - digits.length) :
    SpellsOut (digits.take k ++ '.' :: digits.drop k) false ⟨digitsValue digits, p⟩
      (digits.take k) (digits.drop k) where
  text := by
    have hdrop : digits.drop k ≠ [] := by
      rw [Ne, List.drop_eq_nil_iff]
      omega
    simp [spell, hdrop]
  whole_ne_nil := by
    rw [Ne, List.take_eq_nil_iff]
    rintro (h | h)
    · exact hpos h
    · exact hne h
  whole_digits := fun c hc => hd c (List.mem_of_mem_take hc)
  fraction_digits := fun c hc => hd c (List.mem_of_mem_drop hc)
  value := by
    have hpower : -((digits.drop k).length : Int) = p := by
      rw [List.length_drop]
      omega
    rw [hpower, List.take_append_drop]
    rfl
  length := by
    rw [List.length_drop]
    dsimp only
    omega

/-- The positional text of the digits of a decimal spells it out. -/
theorem withPoint_spellsOut (p : Int) : ∃ whole fraction,
    SpellsOut (withPoint false digits (p + digits.length)).toList false ⟨digitsValue digits, p⟩
      whole fraction := by
  have hlen : 0 < digits.length := List.length_pos_of_ne_nil hne
  -- the cases are where the point stands: in front of the digits, behind them, or between them
  unfold withPoint
  split
  · next k hk =>
    rw [Int.ofNat_eq_natCast] at hk
    by_cases hzero : k = 0
    · have h := spellsOut_below hne hd (n := 0) (p := p) (by omega)
      refine ⟨['0'], digits, ?_⟩
      simpa [hzero] using h
    · by_cases hle : digits.length ≤ k
      · have h := spellsOut_above hne hd (n := k - digits.length) (p := p) (by omega)
        refine ⟨digits ++ List.replicate (k - digits.length) '0', [], ?_⟩
        simpa [hzero, hle, zeros] using h
      · have h := spellsOut_inside hne hd (k := k) (p := p) hzero (by omega) (by omega)
        refine ⟨digits.take k, digits.drop k, ?_⟩
        simpa [hzero, hle] using h
  · next k hk =>
    have h := spellsOut_below hne hd (n := k + 1) (p := p) (by omega)
    refine ⟨['0'], List.replicate (k + 1) '0' ++ digits, ?_⟩
    simpa [zeros] using h

end WithPoint

/-! ## The text of a double -/

/-- Zero is the only double without a significand. -/
theorem zero_of_significand {d : Double} (h : d.significand = 0) : Double.zero d.negative = d := by
  have he : d.exponent = -1074 := by
    refine Decidable.byContradiction fun hne => ?_
    have := Double.le_significand hne
    omega
  have hmag := d.magnitude_eq
  rw [he, h] at hmag
  have hself := d.ofMagnitude_self
  rw [hmag] at hself
  exact hself

/-- Digits that spell out a decimal in the interval of a double denote the double. -/
theorem SpellsOut.ofDecimal {d : Double} {x : Decimal} {cs whole fraction : List Char}
    (h : SpellsOut cs false x whole fraction) (hfin : d.isFinite = true) (hm : d.significand ≠ 0)
    (hfits : Decimal.Fits d x) :
    Double.ofDecimal d.negative (digitsValue (whole ++ fraction)) (-fraction.length) = d := by
  have hvalue : _ = x.value := h.value
  have hnear := hfits.near
  rw [← hvalue] at hnear
  refine Double.ofDecimal_eq_of_near hfin hm ?_ ?_ hnear
  · intro hzero
    rw [hzero, Nat.cast_zero, zero_mul] at hvalue
    refine hfits.coefficient_ne_zero ?_
    have hproduct := mul_eq_zero.1 hvalue.symm
    exact_mod_cast hproduct.resolve_right (Decimal.ten_zpow_pos _).ne'
  · have hpower := hfits.power_ge
    rw [h.length]
    omega

/-- **The positional text of a finite double consists of digits of a decimal that denotes it.** -/
theorem render_plain {d : Double} (hfin : d.isFinite = true) :
    ∃ whole fraction, (plain.render d).toList = spell d.negative whole fraction ∧
      whole ≠ [] ∧ AreDigits whole ∧ AreDigits fraction ∧
      Double.ofDecimal d.negative (digitsValue (whole ++ fraction)) (-fraction.length) = d := by
  unfold render
  rw [if_neg (by rw [Double.isNaN_of_isFinite hfin]; decide)]
  dsimp only
  rw [if_neg (by rw [hfin]; decide)]
  by_cases hm : d.significand = 0
  · rw [if_pos hm]
    -- zero has no shortest decimal and is written by itself, with its sign
    refine ⟨['0'], [], ?_, by decide, areDigits_zeros 1, fun c hc => absurd hc (by simp), ?_⟩
    · cases d.negative <;> rfl
    · have hzero : digitsValue (['0'] ++ []) = 0 := rfl
      unfold Double.ofDecimal
      rw [if_pos hzero]
      exact zero_of_significand hm
  · rw [if_neg hm]
    have hfits := Decimal.shortest_fits plain.tie hfin hm
    generalize Decimal.shortest plain.tie d = x at hfits
    obtain ⟨whole, fraction, h⟩ := withPoint_spellsOut (toString_toList_ne_nil x.coefficient)
      (fun c => isDigit_of_mem_toString) x.power
    rw [digitsValue_toString] at h
    refine ⟨whole, fraction, ?_, h.whole_ne_nil, h.whole_digits, h.fraction_digits, ?_⟩
    · rw [String.toList_append]
      show _ ++ (withPoint false _ _).toList = _
      rw [h.text]
      cases d.negative <;> rfl
    · exact h.ofDecimal hfin hm hfits

end Layout

/-- **The positional text of a finite double denotes it.** -/
theorem Double.parse?_render {d : Double} (hfin : d.isFinite = true) :
    Double.parse? (Layout.plain.render d) = some d := by
  obtain ⟨whole, fraction, htext, hne, hw, hf, hd⟩ := Layout.render_plain hfin
  rw [← String.ofList_toList (s := Layout.plain.render d), htext, Numeral.parse?_spell hne hw hf, hd]

end RuleEngine
