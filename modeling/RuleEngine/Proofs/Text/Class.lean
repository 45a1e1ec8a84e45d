import RuleEngine.Text.Alphanumeric

set_option autoImplicit false

/-! # Classes of characters

A run of characters of one class ends where a character of another class follows, or at the end of
the text. Blank characters are neither letters nor numbers.
-/

namespace RuleEngine

namespace Text

/-! ## Runs -/

section Run

variable {p : Char → Bool} {run rest : List Char}

theorem takeWhile_run (hrun : ∀ c ∈ run, p c = true) (hrest : ∀ c ∈ rest.head?, p c = false) :
    (run ++ rest).takeWhile p = run := by
  rw [List.takeWhile_append_of_pos hrun]
  cases rest with
  | nil => rw [List.takeWhile_nil, List.append_nil]
  | cons c cs =>
      have hc : p c = false := hrest c rfl
      rw [List.takeWhile_cons_of_neg (by simp [hc]), List.append_nil]

theorem dropWhile_run (hrun : ∀ c ∈ run, p c = true) (hrest : ∀ c ∈ rest.head?, p c = false) :
    (run ++ rest).dropWhile p = rest := by
  rw [List.dropWhile_append_of_pos hrun]
  cases rest with
  | nil => rfl
  | cons c cs =>
      have hc : p c = false := hrest c rfl
      rw [List.dropWhile_cons_of_neg (by simp [hc])]

end Run

/-! ## Blanks and letters -/

/-- Ranges that do not meet have no character in common. -/
theorem inRanges_eq_false {rs qs : List (Nat × Nat)} {c : Char}
    (h : ∀ r ∈ rs, ∀ q ∈ qs, r.2 < q.1 ∨ q.2 < r.1) (hr : inRanges rs c = true) :
    inRanges qs c = false := by
  simp only [inRanges, List.any_eq_true, Bool.and_eq_true, decide_eq_true_eq] at hr
  obtain ⟨r, hmem, hlow, hhigh⟩ := hr
  simp only [inRanges, List.any_eq_false, Bool.and_eq_true, decide_eq_true_eq, not_and]
  intro q hq hq₁ hq₂
  have := h r hmem q hq
  omega

/-- The ASCII letters and digits. -/
def asciiRanges : List (Nat × Nat) := [(0x30, 0x39), (0x41, 0x5A), (0x61, 0x7A)]

theorem inRanges_ascii {c : Char} (h : c.isAlphanum = true) : inRanges asciiRanges c = true := by
  have hn : c.toNat = c.val.toNat := rfl
  have halpha : c.isAlpha = (c.isUpper || c.isLower) := rfl
  have hupper : c.isUpper = decide (c.val ≥ 0x41 ∧ c.val ≤ 0x5A) := rfl
  have hlower : c.isLower = (decide (c.val ≥ 0x61) && decide (c.val ≤ 0x7A)) := rfl
  have hdigit : c.isDigit = (decide (c.val ≥ 0x30) && decide (c.val ≤ 0x39)) := rfl
  simp only [Char.isAlphanum, halpha, hupper, hlower, hdigit, Bool.or_eq_true,
    Bool.and_eq_true, decide_eq_true_eq, ge_iff_le, UInt32.le_iff_toNat_le, UInt32.reduceToNat] at h
  simp only [inRanges, asciiRanges, List.any_cons, List.any_nil, Bool.or_eq_true, Bool.and_eq_true,
    decide_eq_true_eq, hn]
  omega

/-- An ASCII letter or digit is one in Unicode. -/
theorem isAlphanumeric_of_isAlphanum {c : Char} (h : c.isAlphanum = true) :
    isAlphanumeric c = true := by
  have hascii : c.toNat < 128 := by
    have hr := inRanges_ascii h
    simp only [inRanges, asciiRanges, List.any_cons, List.any_nil, Bool.or_eq_true,
      Bool.and_eq_true, decide_eq_true_eq, Bool.false_eq_true, or_false] at hr
    omega
  unfold isAlphanumeric
  rw [if_pos hascii, h]

theorem isAlphanumeric_of_isBlank {c : Char} (h : isBlank c = true) :
    isAlphanumeric c = false := by
  unfold isAlphanumeric
  split
  · have hr : inRanges asciiRanges c = false := inRanges_eq_false (by decide) h
    cases hc : c.isAlphanum with
    | false => rfl
    | true =>
      rw [inRanges_ascii hc] at hr
      cases hr
  · exact inRanges_eq_false (by decide +kernel) h

end Text

end RuleEngine
