import RuleEngine.Proofs.Condition.Canonical
import RuleEngine.Proofs.Double.Integer

set_option autoImplicit false

/-! # Comparing integers

A fact and the literal it is compared with are compared as doubles. For integers this is the comparison
of the integers that they are rounded to (`Condition.compares_nearest`), and so the comparison of the
integers themselves unless two of them have one nearest double.
-/

namespace RuleEngine

/-! ## Decimal integers -/

namespace Numeral

/-- A text is a decimal integer: digits, perhaps with a sign in front of them. -/
inductive IsInteger : String → Int → Prop
  | plain {digits : List Char} : digits ≠ [] → AreDigits digits →
      IsInteger (String.ofList digits) (digitsValue digits)
  | plus {digits : List Char} : digits ≠ [] → AreDigits digits →
      IsInteger (String.ofList ('+' :: digits)) (digitsValue digits)
  | minus {digits : List Char} : digits ≠ [] → AreDigits digits →
      IsInteger (String.ofList ('-' :: digits)) (-digitsValue digits)

/-- A natural number is written as a decimal integer. -/
theorem isInteger_toString (n : Nat) : IsInteger (toString n) n := by
  have h := IsInteger.plain (toString_toList_ne_nil n) fun c => isDigit_of_mem_toString
  rwa [String.ofList_toList, digitsValue_toString] at h

/-- A plus sign in front of digits does not count. -/
theorem parse?_plus {digits : List Char} (hne : digits ≠ []) (hd : AreDigits digits) :
    Double.parse? (String.ofList ('+' :: digits)) = Double.parse? (String.ofList digits) := by
  have hspell : spell false digits [] = digits := by simp [spell]
  have hsign : takeSign (spell false digits []) = (false, spell false digits []) :=
    takeSign_spell hne hd
  rw [hspell] at hsign
  unfold Double.parse?
  rw [String.toList_ofList, String.toList_ofList, hsign]
  rfl

theorem IsInteger.looksNumeric {w : String} {n : Int} (h : IsInteger w n) :
    Token.looksNumeric w = true := by
  have hfirst : ∀ digits : List Char, digits ≠ [] → AreDigits digits →
      ∃ c cs, digits = c :: cs ∧ c.isDigit = true := by
    intro digits hne hd
    obtain ⟨c, cs, rfl⟩ := List.exists_cons_of_ne_nil hne
    exact ⟨c, cs, rfl, hd c List.mem_cons_self⟩
  unfold Token.looksNumeric
  cases h with
  | plain hne hd =>
      obtain ⟨c, cs, rfl, hc⟩ := hfirst _ hne hd
      rw [String.toList_ofList]
      show (if c = '-' ∨ c = '+' then _ else c.isDigit) = true
      rw [if_neg, hc]
      rintro (rfl | rfl) <;> exact absurd hc (by decide)
  | plus hne hd =>
      obtain ⟨c, cs, rfl, hc⟩ := hfirst _ hne hd
      rw [String.toList_ofList]
      exact hc
  | minus hne hd =>
      obtain ⟨c, cs, rfl, hc⟩ := hfirst _ hne hd
      rw [String.toList_ofList]
      exact hc

/-- A whole number of moderate size is not cut off. -/
theorem ofDecimal_natural (negative : Bool) {n : Nat} (h : n < 2 ^ 64) :
    Double.ofDecimal negative n 0 = .ofRatio negative n 1 := by
  unfold Double.ofDecimal
  by_cases hzero : n = 0
  · rw [if_pos hzero, hzero]
    rfl
  · have hlog : n.log2 < 64 := (Nat.log2_lt hzero).2 h
    rw [if_neg hzero]
    dsimp only
    rw [if_neg (by omega), if_neg (by omega)]
    show Double.ofRatio negative (n * Nat.pow 10 0) 1 = _
    rw [Nat.pow_eq, Nat.pow_zero, Nat.mul_one]

/-- **A decimal integer denotes the double nearest to it.** -/
theorem IsInteger.parse? {w : String} {n : Int} (h : IsInteger w n) (hn : n.natAbs < 2 ^ 64) :
    ∃ d, Double.parse? w = some d ∧ d.isFinite = true ∧ d.signedValue = Double.nearestInt n := by
  have hspelled : ∀ (negative : Bool) {digits : List Char}, digits ≠ [] → AreDigits digits →
      digitsValue digits < 2 ^ 64 → ∃ d,
        Double.parse? (String.ofList (spell negative digits [])) = some d ∧ d.isFinite = true ∧
          d.signedValue = Double.nearestInt (if negative then -digitsValue digits
            else digitsValue digits) := by
    intro negative digits hne hd hlt
    obtain ⟨hfin, hvalue⟩ := Double.ofRatio_natural negative hlt
    refine ⟨_, parse?_spell hne hd nofun, ?_⟩
    rw [List.append_nil, List.length_nil, Nat.cast_zero, neg_zero, ofDecimal_natural negative hlt]
    refine ⟨hfin, hvalue.trans ?_⟩
    cases negative <;> simp
  cases h with
  | plain hne hd => simpa [spell] using hspelled false hne hd hn
  | plus hne hd =>
      rw [parse?_plus hne hd]
      simpa [spell] using hspelled false hne hd hn
  | minus hne hd =>
      rw [Int.natAbs_neg] at hn
      simpa [spell] using hspelled true hne hd hn

end Numeral

/-! ## Comparisons -/

/-- The relation between two integers that an operator stands for. -/
def Comparison.Relates : Comparison → Int → Int → Prop
  | .eq, n, m => n = m
  | .ne, n, m => n ≠ m
  | .gt, n, m => m < n
  | .ge, n, m => m ≤ n
  | .lt, n, m => n < m
  | .le, n, m => n ≤ m

instance (op : Comparison) (n m : Int) : Decidable (op.Relates n m) :=
  match op with
  | .eq => inferInstanceAs (Decidable (n = m))
  | .ne => inferInstanceAs (Decidable (n ≠ m))
  | .gt => inferInstanceAs (Decidable (m < n))
  | .ge => inferInstanceAs (Decidable (m ≤ n))
  | .lt => inferInstanceAs (Decidable (n < m))
  | .le => inferInstanceAs (Decidable (n ≤ m))

theorem Comparison.holds_compare (op : Comparison) (n m : Int) :
    op.holds (some (compare n m)) = true ↔ op.Relates n m := by
  rcases lt_trichotomy n m with h | h | h
  · rw [compare_lt_iff_lt.2 h]
    cases op <;> simp [holds, Relates] <;> omega
  · rw [compare_eq_iff_eq.2 h]
    cases op <;> simp [holds, Relates] <;> omega
  · rw [compare_gt_iff_gt.2 h]
    cases op <;> simp [holds, Relates] <;> omega

/-- Integers that are not rounded to one double are related as what they are rounded to. -/
theorem Comparison.relates_nearest (op : Comparison) {n m : Int}
    (h : n = m ∨ Double.nearestInt n ≠ Double.nearestInt m) :
    op.Relates (Double.nearestInt n) (Double.nearestInt m) ↔ op.Relates n m := by
  rcases h with rfl | hne
  · cases op <;> simp [Relates]
  have hnm := Double.nearestInt_mono (n := n) (m := m)
  have hmn := Double.nearestInt_mono (n := m) (m := n)
  have hdiff : n ≠ m := fun heq => hne (by rw [heq])
  cases op <;> simp only [Relates] <;> omega

namespace Condition

variable {s key word : String} {op : Comparison} {n m : Int} {facts : FactSource}

/-- A name, an operator and a decimal integer are a condition that compares the fact with the double
nearest to the integer. -/
theorem parse_integer (hs : Token.ofText s = .ok [.word key, .compare op, .word word])
    (hkey : Token.isIdentifier key = true) (hword : Numeral.IsInteger word m)
    (hm : m.natAbs < 2 ^ 64) :
    ∃ d, parse s = .ok (.compare key op (.number d)) ∧ d.isFinite = true ∧
      d.signedValue = Double.nearestInt m := by
  obtain ⟨d, hparse, hfin, hvalue⟩ := hword.parse? hm
  have hnumeric := hword.looksNumeric
  have hne : ∀ text : String, Token.looksNumeric text = false → word ≠ text := by
    rintro text htext rfl
    rw [htext] at hnumeric
    cases hnumeric
  have hliteral : literalOfWord word = .ok (.number d) := by
    unfold literalOfWord
    rw [if_neg (hne "true" (by decide)), if_neg (hne "false" (by decide)), if_pos hnumeric, hparse]
    dsimp only
    rw [if_pos hfin]
  have hunary : IsUnary [.word key, .compare op, .word word] (.compare key op (.number d)) :=
    .primary (.compare hkey (.word hliteral))
  exact ⟨d, parse_eq_ok_iff.2 ⟨_, hs, hunary.isAnd.isOr⟩, hfin, hvalue⟩

/-- What a condition that compares a fact with a decimal integer says of an integer. -/
theorem eval_integer (hs : Token.ofText s = .ok [.word key, .compare op, .word word])
    (hkey : Token.isIdentifier key = true) (hword : Numeral.IsInteger word m)
    (hm : m.natAbs < 2 ^ 64) (hfact : facts key = some (.num (.int n))) (hn : n.natAbs < 2 ^ 64) :
    ∃ c, parse s = .ok c ∧
      (c.eval facts = true ↔ op.Relates (Double.nearestInt n) (Double.nearestInt m)) := by
  obtain ⟨d, hparse, hfin, hvalue⟩ := parse_integer hs hkey hword hm
  obtain ⟨hfin', hvalue'⟩ := Double.ofInt_nearest hn
  refine ⟨_, hparse, ?_⟩
  rw [eval, hfact]
  show op.holds ((Double.ofInt n).order d) = true ↔ _
  rw [Double.order_eq hfin' hfin hvalue' hvalue, Comparison.holds_compare]

/-- **Integers are compared as the doubles nearest to them.** That is the comparison of the integers
themselves, unless they are two with one nearest double: then they count as equal. Two such integers
are large and close to one another. -/
theorem compares_nearest (hs : Token.ofText s = .ok [.word key, .compare op, .word word])
    (hkey : Token.isIdentifier key = true) (hword : Numeral.IsInteger word m)
    (hm : -2 ^ 63 ≤ m ∧ m < 2 ^ 64) (hfact : facts key = some (.num (.int n)))
    (hn : -2 ^ 63 ≤ n ∧ n < 2 ^ 64) :
    (∃ c, parse s = .ok c ∧
      (c.eval facts = true ↔ op.Relates (Double.nearestInt n) (Double.nearestInt m)) ∧
      (n = m ∨ Double.nearestInt n ≠ Double.nearestInt m →
        (c.eval facts = true ↔ op.Relates n m))) ∧
    (Double.nearestInt n = Double.nearestInt m →
      n = m ∨ 2 ^ 53 ≤ n.natAbs ∧ 2 ^ 53 ≤ m.natAbs ∧ (n - m).natAbs ≤ 2 ^ 11) := by
  have hn' : n.natAbs < 2 ^ 64 := by omega
  have hm' : m.natAbs < 2 ^ 64 := by omega
  obtain ⟨c, hparse, heval⟩ := eval_integer hs hkey hword hm' hfact hn'
  refine ⟨⟨c, hparse, heval, fun hdistinct => ?_⟩, fun hnear => ?_⟩
  · rw [heval]
    exact op.relates_nearest hdistinct
  · by_cases heq : n = m
    · exact .inl heq
    · exact .inr (Double.close_of_nearestInt_eq hnear heq hn' hm')

/-! ## Two neighbours -/

/-- Facts that hold the first integer that is no double. -/
def largeId : FactSource := Facts.source [("id", .num (.int 9007199254740993))]

theorem isInteger_neighbour : Numeral.IsInteger "9007199254740992" 9007199254740992 := by
  have htext : toString 9007199254740992 = "9007199254740992" := by decide +kernel
  rw [← htext]
  exact Numeral.isInteger_toString 9007199254740992

theorem compares_nearest_neighbours :
    Token.ofText "id == 9007199254740992" =
        .ok [.word "id", .compare .eq, .word "9007199254740992"] ∧
      Token.isIdentifier "id" = true ∧ Numeral.IsInteger "9007199254740992" 9007199254740992 ∧
      (-2 ^ 63 ≤ (9007199254740992 : Int) ∧ (9007199254740992 : Int) < 2 ^ 64) ∧
      largeId "id" = some (.num (.int 9007199254740993)) ∧
      (-2 ^ 63 ≤ (9007199254740993 : Int) ∧ (9007199254740993 : Int) < 2 ^ 64) ∧
      (∃ c, parse "id == 9007199254740992" = .ok c ∧
        (c.eval largeId = true ↔ Comparison.eq.Relates (Double.nearestInt 9007199254740993)
          (Double.nearestInt 9007199254740992)) ∧
        ((9007199254740993 : Int) = 9007199254740992 ∨
            Double.nearestInt 9007199254740993 ≠ Double.nearestInt 9007199254740992 →
          (c.eval largeId = true ↔ Comparison.eq.Relates 9007199254740993 9007199254740992))) ∧
      (Double.nearestInt 9007199254740993 = Double.nearestInt 9007199254740992 →
        (9007199254740993 : Int) = 9007199254740992 ∨
          2 ^ 53 ≤ (9007199254740993 : Int).natAbs ∧ 2 ^ 53 ≤ (9007199254740992 : Int).natAbs ∧
            ((9007199254740993 : Int) - 9007199254740992).natAbs ≤ 2 ^ 11) := by
  have hs : Token.ofText "id == 9007199254740992" =
      .ok [.word "id", .compare .eq, .word "9007199254740992"] := by decide +kernel
  have hfact : largeId "id" = some (.num (.int 9007199254740993)) := rfl
  exact ⟨hs, by decide, isInteger_neighbour, by decide, hfact, by decide,
    compares_nearest hs (by decide) isInteger_neighbour (by decide) hfact (by decide)⟩

/-- Not every comparison of integers is exact: the first integer that is no double equals the double
that it is rounded to. -/
theorem not_exact_of_neighbours :
    ¬ ∀ (s key word : String) (op : Comparison) (n m : Int) (facts : FactSource),
      Token.ofText s = .ok [.word key, .compare op, .word word] → Token.isIdentifier key = true →
      Numeral.IsInteger word m → (-2 ^ 63 ≤ m ∧ m < 2 ^ 64) →
      facts key = some (.num (.int n)) → (-2 ^ 63 ≤ n ∧ n < 2 ^ 64) →
      ∃ c, parse s = .ok c ∧ (c.eval facts = true ↔ op.Relates n m) := by
  intro hall
  have hs : Token.ofText "id == 9007199254740992" =
      .ok [.word "id", .compare .eq, .word "9007199254740992"] := by decide +kernel
  obtain ⟨c, hparse, hexact⟩ := hall _ _ _ _ 9007199254740993 _ largeId hs (by decide)
    isInteger_neighbour (by decide) rfl (by decide)
  have hfact : largeId "id" = some (.num (.int 9007199254740993)) := rfl
  obtain ⟨c', hparse', hnear⟩ := eval_integer hs (by decide) isInteger_neighbour (by decide) hfact
    (by decide)
  obtain rfl : c = c' := by simpa [hparse] using hparse'
  have hequal : c.eval largeId = true := hnear.2 (by decide +kernel)
  exact absurd (hexact.1 hequal) (by decide)

end Condition

end RuleEngine
