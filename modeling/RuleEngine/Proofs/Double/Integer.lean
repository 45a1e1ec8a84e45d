import Mathlib.Order.Compare
import Mathlib.Tactic.Ring
import RuleEngine.Proofs.Double.Rounding

set_option autoImplicit false

/-! # Integers as doubles

The patterns of finite doubles are ordered as their values are (`Double.order_eq`). The double that is
nearest to an integer has an integer value: the integer rounded to 53 significant bits, on a tie to the
even one (`Double.nearestInt`). Rounding keeps the order and moves no integer of at most 53 bits; it
puts two integers together only if both are large and close to one another
(`Double.close_of_nearestInt_eq`).
-/

namespace RuleEngine

namespace Double

/-! ## The order of patterns -/

/-- The value of a finite double. -/
def signedValue (d : Double) : ℚ := if d.negative then -d.value else d.value

theorem value_nonneg (d : Double) : 0 ≤ d.value :=
  mul_nonneg (Nat.cast_nonneg _) (two_zpow_pos _).le

theorem value_eq_zero_iff {d : Double} : d.value = 0 ↔ d.magnitude = 0 := by
  have hmag := magnitude_eq d
  have hsig : d.value = 0 ↔ d.significand = 0 := by
    unfold value
    rw [mul_eq_zero, or_iff_left (two_zpow_pos _).ne', Nat.cast_eq_zero]
  rw [hsig]
  constructor
  · intro h
    -- without a leading bit the exponent is the least one
    have he : d.exponent = -1074 := by
      refine Decidable.byContradiction fun hne => ?_
      have := le_significand hne
      omega
    rw [hmag, he, h]
    rfl
  · intro h
    omega

theorem value_lt_value {a b : Double} (h : a.magnitude < b.magnitude) : a.value < b.value := by
  rw [magnitude_eq a, magnitude_eq b] at h
  have ha := significand_lt a
  have hb := significand_lt b
  have hea := exponent_ge a
  have heb := exponent_ge b
  rcases lt_trichotomy a.exponent b.exponent with hlt | heq | hgt
  -- in a lower binade every significand stays below the leading bit of the higher one
  · have hlead : (2 : ℚ) ^ 52 ≤ b.significand := by exact_mod_cast le_significand (by omega)
    have ha' : (a.significand : ℚ) < 2 ^ 53 := by exact_mod_cast ha
    calc a.value < 2 ^ (53 : Int) * 2 ^ a.exponent :=
          mul_lt_mul_of_pos_right (by exact_mod_cast ha') (two_zpow_pos _)
      _ = 2 ^ (53 + a.exponent) := by rw [← zpow_add₀ (by norm_num)]
      _ ≤ 2 ^ (52 + b.exponent) := zpow_le_zpow_right₀ (by norm_num) (by omega)
      _ = 2 ^ (52 : Int) * 2 ^ b.exponent := by rw [← zpow_add₀ (by norm_num)]
      _ ≤ b.value := mul_le_mul_of_nonneg_right (by exact_mod_cast hlead) (two_zpow_pos _).le
  · have hsig : a.significand < b.significand := by
      rw [heq] at h
      omega
    unfold value
    rw [heq]
    exact mul_lt_mul_of_pos_right (by exact_mod_cast hsig) (two_zpow_pos _)
  · have hlead := le_significand (d := a) (by omega)
    omega

theorem value_lt_value_iff {a b : Double} : a.value < b.value ↔ a.magnitude < b.magnitude := by
  refine ⟨fun h => ?_, value_lt_value⟩
  rcases lt_trichotomy a.magnitude b.magnitude with hlt | heq | hgt
  · exact hlt
  -- equal patterns have equal fields, so equal values
  · have hvalue : a.value = b.value := by
      unfold value significand exponent fraction exponentField
      rw [heq]
    exact absurd h (by rw [hvalue]; exact lt_irrefl _)
  · exact absurd h (value_lt_value hgt).le.not_gt

theorem place_lt_place_iff {a b : Double} : a.place < b.place ↔ a.signedValue < b.signedValue := by
  have ha := value_nonneg a
  have hb := value_nonneg b
  have hza := value_eq_zero_iff (d := a)
  have hzb := value_eq_zero_iff (d := b)
  have hab := value_lt_value_iff (a := a) (b := b)
  have hba := value_lt_value_iff (a := b) (b := a)
  unfold place signedValue
  -- the cases are the signs; numbers of different signs are equal only if both are zero
  cases a.negative with
  | false =>
      cases b.negative with
      | false => simp [hab]
      | true =>
          simp only [Bool.false_eq_true, if_false, if_true]
          constructor
          · intro h
            omega
          · intro h
            linarith
  | true =>
      cases b.negative with
      | false =>
          simp only [Bool.false_eq_true, if_false, if_true]
          constructor
          · intro h
            by_contra hle
            have hva : a.value = 0 := by linarith
            have hvb : b.value = 0 := by linarith
            rw [hza.1 hva, hzb.1 hvb] at h
            omega
          · intro h
            by_contra hle
            rw [hza.2 (by omega), hzb.2 (by omega)] at h
            linarith
      | true => simp [hba]

/-- **Finite doubles with integer values stand to one another as these integers do.** -/
theorem order_eq {a b : Double} (ha : a.isFinite = true) (hb : b.isFinite = true) {x y : Int}
    (hx : a.signedValue = x) (hy : b.signedValue = y) : a.order b = some (compare x y) := by
  have hlt := place_lt_place_iff (a := a) (b := b)
  have hgt := place_lt_place_iff (a := b) (b := a)
  rw [hx, hy, Int.cast_lt] at hlt hgt
  unfold order
  rw [isNaN_of_isFinite ha, isNaN_of_isFinite hb]
  show some (compare a.place b.place) = some (compare x y)
  congr 1
  rcases lt_trichotomy x y with h | h | h
  · rw [compare_lt_iff_lt.2 h, compare_lt_iff_lt.2 (hlt.2 h)]
  · rw [compare_eq_iff_eq.2 h, compare_eq_iff_eq]
    omega
  · rw [compare_gt_iff_gt.2 h, compare_gt_iff_gt.2 (hgt.2 h)]

/-! ## Rounding to a multiple -/

theorem roundHalfEven_mul (m : Nat) {den : Nat} (h : 0 < den) :
    roundHalfEven (m * den) den = m := by
  unfold roundHalfEven
  rw [Nat.mul_div_cancel m h, Nat.mul_mod_left, if_pos]
  simp only [Bool.or_eq_true, decide_eq_true_eq]
  omega

theorem roundHalfEven_mono {a b : Nat} (den : Nat) (h : a ≤ b) :
    roundHalfEven a den ≤ roundHalfEven b den := by
  have hdiv : a / den ≤ b / den := Nat.div_le_div_right h
  have ha := Nat.div_add_mod a den
  have hb := Nat.div_add_mod b den
  unfold roundHalfEven
  generalize a % den = r at *
  generalize b % den = r' at *
  generalize a / den = q at *
  generalize b / den = q' at *
  rcases Nat.lt_or_eq_of_le hdiv with hlt | rfl
  · dsimp only
    split <;> split <;> omega
  -- with equal quotients the remainders are ordered, and what rounds up stays up
  · simp only [Bool.or_eq_true, decide_eq_true_eq, Bool.and_eq_true]
    split <;> split <;> omega

theorem roundHalfEven_close (num : Nat) {den : Nat} (h : 0 < den) :
    2 * (roundHalfEven num den * den) ≤ 2 * num + den ∧
      2 * num ≤ 2 * (roundHalfEven num den * den) + den := by
  have hdiv : num / den * den + num % den = num := by
    rw [Nat.mul_comm]
    exact Nat.div_add_mod num den
  have hmod : num % den < den := Nat.mod_lt _ h
  unfold roundHalfEven
  simp only [Bool.or_eq_true, decide_eq_true_eq, Bool.and_eq_true]
  split
  · omega
  · rw [Nat.succ_mul (num / den)]
    omega

/-! ## Rounding to 53 significant bits -/

/-- What the last of the 53 leading bits of a natural stands for. -/
def lastUnit (n : Nat) : Nat := 2 ^ (n.log2 - 52)

/-- The natural of at most 53 significant bits that is nearest to a natural; on a tie the even one. -/
def nearestNat (n : Nat) : Nat := roundHalfEven n (lastUnit n) * lastUnit n

/-- The integer of at most 53 significant bits that is nearest to an integer; on a tie the even one. -/
def nearestInt (n : Int) : Int := n.sign * nearestNat n.natAbs

theorem lastUnit_pos (n : Nat) : 0 < lastUnit n := Nat.pow_pos (by decide)

theorem nearestNat_zero : nearestNat 0 = 0 := rfl

/-- A natural of at most 53 bits is not moved, and neither is the first one of 54 bits. -/
theorem nearestNat_of_le {n : Nat} (h : n ≤ 2 ^ 53) : nearestNat n = n := by
  rcases Nat.lt_or_eq_of_le h with hlt | rfl
  · have hunit : lastUnit n = 1 := by
      have hlog : n.log2 < 53 := by
        by_cases hn : n = 0
        · rw [hn]
          decide
        · exact (Nat.log2_lt hn).2 hlt
      have hexp : n.log2 - 52 = 0 := by omega
      rw [lastUnit, hexp, Nat.pow_zero]
    have hround := roundHalfEven_mul n Nat.one_pos
    rw [Nat.mul_one] at hround
    rw [nearestNat, hunit, hround, Nat.mul_one]
  · have hlog : (2 ^ 53 : Nat).log2 = 53 := Nat.log2_two_pow
    rw [nearestNat, lastUnit, hlog]
    rfl

/-- From 53 bits on, the leading 53 bits are a significand. -/
theorem leadingBits {n : Nat} (h : 52 ≤ n.log2) :
    2 ^ 52 * lastUnit n ≤ n ∧ n < 2 ^ 53 * lastUnit n := by
  have hn : n ≠ 0 := by
    rintro rfl
    exact absurd h (by decide)
  have hsplit : n.log2 = 52 + (n.log2 - 52) := by omega
  have hlow := Nat.log2_self_le hn
  have hhigh : n < 2 ^ (n.log2 + 1) := Nat.lt_log2_self
  constructor
  · rw [lastUnit, ← Nat.pow_add, ← hsplit]
    exact hlow
  · have hsplit' : n.log2 + 1 = 53 + (n.log2 - 52) := by omega
    rw [lastUnit, ← Nat.pow_add, ← hsplit']
    exact hhigh

/-- The rounded significand has 53 bits, or it is the first one with 54. -/
theorem roundHalfEven_leadingBits {n : Nat} (h : 52 ≤ n.log2) :
    2 ^ 52 ≤ roundHalfEven n (lastUnit n) ∧ roundHalfEven n (lastUnit n) ≤ 2 ^ 53 := by
  obtain ⟨hlow, hhigh⟩ := leadingBits h
  constructor
  · have hmono := roundHalfEven_mono (lastUnit n) hlow
    rwa [roundHalfEven_mul _ (lastUnit_pos n)] at hmono
  · have hmono := roundHalfEven_mono (lastUnit n) hhigh.le
    rwa [roundHalfEven_mul _ (lastUnit_pos n)] at hmono

theorem nearestNat_mono {n m : Nat} (h : n ≤ m) : nearestNat n ≤ nearestNat m := by
  by_cases hm : m ≤ 2 ^ 53
  · rwa [nearestNat_of_le hm, nearestNat_of_le (h.trans hm)]
  have hm' : 52 ≤ m.log2 := (Nat.le_log2 (by omega)).2 (by omega)
  have hbelow : 2 ^ 52 * lastUnit m ≤ nearestNat m :=
    Nat.mul_le_mul_right _ (roundHalfEven_leadingBits hm').1
  have hlog : n.log2 ≤ m.log2 := by
    by_cases hn : n = 0
    · rw [hn]
      exact Nat.zero_le _
    · exact (Nat.le_log2 (by omega)).2 ((Nat.log2_self_le hn).trans h)
  rcases Nat.lt_or_eq_of_le hlog with hlt | heq
  -- a shorter natural rounds at most to the power of two that bounds it
  · have hbound : nearestNat n ≤ 2 ^ 52 * lastUnit m := by
      by_cases hn : 52 ≤ n.log2
      · calc nearestNat n ≤ 2 ^ 53 * lastUnit n :=
              Nat.mul_le_mul_right _ (roundHalfEven_leadingBits hn).2
          _ = 2 ^ 52 * 2 ^ (n.log2 - 52 + 1) := by
              rw [lastUnit, Nat.pow_succ]
              omega
          _ ≤ 2 ^ 52 * lastUnit m :=
              Nat.mul_le_mul_left _ (Nat.pow_le_pow_right (by decide) (by omega))
      · have hsmall : n < 2 ^ 52 := by
          by_contra hge
          exact hn ((Nat.le_log2 (by omega)).2 (by omega))
        have hpos := lastUnit_pos m
        rw [nearestNat_of_le (by omega)]
        omega
    exact hbound.trans hbelow
  · have hunit : lastUnit n = lastUnit m := by rw [lastUnit, lastUnit, heq]
    rw [nearestNat, nearestNat, hunit]
    exact Nat.mul_le_mul_right _ (roundHalfEven_mono _ h)

theorem nearestNat_pos {n : Nat} (h : 0 < n) : 0 < nearestNat n := by
  have hmono := nearestNat_mono (n := 1) (m := n) h
  rw [nearestNat_of_le (by decide)] at hmono
  exact hmono

/-- Naturals that are rounded to the same one are at least as large as the first that is moved, and
not further apart than the unit to which they are rounded. -/
theorem close_of_nearestNat_eq {n m : Nat} (h : nearestNat n = nearestNat m) (hne : n ≠ m)
    (hn : n < 2 ^ 64) (hm : m < 2 ^ 64) :
    2 ^ 53 ≤ n ∧ 2 ^ 53 ≤ m ∧ n ≤ m + 2 ^ 11 ∧ m ≤ n + 2 ^ 11 := by
  have hlarge : ∀ {a b : Nat}, nearestNat a = nearestNat b → a ≠ b → 2 ^ 53 ≤ a := by
    intro a b hab hne
    by_contra hlt
    -- what is not moved is reached by rounding down only from itself
    have ha := nearestNat_of_le (n := a) (by omega)
    have hmono := nearestNat_mono (n := min b (2 ^ 53)) (m := b) (Nat.min_le_left _ _)
    rw [nearestNat_of_le (Nat.min_le_right _ _)] at hmono
    by_cases hb : b ≤ 2 ^ 53
    · exact hne (by rw [← ha, hab, nearestNat_of_le hb])
    · omega
  have hunit : ∀ {a : Nat}, a < 2 ^ 64 → lastUnit a ≤ 2 ^ 11 := by
    intro a ha
    have hlog : a.log2 < 64 := by
      by_cases hzero : a = 0
      · rw [hzero]
        decide
      · exact (Nat.log2_lt hzero).2 ha
    exact Nat.pow_le_pow_right (by decide) (by omega)
  have hcn := roundHalfEven_close n (lastUnit_pos n)
  have hcm := roundHalfEven_close m (lastUnit_pos m)
  have hun := hunit hn
  have hum := hunit hm
  unfold nearestNat at h
  exact ⟨hlarge h hne, hlarge h.symm hne.symm, by omega, by omega⟩

@[simp] theorem nearestInt_natCast (n : Nat) : nearestInt n = nearestNat n := by
  cases n with
  | zero => rfl
  | succ n =>
      show Int.sign ((n + 1 : Nat) : Int) * _ = _
      rw [Int.sign_natCast_of_ne_zero (Nat.succ_ne_zero n), Int.one_mul]
      rfl

@[simp] theorem nearestInt_neg (n : Int) : nearestInt (-n) = -nearestInt n := by
  rw [nearestInt, nearestInt, Int.sign_neg, Int.natAbs_neg, Int.neg_mul]

theorem nearestInt_mono {n m : Int} (h : n ≤ m) : nearestInt n ≤ nearestInt m := by
  obtain ⟨a, rfl | rfl⟩ := Int.eq_nat_or_neg n <;> obtain ⟨b, rfl | rfl⟩ := Int.eq_nat_or_neg m
  · have := nearestNat_mono (n := a) (m := b) (by omega)
    simp only [nearestInt_natCast]
    omega
  -- a natural is at most the opposite of a natural only if both are zero
  · obtain ⟨rfl, rfl⟩ : a = 0 ∧ b = 0 := by omega
    rfl
  · simp only [nearestInt_natCast, nearestInt_neg]
    omega
  · have := nearestNat_mono (n := b) (m := a) (by omega)
    simp only [nearestInt_natCast, nearestInt_neg]
    omega

/-- **Integers with one nearest double** are the same or large, and they are close to one another. -/
theorem close_of_nearestInt_eq {n m : Int} (h : nearestInt n = nearestInt m) (hne : n ≠ m)
    (hn : n.natAbs < 2 ^ 64) (hm : m.natAbs < 2 ^ 64) :
    2 ^ 53 ≤ n.natAbs ∧ 2 ^ 53 ≤ m.natAbs ∧ (n - m).natAbs ≤ 2 ^ 11 := by
  obtain ⟨a, rfl | rfl⟩ := Int.eq_nat_or_neg n <;> obtain ⟨b, rfl | rfl⟩ := Int.eq_nat_or_neg m <;>
    simp only [nearestInt_natCast, nearestInt_neg] at h <;>
    simp only [Int.natAbs_neg, Int.natAbs_natCast] at hn hm ⊢
  · have := close_of_nearestNat_eq (n := a) (m := b) (by omega) (by omega) hn hm
    omega
  -- integers of different signs round to the same one only if that is zero
  · have := nearestNat_pos (n := a)
    have := nearestNat_pos (n := b)
    omega
  · have := nearestNat_pos (n := a)
    have := nearestNat_pos (n := b)
    omega
  · have := close_of_nearestNat_eq (n := a) (m := b) (by omega) (by omega) hn hm
    omega

/-! ## The double nearest to an integer -/

theorem magnitude_ofMagnitude (negative : Bool) {m : Nat} (h : m < 2 ^ 63) :
    (ofMagnitude negative m).magnitude = m := by
  simp only [magnitude, ofMagnitude, Nat.pow_eq]
  cases negative <;> simp <;> omega

theorem negative_ofMagnitude (negative : Bool) {m : Nat} (h : m < 2 ^ 63) :
    (ofMagnitude negative m).negative = negative := by
  simp only [Double.negative, ofMagnitude, Nat.pow_eq]
  cases negative <;> simp <;> omega

theorem isFinite_of_magnitude_lt {d : Double} (h : d.magnitude < 2047 * 2 ^ 52) :
    d.isFinite = true := by
  have hfield : d.exponentField ≠ 2047 := by
    unfold exponentField
    simp only [Nat.pow_eq]
    omega
  simpa [isFinite] using hfield

/-- A pattern that is put together from an exponent and a significand has the value that they stand for,
also where the significand runs over into the exponent. -/
theorem value_of_magnitude {d : Double} {e : Int} {r : Nat} (he : -1074 ≤ e) (hlow : 2 ^ 52 ≤ r)
    (hhigh : r ≤ 2 ^ 53) (h : d.magnitude = (e + 1074).toNat * 2 ^ 52 + r) :
    d.value = r * 2 ^ e := by
  have hmag := magnitude_eq d
  have hsig := significand_lt d
  have hexp := exponent_ge d
  have hlead : d.exponent ≠ -1074 → 2 ^ 52 ≤ d.significand := le_significand
  unfold value
  rcases Nat.lt_or_eq_of_le hhigh with hlt | rfl
  · obtain ⟨hd, hs⟩ : d.exponent = e ∧ d.significand = r := by
      by_cases hmin : d.exponent = -1074
      · omega
      · have := hlead hmin
        omega
    rw [hd, hs]
  · obtain ⟨hd, hs⟩ : d.exponent = e + 1 ∧ d.significand = 2 ^ 52 := by
      by_cases hmin : d.exponent = -1074
      · omega
      · have := hlead hmin
        omega
    rw [hd, hs, zpow_add_one₀ (by norm_num)]
    push_cast
    ring

/-- The unit of the last bit of a natural number. -/
theorem unitExponent_natural {n : Nat} (h : n ≠ 0) : unitExponent n 1 = n.log2 - 52 := by
  have hlow : (2 : ℚ) ^ n.log2 ≤ n := by exact_mod_cast Nat.log2_self_le h
  have hhigh : (n : ℚ) < 2 ^ (n.log2 + 1) := by exact_mod_cast (Nat.lt_log2_self : n < _)
  refine unitExponent_eq h Nat.one_ne_zero (by omega) (fun _ => ?_) ?_
  · have hexp : (n.log2 : Int) - 52 + 52 = (n.log2 : Nat) := by omega
    rw [hexp, zpow_natCast, Nat.cast_one, div_one]
    exact hlow
  · have hexp : (n.log2 : Int) - 52 + 53 = ((n.log2 + 1 : Nat) : Int) := by omega
    rw [hexp, zpow_natCast, Nat.cast_one, div_one]
    exact hhigh

/-- The significand to which a natural is rounded, and the natural of 53 bits that it stands for. -/
theorem significand_natural {n : Nat} (h : n ≠ 0) :
    ∃ r, roundHalfEven (shifted n 1 (n.log2 - 52)).1 (shifted n 1 (n.log2 - 52)).2 = r ∧
      2 ^ 52 ≤ r ∧ r ≤ 2 ^ 53 ∧ (r : ℚ) * 2 ^ ((n.log2 : Int) - 52) = nearestNat n := by
  refine ⟨_, rfl, ?_⟩
  by_cases hlog : 52 ≤ n.log2
  · have hexp : (n.log2 : Int) - 52 = ((n.log2 - 52 : Nat) : Int) := by omega
    have hshift : shifted n 1 ((n.log2 - 52 : Nat) : Int) = (n, lastUnit n) := by
      show (n, 1 * Nat.pow 2 (n.log2 - 52)) = _
      rw [Nat.one_mul]
      rfl
    rw [hexp, hshift]
    refine ⟨(roundHalfEven_leadingBits hlog).1, (roundHalfEven_leadingBits hlog).2, ?_⟩
    rw [nearestNat, zpow_natCast, lastUnit]
    push_cast
    rfl
  -- a shorter natural is filled up with zeros, and rounding does not move it
  · obtain ⟨k, hk⟩ : ∃ k : Nat, n.log2 + (k + 1) = 52 := ⟨51 - n.log2, by omega⟩
    have hexp : (n.log2 : Int) - 52 = Int.negSucc k := by omega
    have hshift : shifted n 1 (Int.negSucc k) = (n * 2 ^ (k + 1), 1) := rfl
    have hround := roundHalfEven_mul (n * 2 ^ (k + 1)) Nat.one_pos
    rw [Nat.mul_one] at hround
    have hlow := Nat.mul_le_mul_right (2 ^ (k + 1)) (Nat.log2_self_le h)
    have hhigh := Nat.mul_lt_mul_of_pos_right (Nat.lt_log2_self (n := n))
      (Nat.pow_pos (n := k + 1) (show 0 < 2 by decide))
    have hexp' : n.log2 + 1 + (k + 1) = 53 := by omega
    rw [← Nat.pow_add, hk] at hlow
    rw [← Nat.pow_add, hexp'] at hhigh
    have hsmall : n ≤ 2 ^ 53 := le_trans (Nat.le_mul_of_pos_right n (Nat.pow_pos (by decide))) hhigh.le
    rw [hexp, hshift, hround, nearestNat_of_le hsmall]
    refine ⟨hlow, hhigh.le, ?_⟩
    rw [zpow_negSucc]
    push_cast
    field_simp

/-- **The double nearest to an integer is the integer rounded to 53 significant bits.** -/
theorem ofRatio_natural (negative : Bool) {n : Nat} (h : n < 2 ^ 64) :
    (ofRatio negative n 1).isFinite = true ∧
      (ofRatio negative n 1).signedValue =
        ((if negative then -nearestNat n else nearestNat n : Int) : ℚ) := by
  by_cases hzero : n = 0
  · subst hzero
    have hvalue : (ofRatio negative 0 1).value = 0 :=
      value_eq_zero_iff.2 (magnitude_ofMagnitude negative (by decide))
    refine ⟨by cases negative <;> decide, ?_⟩
    rw [signedValue, hvalue, nearestNat_zero]
    simp
  have hlog : n.log2 < 64 := (Nat.log2_lt hzero).2 h
  obtain ⟨r, hr, hlow, hhigh, hvalue⟩ := significand_natural hzero
  have hsmall : ((n.log2 : Int) - 52 + 1074).toNat * 2 ^ 52 + r < 2047 * 2 ^ 52 := by omega
  have hof : ofRatio negative n 1 =
      ofMagnitude negative (((n.log2 : Int) - 52 + 1074).toNat * 2 ^ 52 + r) := by
    unfold ofRatio
    dsimp only
    rw [if_neg hzero, unitExponent_natural hzero, hr, Nat.pow_eq, if_pos hsmall]
  have hmag := magnitude_ofMagnitude negative (hsmall.trans (by decide))
  have hneg := negative_ofMagnitude negative (hsmall.trans (by decide))
  rw [← hof] at hmag hneg
  refine ⟨isFinite_of_magnitude_lt (hmag ▸ hsmall), ?_⟩
  rw [signedValue, hneg, value_of_magnitude (by omega) hlow hhigh hmag, hvalue]
  cases negative <;> simp

theorem ofInt_nearest {n : Int} (h : n.natAbs < 2 ^ 64) :
    (ofInt n).isFinite = true ∧ (ofInt n).signedValue = nearestInt n := by
  have hsign : (if decide (n < 0) = true then -nearestNat n.natAbs else nearestNat n.natAbs : Int) =
      nearestInt n := by
    obtain ⟨a, rfl | rfl⟩ := Int.eq_nat_or_neg n
    · simp
    · cases a with
      | zero => rfl
      | succ a =>
        rw [if_pos (by simp; omega), Int.natAbs_neg, Int.natAbs_natCast, nearestInt_neg,
          nearestInt_natCast]
  have hof := ofRatio_natural (decide (n < 0)) h
  rw [hsign] at hof
  exact hof

end Double

end RuleEngine
