import Mathlib.Algebra.Order.Field.Power
import Mathlib.Tactic.FieldSimp
import Mathlib.Tactic.Linarith
import Mathlib.Tactic.Positivity
import RuleEngine.Double

set_option autoImplicit false

/-! # What rounds to a double

The absolute value of a finite double is `significand · 2 ^ exponent`. The values that round to it
reach half a unit of its last bit to either side, and only a quarter downwards where the binade
below begins (`Double.Near`). Rounding a quotient from this interval gives the double back
(`Double.ofRatio_eq_of_near`).
-/

namespace RuleEngine

namespace Double

/-! ## Fields of the pattern -/

/-- The absolute value of a finite double. -/
def value (d : Double) : ℚ := d.significand * 2 ^ d.exponent

theorem toNat_bits (d : Double) :
    d.bits.toNat = d.magnitude + if d.negative then 2 ^ 63 else 0 := by
  have hlt : d.bits.toNat < 2 ^ 64 := d.bits.toNat_lt
  simp only [magnitude, negative, Nat.pow_eq, decide_eq_true_eq]
  split
  · omega
  · omega

theorem ofMagnitude_self (d : Double) : ofMagnitude d.negative d.magnitude = d := by
  have h := toNat_bits d
  cases d with
  | mk bits =>
    simp only [ofMagnitude, Nat.pow_eq, ← h, UInt64.ofNat_toNat]

theorem fraction_lt (d : Double) : d.fraction < 2 ^ 52 := Nat.mod_lt _ (by decide)

theorem magnitude_eq_fields (d : Double) :
    d.magnitude = d.exponentField * 2 ^ 52 + d.fraction := by
  simp only [exponentField, fraction, Nat.pow_eq]
  omega

theorem isNaN_of_isFinite {d : Double} (h : d.isFinite = true) : d.isNaN = false := by
  unfold isNaN
  rw [Bool.and_eq_false_iff]
  left
  simpa [isFinite] using h

theorem exponent_ge (d : Double) : -1074 ≤ d.exponent := by
  unfold exponent
  split <;> omega

/-- The fields of the pattern are the exponent, counted from its least value, and the significand
on top of it. -/
theorem magnitude_eq (d : Double) :
    d.magnitude = (d.exponent + 1074).toNat * 2 ^ 52 + d.significand := by
  have h := magnitude_eq_fields d
  unfold exponent significand
  split
  · next hzero =>
    rw [hzero] at h
    rw [h]
    rfl
  · next hpos =>
    obtain ⟨n, hn⟩ := Nat.exists_eq_succ_of_ne_zero hpos
    have hstep : ((d.exponentField : Int) - 1075 + 1074).toNat = n := by omega
    rw [h, hstep, hn, Nat.succ_mul, Nat.pow_eq, Nat.add_assoc]

theorem significand_lt (d : Double) : d.significand < 2 ^ 53 := by
  have := fraction_lt d
  unfold significand
  split
  · omega
  · simp only [Nat.pow_eq]
    omega

/-- Above the least exponent, the leading bit of the significand is set. -/
theorem le_significand {d : Double} (h : d.exponent ≠ -1074) : 2 ^ 52 ≤ d.significand := by
  unfold exponent at h
  unfold significand
  split at h
  · exact absurd rfl h
  · next he =>
    rw [if_neg he, Nat.pow_eq]
    omega

theorem magnitude_lt {d : Double} (h : d.isFinite = true) : d.magnitude < 2047 * 2 ^ 52 := by
  have hfield : d.exponentField ≠ 2047 := by simpa [isFinite] using h
  have hlt : d.magnitude < 2 ^ 63 := Nat.mod_lt _ (by decide)
  simp only [exponentField, Nat.pow_eq] at hfield
  omega

/-- The exponent of a finite double stays below that of infinity. -/
theorem exponent_le {d : Double} (h : d.isFinite = true) : d.exponent ≤ 971 := by
  have hlt := magnitude_lt h
  have he := magnitude_eq_fields d
  unfold exponent
  split <;> omega

/-! ## Quotients -/

theorem two_zpow_pos (e : Int) : (0 : ℚ) < 2 ^ e := zpow_pos (by norm_num) e

/-- `2 ^ e` grows with the exponent. -/
theorem lt_of_two_zpow_lt {a b : Int} (h : (2 : ℚ) ^ a < 2 ^ b) : a < b :=
  (zpow_lt_zpow_iff_right₀ (by norm_num)).1 h

theorem shifted_den_pos (num : Nat) {den : Nat} (h : 0 < den) (e : Int) : 0 < (shifted num den e).2 := by
  unfold shifted
  split
  · exact Nat.mul_pos h (Nat.pow_pos (by decide))
  · exact h

theorem shifted_quotient (num den : Nat) (e : Int) :
    ((shifted num den e).1 : ℚ) / (shifted num den e).2 = (num : ℚ) / den / 2 ^ e := by
  unfold shifted
  cases e with
  | ofNat k =>
      simp only [Nat.pow_eq, Nat.cast_mul, Nat.cast_pow, Nat.cast_ofNat, Int.ofNat_eq_natCast,
        zpow_natCast]
      rw [div_div]
  | negSucc k =>
      simp only [Nat.pow_eq, Nat.cast_mul, Nat.cast_pow, Nat.cast_ofNat, zpow_negSucc, div_inv_eq_mul]
      rw [div_mul_eq_mul_div]

theorem ratio_den_pos (d : Double) : 0 < d.ratio.2 := by
  unfold ratio
  split
  · exact Nat.one_pos
  · exact Nat.pow_pos (by decide)

theorem ratio_quotient (d : Double) : (d.ratio.1 : ℚ) / d.ratio.2 = d.value := by
  unfold ratio value
  cases he : d.exponent with
  | ofNat k => simp
  | negSucc k => simp [zpow_negSucc, div_eq_mul_inv]

/-! ## Rounding a quotient -/

/-- A quotient lies within half a unit of a natural, and at half a unit the natural is even. -/
structure Nearest (m : Nat) (x : ℚ) : Prop where
  low : m ≤ x + 1 / 2
  high : x ≤ m + 1 / 2
  even : m = x + 1 / 2 ∨ x = m + 1 / 2 → m % 2 = 0

theorem roundHalfEven_eq {num den m : Nat} (hden : 0 < den) (h : Nearest m (num / den)) :
    roundHalfEven num den = m := by
  have hpos : (0 : ℚ) < den := by exact_mod_cast hden
  have hcancel : (num : ℚ) / den * den = num := div_mul_cancel₀ _ hpos.ne'
  have hlow : 2 * (m * den) ≤ 2 * num + den := by
    have := mul_le_mul_of_nonneg_right h.low hpos.le
    exact_mod_cast (by linarith : (2 : ℚ) * (m * den) ≤ 2 * num + den)
  have hhigh : 2 * num ≤ 2 * (m * den) + den := by
    have := mul_le_mul_of_nonneg_right h.high hpos.le
    exact_mod_cast (by linarith : (2 : ℚ) * num ≤ 2 * (m * den) + den)
  have hdown : 2 * (m * den) = 2 * num + den → m % 2 = 0 := by
    intro ho
    have ho' : (2 : ℚ) * (m * den) = 2 * num + den := by exact_mod_cast ho
    refine h.even (Or.inl (mul_right_cancel₀ hpos.ne' ?_))
    linarith
  have hup : 2 * num = 2 * (m * den) + den → m % 2 = 0 := by
    intro ho
    have ho' : (2 : ℚ) * num = 2 * (m * den) + den := by exact_mod_cast ho
    refine h.even (Or.inr (mul_right_cancel₀ hpos.ne' ?_))
    linarith
  have hdiv : den * (num / den) + num % den = num := Nat.div_add_mod num den
  have hmod : num % den < den := Nat.mod_lt _ hden
  unfold roundHalfEven
  generalize num / den = q at hdiv ⊢
  generalize num % den = r at hdiv hmod ⊢
  -- the natural is the quotient cut off or its successor
  have hm : m = q ∨ m = q + 1 := by
    rcases Nat.lt_trichotomy m q with hlt | heq | hgt
    · have := Nat.mul_le_mul_right den hlt
      rw [Nat.succ_mul, Nat.mul_comm q] at this
      omega
    · exact Or.inl heq
    · rcases Nat.lt_or_ge (q + 1) m with hlt | hge
      · have := Nat.mul_le_mul_right den hlt
        rw [Nat.succ_mul, Nat.succ_mul, Nat.mul_comm q] at this
        omega
      · exact Or.inr (by omega)
  rcases hm with rfl | rfl
  · rw [Nat.mul_comm m] at hhigh hup
    rw [if_pos]
    simp only [Bool.or_eq_true, decide_eq_true_eq, Bool.and_eq_true]
    omega
  · rw [Nat.succ_mul q, Nat.mul_comm q] at hlow hdown
    rw [if_neg]
    simp only [Bool.or_eq_true, decide_eq_true_eq, Bool.and_eq_true]
    omega

/-! ## The unit of the last bit -/

/-- The binary logarithms of a quotient enclose it. -/
theorem quotient_bounds {num den : Nat} (hn : num ≠ 0) (hd : den ≠ 0) :
    (2 : ℚ) ^ ((num.log2 : Int) - den.log2 - 1) < num / den ∧
      (num : ℚ) / den < 2 ^ ((num.log2 : Int) - den.log2 + 1) := by
  have hnum : (2 : ℚ) ^ (num.log2 : Int) ≤ num := by
    rw [zpow_natCast]
    exact_mod_cast Nat.log2_self_le hn
  have hnum' : (num : ℚ) < 2 ^ ((num.log2 : Int) + 1) := by
    have : num < 2 ^ (num.log2 + 1) := Nat.lt_log2_self
    exact_mod_cast this
  have hden : (2 : ℚ) ^ (den.log2 : Int) ≤ den := by
    rw [zpow_natCast]
    exact_mod_cast Nat.log2_self_le hd
  have hden' : (den : ℚ) < 2 ^ ((den.log2 : Int) + 1) := by
    have : den < 2 ^ (den.log2 + 1) := Nat.lt_log2_self
    exact_mod_cast this
  have hpos : (0 : ℚ) < den := lt_of_lt_of_le (two_zpow_pos _) hden
  constructor
  · rw [lt_div_iff₀ hpos]
    calc (2 : ℚ) ^ ((num.log2 : Int) - den.log2 - 1) * den
        < 2 ^ ((num.log2 : Int) - den.log2 - 1) * 2 ^ ((den.log2 : Int) + 1) :=
          mul_lt_mul_of_pos_left hden' (two_zpow_pos _)
      _ = 2 ^ (num.log2 : Int) := by
          rw [← zpow_add₀ (by norm_num)]
          congr 1
          omega
      _ ≤ num := hnum
  · rw [div_lt_iff₀ hpos]
    calc (num : ℚ) < 2 ^ ((num.log2 : Int) + 1) := hnum'
      _ = 2 ^ ((num.log2 : Int) - den.log2 + 1) * 2 ^ (den.log2 : Int) := by
          rw [← zpow_add₀ (by norm_num)]
          congr 1
          omega
      _ ≤ 2 ^ ((num.log2 : Int) - den.log2 + 1) * den :=
          mul_le_mul_of_nonneg_left hden (two_zpow_pos _).le

/-- The test by which the unit of the last bit is found. -/
theorem shifted_lt_iff {num den : Nat} (hd : 0 < den) (e : Int) :
    (shifted num den e).1 / (shifted num den e).2 < Nat.pow 2 53 ↔
      (num : ℚ) / den < 2 ^ (e + 53) := by
  have hpos := shifted_den_pos num hd e
  have hpos' : (0 : ℚ) < (shifted num den e).2 := by exact_mod_cast hpos
  rw [Nat.pow_eq, Nat.div_lt_iff_lt_mul hpos, zpow_add₀ (by norm_num), mul_comm ((2 : ℚ) ^ e),
    ← div_lt_iff₀ (two_zpow_pos e), ← shifted_quotient, div_lt_iff₀ hpos']
  norm_cast

/-- The unit of the last bit is the power of two that makes the quotient a significand. -/
theorem unitExponent_eq {num den : Nat} (hn : num ≠ 0) (hd : den ≠ 0) {e : Int} (he : -1074 ≤ e)
    (hlow : e ≠ -1074 → (2 : ℚ) ^ (e + 52) ≤ num / den) (hhigh : (num : ℚ) / den < 2 ^ (e + 53)) :
    unitExponent num den = e := by
  obtain ⟨hlow', hhigh'⟩ := quotient_bounds hn hd
  -- the exponent that the search settles on before it is cut off from below
  have huniq : ∀ f : Int, (2 : ℚ) ^ (f + 52) ≤ num / den → (num : ℚ) / den < 2 ^ (f + 53) →
      max (-1074) f = e := by
    intro f hf hf'
    have h₁ : f + 52 < e + 53 := lt_of_two_zpow_lt (lt_of_le_of_lt hf hhigh)
    by_cases hmin : e = -1074
    · omega
    · have h₂ : e + 52 < f + 53 := lt_of_two_zpow_lt (lt_of_le_of_lt (hlow hmin) hf')
      omega
  unfold unitExponent
  dsimp only
  by_cases hlt : (num : ℚ) / den < 2 ^ ((num.log2 : Int) - den.log2 - 53 + 53)
  · rw [if_pos ((shifted_lt_iff (Nat.pos_of_ne_zero hd) _).2 hlt)]
    refine huniq _ ?_ hlt
    have : (num.log2 : Int) - den.log2 - 53 + 52 = num.log2 - den.log2 - 1 := by omega
    rw [this]
    exact hlow'.le
  · rw [if_neg (fun h => hlt ((shifted_lt_iff (Nat.pos_of_ne_zero hd) _).1 h))]
    refine huniq _ ?_ ?_
    · have : (num.log2 : Int) - den.log2 - 53 + 1 + 52 = num.log2 - den.log2 - 53 + 53 := by omega
      rw [this]
      exact not_lt.1 hlt
    · have : (num.log2 : Int) - den.log2 - 53 + 1 + 53 = num.log2 - den.log2 + 1 := by omega
      rw [this]
      exact hhigh'

/-! ## The interval of a double -/

/-- How far down the interval of a double reaches, in quarters of its unit: half as far where the
binade below begins. -/
def gap (d : Double) : Nat := if d.fraction = 0 && d.exponentField > 1 then 1 else 2

/-- The value lies in the interval of a double; the ends belong to it if the double is even. -/
structure Near (d : Double) (x : ℚ) : Prop where
  low : d.significand - d.gap / 4 ≤ x / 2 ^ d.exponent
  high : x / 2 ^ d.exponent ≤ d.significand + 1 / 2
  even : d.significand - d.gap / 4 = x / 2 ^ d.exponent ∨
    x / 2 ^ d.exponent = d.significand + 1 / 2 → d.significand % 2 = 0

theorem gap_le (d : Double) : (d.gap : ℚ) ≤ 2 := by
  unfold gap
  split <;> norm_num

theorem Near.nearest {d : Double} {x : ℚ} (h : Near d x) :
    Nearest d.significand (x / 2 ^ d.exponent) := by
  have hgap := gap_le d
  have hlow := h.low
  refine ⟨by linarith, h.high, ?_⟩
  rintro (heq | heq)
  · exact h.even (Or.inl (by linarith))
  · exact h.even (Or.inr heq)

/-- A double whose interval reaches into the binade below has only the leading bit set. -/
theorem Near.of_lt {d : Double} {x : ℚ} (h : Near d x) (he : d.exponent ≠ -1074)
    (hlt : x / 2 ^ d.exponent < 2 ^ 52) : d.significand = 2 ^ 52 ∧ d.gap = 1 := by
  have hle := le_significand he
  have hup : d.significand = 2 ^ 52 := by
    have hgap := gap_le d
    have hlow := h.low
    have : (d.significand : ℚ) < 2 ^ 52 + 1 := by linarith
    have : d.significand < 2 ^ 52 + 1 := by exact_mod_cast this
    omega
  refine ⟨hup, ?_⟩
  unfold exponent at he
  unfold significand at hup
  unfold gap
  rw [if_pos]
  simp only [Nat.pow_eq] at hup
  simp only [Bool.and_eq_true, decide_eq_true_eq]
  split at he
  · exact absurd rfl he
  · next hfield =>
    rw [if_neg hfield] at hup
    omega

/-- **A quotient from the interval of a double rounds to it.** -/
theorem ofRatio_eq_of_near {d : Double} (hfin : d.isFinite = true) {num den : Nat} (hn : num ≠ 0)
    (hd : den ≠ 0) (h : Near d (num / den)) : ofRatio d.negative num den = d := by
  have hden : 0 < den := Nat.pos_of_ne_zero hd
  -- it is enough to find the unit and the significand that make up the magnitude
  have hsum : ∀ (e : Int) (m : Nat), unitExponent num den = e →
      Nearest m ((num : ℚ) / den / 2 ^ e) → (e + 1074).toNat * 2 ^ 52 + m = d.magnitude →
      ofRatio d.negative num den = d := by
    intro e m he hm hmag
    rw [← shifted_quotient] at hm
    unfold ofRatio
    dsimp only
    rw [if_neg hn, he, roundHalfEven_eq (shifted_den_pos num hden e) hm, Nat.pow_eq, hmag,
      if_pos (magnitude_lt hfin), ofMagnitude_self]
  have hhigh : (num : ℚ) / den < 2 ^ (d.exponent + 53) := by
    rw [zpow_add₀ (by norm_num), mul_comm, ← div_lt_iff₀ (two_zpow_pos _)]
    have hm : (d.significand : ℚ) + 1 ≤ 2 ^ 53 := by exact_mod_cast significand_lt d
    have := h.high
    norm_num at hm ⊢
    linarith
  by_cases hbelow : d.exponent ≠ -1074 ∧ (num : ℚ) / den / 2 ^ d.exponent < 2 ^ 52
  · obtain ⟨hm, hg⟩ := h.of_lt hbelow.1 hbelow.2
    have hge := exponent_ge d
    have hscale : (num : ℚ) / den / 2 ^ (d.exponent - 1) = 2 * (num / den / 2 ^ d.exponent) := by
      rw [zpow_sub_one₀ (by norm_num)]
      field_simp
    have hlow := h.low
    rw [hm, hg] at hlow
    push_cast at hlow
    refine hsum (d.exponent - 1) (2 ^ 53) (unitExponent_eq hn hd (by omega) ?_ ?_) ?_ ?_
    · intro _
      rw [zpow_add₀ (by norm_num), mul_comm, ← le_div_iff₀ (two_zpow_pos _), hscale]
      norm_num at hlow ⊢
      linarith
    · rw [zpow_add₀ (by norm_num), mul_comm, ← div_lt_iff₀ (two_zpow_pos _), hscale]
      have := hbelow.2
      norm_num at this ⊢
      linarith
    · have := hbelow.2
      rw [hscale]
      refine ⟨?_, ?_, fun _ => by norm_num⟩
      · norm_num at hlow ⊢
        linarith
      · norm_num at this ⊢
        linarith
    · rw [magnitude_eq, hm]
      obtain ⟨n, hn'⟩ : ∃ n : Nat, d.exponent + 1074 = n + 1 := ⟨(d.exponent + 1073).toNat, by omega⟩
      have h₁ : (d.exponent - 1 + 1074).toNat = n := by omega
      have h₂ : (d.exponent + 1074).toNat = n + 1 := by omega
      rw [h₁, h₂]
      omega
  · refine hsum d.exponent d.significand (unitExponent_eq hn hd (exponent_ge d) ?_ hhigh)
      h.nearest (magnitude_eq d).symm
    intro he
    rw [zpow_add₀ (by norm_num), mul_comm, ← le_div_iff₀ (two_zpow_pos _)]
    have : ¬ (num : ℚ) / den / 2 ^ d.exponent < 2 ^ 52 := fun hlt => hbelow ⟨he, hlt⟩
    exact_mod_cast not_lt.1 this

/-! ## Powers of ten -/

/-- A power of ten is below the powers of two with ten thirds of its exponent. -/
theorem ten_zpow_le_two_zpow {a b : Int} (ha : 0 ≤ a) (h : 10 * a ≤ 3 * b) :
    (10 : ℚ) ^ a ≤ 2 ^ b := by
  refine (pow_le_pow_iff_left₀ (zpow_nonneg (by norm_num) a) (two_zpow_pos b).le
    (by decide : 3 ≠ 0)).1 ?_
  calc ((10 : ℚ) ^ a) ^ 3 = (10 ^ 3) ^ a := by rw [← zpow_natCast, ← zpow_natCast, zpow_comm]
    _ ≤ (2 ^ 10) ^ a := zpow_le_zpow_left₀ ha (by norm_num) (by norm_num)
    _ = 2 ^ (10 * a) := by rw [← zpow_natCast, ← zpow_mul]; rfl
    _ ≤ 2 ^ (3 * b) := zpow_le_zpow_right₀ (by norm_num) h
    _ = ((2 : ℚ) ^ b) ^ 3 := by rw [← zpow_natCast, ← zpow_mul, mul_comm]; rfl

/-- The same below one, where the quotient of the exponents is `93 / 28`. -/
theorem ten_zpow_le_two_zpow_of_nonpos {a b : Int} (ha : a ≤ 0) (h : 93 * a ≤ 28 * b) :
    (10 : ℚ) ^ a ≤ 2 ^ b := by
  refine (pow_le_pow_iff_left₀ (zpow_nonneg (by norm_num) a) (two_zpow_pos b).le
    (by decide : 28 ≠ 0)).1 ?_
  have hinv : ∀ x : ℚ, x ^ a = (x ^ (-a))⁻¹ := by
    intro x
    rw [zpow_neg, inv_inv]
  calc ((10 : ℚ) ^ a) ^ 28 = (10 ^ 28) ^ a := by rw [← zpow_natCast, ← zpow_natCast, zpow_comm]
    _ ≤ (2 ^ 93) ^ a := by
        rw [hinv, hinv]
        refine inv_anti₀ (zpow_pos (by norm_num) _) ?_
        exact zpow_le_zpow_left₀ (by omega) (by norm_num) (by norm_num)
    _ = 2 ^ (93 * a) := by rw [← zpow_natCast, ← zpow_mul]; rfl
    _ ≤ 2 ^ (28 * b) := zpow_le_zpow_right₀ (by norm_num) h
    _ = ((2 : ℚ) ^ b) ^ 28 := by rw [← zpow_natCast, ← zpow_mul, mul_comm]; rfl

/-! ## Decimals -/

/-- The interval of a finite double other than zero lies between these powers of two. -/
theorem Near.bounds {d : Double} (hfin : d.isFinite = true) (hm : d.significand ≠ 0) {x : ℚ}
    (h : Near d x) : (2 : ℚ) ^ (-1075 : Int) ≤ x ∧ x ≤ 2 ^ (1025 : Int) := by
  have hpos := two_zpow_pos d.exponent
  constructor
  · have hone : (1 : ℚ) ≤ d.significand := by exact_mod_cast Nat.one_le_iff_ne_zero.2 hm
    have hgap := gap_le d
    have hhalf : (2 : ℚ) ^ (-1 : Int) ≤ x / 2 ^ d.exponent := by
      have hlow := h.low
      norm_num
      linarith
    calc (2 : ℚ) ^ (-1075 : Int) = 2 ^ (-1 : Int) * 2 ^ (-1074 : Int) := by
          rw [← zpow_add₀ (by norm_num)]; rfl
      _ ≤ 2 ^ (-1 : Int) * 2 ^ d.exponent :=
          mul_le_mul_of_nonneg_left (zpow_le_zpow_right₀ (by norm_num) (exponent_ge d))
            (two_zpow_pos _).le
      _ ≤ x := (le_div_iff₀ hpos).1 hhalf
  · have hlt : (d.significand : ℚ) + 1 ≤ 2 ^ 53 := by exact_mod_cast significand_lt d
    have hup : x / 2 ^ d.exponent ≤ 2 ^ (54 : Int) := by
      have hhigh := h.high
      norm_num at hlt ⊢
      linarith
    calc x ≤ 2 ^ (54 : Int) * 2 ^ d.exponent := (div_le_iff₀ hpos).1 hup
      _ ≤ 2 ^ (54 : Int) * 2 ^ (971 : Int) :=
          mul_le_mul_of_nonneg_left (zpow_le_zpow_right₀ (by norm_num) (exponent_le hfin))
            (two_zpow_pos _).le
      _ = 2 ^ (1025 : Int) := by rw [← zpow_add₀ (by norm_num)]; rfl

/-- The decimal point of a decimal from such an interval is not cut off. -/
theorem point_bounds {c : Nat} (hc : c ≠ 0) {p : Int} (hp : -1000 ≤ p)
    (hlow : (2 : ℚ) ^ (-1075 : Int) ≤ c * 10 ^ p) (hhigh : c * (10 : ℚ) ^ p ≤ 2 ^ (1025 : Int)) :
    -400 ≤ (c.log2 : Int) * 30103 / 100000 + p ∧ (c.log2 : Int) * 30103 / 100000 + p ≤ 400 := by
  have hlog : (2 : ℚ) ^ (c.log2 : Int) ≤ c := by
    rw [zpow_natCast]
    exact_mod_cast Nat.log2_self_le hc
  have hlog' : (c : ℚ) < 2 ^ ((c.log2 : Int) + 1) := by
    have : c < 2 ^ (c.log2 + 1) := Nat.lt_log2_self
    exact_mod_cast this
  have hten : (0 : ℚ) < 10 ^ p := zpow_pos (by norm_num) p
  have hnonneg : (0 : Int) ≤ c.log2 := Int.natCast_nonneg _
  generalize (c.log2 : Int) = l at hlog hlog' hnonneg ⊢
  -- a power of two above the inverse of the power of ten bounds the logarithm from above
  have hupper : ∀ b : Int, (10 : ℚ) ^ (-p) ≤ 2 ^ b → l ≤ 1025 + b := by
    intro b hb
    refine (zpow_le_zpow_iff_right₀ (by norm_num : (1 : ℚ) < 2)).1 ?_
    calc (2 : ℚ) ^ l ≤ c := hlog
      _ ≤ 2 ^ (1025 : Int) * 10 ^ (-p) := by
          rw [zpow_neg, ← div_eq_mul_inv]
          exact (le_div_iff₀ hten).2 hhigh
      _ ≤ 2 ^ (1025 : Int) * 2 ^ b := mul_le_mul_of_nonneg_left hb (two_zpow_pos _).le
      _ = 2 ^ (1025 + b) := by rw [← zpow_add₀ (by norm_num)]
  by_cases hsign : 0 ≤ p
  · have hl := hupper (-3 * p) (ten_zpow_le_two_zpow_of_nonpos (by omega) (by omega))
    omega
  · have hl := hupper ((-10 * p + 2) / 3) (ten_zpow_le_two_zpow (by omega) (by omega))
    -- and a power of two above the power of ten bounds it from below
    have hlower : -1075 < l + 1 + -((-93 * p) / 28) := by
      refine lt_of_two_zpow_lt ?_
      calc (2 : ℚ) ^ (-1075 : Int) ≤ c * 10 ^ p := hlow
        _ < 2 ^ (l + 1) * 10 ^ p := mul_lt_mul_of_pos_right hlog' hten
        _ ≤ 2 ^ (l + 1) * 2 ^ (-((-93 * p) / 28)) :=
            mul_le_mul_of_nonneg_left (ten_zpow_le_two_zpow_of_nonpos (by omega) (by omega))
              (two_zpow_pos _).le
        _ = 2 ^ (l + 1 + -((-93 * p) / 28)) := by rw [← zpow_add₀ (by norm_num)]
    omega

/-- **A decimal from the interval of a double denotes it.** -/
theorem ofDecimal_eq_of_near {d : Double} (hfin : d.isFinite = true) (hm : d.significand ≠ 0)
    {c : Nat} (hc : c ≠ 0) {p : Int} (hp : -1000 ≤ p) (h : Near d (c * 10 ^ p)) :
    ofDecimal d.negative c p = d := by
  obtain ⟨hlow, hhigh⟩ := h.bounds hfin hm
  obtain ⟨hpoint, hpoint'⟩ := point_bounds hc hp hlow hhigh
  unfold ofDecimal
  dsimp only
  rw [if_neg hc, if_neg (by omega), if_neg (by omega)]
  cases p with
  | ofNat k =>
      have hk : 0 < 10 ^ k := Nat.pow_pos (by decide)
      refine ofRatio_eq_of_near hfin (Nat.mul_ne_zero hc hk.ne') Nat.one_ne_zero ?_
      simpa using h
  | negSucc k =>
      have hk : 0 < 10 ^ (k + 1) := Nat.pow_pos (by decide)
      refine ofRatio_eq_of_near hfin hc hk.ne' ?_
      simpa [zpow_negSucc, div_eq_mul_inv] using h

end Double

end RuleEngine
