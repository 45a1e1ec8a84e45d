import RuleEngine.Duration
import RuleEngine.Proofs.Double.Integer

set_option autoImplicit false

/-! # Seconds as durations

A number of seconds that is not below zero has a duration if and only if it is less than 2^64
(`Duration.ofSeconds?_isSome_iff`). The largest double below 2^64 is an integer, so that rounding to
nanoseconds does not run over the bound. A number of milliseconds keeps its sign where it is divided
by a thousand.
-/

namespace RuleEngine

namespace Double

variable {d : Double}

/-! ## Signs -/

theorem isBelowZero_iff (h : d.isFinite = true) : d.isBelowZero = true ↔ d.signedValue < 0 := by
  have hzero : (zero false).signedValue = 0 := by
    have hvalue : (zero false).value = 0 :=
      value_eq_zero_iff.2 (magnitude_ofMagnitude false (by decide))
    unfold signedValue
    rw [hvalue]
    simp
  have hplace := place_lt_place_iff (a := d) (b := zero false)
  rw [hzero] at hplace
  rw [← hplace, ← compare_lt_iff_lt]
  unfold isBelowZero order
  rw [isNaN_of_isFinite h]
  have hnan : (zero false).isNaN = false := by decide
  rw [hnan]
  simp

theorem negative_ofRatio (negative : Bool) (num den : Nat) :
    (ofRatio negative num den).negative = negative := by
  unfold ofRatio
  dsimp only
  split
  · exact negative_ofMagnitude negative (by decide)
  · split
    · next hsmall => exact negative_ofMagnitude negative (lt_trans hsmall (by decide))
    · exact negative_ofMagnitude negative (by decide)

theorem isBelowZero_of_negative (h : d.negative = false) : d.isBelowZero = false := by
  have hplace : ¬d.place < (zero false).place := by
    have hzero : (zero false).place = 0 := by decide
    unfold place at hzero ⊢
    rw [hzero, h, if_neg (by decide)]
    omega
  unfold isBelowZero order
  split
  · rfl
  · rw [← Bool.not_eq_true, beq_iff_eq, Option.some.injEq, compare_lt_iff_lt]
    exact hplace

/-- A number that is not below zero stays so where it is multiplied. -/
theorem isBelowZero_scale (h : d.isFinite = true) (hsign : d.isBelowZero = false) (num den : Nat) :
    (d.scale num den).isBelowZero = false := by
  unfold scale
  rw [if_pos h]
  cases hnegative : d.negative with
  | false => exact isBelowZero_of_negative (negative_ofRatio _ _ _)
  | true =>
      -- this is minus zero
      rw [← Bool.not_eq_true, isBelowZero_iff h, signedValue, hnegative, if_pos rfl] at hsign
      have hvalue : d.value = 0 := by
        have hnonneg := value_nonneg d
        linarith
      have hratio : d.ratio.1 = 0 := by
        have hquotient := d.ratio_quotient
        rw [hvalue, div_eq_zero_iff] at hquotient
        have hden : (d.ratio.2 : ℚ) ≠ 0 := by exact_mod_cast d.ratio_den_pos.ne'
        exact_mod_cast hquotient.resolve_right hden
      rw [hratio, Nat.zero_mul, ofRatio, if_pos rfl]
      decide

/-! ## Below 2^64 -/

theorem isFinite_of_value_lt (h : d.value < 2 ^ 64) : d.isFinite = true := by
  by_contra hinf
  have hfield : d.exponentField = 2047 := by simpa [isFinite] using hinf
  have hexp : d.exponent = 972 := by
    unfold exponent
    rw [hfield]
    decide
  have hlead : (2 : ℚ) ^ 52 ≤ d.significand := by
    exact_mod_cast le_significand (by rw [hexp]; decide)
  refine absurd h (not_lt.2 ?_)
  calc (2 : ℚ) ^ 64 = 2 ^ 52 * 2 ^ (12 : Int) := by norm_num
    _ ≤ 2 ^ 52 * 2 ^ (972 : Int) :=
      mul_le_mul_of_nonneg_left (zpow_le_zpow_right₀ (by norm_num) (by norm_num)) (by norm_num)
    _ ≤ d.value := by
      unfold value
      rw [hexp]
      exact mul_le_mul_of_nonneg_right hlead (two_zpow_pos _).le

/-- The largest double below 2^64 is 2^11 below it. -/
theorem value_le_of_lt (h : d.value < 2 ^ 64) : d.value ≤ 2 ^ 64 - 2 ^ 11 := by
  have hbound : (ofMagnitude false (1087 * 2 ^ 52)).value = 2 ^ 64 := by
    have hsig : (ofMagnitude false (1087 * 2 ^ 52)).significand = 2 ^ 52 := by decide +kernel
    have hexp : (ofMagnitude false (1087 * 2 ^ 52)).exponent = 12 := by decide +kernel
    rw [value, hsig, hexp]
    norm_num
  have hlargest : (ofMagnitude false (1087 * 2 ^ 52 - 1)).value = 2 ^ 64 - 2 ^ 11 := by
    have hsig : (ofMagnitude false (1087 * 2 ^ 52 - 1)).significand = 2 ^ 53 - 1 := by
      decide +kernel
    have hexp : (ofMagnitude false (1087 * 2 ^ 52 - 1)).exponent = 11 := by decide +kernel
    rw [value, hsig, hexp]
    norm_num
  rw [← hbound, value_lt_value_iff, magnitude_ofMagnitude false (by decide)] at h
  rw [← hlargest, ← not_lt, value_lt_value_iff, magnitude_ofMagnitude false (by decide)]
  omega

end Double

namespace Duration

variable {d : Double}

/-- Durations end below 2^64 seconds. -/
theorem ofSeconds?_of_le (h : 2 ^ 64 ≤ d.value) : ofSeconds? d = none := by
  have hden : 0 < d.ratio.2 := d.ratio_den_pos
  have hquotient := d.ratio_quotient
  have hle : 2 ^ 64 * 10 ^ 9 * d.ratio.2 ≤ d.ratio.1 * Nat.pow 10 9 := by
    rw [← hquotient, le_div_iff₀ (by exact_mod_cast hden)] at h
    have h' : 2 ^ 64 * d.ratio.2 ≤ d.ratio.1 := by exact_mod_cast h
    rw [Nat.pow_eq]
    omega
  have hround := Double.roundHalfEven_mono d.ratio.2 hle
  rw [Double.roundHalfEven_mul _ hden] at hround
  unfold ofSeconds?
  split
  · rfl
  · simp only [Nat.pow_eq] at hround ⊢
    exact if_neg (Nat.not_lt.2 hround)

/-- All seconds below 2^64 have a duration. -/
theorem ofSeconds?_of_lt (hsign : d.isBelowZero = false) (h : d.value < 2 ^ 64) :
    (ofSeconds? d).isSome = true := by
  have hden : 0 < d.ratio.2 := d.ratio_den_pos
  have hquotient := d.ratio_quotient
  have hle : d.ratio.1 * Nat.pow 10 9 ≤ (2 ^ 64 - 2 ^ 11) * 10 ^ 9 * d.ratio.2 := by
    have hvalue := Double.value_le_of_lt h
    rw [← hquotient, div_le_iff₀ (by exact_mod_cast hden)] at hvalue
    have hnat : d.ratio.1 ≤ (2 ^ 64 - 2 ^ 11) * d.ratio.2 := by
      have hcast : ((2 ^ 64 - 2 ^ 11 : Nat) : ℚ) = 2 ^ 64 - 2 ^ 11 := by norm_num
      rw [← hcast] at hvalue
      exact_mod_cast hvalue
    rw [Nat.pow_eq]
    omega
  have hround := Double.roundHalfEven_mono d.ratio.2 hle
  rw [Double.roundHalfEven_mul _ hden] at hround
  unfold ofSeconds?
  rw [Double.isFinite_of_value_lt h, hsign, if_neg (by decide)]
  dsimp only
  rw [if_pos (lt_of_le_of_lt hround (by decide))]
  rfl

theorem ofSeconds?_isSome_iff (hsign : d.isBelowZero = false) :
    (ofSeconds? d).isSome = true ↔ d.value < 2 ^ 64 := by
  refine ⟨fun h => ?_, ofSeconds?_of_lt hsign⟩
  by_contra hlarge
  rw [ofSeconds?_of_le (not_lt.1 hlarge)] at h
  cases h

end Duration

end RuleEngine
