import Mathlib.Tactic.Ring
import RuleEngine.Decimal.Shortest
import RuleEngine.Proofs.Double.Rounding

set_option autoImplicit false

/-! # The shortest decimal reads back

The search for the shortest decimal ends at the latest on the grid of seventeen digits: its points
lie closer together there than the interval of a double is wide, so that one of the two neighbours
of the value lies in the interval. The decimal that is found therefore stands in the interval of
its double (`Decimal.shortest_near`), and rounding it gives the double back.
-/

namespace RuleEngine

namespace Decimal

open Double (Near gap two_zpow_pos lt_of_two_zpow_lt quotient_bounds ten_zpow_le_two_zpow
  ten_zpow_le_two_zpow_of_nonpos)

def value (x : Decimal) : ℚ := x.coefficient * 10 ^ x.power

theorem ten_zpow_pos (p : Int) : (0 : ℚ) < 10 ^ p := zpow_pos (by norm_num) p

/-! ## The ends of the interval -/

theorem onGrid_den_pos {num den : Nat} (h : 0 < den) (p : Int) : 0 < (onGrid num den p).2 := by
  unfold onGrid
  split
  · exact Nat.mul_pos h (Nat.pow_pos (by decide))
  · exact h

theorem onGrid_quotient (num den : Nat) (p : Int) :
    ((onGrid num den p).1 : ℚ) / (onGrid num den p).2 = (num : ℚ) / den / 10 ^ p := by
  unfold onGrid
  cases p with
  | ofNat k =>
      simp only [Nat.pow_eq, Nat.cast_mul, Nat.cast_pow, Nat.cast_ofNat, Int.ofNat_eq_natCast,
        zpow_natCast]
      rw [div_div]
  | negSucc k =>
      simp only [Nat.pow_eq, Nat.cast_mul, Nat.cast_pow, Nat.cast_ofNat, zpow_negSucc, div_inv_eq_mul]
      rw [div_mul_eq_mul_div]

/-- Comparison of a point of the grid with a quotient. -/
theorem onGrid_le_iff (num : Nat) {den : Nat} (h : 0 < den) (c : Nat) (p : Int) :
    (onGrid num den p).1 ≤ c * (onGrid num den p).2 ↔ (num : ℚ) / den ≤ c * 10 ^ p := by
  have hpos : (0 : ℚ) < (onGrid num den p).2 := by exact_mod_cast onGrid_den_pos h p
  rw [← div_le_iff₀ (ten_zpow_pos p), ← onGrid_quotient, div_le_iff₀ hpos]
  norm_cast

theorem le_onGrid_iff (num : Nat) {den : Nat} (h : 0 < den) (c : Nat) (p : Int) :
    c * (onGrid num den p).2 ≤ (onGrid num den p).1 ↔ c * 10 ^ p ≤ (num : ℚ) / den := by
  have hpos : (0 : ℚ) < (onGrid num den p).2 := by exact_mod_cast onGrid_den_pos h p
  rw [← le_div_iff₀ (ten_zpow_pos p), ← onGrid_quotient, le_div_iff₀ hpos]
  norm_cast

theorem interval_den_pos (d : Double) : 0 < (interval d).2.2 := by
  unfold interval
  dsimp only
  split
  · exact Nat.one_pos
  · exact Nat.pow_pos (by decide)

/-- The ends of the interval, in units of the last bit. -/
theorem interval_quotients {d : Double} (hm : d.significand ≠ 0) :
    ((interval d).1 : ℚ) / (interval d).2.2 = (d.significand - d.gap / 4) * 2 ^ d.exponent ∧
      ((interval d).2.1 : ℚ) / (interval d).2.2 = (d.significand + 1 / 2) * 2 ^ d.exponent := by
  have hquarter : (2 : ℚ) ^ d.exponent = 4 * 2 ^ (d.exponent - 2) := by
    rw [zpow_sub₀ (by norm_num)]
    norm_num
    ring
  have hgap : d.gap ≤ 4 * d.significand := by
    unfold gap
    split <;> omega
  -- the ends are computed in quarters of a unit, so that both are naturals
  rw [hquarter]
  show ((interval d).1 : ℚ) / _ = _ ∧ _
  unfold interval
  rw [← gap]
  cases he : d.exponent - 2 with
  | ofNat k =>
      simp only [Nat.pow_eq, Int.ofNat_eq_natCast, zpow_natCast]
      push_cast [Nat.cast_sub hgap]
      constructor <;> ring
  | negSucc k =>
      simp only [Nat.pow_eq, zpow_negSucc]
      push_cast [Nat.cast_sub hgap]
      constructor <;> ring

/-- **A point of the grid reads back as a double exactly if it lies in its interval.** -/
theorem readsBack_iff {d : Double} (hm : d.significand ≠ 0) (c : Nat) (p : Int) :
    readsBack d c p = true ↔ Near d (c * 10 ^ p) := by
  obtain ⟨hlow, hhigh⟩ := interval_quotients hm
  have hden := interval_den_pos d
  have hpos := two_zpow_pos d.exponent
  have hl := onGrid_le_iff (interval d).1 hden c p
  have hh := le_onGrid_iff (interval d).2.1 hden c p
  have hl' := le_onGrid_iff (interval d).1 hden c p
  have hh' := onGrid_le_iff (interval d).2.1 hden c p
  rw [hlow, ← le_div_iff₀ hpos] at hl
  rw [hhigh, ← div_le_iff₀ hpos] at hh
  rw [hlow, ← div_le_iff₀ hpos] at hl'
  rw [hhigh, ← le_div_iff₀ hpos] at hh'
  -- the ends themselves belong to the interval if the significand is even
  unfold readsBack
  dsimp only
  split
  · next heven =>
    simp only [Bool.and_eq_true, decide_eq_true_eq]
    rw [hl, hh]
    exact ⟨fun h => ⟨h.1, h.2, fun _ => heven⟩, fun h => ⟨h.low, h.high⟩⟩
  · next hodd =>
    simp only [Bool.and_eq_true, decide_eq_true_eq]
    rw [← not_le, ← not_le, hl', hh', not_le, not_le]
    constructor
    · rintro ⟨h₁, h₂⟩
      exact ⟨h₁.le, h₂.le, fun h => (h.elim h₁.ne h₂.ne).elim⟩
    · intro h
      exact ⟨lt_of_le_of_ne h.low fun he => hodd (h.even (Or.inl he)),
        lt_of_le_of_ne h.high fun he => hodd (h.even (Or.inr he))⟩

/-! ## The leading digit -/

/-- The power of ten with as many digits as a power of two, counted a little short. -/
theorem ten_zpow_le (l : Int) (hl : -1100 ≤ l) (hl' : l ≤ 1100) :
    (10 : ℚ) ^ (l * 30103 / 100000 - 2) ≤ 2 ^ (l - 1) := by
  have hfive : (10 : ℚ) ^ (l * 30103 / 100000) ≤ 2 ^ (l + 5) := by
    by_cases hsign : 0 ≤ l * 30103 / 100000
    · exact ten_zpow_le_two_zpow hsign (by omega)
    · exact ten_zpow_le_two_zpow_of_nonpos (by omega) (by omega)
  rw [zpow_sub₀ (by norm_num), zpow_sub₀ (by norm_num), div_le_iff₀ (by norm_num)]
  rw [zpow_add₀ (by norm_num)] at hfive
  have hpos := two_zpow_pos l
  norm_num at hfive ⊢
  linarith

/-- The point that the search starts from does not skip a digit. -/
theorem ten_zpow_pointOf_le {num den : Nat} (hn : num ≠ 0) (hd : 0 < den)
    (hl : -1100 ≤ (num.log2 : Int) - den.log2) (hl' : (num.log2 : Int) - den.log2 ≤ 1100) :
    (10 : ℚ) ^ (pointOf num den - 1) ≤ num / den := by
  have hguess := ten_zpow_le _ hl hl'
  have hlog := (quotient_bounds hn hd.ne').1
  -- the guess is raised only past powers of ten that the quotient reaches
  have hbelow : ∀ p : Int, ¬ (onGrid num den p).1 < (onGrid num den p).2 →
      (10 : ℚ) ^ p ≤ num / den := by
    intro p hp
    have := (le_onGrid_iff num hd 1 p).1 (by omega)
    simpa using this
  unfold pointOf
  simp only [decide_eq_true_eq]
  split
  · refine le_trans (le_of_eq ?_) (hguess.trans hlog.le)
    congr 1
    omega
  · next h₀ =>
    have hsecond := hbelow _ h₀
    split
    · rwa [add_sub_cancel_right]
    · next h₁ =>
      have hthird := hbelow _ h₁
      split
      · refine le_trans (le_of_eq ?_) hthird
        congr 1
        omega
      · next h₂ =>
        have hlast := hbelow _ h₂
        refine le_trans (le_of_eq ?_) hlast
        congr 1
        omega

theorem le_pointOf (num den : Nat) :
    ((num.log2 : Int) - den.log2) * 30103 / 100000 - 1 ≤ pointOf num den := by
  unfold pointOf
  dsimp only
  split
  · omega
  · split
    · omega
    · split <;> omega

/-! ## The finest grid -/

theorem near_of_lt {d : Double} {x : ℚ} (hlow : (d.significand - d.gap / 4) * 2 ^ d.exponent < x)
    (hhigh : x < (d.significand + 1 / 2) * 2 ^ d.exponent) : Near d x := by
  have hpos := two_zpow_pos d.exponent
  have hlow' := (lt_div_iff₀ hpos).2 hlow
  have hhigh' := (div_lt_iff₀ hpos).2 hhigh
  exact ⟨hlow'.le, hhigh'.le, fun h => (h.elim hlow'.ne hhigh'.ne).elim⟩

theorem gap_pos (d : Double) : (1 : ℚ) ≤ d.gap := by
  unfold gap
  split <;> norm_num

/-- A double lies in its own interval. -/
theorem near_value (d : Double) : Near d d.value := by
  have hpos := two_zpow_pos d.exponent
  have hgap := gap_pos d
  refine near_of_lt ?_ ?_
  · exact mul_lt_mul_of_pos_right (by linarith) hpos
  · exact mul_lt_mul_of_pos_right (by linarith) hpos

/-- The interval reaches down half a unit, or else only the leading bit of the double is set. -/
theorem gap_cases (d : Double) : d.gap = 2 ∨ d.gap = 1 ∧ d.significand = 2 ^ 52 := by
  unfold gap
  split
  · next h =>
    simp only [Bool.and_eq_true, decide_eq_true_eq] at h
    refine Or.inr ⟨rfl, ?_⟩
    unfold Double.significand
    rw [if_neg (by omega), h.1, Nat.pow_eq, Nat.add_zero]
  · exact Or.inl rfl

/-- On a grid of seventeen digits one of the neighbours of a double lies in its interval. -/
theorem near_neighbour {d : Double} (hm : d.significand ≠ 0) {c : Nat} {p : Int}
    (hfine : (10 : ℚ) ^ (p + 16) ≤ d.value) (hle : c * (10 : ℚ) ^ p ≤ d.value)
    (hlt : d.value < (c + 1) * (10 : ℚ) ^ p) :
    c ≠ 0 ∧ Near d (c * 10 ^ p) ∨ Near d ((c + 1) * 10 ^ p) := by
  have hpos := two_zpow_pos d.exponent
  have hgap := gap_pos d
  have hone : (1 : ℚ) ≤ d.significand := by exact_mod_cast Nat.one_le_iff_ne_zero.2 hm
  have hmax : (d.significand : ℚ) + 1 ≤ 2 ^ 53 := by exact_mod_cast d.significand_lt
  have hupper : (d.significand + 1 / 2) * (2 : ℚ) ^ d.exponent = d.value + 2 ^ d.exponent / 2 := by
    unfold Double.value
    ring
  have hvalue : (2 : ℚ) ^ d.exponent ≤ d.value := le_mul_of_one_le_left hpos.le hone
  have hbelow : (d.significand - d.gap / 4) * (2 : ℚ) ^ d.exponent < d.value :=
    mul_lt_mul_of_pos_right (by linarith) hpos
  rw [zpow_add₀ (by norm_num)] at hfine
  rcases gap_cases d with htwo | ⟨-, hlead⟩
  · -- the two neighbours are less than a unit apart, so one of them is less than half a unit away
    have hunit : (10 : ℚ) ^ p < 2 ^ d.exponent := by
      have : d.value < 2 ^ 53 * 2 ^ d.exponent := mul_lt_mul_of_pos_right (by linarith) hpos
      norm_num at hfine this ⊢
      linarith
    have hlower : (d.significand - d.gap / 4) * (2 : ℚ) ^ d.exponent
        = d.value - 2 ^ d.exponent / 2 := by
      unfold Double.value
      rw [htwo]
      push_cast
      ring
    by_cases hnear : d.value - 2 ^ d.exponent / 2 < c * 10 ^ p
    · refine Or.inl ⟨?_, near_of_lt (by rwa [hlower]) (by rw [hupper]; linarith)⟩
      rintro rfl
      norm_num at hnear
      linarith
    · exact Or.inr (near_of_lt (by linarith) (by rw [hupper]; linarith))
  · -- the grid is finer than half a unit, so the upper neighbour is near enough
    have hunit : (10 : ℚ) ^ p < 2 ^ d.exponent / 2 := by
      have : d.value = 2 ^ 52 * 2 ^ d.exponent := by
        unfold Double.value
        rw [hlead]
        push_cast
        ring
      norm_num at hfine this ⊢
      linarith
    exact Or.inr (near_of_lt (by linarith) (by rw [hupper]; linarith))

/-- The grid that cuts off a double below. -/
theorem onGrid_floor (d : Double) (p : Int) :
    let g := onGrid d.ratio.1 d.ratio.2 p
    ((g.1 / g.2 : Nat) : ℚ) * 10 ^ p ≤ d.value ∧ d.value < ((g.1 / g.2 : Nat) + 1) * 10 ^ p := by
  intro g
  have hden := d.ratio_den_pos
  rw [← d.ratio_quotient]
  constructor
  · exact (le_onGrid_iff _ hden _ p).1 (Nat.div_mul_le_self _ _)
  · have hlt : ¬ (g.1 / g.2 + 1) * g.2 ≤ g.1 := by
      rw [Nat.succ_mul]
      exact not_le.2 (Nat.lt_div_mul_add (onGrid_den_pos hden p))
    rw [le_onGrid_iff _ hden, not_le] at hlt
    exact_mod_cast hlt

/-! ## The search -/

/-- What is found on a grid reads back. -/
theorem onGrid?_readsBack {tie : Tie} {d : Double} {p : Int} {c : Nat}
    (h : onGrid? tie d p = some c) : c ≠ 0 ∧ readsBack d c p = true := by
  unfold onGrid? at h
  dsimp only at h
  generalize (onGrid d.ratio.1 d.ratio.2 p).1 = num at h
  generalize (onGrid d.ratio.1 d.ratio.2 p).2 = den at h
  have hfloor : (readsBack d (num / den) p && num / den != 0) = true →
      num / den ≠ 0 ∧ readsBack d (num / den) p = true := by
    intro hb
    rw [Bool.and_eq_true, bne_iff_ne] at hb
    exact ⟨hb.2, hb.1⟩
  -- whichever of the two neighbours is chosen has been seen to read back
  split at h
  · next hc hsucc =>
    split at h
    · cases h
      exact hfloor hc
    split at h
    · cases h
      exact ⟨Nat.succ_ne_zero _, hsucc⟩
    cases tie with
    | toEven =>
        cases h
        split
        · exact hfloor hc
        · exact ⟨Nat.succ_ne_zero _, hsucc⟩
    | up =>
        cases h
        exact ⟨Nat.succ_ne_zero _, hsucc⟩
  · next hc _ =>
    cases h
    exact hfloor hc
  · next _ hsucc =>
    cases h
    exact ⟨Nat.succ_ne_zero _, hsucc⟩
  · cases h

/-- Something is found where one of the neighbours reads back. -/
theorem onGrid?_isSome (tie : Tie) {d : Double} {p : Int} {c : Nat}
    (hc : c = (onGrid d.ratio.1 d.ratio.2 p).1 / (onGrid d.ratio.1 d.ratio.2 p).2)
    (h : c ≠ 0 ∧ readsBack d c p = true ∨ readsBack d (c + 1) p = true) :
    (onGrid? tie d p).isSome = true := by
  unfold onGrid?
  dsimp only
  rw [← hc]
  split
  · split
    · rfl
    · split
      · rfl
      · cases tie <;> rfl
  · rfl
  · rfl
  · next hfloor hsucc =>
    rcases h with ⟨hne, hb⟩ | hb
    · rw [hb, Bool.true_and, bne_eq_false_iff_eq] at hfloor
      exact absurd hfloor hne
    · rw [hb] at hsucc
      cases hsucc

/-- The decimal is no longer than the search allows and lies in the interval of the double. -/
structure Fits (d : Double) (x : Decimal) : Prop where
  coefficient_ne_zero : x.coefficient ≠ 0
  power_ge : -1000 ≤ x.power
  near : Near d x.value

/-- Zeros at the end of the coefficient move into the power. -/
theorem Fits.normalize {d : Double} {x : Decimal} (h : Fits d x) (fuel : Nat) :
    Fits d (normalize fuel x) := by
  induction fuel generalizing x with
  | zero => exact h
  | succ fuel ih =>
      unfold Decimal.normalize
      split
      · next hten =>
        simp only [Bool.and_eq_true, bne_iff_ne, decide_eq_true_eq] at hten
        have hpower := h.power_ge
        refine ih ⟨?_, ?_, ?_⟩
        · show x.coefficient / 10 ≠ 0
          omega
        · show -1000 ≤ x.power + 1
          omega
        -- a factor of ten moves from the coefficient into the power
        · have hvalue : value ⟨x.coefficient / 10, x.power + 1⟩ = x.value := by
            have hmul : ((x.coefficient / 10 : Nat) : ℚ) * 10 = x.coefficient := by
              exact_mod_cast Nat.div_mul_cancel (Nat.dvd_of_mod_eq_zero hten.2)
            unfold value
            rw [zpow_add_one₀ (by norm_num), ← hmul]
            ring
          rw [hvalue]
          exact h.near
      · exact h

/-- **The shortest decimal of a double lies in its interval.** -/
theorem shortest_fits (tie : Tie) {d : Double} (hfin : d.isFinite = true)
    (hm : d.significand ≠ 0) : Fits d (shortest tie d) := by
  have hbounds := (near_value d).bounds hfin hm
  have hden := d.ratio_den_pos
  have hnum : d.ratio.1 ≠ 0 := by
    intro h
    have hzero := d.ratio_quotient
    rw [h, Nat.cast_zero, zero_div] at hzero
    rw [← hzero] at hbounds
    exact absurd hbounds.1 (not_le.2 (two_zpow_pos _))
  obtain ⟨hlog, hlog'⟩ := quotient_bounds hnum hden.ne'
  rw [d.ratio_quotient] at hlog hlog'
  -- the logarithms of numerator and denominator differ by what the exponents of doubles allow
  have hl := lt_of_two_zpow_lt (lt_of_lt_of_le hlog hbounds.2)
  have hl' := lt_of_two_zpow_lt (lt_of_le_of_lt hbounds.1 hlog')
  have hpoint := ten_zpow_pointOf_le hnum hden (by omega) (by omega)
  have hpoint' := le_pointOf d.ratio.1 d.ratio.2
  rw [d.ratio_quotient] at hpoint
  unfold shortest
  dsimp only
  rw [if_neg hm]
  generalize pointOf d.ratio.1 d.ratio.2 = point at hpoint hpoint'
  refine Fits.normalize ?_ 20
  -- the search cannot fail, since seventeen digits are enough
  cases hfound : (List.range 17).findSome? fun k =>
      (onGrid? tie d (point - (k + 1 : Nat))).map fun c => Decimal.mk c (point - (k + 1 : Nat)) with
  | none =>
      exfalso
      have hlast := List.findSome?_eq_none_iff.1 hfound 16 (by decide)
      rw [Option.map_eq_none_iff] at hlast
      obtain ⟨hle, hlt⟩ := onGrid_floor d (point - (16 + 1 : Nat))
      have hsome := onGrid?_isSome tie (d := d) (p := point - (16 + 1 : Nat)) rfl ?_
      · rw [hlast] at hsome
        cases hsome
      · rw [readsBack_iff hm, readsBack_iff hm]
        have hfine : (10 : ℚ) ^ (point - (16 + 1 : Nat) + 16) ≤ d.value := by
          refine le_trans (le_of_eq ?_) hpoint
          congr 1
          omega
        exact_mod_cast near_neighbour hm hfine hle hlt
  | some x =>
      obtain ⟨k, hk, hx⟩ := List.exists_of_findSome?_eq_some hfound
      obtain ⟨c, hc, rfl⟩ := Option.map_eq_some_iff.1 hx
      obtain ⟨hne, hback⟩ := onGrid?_readsBack hc
      have hk' := List.mem_range.1 hk
      refine ⟨hne, ?_, (readsBack_iff hm c _).1 hback⟩
      show -1000 ≤ point - (k + 1 : Nat)
      omega

end Decimal

end RuleEngine
