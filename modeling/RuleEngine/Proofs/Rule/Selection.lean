import Mathlib.Data.List.FinRange
import RuleEngine.Rule.Selection

set_option autoImplicit false

/-! # The rules that fire

The rules that fire are some of the given ones, in the order in which they were given. Which ones is
said of positions, because a rule may be given twice (`Fires`): without exclusive rules it is all that
match, and of the exclusive rules that match it is the first one of the highest priority. The list
of rules behind the matching ones is cut at this winner (`winner?_cases`), and what is kept is told
part by part.

**Main result.** `select_eq_fires`: the rules that are selected are those at the positions that fire,
and one of them is exclusive if any exclusive rule matches.
-/

namespace RuleEngine

namespace Rule

theorem keep_sublist (position : Nat) (winner : Option Nat) (rules : List Rule) :
    (keep position winner rules).Sublist rules := by
  induction rules generalizing position with
  | nil => exact .slnil
  | cons r rs ih =>
      rw [keep]
      split
      · exact (ih (position + 1)).cons_cons r
      · exact (ih (position + 1)).cons r

theorem select_sublist (facts : FactSource) (rules : List Rule) :
    (select facts rules).Sublist rules :=
  (keep_sublist _ _ _).trans List.filter_sublist

/-! ## The winner -/

/-- Among the exclusive rules of a list the one between `front` and `back` is the first of the highest
priority. -/
structure IsWinner (front : List Rule) (r : Rule) (back : List Rule) : Prop where
  exclusive : r.exclusive = true
  front : ∀ x ∈ front, x.exclusive = true → x.priority < r.priority
  back : ∀ x ∈ back, x.exclusive = true → x.priority ≤ r.priority

/-- A rule in front of all others wins if it is exclusive and none of them has a higher priority. -/
theorem IsWinner.head {front back : List Rule} {r best : Rule} (h : IsWinner front best back)
    (hr : r.exclusive = true) (hle : best.priority ≤ r.priority) :
    IsWinner [] r (front ++ best :: back) where
  exclusive := hr
  front := by simp
  back := by
    intro x hx hexclusive
    rcases List.mem_append.1 hx with hx | hx
    · have hlt := h.front x hx hexclusive
      omega
    · rcases List.mem_cons.1 hx with rfl | hx
      · exact hle
      · have hxle := h.back x hx hexclusive
        omega

/-- A rule in front of all others leaves the winner as it is if it is not exclusive or has a lower
priority. -/
theorem IsWinner.cons {front back : List Rule} {r best : Rule} (h : IsWinner front best back)
    (hr : r.exclusive = true → r.priority < best.priority) :
    IsWinner (r :: front) best back where
  exclusive := h.exclusive
  front := List.forall_mem_cons.2 ⟨hr, h.front⟩
  back := h.back

/-- Either no rule is exclusive, or the winner is found, with its position. -/
theorem winner?_cases (position : Nat) (rules : List Rule) :
    ((∀ r ∈ rules, r.exclusive = false) ∧ winner? position rules = none) ∨
      ∃ front r back, rules = front ++ r :: back ∧ IsWinner front r back ∧
        winner? position rules = some (position + front.length, r) := by
  induction rules generalizing position with
  | nil => exact .inl ⟨by simp, rfl⟩
  | cons r rs ih =>
      rw [winner?]
      rcases ih (position + 1) with ⟨hnone, hrest⟩ | ⟨front, best, back, rfl, hbest, hrest⟩
      · rw [hrest]
        cases hr : r.exclusive with
        | false => exact .inl ⟨List.forall_mem_cons.2 ⟨hr, hnone⟩, by simp⟩
        | true =>
            have hback : ∀ x ∈ rs, x.exclusive = true → x.priority ≤ r.priority := by
              intro x hx hexclusive
              rw [hnone x hx] at hexclusive
              cases hexclusive
            exact .inr ⟨[], r, rs, rfl, ⟨hr, by simp, hback⟩, by simp⟩
      · rw [hrest]
        dsimp only
        by_cases hwins : (r.exclusive && decide (best.priority ≤ r.priority)) = true
        · rw [if_pos hwins]
          rw [Bool.and_eq_true, decide_eq_true_iff] at hwins
          exact .inr ⟨[], r, _, rfl, hbest.head hwins.1 hwins.2, rfl⟩
        · rw [if_neg hwins]
          refine .inr ⟨r :: front, best, back, rfl, hbest.cons fun hr => ?_, ?_⟩
          · simpa [hr] using hwins
          · rw [List.length_cons]
            congr 2
            omega

/-! ## What is kept -/

/-- Without the position of one of them, the rules are kept that are not exclusive. -/
theorem keep_of_absent {position : Nat} {winner : Option Nat} {rules : List Rule}
    (h : ∀ i < rules.length, winner ≠ some (position + i)) :
    keep position winner rules = rules.filter (!·.exclusive) := by
  induction rules generalizing position with
  | nil => rfl
  | cons r rs ih =>
      have hhead : winner ≠ some position := h 0 (by simp)
      have htail : ∀ i < rs.length, winner ≠ some (position + 1 + i) := by
        intro i hi
        rw [Nat.add_assoc, Nat.add_comm 1 i]
        exact h (i + 1) (by simpa using hi)
      rw [keep, ih htail, List.filter_cons]
      simp [hhead]

theorem keep_append (position : Nat) (winner : Option Nat) (front back : List Rule) :
    keep position winner (front ++ back) =
      keep position winner front ++ keep (position + front.length) winner back := by
  induction front generalizing position with
  | nil => rfl
  | cons r rs ih =>
      have hposition : position + 1 + rs.length = position + (rs.length + 1) := by omega
      rw [List.cons_append, keep, keep, ih, List.length_cons, hposition]
      split <;> rfl

/-- With the position of one of them, this one is kept beside those that are not exclusive. -/
theorem keep_winner (position : Nat) (front : List Rule) (r : Rule) (back : List Rule) :
    keep position (some (position + front.length)) (front ++ r :: back) =
      front.filter (!·.exclusive) ++ r :: back.filter (!·.exclusive) := by
  have hfront : keep position (some (position + front.length)) front =
      front.filter (!·.exclusive) := by
    refine keep_of_absent fun i hi heq => ?_
    have := Option.some.inj heq
    omega
  have hback : keep (position + front.length + 1) (some (position + front.length)) back =
      back.filter (!·.exclusive) := by
    refine keep_of_absent fun i _ heq => ?_
    have := Option.some.inj heq
    omega
  rw [keep_append, hfront, keep, hback]
  simp

/-- What is selected: without exclusive rules all that match, else the winner beside those that are
not exclusive. -/
theorem select_cases (facts : FactSource) (rules : List Rule) :
    ((∀ r ∈ rules.filter (·.condition.eval facts), r.exclusive = false) ∧
        select facts rules = rules.filter (·.condition.eval facts)) ∨
      ∃ front r back, rules.filter (·.condition.eval facts) = front ++ r :: back ∧
        IsWinner front r back ∧
        select facts rules = front.filter (!·.exclusive) ++ r :: back.filter (!·.exclusive) := by
  unfold select
  dsimp only
  rcases winner?_cases 0 (rules.filter (·.condition.eval facts)) with
    ⟨hnone, hwinner⟩ | ⟨front, r, back, hsplit, hbest, hwinner⟩
  · refine .inl ⟨hnone, ?_⟩
    rw [hwinner, Option.map_none, keep_of_absent (fun _ _ heq => by cases heq), List.filter_eq_self]
    intro r hr
    simp [hnone r hr]
  · refine .inr ⟨front, r, back, hsplit, hbest, ?_⟩
    rw [hwinner, hsplit, Option.map_some]
    exact keep_winner 0 front r back

/-! ## Positions -/

/-- The rule at a position fires: its condition holds, and if it is exclusive, then no exclusive rule
whose condition holds has a higher priority, or the same priority and an earlier position. -/
structure Fires (facts : FactSource) (rules : List Rule) (i : Fin rules.length) : Prop where
  holds : (rules.get i).condition.eval facts = true
  best : (rules.get i).exclusive = true → ∀ j, (rules.get j).exclusive = true →
    (rules.get j).condition.eval facts = true →
    ¬ (rules.get i).priority < (rules.get j).priority ∧
      ¬ ((rules.get j).priority = (rules.get i).priority ∧ j < i)

instance (facts : FactSource) (rules : List Rule) (i : Fin rules.length) :
    Decidable (Fires facts rules i) :=
  decidable_of_iff
    ((rules.get i).condition.eval facts = true ∧ ((rules.get i).exclusive = true → ∀ j,
      (rules.get j).exclusive = true → (rules.get j).condition.eval facts = true →
      ¬ (rules.get i).priority < (rules.get j).priority ∧
        ¬ ((rules.get j).priority = (rules.get i).priority ∧ j < i)))
    ⟨fun h => ⟨h.1, h.2⟩, fun h => ⟨h.holds, h.best⟩⟩

section Positions

variable {facts : FactSource} {rules : List Rule}

/-- The positions whose conditions hold, in order. -/
def matching (facts : FactSource) (rules : List Rule) : List (Fin rules.length) :=
  (List.finRange rules.length).filter fun i => (rules.get i).condition.eval facts

theorem mem_matching {i : Fin rules.length} :
    i ∈ matching facts rules ↔ (rules.get i).condition.eval facts = true := by
  simp [matching]

theorem map_get_matching :
    (matching facts rules).map rules.get = rules.filter (·.condition.eval facts) := by
  conv_rhs => rw [← List.map_get_finRange rules]
  rw [List.filter_map]
  rfl

/-- Positions stand in order. -/
theorem matching_pairwise : (matching facts rules).Pairwise (· < ·) :=
  (List.pairwise_lt_finRange _).filter _

/-- Of the positions whose conditions hold, those fire that are not exclusive, and the winner. -/
theorem fires_iff_of_winner {front back : List (Fin rules.length)} {w : Fin rules.length}
    (hsplit : matching facts rules = front ++ w :: back)
    (h : IsWinner (front.map rules.get) (rules.get w) (back.map rules.get)) (i : Fin rules.length) :
    Fires facts rules i ↔
      (rules.get i).condition.eval facts = true ∧ ((rules.get i).exclusive = false ∨ i = w) := by
  have hparts : ∀ j, (rules.get j).condition.eval facts = true → j ∈ front ∨ j = w ∨ j ∈ back := by
    intro j hj
    rw [← mem_matching, hsplit] at hj
    simpa using hj
  have hbehind : ∀ j ∈ back, w < j := by
    have hpairwise : (matching facts rules).Pairwise (· < ·) := matching_pairwise
    rw [hsplit] at hpairwise
    exact (List.pairwise_cons.1 (List.pairwise_append.1 hpairwise).2.1).1
  have hw : (rules.get w).condition.eval facts = true := by
    rw [← mem_matching, hsplit]
    simp
  have hfront : ∀ j ∈ front, (rules.get j).exclusive = true →
      (rules.get j).priority < (rules.get w).priority :=
    fun j hj => h.front _ (List.mem_map_of_mem hj)
  have hback : ∀ j ∈ back, (rules.get j).exclusive = true →
      (rules.get j).priority ≤ (rules.get w).priority :=
    fun j hj => h.back _ (List.mem_map_of_mem hj)
  constructor
  · intro hfires
    refine ⟨hfires.holds, ?_⟩
    cases hexclusive : (rules.get i).exclusive with
    | false => exact .inl rfl
    | true =>
        -- an exclusive rule that fires is not beaten by the winner
        obtain ⟨hnotHigher, hnotEarlier⟩ := hfires.best hexclusive w h.exclusive hw
        rcases hparts i hfires.holds with hi | hi | hi
        · have := hfront i hi hexclusive
          omega
        · exact .inr hi
        · have := hback i hi hexclusive
          have hsame : (rules.get w).priority = (rules.get i).priority := by omega
          exact absurd ⟨hsame, hbehind i hi⟩ hnotEarlier
  · rintro ⟨hholds, hplain | rfl⟩
    · refine ⟨hholds, fun hexclusive => ?_⟩
      rw [hplain] at hexclusive
      cases hexclusive
    · refine ⟨hw, fun _ j hexclusive hj => ?_⟩
      rcases hparts j hj with hmem | rfl | hmem
      · have := hfront j hmem hexclusive
        omega
      · simp
      · have := hback j hmem hexclusive
        have hlt := hbehind j hmem
        exact ⟨by omega, fun hearlier => absurd hlt (by omega)⟩

/-- Without exclusive rules whose conditions hold, all positions fire whose conditions hold. -/
theorem fires_iff_of_none
    (h : ∀ r ∈ rules.filter (·.condition.eval facts), r.exclusive = false) (i : Fin rules.length) :
    Fires facts rules i ↔ (rules.get i).condition.eval facts = true := by
  refine ⟨Fires.holds, fun hholds => ⟨hholds, fun hexclusive => ?_⟩⟩
  have hplain := h (rules.get i) (List.mem_filter.2 ⟨List.get_mem .., hholds⟩)
  rw [hplain] at hexclusive
  cases hexclusive

/-- What is selected stands at the positions that fire. -/
theorem select_eq_map_get (facts : FactSource) (rules : List Rule) :
    select facts rules =
      ((List.finRange rules.length).filter fun i => Fires facts rules i).map rules.get := by
  rcases select_cases facts rules with ⟨hnone, hselect⟩ | ⟨front, r, back, hsplit, hbest, hselect⟩
  · have hfires : ∀ i, decide (Fires facts rules i) = (rules.get i).condition.eval facts := by
      intro i
      simp [fires_iff_of_none hnone i]
    rw [hselect, ← map_get_matching, matching]
    simp only [hfires]
  · -- the list of positions is cut where the list of rules is
    rw [← map_get_matching] at hsplit
    obtain ⟨front, rest, hpositions, rfl, hrest⟩ := List.map_eq_append_iff.1 hsplit
    obtain ⟨w, back, rfl, rfl, rfl⟩ := List.map_eq_cons_iff.1 hrest
    have hnodup : (front ++ w :: back).Nodup := by
      rw [← hpositions]
      exact (List.nodup_finRange _).filter _
    have hne : ∀ i, i ∈ front ∨ i ∈ back → i ≠ w := by
      rintro i hi rfl
      rw [List.nodup_append, List.nodup_cons] at hnodup
      rcases hi with hi | hi
      · exact hnodup.2.2 i hi i List.mem_cons_self rfl
      · exact hnodup.2.1.1 hi
    have hplain : ∀ ps : List (Fin rules.length), (∀ i ∈ ps, i ≠ w) →
        ps.filter (fun i => !(rules.get i).exclusive || i = w) =
          ps.filter (fun i => !(rules.get i).exclusive) := by
      intro ps hps
      refine List.filter_congr fun i hi => ?_
      simp [hps i hi]
    have hfires : ∀ i, decide (Fires facts rules i) =
        ((!(rules.get i).exclusive || i = w) && (rules.get i).condition.eval facts) := by
      intro i
      rw [Bool.eq_iff_iff]
      simp [fires_iff_of_winner hpositions hbest i, and_comm]
    calc select facts rules
        = (front.filter (fun i => !(rules.get i).exclusive) ++
            w :: back.filter (fun i => !(rules.get i).exclusive)).map rules.get := by
          rw [hselect, List.map_append, List.map_cons, List.filter_map, List.filter_map]
          rfl
      _ = ((matching facts rules).filter fun i => !(rules.get i).exclusive || i = w).map
            rules.get := by
          rw [hpositions, List.filter_append, List.filter_cons_of_pos (by simp),
            hplain front fun i hi => hne i (.inl hi), hplain back fun i hi => hne i (.inr hi)]
      _ = ((List.finRange rules.length).filter fun i => Fires facts rules i).map rules.get := by
          rw [matching, List.filter_filter]
          simp only [hfires]

/-- **The rules that are selected** are those at the positions that fire, in their order and each
once; exactly one of them is exclusive if some exclusive rule matches, and none otherwise. -/
theorem select_eq_fires (facts : FactSource) (rules : List Rule) :
    select facts rules =
        ((List.finRange rules.length).filter fun i => Fires facts rules i).map rules.get ∧
      (select facts rules).countP (·.exclusive) =
        if rules.any fun r => r.condition.eval facts && r.exclusive then 1 else 0 := by
  refine ⟨select_eq_map_get facts rules, ?_⟩
  rw [← List.any_filter]
  rcases select_cases facts rules with ⟨hnone, hselect⟩ | ⟨front, r, back, hsplit, hbest, hselect⟩
  · have hany : (rules.filter (·.condition.eval facts)).any (·.exclusive) = false := by
      rw [List.any_eq_false]
      intro r hr
      simp [hnone r hr]
    have hcount : (rules.filter (·.condition.eval facts)).countP (·.exclusive) = 0 := by
      rw [List.countP_eq_zero]
      intro r hr
      simp [hnone r hr]
    rw [hselect, hany, hcount]
    rfl
  · have hplain : ∀ rs : List Rule, (rs.filter (!·.exclusive)).countP (·.exclusive) = 0 := by
      intro rs
      simp [List.countP_eq_zero]
    have hany : (rules.filter (·.condition.eval facts)).any (·.exclusive) = true := by
      rw [hsplit]
      simp [hbest.exclusive]
    rw [hselect, hany, List.countP_append, List.countP_cons_of_pos hbest.exclusive, hplain, hplain]
    rfl

/-- Of two exclusive rules of the same priority the first fires. -/
example : selectIds (fun _ => none)
    [{ id := "low", priority := -1, exclusive := true }, { id := "plain" },
      { id := "first", exclusive := true }, { id := "second", exclusive := true }] =
    ["plain", "first"] := by decide

end Positions

end Rule

end RuleEngine
