import RuleEngine.Proofs.Condition.Derivation
import RuleEngine.Proofs.Double.Rounding

set_option autoImplicit false

/-! # Well-formed conditions

A condition is well formed if its facts are named by identifiers, its numbers are finite and its
chains have at least two operands (`Condition.isWellFormed`). Every condition that the grammar
derives is, since no rule of it builds another one (`Condition.IsOr.isWellFormed`). Conditions that
are equal up to the equality of numbers are well formed together (`Condition.isWellFormed_of_eqv`).
-/

namespace RuleEngine

/-- A literal other than an infinite or undefined number. -/
def Literal.isFinite : Literal → Bool
  | .number d => d.isFinite
  | _ => true

namespace Condition

mutual

/-- Facts have identifiers as names, numbers are finite, chains have at least two operands. -/
def isWellFormed : Condition → Bool
  | .const _ => true
  | .present key => Token.isIdentifier key
  | .compare key _ value => Token.isIdentifier key && value.isFinite
  | .not c => isWellFormed c
  | .all cs => 2 ≤ cs.length && areWellFormed cs
  | .any cs => 2 ≤ cs.length && areWellFormed cs

def areWellFormed : List Condition → Bool
  | [] => true
  | c :: cs => isWellFormed c && areWellFormed cs

end

/-! ## What the grammar builds -/

theorem isFinite_of_literalOfWord {w : String} {v : Literal} (h : literalOfWord w = .ok v) :
    v.isFinite = true := by
  unfold literalOfWord at h
  split at h
  · cases h
    rfl
  split at h
  · cases h
    rfl
  split at h
  · split at h
    · split at h
      · next hd =>
        -- a number that is too large for a double is refused
        cases h
        exact hd
      · cases h
    · cases h
      rfl
  · cases h
    rfl

theorem IsValue.isFinite {t : Token} {v : Literal} (h : IsValue t v) : v.isFinite = true := by
  cases h with
  | word hw => exact isFinite_of_literalOfWord hw
  | quoted s => rfl

/-- A chain of well-formed operands is well formed, or its only operand is. -/
theorem isWellFormed_allOf {c : Condition} {cs : List Condition} (hc : c.isWellFormed = true)
    (hcs : areWellFormed cs = true) : (allOf c cs).isWellFormed = true := by
  cases cs with
  | nil => exact hc
  | cons d ds =>
      simp only [allOf, isWellFormed, areWellFormed, List.length_cons, Bool.and_eq_true,
        decide_eq_true_eq] at hcs ⊢
      exact ⟨by omega, hc, hcs⟩

theorem isWellFormed_anyOf {c : Condition} {cs : List Condition} (hc : c.isWellFormed = true)
    (hcs : areWellFormed cs = true) : (anyOf c cs).isWellFormed = true := by
  cases cs with
  | nil => exact hc
  | cons d ds =>
      simp only [anyOf, isWellFormed, areWellFormed, List.length_cons, Bool.and_eq_true,
        decide_eq_true_eq] at hcs ⊢
      exact ⟨by omega, hc, hcs⟩

mutual

theorem IsOr.isWellFormed {ts : List Token} {c : Condition} (h : IsOr ts c) :
    c.isWellFormed = true := by
  cases h with
  | @chain ts us c cs ha ht => exact isWellFormed_anyOf ha.isWellFormed ht.areWellFormed
termination_by (ts.length, 4)
decreasing_by all_goals (simp only [Prod.lex_def, List.length_append]; omega)

theorem IsOrTail.areWellFormed {ts : List Token} {cs : List Condition} (h : IsOrTail ts cs) :
    areWellFormed cs = true := by
  cases h with
  | nil => rfl
  | @cons ts us c cs ha ht =>
      rw [Condition.areWellFormed, ha.isWellFormed, ht.areWellFormed, Bool.and_self]
termination_by (ts.length, 0)
decreasing_by all_goals (simp only [Prod.lex_def, List.length_append, List.length_cons]; omega)

theorem IsAnd.isWellFormed {ts : List Token} {c : Condition} (h : IsAnd ts c) :
    c.isWellFormed = true := by
  cases h with
  | @chain ts us c cs hu ht => exact isWellFormed_allOf hu.isWellFormed ht.areWellFormed
termination_by (ts.length, 3)
decreasing_by all_goals (simp only [Prod.lex_def, List.length_append]; omega)

theorem IsAndTail.areWellFormed {ts : List Token} {cs : List Condition} (h : IsAndTail ts cs) :
    areWellFormed cs = true := by
  cases h with
  | nil => rfl
  | @cons ts us c cs hu ht =>
      rw [Condition.areWellFormed, hu.isWellFormed, ht.areWellFormed, Bool.and_self]
termination_by (ts.length, 0)
decreasing_by all_goals (simp only [Prod.lex_def, List.length_append, List.length_cons]; omega)

theorem IsUnary.isWellFormed {ts : List Token} {c : Condition} (h : IsUnary ts c) :
    c.isWellFormed = true := by
  match h with
  | .not h => exact h.isWellFormed
  | .primary h => exact h.isWellFormed
termination_by (ts.length, 2)
decreasing_by all_goals simp [Prod.lex_def]

theorem IsPrimary.isWellFormed {ts : List Token} {c : Condition} (h : IsPrimary ts c) :
    c.isWellFormed = true := by
  cases h with
  | @group ts c h => exact h.isWellFormed
  | yes => rfl
  | no => rfl
  | present hk => exact hk
  | compare hk hv => rw [Condition.isWellFormed, hk, hv.isFinite, Bool.and_self]
termination_by (ts.length, 1)
decreasing_by all_goals (simp only [Prod.lex_def, List.length_append, List.length_cons]; omega)

end

end Condition

/-! ## Equality of numbers -/

theorem Double.eqv_self {d : Double} (h : d.isFinite = true) : d.eqv d = true := by
  unfold eqv order
  rw [isNaN_of_isFinite h]
  simp

/-- A number that equals a finite number is finite. -/
theorem Double.isFinite_of_eqv {a b : Double} (h : a.eqv b = true) (ha : a.isFinite = true) :
    b.isFinite = true := by
  unfold eqv order at h
  split at h
  · cases h
  · simp only [beq_iff_eq, Option.some.injEq, Std.LawfulEqOrd.compare_eq_iff_eq] at h
    have hmag : a.magnitude = b.magnitude := by
      unfold place at h
      split at h <;> split at h <;> omega
    unfold isFinite exponentField at ha ⊢
    rwa [← hmag]

/-- Same literal, where numbers are compared as numbers. -/
def Literal.eqv : Literal → Literal → Bool
  | .number a, .number b => a.eqv b
  | .bool a, .bool b => a == b
  | .text a, .text b => a == b
  | _, _ => false

theorem Literal.isFinite_of_eqv {v w : Literal} (h : v.eqv w = true) (hv : v.isFinite = true) :
    w.isFinite = true := by
  match v, w with
  | .number _, .number _ => exact Double.isFinite_of_eqv h hv
  | .bool _, .bool _ => rfl
  | .text _, .text _ => rfl

namespace Condition

mutual

/-- Same tree, where numbers are compared as numbers. -/
def eqv : Condition → Condition → Bool
  | .const a, .const b => a == b
  | .present a, .present b => a == b
  | .compare k o v, .compare k' o' v' => k == k' && o == o' && v.eqv v'
  | .not a, .not b => eqv a b
  | .all as, .all bs => eqvList as bs
  | .any as, .any bs => eqvList as bs
  | _, _ => false

/-- Same operands. -/
def eqvList : List Condition → List Condition → Bool
  | [], [] => true
  | a :: as, b :: bs => eqv a b && eqvList as bs
  | _, _ => false

end

mutual

theorem eqv_self {c : Condition} (h : c.isWellFormed = true) : c.eqv c = true := by
  match c with
  | .const b => simp [eqv]
  | .present key => simp [eqv]
  | .compare key op value =>
      rw [isWellFormed, Bool.and_eq_true] at h
      -- only not-a-number differs from itself, and it is not finite
      have hv : value.eqv value = true := by
        cases value with
        | number d => exact d.eqv_self h.2
        | bool b => simp [Literal.eqv]
        | text s => simp [Literal.eqv]
      simp [eqv, hv]
  | .not c => exact eqv_self (c := c) h
  | .all cs =>
      rw [isWellFormed, Bool.and_eq_true] at h
      exact eqvList_self h.2
  | .any cs =>
      rw [isWellFormed, Bool.and_eq_true] at h
      exact eqvList_self h.2
termination_by sizeOf c

theorem eqvList_self {cs : List Condition} (h : areWellFormed cs = true) : eqvList cs cs = true := by
  match cs with
  | [] => rfl
  | c :: cs =>
      rw [areWellFormed, Bool.and_eq_true] at h
      rw [eqvList, eqv_self h.1, eqvList_self h.2, Bool.and_self]
termination_by sizeOf cs

end

mutual

theorem isWellFormed_of_eqv {a b : Condition} (h : a.eqv b = true) (ha : a.isWellFormed = true) :
    b.isWellFormed = true := by
  match a, b with
  | .const _, .const _ => rfl
  | .present k, .present k' =>
      rw [eqv, beq_iff_eq] at h
      rwa [← h]
  | .compare k o v, .compare k' o' w =>
      simp only [eqv, isWellFormed, Bool.and_eq_true, beq_iff_eq] at h ha ⊢
      obtain ⟨⟨rfl, -⟩, hv⟩ := h
      exact ⟨ha.1, Literal.isFinite_of_eqv hv ha.2⟩
  | .not a, .not b => exact isWellFormed_of_eqv (a := a) (b := b) h ha
  | .all as, .all bs =>
      rw [isWellFormed, Bool.and_eq_true] at ha ⊢
      rw [eqv] at h
      obtain ⟨hlen, hall⟩ := areWellFormed_of_eqvList h ha.2
      rw [← hlen]
      exact ⟨ha.1, hall⟩
  | .any as, .any bs =>
      rw [isWellFormed, Bool.and_eq_true] at ha ⊢
      rw [eqv] at h
      obtain ⟨hlen, hall⟩ := areWellFormed_of_eqvList h ha.2
      rw [← hlen]
      exact ⟨ha.1, hall⟩
termination_by sizeOf a

theorem areWellFormed_of_eqvList {as bs : List Condition} (h : eqvList as bs = true)
    (ha : areWellFormed as = true) : as.length = bs.length ∧ areWellFormed bs = true := by
  match as, bs with
  | [], [] => exact ⟨rfl, rfl⟩
  | a :: as, b :: bs =>
      simp only [eqvList, areWellFormed, Bool.and_eq_true] at h ha ⊢
      obtain ⟨hlen, hall⟩ := areWellFormed_of_eqvList h.2 ha.2
      exact ⟨by rw [List.length_cons, List.length_cons, hlen], isWellFormed_of_eqv h.1 ha.1, hall⟩
termination_by sizeOf as

end

end Condition

end RuleEngine
