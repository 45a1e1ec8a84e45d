import RuleEngine.Event.Queue

set_option autoImplicit false

/-! # What one step does to a queue -/

namespace RuleEngine

namespace EventQueue

variable {q : EventQueue} {e : Event} {rest : List Event}

theorem new?_eq_some {n : Nat} (h : new? n = some q) : q = { capacity := n } ∧ n ≠ 0 := by
  unfold new? at h
  split at h
  · cases h
  · next hn =>
    cases h
    exact ⟨rfl, hn⟩

theorem isFull_iff : q.isFull = true ↔ q.capacity ≤ q.items.length := decide_eq_true_iff

theorem push_of_full (h : q.isFull = true) (e : Event) :
    q.push e = (some e, { q with dropped := q.dropped + 1 }) := if_pos h

theorem push_of_room (h : q.isFull = false) (e : Event) :
    q.push e = (none, { q with items := q.items ++ [e], pushed := q.pushed + 1 }) :=
  if_neg (by rw [h]; decide)

theorem pop_of_nil (h : q.items = []) : q.pop = (none, q) := by
  unfold pop
  split
  · rfl
  · next hitems =>
    rw [h] at hitems
    cases hitems

theorem pop_of_cons (h : q.items = e :: rest) :
    q.pop = (some e, { q with items := rest, popped := q.popped + 1 }) := by
  unfold pop
  split
  · next hitems =>
    rw [h] at hitems
    cases hitems
  · next hitems =>
    rw [h] at hitems
    cases hitems
    rfl

/-- A queue that is drained gives away all its events, the oldest first. -/
theorem drain_eq (q : EventQueue) :
    q.drain = (q.items, { q with items := [], popped := q.popped + q.items.length }) := by
  induction hitems : q.items generalizing q with
  | nil =>
      rw [drain]
      split
      · next hpop =>
        rw [pop_of_nil hitems] at hpop
        cases hpop
        rw [List.length_nil, Nat.add_zero, ← hitems]
      · next hpop =>
        rw [pop_of_nil hitems] at hpop
        cases hpop
  | cons e rest ih =>
      rw [drain]
      split
      · next hpop =>
        rw [pop_of_cons hitems] at hpop
        cases hpop
      · next hpop =>
        rw [pop_of_cons hitems] at hpop
        cases hpop
        dsimp only
        rw [ih _ rfl, List.length_cons, Nat.add_comm rest.length, Nat.add_assoc]

end EventQueue

end RuleEngine
