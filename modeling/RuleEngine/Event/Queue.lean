import RuleEngine.Double
import RuleEngine.Event.Basic

set_option autoImplicit false

/-! # Bounded event queues

A queue holds at most `capacity` events. An event that finds the queue full is refused and counted;
nobody ever waits for room. Events leave in the order in which they were accepted. -/

namespace RuleEngine

/-- A bounded queue with its counters. -/
structure EventQueue where
  capacity : Nat
  /-- The queued events, the oldest first. -/
  items : List Event := []
  /-- Events accepted so far. -/
  pushed : Nat := 0
  /-- Events taken out so far. -/
  popped : Nat := 0
  /-- Events refused so far. -/
  dropped : Nat := 0
deriving DecidableEq, Inhabited

/-- What a queue tells about itself. Its counters have 64 bits and start again at zero after the
largest number. -/
structure QueueStats where
  pushCount : UInt64
  popCount : UInt64
  dropCount : UInt64
  currentSize : Nat
  capacity : Nat
deriving DecidableEq, Inhabited

namespace EventQueue

/-- An empty queue; there is none without room for an event. -/
def new? (capacity : Nat) : Option EventQueue := if capacity = 0 then none else some { capacity }

def size (q : EventQueue) : Nat := q.items.length

def isEmpty (q : EventQueue) : Bool := q.items.isEmpty

/-- There is no room for another event. -/
def isFull (q : EventQueue) : Bool := q.capacity ≤ q.size

/-- Offer an event; a full queue gives it back. -/
def push (q : EventQueue) (e : Event) : Option Event × EventQueue :=
  if q.isFull then (some e, { q with dropped := q.dropped + 1 })
  else (none, { q with items := q.items ++ [e], pushed := q.pushed + 1 })

def pop (q : EventQueue) : Option Event × EventQueue :=
  match q.items with
  | [] => (none, q)
  | e :: rest => (some e, { q with items := rest, popped := q.popped + 1 })

theorem size_pop {q : EventQueue} {e : Event} {r : EventQueue} (h : q.pop = (some e, r)) :
    r.size + 1 = q.size := by
  unfold pop at h
  split at h
  · simp at h
  · rename_i hitems
    simp only [Prod.mk.injEq] at h
    simp [← h.2, size, hitems]

/-- Take out event after event until none is left. -/
def drain (q : EventQueue) : List Event × EventQueue :=
  match h : q.pop with
  | (none, r) => ([], r)
  | (some e, r) =>
    have := size_pop h
    let rest := drain r
    (e :: rest.1, rest.2)
termination_by q.size

def stats (q : EventQueue) : QueueStats where
  pushCount := .ofNat q.pushed
  popCount := .ofNat q.popped
  dropCount := .ofNat q.dropped
  currentSize := q.size
  capacity := q.capacity

/-- Percentage of the offered events that were refused: the quotient is rounded to a double, and so
is its product with a hundred. -/
def dropRate (q : EventQueue) : Double :=
  let offered := q.pushed + q.dropped
  if offered = 0 then .zero false else (Double.ofRatio false q.dropped offered).scale 100 1

end EventQueue

end RuleEngine
