import RuleEngine.Proofs.Event.Queue

set_option autoImplicit false

/-! # What goes into a queue comes out of it

A queue is used by calls, one after the other. The answers tell which events were accepted, which
were given back and which were taken out. No call loses an event, doubles one or changes the order:
what was in the queue, and behind it what was accepted, is what was taken out, and behind it what is
left (`EventQueue.Balances`). The counters count these events.

**Main result.** `EventQueue.conserves`: after any calls of a new queue, what was taken out and what
is left are what was accepted; an event is given back exactly if the queue is filled to its capacity;
and the queue tells its own size rightly.
-/

namespace RuleEngine

inductive QueueCall
  | push (e : Event)
  | pop
  | drain
deriving DecidableEq

inductive QueueAnswer
  | accepted
  | full (back : Event)
  | popped (e : Option Event)
  | drained (es : List Event)
deriving DecidableEq

@[simp]
def QueueCall.accepted : QueueCall → QueueAnswer → List Event
  | .push e, .accepted => [e]
  | _, _ => []

namespace QueueAnswer

/-- The event that was given back. -/
@[simp]
def refused : QueueAnswer → List Event
  | .full e => [e]
  | _ => []

/-- The events that were taken out, in order. -/
@[simp]
def taken : QueueAnswer → List Event
  | .popped e => e.toList
  | .drained es => es
  | _ => []

end QueueAnswer

namespace EventQueue

/-- Calls with their answers, in order. -/
abbrev History := List (QueueCall × QueueAnswer)

namespace History

variable (c : QueueCall × QueueAnswer) (h h' : History)

/-- The accepted events, in the order in which they were pushed. -/
def accepted : List Event := h.flatMap fun c => c.1.accepted c.2

/-- The events that were given back. -/
def refused : List Event := h.flatMap fun c => c.2.refused

/-- The events that were popped and drained, in order. -/
def taken : List Event := h.flatMap fun c => c.2.taken

@[simp] theorem accepted_nil : accepted [] = [] := rfl

@[simp] theorem refused_nil : refused [] = [] := rfl

@[simp] theorem taken_nil : taken [] = [] := rfl

@[simp] theorem accepted_cons : accepted (c :: h) = c.1.accepted c.2 ++ accepted h :=
  List.flatMap_cons

@[simp] theorem refused_cons : refused (c :: h) = c.2.refused ++ refused h := List.flatMap_cons

@[simp] theorem taken_cons : taken (c :: h) = c.2.taken ++ taken h := List.flatMap_cons

@[simp] theorem accepted_append : accepted (h ++ h') = accepted h ++ accepted h' :=
  List.flatMap_append

@[simp] theorem refused_append : refused (h ++ h') = refused h ++ refused h' := List.flatMap_append

@[simp] theorem taken_append : taken (h ++ h') = taken h ++ taken h' := List.flatMap_append

end History

/-- The answer to a call, and the queue afterwards. -/
def answer (q : EventQueue) : QueueCall → QueueAnswer × EventQueue
  | .push e =>
    match q.push e with
    | (none, r) => (.accepted, r)
    | (some back, r) => (.full back, r)
  | .pop => (.popped q.pop.1, q.pop.2)
  | .drain => (.drained q.drain.1, q.drain.2)

/-- The history of calls, and the queue after the last one. -/
def run (q : EventQueue) : List QueueCall → History × EventQueue
  | [] => ([], q)
  | c :: cs =>
    let (a, r) := q.answer c
    let (history, last) := r.run cs
    ((c, a) :: history, last)

/-! ## Nothing is lost -/

/-- The events of a history account for how one queue became another one. -/
structure Balances (q : EventQueue) (h : History) (r : EventQueue) : Prop where
  capacity : r.capacity = q.capacity
  contents : q.items ++ h.accepted = h.taken ++ r.items
  pushed : r.pushed = q.pushed + h.accepted.length
  popped : r.popped = q.popped + h.taken.length
  dropped : r.dropped = q.dropped + h.refused.length
  bounded : q.items.length ≤ q.capacity → r.items.length ≤ r.capacity

variable {q r s : EventQueue} {h h' : History}

theorem Balances.refl (q : EventQueue) : Balances q [] q where
  capacity := rfl
  contents := by simp
  pushed := rfl
  popped := rfl
  dropped := rfl
  bounded := id

/-- Histories that account for their queues do so one behind the other. -/
theorem Balances.append (hq : Balances q h r) (hr : Balances r h' s) : Balances q (h ++ h') s where
  capacity := hr.capacity.trans hq.capacity
  contents :=
    calc q.items ++ History.accepted (h ++ h')
        = (q.items ++ h.accepted) ++ h'.accepted := by simp
      _ = h.taken ++ (r.items ++ h'.accepted) := by rw [hq.contents, List.append_assoc]
      _ = (h.taken ++ h'.taken) ++ s.items := by rw [hr.contents, List.append_assoc]
      _ = History.taken (h ++ h') ++ s.items := by simp
  pushed := by simp [hr.pushed, hq.pushed, Nat.add_assoc]
  popped := by simp [hr.popped, hq.popped, Nat.add_assoc]
  dropped := by simp [hr.dropped, hq.dropped, Nat.add_assoc]
  bounded := fun hroom => hr.bounded (hq.bounded hroom)

/-- A push puts the event behind the others, or it gives it back. -/
theorem balances_push (q : EventQueue) (e : Event) :
    Balances q [(.push e, (q.answer (.push e)).1)] (q.answer (.push e)).2 := by
  cases hfull : q.isFull with
  | true =>
      have hanswer : q.answer (.push e) = (.full e, { q with dropped := q.dropped + 1 }) := by
        simp only [answer, push_of_full hfull]
      rw [hanswer]
      constructor <;> simp
  | false =>
      have hanswer : q.answer (.push e) =
          (.accepted, { q with items := q.items ++ [e], pushed := q.pushed + 1 }) := by
        simp only [answer, push_of_room hfull]
      have hroom : ¬q.capacity ≤ q.items.length := by
        rw [← isFull_iff, hfull]
        decide
      rw [hanswer]
      constructor <;> simp
      omega

theorem balances_pop (q : EventQueue) :
    Balances q [(.pop, (q.answer .pop).1)] (q.answer .pop).2 := by
  cases hitems : q.items with
  | nil =>
      have hanswer : q.answer .pop = (.popped none, q) := by
        simp only [answer, pop_of_nil hitems]
      rw [hanswer]
      constructor <;> simp
  | cons e rest =>
      have hanswer : q.answer .pop =
          (.popped (some e), { q with items := rest, popped := q.popped + 1 }) := by
        simp only [answer, pop_of_cons hitems]
      rw [hanswer]
      constructor <;> simp [hitems]
      omega

theorem balances_drain (q : EventQueue) :
    Balances q [(.drain, (q.answer .drain).1)] (q.answer .drain).2 := by
  have hanswer : q.answer .drain =
      (.drained q.items, { q with items := [], popped := q.popped + q.items.length }) := by
    simp only [answer, drain_eq]
  rw [hanswer]
  constructor <;> simp

/-- **One call** is accounted for by its answer. -/
theorem balances_answer (q : EventQueue) (c : QueueCall) :
    Balances q [(c, (q.answer c).1)] (q.answer c).2 := by
  cases c with
  | push e => exact balances_push q e
  | pop => exact balances_pop q
  | drain => exact balances_drain q

/-- **Any calls** are accounted for by their history. -/
theorem balances_run (q : EventQueue) (calls : List QueueCall) :
    Balances q (q.run calls).1 (q.run calls).2 := by
  induction calls generalizing q with
  | nil => exact .refl q
  | cons c cs ih => exact (balances_answer q c).append (ih (q.answer c).2)

/-! ## Histories of a new queue -/

/-- What is true of a queue with room for `n` events after the calls of a history. -/
structure Conserves (n : Nat) (h : History) (q : EventQueue) : Prop where
  /-- What was taken out and what is left are what was accepted, in order. -/
  contents : h.taken ++ q.items = h.accepted
  /-- The next event is given back and counted if `n` events are queued. -/
  full : q.items.length = n → ∀ e, q.push e = (some e, { q with dropped := q.dropped + 1 })
  /-- Otherwise it is accepted. -/
  room : q.items.length ≠ n →
    ∀ e, q.push e = (none, { q with items := q.items ++ [e], pushed := q.pushed + 1 })
  /-- The oldest event is the next one to be taken out. -/
  pop : q.pop.1 = q.items.head?
  drain : q.drain.1 = q.items
  /-- The counters count the events of the history. -/
  pushCount : q.stats.pushCount = .ofNat h.accepted.length
  popCount : q.stats.popCount = .ofNat h.taken.length
  dropCount : q.stats.dropCount = .ofNat h.refused.length
  currentSize : q.stats.currentSize = q.items.length
  capacity : q.stats.capacity = n
  /-- The counters tell the size, even if they have started again at zero. -/
  balance : q.stats.pushCount - q.stats.popCount = .ofNat q.stats.currentSize
  /-- As long as they have not, they do so as numbers. -/
  numbers : h.accepted.length < UInt64.size →
    q.stats.popCount.toNat ≤ q.stats.pushCount.toNat ∧
      q.stats.pushCount.toNat - q.stats.popCount.toNat = q.stats.currentSize
  bounded : q.stats.currentSize ≤ q.stats.capacity

/-- Counters that differ by the number of queued events tell it, even round the end of their range. -/
theorem stats_balance (hlength : q.pushed = q.popped + q.items.length) :
    q.stats.pushCount - q.stats.popCount = .ofNat q.stats.currentSize := by
  show UInt64.ofNat q.pushed - UInt64.ofNat q.popped = UInt64.ofNat q.items.length
  rw [hlength, Nat.add_comm, UInt64.ofNat_add, UInt64.add_sub_cancel]

/-- Within their range they do so as numbers. -/
theorem stats_numbers (hlength : q.pushed = q.popped + q.items.length)
    (hsmall : q.pushed < UInt64.size) : q.stats.popCount.toNat ≤ q.stats.pushCount.toNat ∧
      q.stats.pushCount.toNat - q.stats.popCount.toNat = q.stats.currentSize := by
  have hpush : q.stats.pushCount.toNat = q.pushed := UInt64.toNat_ofNat_of_lt hsmall
  have hpop : q.stats.popCount.toNat = q.popped := UInt64.toNat_ofNat_of_lt (by omega)
  have hsize : q.stats.currentSize = q.items.length := rfl
  omega

theorem head?_of_pop (q : EventQueue) : q.pop.1 = q.items.head? := by
  cases hitems : q.items with
  | nil => rw [pop_of_nil hitems, List.head?_nil]
  | cons e rest => rw [pop_of_cons hitems, List.head?_cons]

/-- **A bounded queue conserves events.** For every capacity but zero there is a new queue, and after
any calls of it the events that were taken out, and behind them those that are queued, are the
accepted ones in the order in which they were pushed. An event is given back and counted exactly if
the queue is filled to its capacity, and the counters tell how many events are queued, which are never
more than that. -/
theorem conserves {n : Nat} (hn : 1 ≤ n) : ∃ q, EventQueue.new? n = some q ∧
    ∀ calls : List QueueCall, Conserves n (q.run calls).1 (q.run calls).2 := by
  refine ⟨{ capacity := n }, if_neg (by omega), fun calls => ?_⟩
  have h := balances_run { capacity := n } calls
  generalize (EventQueue.run { capacity := n } calls).1 = history at h ⊢
  generalize (EventQueue.run { capacity := n } calls).2 = q at h ⊢
  have hcapacity : q.capacity = n := h.capacity
  have hcontents : history.taken ++ q.items = history.accepted := h.contents.symm
  have hpushed : q.pushed = history.accepted.length := h.pushed.trans (Nat.zero_add _)
  have hpopped : q.popped = history.taken.length := h.popped.trans (Nat.zero_add _)
  have hdropped : q.dropped = history.refused.length := h.dropped.trans (Nat.zero_add _)
  have hbounded : q.items.length ≤ q.capacity := h.bounded (Nat.zero_le n)
  -- the counters differ by what is left
  have hlength : q.pushed = q.popped + q.items.length := by
    rw [hpushed, hpopped, ← hcontents, List.length_append]
  constructor
  case contents => exact hcontents
  case full =>
    intro hfull e
    exact push_of_full (isFull_iff.2 (by omega)) e
  case room =>
    intro hroom e
    refine push_of_room ?_ e
    rw [← Bool.not_eq_true, isFull_iff]
    omega
  case pop => exact head?_of_pop q
  case drain => rw [drain_eq]
  case pushCount => rw [← hpushed]; rfl
  case popCount => rw [← hpopped]; rfl
  case dropCount => rw [← hdropped]; rfl
  case currentSize => rfl
  case capacity => exact hcapacity
  case balance => exact stats_balance hlength
  case numbers => exact fun hsmall => stats_numbers hlength (hpushed ▸ hsmall)
  case bounded => exact hbounded

/-- The third of three events finds a queue full that has room for two; there is room again when the
first one has been taken out. -/
theorem conserves_of_refusal : ∃ (a b c : Event) (calls : List QueueCall) (q : EventQueue),
    calls = [.push a, .push b, .push c, .pop, .push c, .drain, .pop] ∧ EventQueue.new? 2 = some q ∧
      (q.run calls).1.map (·.2) = [.accepted, .accepted, .full c, .popped (some a), .accepted,
        .drained [b, c], .popped none] ∧
      Conserves 2 (q.run calls).1 (q.run calls).2 := by
  obtain ⟨q, hq, hconserves⟩ : ∃ q, EventQueue.new? 2 = some q ∧
      ∀ calls : List QueueCall, Conserves 2 (q.run calls).1 (q.run calls).2 := conserves (by decide)
  refine ⟨⟨"s", .templateLoaded, .null⟩, ⟨"s", .actionFailed, .null⟩, ⟨"s", .operatorStopped, .null⟩,
    _, q, rfl, hq, ?_, hconserves _⟩
  cases hq
  simp [run, answer, push, isFull, size, pop, drain_eq]

end EventQueue

end RuleEngine
