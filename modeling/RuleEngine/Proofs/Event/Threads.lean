import RuleEngine.Event.Notifier
import RuleEngine.Proofs.Event.Queue
import RuleEngine.Proofs.Interleaving

set_option autoImplicit false

/-! # Threads at a notifier

Any number of threads report events to a queue that only failures reach, and the task of a notifier
takes them out again: one by one until the queue is empty, and then it hands them to the consumer.
It is woken periodically, and once more when it is asked to finish; whoever has asked waits until it
has ended. `NotifierStep` says which event is possible when, and what becomes of it.
-/

namespace RuleEngine

/-- What the task of a notifier is doing. -/
inductive DrainStage
  | waiting
  /-- It takes events out of the queue. The pass may be the last one. -/
  | taking (last : Bool)
  /-- It hands over what it has taken. -/
  | delivering (last : Bool)
  | ended
deriving DecidableEq, Inhabited

inductive NotifierEvent
  /-- Somebody reports an event, and the queue has taken it or not. -/
  | emit (e : Event) (kept : Bool)
  /-- Somebody asks the task to finish, and begins to wait for its end. -/
  | finish
  /-- The task begins a pass, because it was asked to finish or because it is time. -/
  | wake (last : Bool)
  /-- The task takes an event out of the queue. -/
  | take (e : Event)
  /-- The task finds the queue empty. -/
  | empty
  /-- The consumer receives an event. -/
  | deliver (e : Event)
  /-- The task waits for the next pass. -/
  | rest
  /-- The task ends, and says how many events it has handed over. -/
  | leave
  /-- Whoever has asked sees the end of the task, and gets its count. -/
  | answer (count : Nat)
deriving DecidableEq

namespace NotifierEvent

/-- The event is a step of the task, or the return of whoever waits for it. -/
def isTask : NotifierEvent → Bool
  | emit _ _ | finish => false
  | _ => true

/-- An event is reported that is no failure, and the queue does not get it. -/
def isIgnored : NotifierEvent → Bool
  | emit e kept => !kept && !e.type.isFailure
  | _ => false

/-- The event that the queue has taken. -/
def kept? : NotifierEvent → Option Event
  | emit e true => some e
  | _ => none

def dropped? : NotifierEvent → Option Event
  | emit e false => if e.type.isFailure then some e else none
  | _ => none

/-- The event that the consumer has received. -/
def received? : NotifierEvent → Option Event
  | deliver e => some e
  | _ => none

end NotifierEvent

/-- A notifier, its task, and whoever waits for it. -/
structure NotifierThreads where
  notifier : Notifier
  stage : DrainStage := .waiting
  /-- How many events the task has handed over. -/
  count : Nat := 0
  /-- The task was asked to finish. -/
  asked : Bool := false
  /-- What whoever has asked was told. -/
  answered : Option Nat := none

/-- What one event makes of the threads at a notifier. -/
inductive NotifierStep : NotifierThreads → NotifierEvent → NotifierThreads → Prop
  | emit {s : NotifierThreads} (e : Event) {kept : Bool} :
      (e.type.isFailure && !s.notifier.queue.isFull) = kept →
      NotifierStep s (.emit e kept) { s with notifier := s.notifier.offerFailure e }
  | finish {s : NotifierThreads} :
      s.asked = false → NotifierStep s .finish { s with asked := true }
  | wake {s : NotifierThreads} (last : Bool) :
      s.stage = .waiting → (last = true → s.asked = true) →
      NotifierStep s (.wake last) { s with stage := .taking last }
  | take {s : NotifierThreads} {last : Bool} {e : Event} :
      s.stage = .taking last → s.notifier.queue.pop.1 = some e →
      NotifierStep s (.take e) { s with notifier := s.notifier.take }
  | empty {s : NotifierThreads} {last : Bool} :
      s.stage = .taking last → s.notifier.queue.pop.1 = none →
      NotifierStep s .empty { s with stage := .delivering last }
  | deliver {s : NotifierThreads} {last : Bool} {e : Event} :
      s.stage = .delivering last → s.notifier.taken.head? = some e →
      NotifierStep s (.deliver e)
        { s with notifier := s.notifier.deliverNext, count := s.count + 1 }
  | rest {s : NotifierThreads} :
      s.stage = .delivering false → s.notifier.taken = [] →
      NotifierStep s .rest { s with stage := .waiting }
  | leave {s : NotifierThreads} :
      s.stage = .delivering true → s.notifier.taken = [] →
      NotifierStep s .leave { s with stage := .ended }
  | answer {s : NotifierThreads} :
      s.stage = .ended → s.asked = true → s.answered = none →
      NotifierStep s (.answer s.count) { s with answered := some s.count }

/-- The events that the queue has taken, in order. -/
def kept (es : List NotifierEvent) : List Event := es.filterMap NotifierEvent.kept?

theorem kept_append (es fs : List NotifierEvent) : kept (es ++ fs) = kept es ++ kept fs :=
  List.filterMap_append

/-! ## Where events go -/

/-- A reporter whose queue only failures reach does with an event what a notifier does. -/
theorem Reporter.emit_failures (session : String) (n : Notifier) (type : EventType) (data : Json) :
    ({ session, sink := .failures (.outlet 0), outlets := [.queue n.queue] } : Reporter).emit type data =
      { session, sink := .failures (.outlet 0),
        outlets := [.queue (n.offerFailure ⟨session, type, data⟩).queue] } := by
  unfold Reporter.emit Sink.failures Sink.emit Notifier.offerFailure
  cases htype : type.isFailure with
  | true => rfl
  | false => rfl

namespace Notifier

variable {n : Notifier} {e : Event}

/-- Whoever reports an event sees nothing but the queue. -/
theorem offerFailure_eq (n : Notifier) (e : Event) :
    ∃ queue, n.offerFailure e = { n with queue } := by
  unfold offerFailure offer
  split
  · exact ⟨_, rfl⟩
  · exact ⟨_, rfl⟩

theorem offerFailure_of_ignored (h : e.type.isFailure = false) : n.offerFailure e = n :=
  if_neg (by rw [h]; decide)

theorem offerFailure_of_room (h : e.type.isFailure = true) (hroom : n.queue.isFull = false) :
    n.offerFailure e = { n with queue :=
      { n.queue with items := n.queue.items ++ [e], pushed := n.queue.pushed + 1 } } := by
  unfold offerFailure offer
  rw [if_pos h, EventQueue.push_of_room hroom]

theorem offerFailure_of_full (h : e.type.isFailure = true) (hfull : n.queue.isFull = true) :
    n.offerFailure e = { n with queue := { n.queue with dropped := n.queue.dropped + 1 } } := by
  unfold offerFailure offer
  rw [if_pos h, EventQueue.push_of_full hfull]

theorem take_of_cons {x : Event} {rest : List Event} (h : n.queue.items = x :: rest) :
    n.take = { n with
      queue := { n.queue with items := rest, popped := n.queue.popped + 1 }
      taken := n.taken ++ [x] } := by
  unfold take
  rw [EventQueue.pop_of_cons h]
  rfl

theorem takeAll_eq (n : Notifier) :
    n.takeAll = { n with
      queue := { n.queue with items := [], popped := n.queue.popped + n.queue.items.length }
      taken := n.taken ++ n.queue.items } := by
  unfold takeAll
  rw [EventQueue.drain_eq]

theorem takeAll_of_nil (h : n.queue.items = []) : n.takeAll = n := by
  obtain ⟨⟨_, items, _, _, _⟩, _, _⟩ := n
  obtain rfl : items = [] := h
  rw [takeAll_eq, List.append_nil]
  rfl

/-- To take out all events is to take out one, and then all others. -/
theorem takeAll_take {x : Event} {rest : List Event} (h : n.queue.items = x :: rest) :
    n.take.takeAll = n.takeAll := by
  rw [take_of_cons h, takeAll_eq, takeAll_eq]
  dsimp only
  rw [h, List.length_cons, List.append_assoc, Nat.add_assoc, Nat.add_comm 1]
  rfl

theorem deliverNext_of_cons {x : Event} {rest : List Event} (h : n.taken = x :: rest) :
    n.deliverNext = { n with taken := rest, delivered := n.delivered ++ [x] } := by
  unfold deliverNext
  rw [h]
  rfl

/-- To deliver what was taken is to deliver one event, and then all others. -/
theorem deliver_deliverNext {x : Event} {rest : List Event} (h : n.taken = x :: rest) :
    n.deliverNext.deliver = n.deliver := by
  rw [deliverNext_of_cons h]
  unfold deliver
  dsimp only
  rw [h, List.append_assoc]
  rfl

end Notifier

end RuleEngine
