import RuleEngine.Event.Sink

set_option autoImplicit false

/-! # Notifiers

A notifier takes the events out of a queue and hands them to a consumer. It works in passes: one
pass takes out events one by one until the queue is empty and then delivers what it took, in order.
Passes begin periodically; `finish` is the last one. A consumer that panics ends the notifier, and
the events that its pass took but did not deliver are lost. -/

namespace RuleEngine

/-- A queue and the state of its notifier. -/
structure Notifier where
  queue : EventQueue
  /-- Events that the current pass took out and has not delivered. -/
  taken : List Event := []
  /-- Events that the consumer has received. -/
  delivered : List Event := []
deriving DecidableEq, Inhabited

namespace Notifier

/-- An event that reaches the queue. -/
def offer (n : Notifier) (e : Event) : Notifier := { n with queue := (n.queue.push e).2 }

/-- Only failures reach the queue. -/
def offerFailure (n : Notifier) (e : Event) : Notifier :=
  if e.type.isFailure then n.offer e else n

def take (n : Notifier) : Notifier :=
  { n with queue := n.queue.pop.2, taken := n.taken ++ n.queue.pop.1.toList }

def takeAll (n : Notifier) : Notifier :=
  { n with queue := n.queue.drain.2, taken := n.taken ++ n.queue.drain.1 }

/-- Deliver the oldest of the events that were taken. -/
def deliverNext (n : Notifier) : Notifier :=
  { n with taken := n.taken.tail, delivered := n.delivered ++ n.taken.head?.toList }

def deliver (n : Notifier) : Notifier :=
  { n with taken := [], delivered := n.delivered ++ n.taken }

/-- A whole pass with a consumer that does not panic. -/
def pass (n : Notifier) : Notifier := n.takeAll.deliver

/-- The last pass, with a consumer that panics on some events: what it received, how many deliveries
are reported (none after a panic), and the queue. -/
def finish (n : Notifier) (panics : Event → Bool) : List Event × Nat × EventQueue :=
  let all := n.takeAll
  let seen := all.delivered ++ all.taken.takeWhile fun e => !panics e
  (seen, if all.taken.any panics then 0 else seen.length, all.queue)

end Notifier

end RuleEngine
