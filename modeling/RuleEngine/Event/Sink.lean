import RuleEngine.Event.Queue

set_option autoImplicit false

/-! # Event sinks

A sink is a tree. Its leaves are outlets, which are numbered; a filter lets some types of events
through, and a fan-out passes every event on to several sinks in turn. What an event reaches depends
on its type alone, and every outlet that it reaches is given the event itself. -/

namespace RuleEngine

/-- A tree of filters and fan-outs over numbered outlets. -/
inductive Sink
  | outlet (id : Nat)
  | filter (accept : EventType → Bool) (inner : Sink)
  | fanout (sinks : List Sink)

namespace Sink

/-- Let only failures through. -/
def failures (inner : Sink) : Sink := filter EventType.isFailure inner

section Emit

variable {ε σ : Type} (type : ε → EventType) (give : Nat → ε → σ → σ) (e : ε)

mutual

/-- Emit an event into a sink, in a world in which an outlet can be given an event. -/
def emit : Sink → σ → σ
  | .outlet id, s => give id e s
  | .filter accept inner, s => if accept (type e) then emit inner s else s
  | .fanout sinks, s => emitAll sinks s

/-- Emit an event into several sinks in turn: the last one gets the event, the others copies. -/
def emitAll : List Sink → σ → σ
  | [], s => s
  | [last], s => emit last s
  | sink :: next :: rest, s => emitAll (next :: rest) (emit sink s)

end

end Emit

end Sink

/-- Where events end up. -/
inductive Outlet
  /-- A bounded buffer. -/
  | queue (q : EventQueue)
  /-- An unbounded buffer. -/
  | channel (events : List Event)
  /-- Nobody listens; events are lost. -/
  | nowhere
deriving DecidableEq, Inhabited

namespace Outlet

def receive (e : Event) : Outlet → Outlet
  | .queue q => .queue (q.push e).2
  | .channel events => .channel (events ++ [e])
  | .nowhere => .nowhere

def drain : Outlet → Option (List Event × Outlet)
  | .queue q => some (q.drain.1, .queue q.drain.2)
  | .channel events => some (events, .channel [])
  | .nowhere => none

end Outlet

/-- A sink with its outlets, for the events of one session. -/
structure Reporter where
  session : String
  sink : Sink
  outlets : List Outlet

namespace Reporter

def deliver (id : Nat) (e : Event) (outlets : List Outlet) : List Outlet :=
  outlets.modify id (Outlet.receive e)

/-- Report something: the event of the session is emitted into the sink. -/
def emit (r : Reporter) (type : EventType) (data : Json) : Reporter :=
  { r with outlets := r.sink.emit Event.type deliver ⟨r.session, type, data⟩ r.outlets }

def shown (r : Reporter) : String :=
  "Reporter \x7b session_id: " ++ Text.quoted r.session ++ ", .. \x7d"

end Reporter

end RuleEngine
