import RuleEngine.Decimal.Layout
import RuleEngine.Event.Queue
import RuleEngine.Json.Text

set_option autoImplicit false

/-! # Events as JSON -/

namespace RuleEngine

namespace Event

def toJson (e : Event) : Json :=
  .obj [("session", .str e.session), ("type", .str e.type.name), ("data", e.data)]

/-- An event of a known session as JSON, with its summary. -/
def toReport (e : Event) : Json :=
  .obj [("type", .str e.type.name), ("summary", .str e.summary), ("data", e.data)]

/-- The event is about a detached execution. -/
def isDetached (e : Event) : Bool :=
  e.type != .laneTaskFailed && e.data.field? "async" == some (.bool true)

/-- Values in the order of their texts. -/
def sortedByText (vs : List Json) : List Json :=
  let keyed := vs.map fun v => (v.sorted.compact, v)
  (keyed.mergeSort fun a b => a.1 ≤ b.1).map (·.2)

/-- Events by where they come from. Only those of the caller's own thread have an order that counts;
the others are put in the order of their texts. -/
def bySource (events : List Event) : Json :=
  let side (keep : Event → Bool) : List Json := (events.filter keep).map toReport
  .obj [("sync", .arr (side fun e => e.type != .laneTaskFailed && !e.isDetached)),
    ("async", .arr (sortedByText (side isDetached))),
    ("lane", .arr (sortedByText (side fun e => e.type == .laneTaskFailed)))]

end Event

def EventQueue.toJson (q : EventQueue) : Json :=
  let stats := q.stats
  let count (n : Nat) : Json := .num (.int n)
  .obj [("push", count stats.pushCount.toNat), ("pop", count stats.popCount.toNat),
    ("drop", count stats.dropCount.toNat), ("size", count stats.currentSize),
    ("capacity", count stats.capacity), ("drop_rate", .str (Layout.plain.render q.dropRate)),
    ("empty", .bool q.isEmpty)]

end RuleEngine
