import RuleEngine.Event.Json
import RuleEngine.Simulation.World

set_option autoImplicit false

/-! # Scenarios

A scenario describes the devices of a simulation in JSON, and what has happened in a simulation is
shown in JSON. -/

namespace RuleEngine

def Json.isTrueAt (j : Json) (key : String) : Bool := j.field? key == some (.bool true)

/-- The fields of the object in a field; none if there is no object. -/
def Json.tableAt (j : Json) (key : String) : Table Json :=
  match j.field? key with
  | some (.obj fields) => fields
  | _ => []

def Json.natAt (j : Json) (key : String) (default : Nat) : Nat :=
  match j.field? key with
  | some (.num (.int n)) => n.toNat
  | _ => default

namespace Reaction

def ofJson (j : Json) : Reaction where
  delay := .ofMillis (j.natAt "delay_ms" 0)
  stop := j.isTrueAt "stop"
  shutdown := j.isTrueAt "shutdown"
  writes := j.tableAt "set"
  ending :=
    match (j.field? "panic").bind Json.text?, (j.field? "error").bind Json.text? with
    | some m, _ => .panic m
    | none, some m => .error m
    | none, none => .done
  value := j.field? "value"

end Reaction

def Devices.ofJson (j : Json) : Devices where
  controller := Table.ofList ((j.tableAt "controller").map fun (k, v) => (k, Reaction.ofJson v))
  recognizer := Table.ofList ((j.tableAt "recognizer").map fun (k, v) => (k, Reaction.ofJson v))

def Command.toJson : Command → Json
  | .turn d => .arr [.str "turn", .str (Layout.plain.render d)]
  | .press key hold => .arr [.str "press", .str key, .str hold.text]

namespace IssuedCommand

def list (cs : List IssuedCommand) : Json := .arr (cs.map fun c => c.command.toJson)

/-- Commands by whether a detached execution gave them; those are put in the order of their
texts. -/
def bySource (cs : List IssuedCommand) : Json :=
  let side (detached : Bool) : List Json :=
    (cs.filter fun c => c.detached == detached).map fun c => c.command.toJson
  .obj [("sync", .arr (side false)), ("async", .arr (Event.sortedByText (side true)))]

end IssuedCommand

def Lane.toJson {ω α : Type} (l : Lane ω α) : Json :=
  let count (n : Nat) : Json := .num (.int n)
  .obj [("submitted", count l.submitted), ("completed", count l.completed),
    ("failed", count l.failed), ("queued", count l.queued), ("accepting", .bool l.accepting)]

def Context.toJson (c : Context) : Json :=
  .obj [("facts", .obj c.facts), ("tick", .num (.int c.tick)),
    ("last_rule", (c.lastRule.map Json.str).getD .null), ("acted", .bool c.lastAction.isSome)]

end RuleEngine
