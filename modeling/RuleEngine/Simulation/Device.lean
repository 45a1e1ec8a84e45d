import RuleEngine.Decimal.Layout
import RuleEngine.Lane.Basic
import RuleEngine.Operation.Execution

set_option autoImplicit false

/-! # Devices

The controller and the recognizer of a simulation react to what they are asked for as a table says.
A reaction may take time, stop the operator, ask for the end of the session, and write facts. -/

namespace RuleEngine

/-- What a device does when it is asked for something, in the order of the fields. -/
structure Reaction where
  delay : Duration := .zero
  /-- Stop the operator. -/
  stop : Bool := false
  /-- Ask for the end of the session. -/
  shutdown : Bool := false
  /-- Facts to write. -/
  writes : List (String × Json) := []
  ending : CommandEnd := .done
  /-- What a recognizer finds; nothing if there is no value. -/
  value : Option Json := none
deriving Inhabited

namespace Reaction

/-- How a recognition with this reaction ends. -/
def taskEnd (r : Reaction) : TaskEnd (Option Json) :=
  match r.ending with
  | .done => .value r.value
  | .error m => .error m
  | .panic m => .panic m

/-- The reaction of a table to a key; the key `*` stands for all others. -/
def find (reactions : Table Reaction) (key : String) : Reaction :=
  ((reactions.get? key).orElse fun _ => reactions.get? "*").getD {}

end Reaction

/-- The key of a command in a table of reactions. -/
def Command.key : Command → String
  | .turn distance => "turn:" ++ Layout.plain.render distance
  | .press key _ => "press:" ++ key

/-- A controller and a recognizer. -/
structure Devices where
  /-- Reactions to commands. -/
  controller : Table Reaction := []
  /-- Reactions to targets. -/
  recognizer : Table Reaction := []
deriving Inhabited

end RuleEngine
