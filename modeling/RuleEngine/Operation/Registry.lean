import RuleEngine.Duration
import RuleEngine.Operation.Descriptor
import RuleEngine.Operation.Params

set_option autoImplicit false

/-! # The operation registry

A variant of an operation declares its parameters and says what a descriptor asks for. A descriptor
is compiled once, when a template is loaded: its parameters are checked against the fields of the
variant, and then the variant reads its effect off them. -/

namespace RuleEngine

/-- What an operation does when it is executed. -/
inductive Effect
  /-- Turn the view by a signed distance. -/
  | turn (distance : Double)
  /-- Press a key and hold it. -/
  | press (key : String) (hold : Duration)
  /-- Let time pass. -/
  | wait (duration : Duration)
  /-- Write one fact. -/
  | setFact (key : String) (value : Json)
  /-- Look for a target and store what is found, or remove the fact if nothing is. -/
  | recognize (target resultKey : String)
deriving DecidableEq

structure Variant where
  fields : List Field
  /-- The effect that a checked descriptor asks for. -/
  effect : Descriptor → Except EngineError Effect

/-- A descriptor that was checked, with its effect. -/
structure Compiled where
  descriptor : Descriptor
  effect : Effect
deriving DecidableEq

namespace Compiled

def name (c : Compiled) : String := c.descriptor.name

/-- The tick does not wait for the operation. -/
def isAsync (c : Compiled) : Bool := c.descriptor.async

end Compiled

structure Registry where
  variants : Table Variant := []

namespace Registry

def register (r : Registry) (name : String) (v : Variant) : Registry :=
  ⟨r.variants.insert name v⟩

def contains (r : Registry) (name : String) : Bool := r.variants.contains name

def names (r : Registry) : List String := r.variants.keys

def fields? (r : Registry) (name : String) : Option (List Field) :=
  (r.variants.get? name).map (·.fields)

/-- Check a descriptor and find its effect. -/
def compile (r : Registry) (d : Descriptor) : Except EngineError Compiled :=
  match r.variants.get? d.name with
  | none => .error (.configuration ("unknown operation '" ++ d.name ++ "'"))
  | some v =>
    match Field.check d.name v.fields d.params with
    | .error e => .error e
    | .ok _ => (v.effect d).map fun effect => ⟨d, effect⟩

def shown (r : Registry) : String :=
  "OperationRegistry \x7b operations: " ++ Text.quotedList r.names ++ " \x7d"

end Registry

end RuleEngine
