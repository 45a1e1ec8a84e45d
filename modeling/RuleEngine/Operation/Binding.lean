import RuleEngine.Operation.Builtin

set_option autoImplicit false

/-! # Binding built-in operations

A compiled descriptor is bound to a context whenever its operation is dispatched. What is bound knows
its name, which stands in its failures, and whether the tick goes on without it. -/

namespace RuleEngine

/-- What every bound operation has. -/
structure OperationBase where
  name : String
  /-- The tick does not wait for the operation. -/
  async : Bool
deriving DecidableEq

/-- The base of an operation that a built-in variant binds. Every variant has one name for all its
operations, and an operation that writes a fact is never asynchronous, whatever it was asked for. -/
def Effect.base (async : Bool) : Effect → OperationBase
  | .turn _ => ⟨"turn", async⟩
  | .press _ _ => ⟨"press", async⟩
  | .wait _ => ⟨"wait", async⟩
  | .setFact _ _ => ⟨"set_fact", false⟩
  | .recognize _ _ => ⟨"recognize", async⟩

/-- The base of an operation that is bound from a compiled descriptor of a built-in variant. -/
def Compiled.base (c : Compiled) : OperationBase := c.effect.base c.descriptor.async

end RuleEngine
