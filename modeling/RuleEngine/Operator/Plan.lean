import RuleEngine.Operation.Registry
import RuleEngine.Template.Basic
import RuleEngine.Text.Class

set_option autoImplicit false

/-! # Plans

A plan is a template whose operations have all been compiled. No rule of a plan is without an id,
and no id stands for two rules, so the operations of a rule are found under its id. -/

namespace RuleEngine

/-- A template with the compiled operations of every rule. -/
structure Plan where
  template : Template
  /-- The compiled operations by the id of their rule. -/
  operations : Table (List Compiled) := []
deriving DecidableEq

namespace Plan

def operationsOf (p : Plan) (rule : Rule) : List Compiled := (p.operations.get? rule.id).getD []

/-- The error of an operation, with the rule that lists it. -/
def inRule (id : String) : EngineError → EngineError
  | .configuration m => .configuration ("rule '" ++ id ++ "': " ++ m)
  | e => e

def compileRule (registry : Registry) (id : String) :
    List Descriptor → Except EngineError (List Compiled)
  | [] => .ok []
  | d :: ds =>
    match registry.compile d with
    | .error e => .error (inRule id e)
    | .ok c => (compileRule registry id ds).map (c :: ·)

/-- Compile rules one by one; `shown` is how messages call their template. -/
def compileRules (registry : Registry) (shown : String) (operations : Table (List Compiled)) :
    List Rule → Except EngineError (Table (List Compiled))
  | [] => .ok operations
  | r :: rs =>
    if Text.isBlankText r.id then
      .error (.configuration ("template " ++ shown ++ " has a rule without an id"))
    else
      match compileRule registry r.id r.operations with
      | .error e => .error e
      | .ok compiled =>
        if operations.contains r.id then
          .error (.configuration ("duplicate rule id '" ++ r.id ++ "' in template " ++ shown))
        else compileRules registry shown (operations.insert r.id compiled) rs

def compile (registry : Registry) (t : Template) : Except EngineError Plan :=
  (compileRules registry ("'" ++ t.subDir ++ "/" ++ t.name ++ "'") [] t.rules).map
    fun operations => ⟨t, operations⟩

end Plan

end RuleEngine
