import RuleEngine.Decimal.Numeral
import RuleEngine.Operation.Registry
import RuleEngine.Text.Class

set_option autoImplicit false

/-! # Built-in operations

`turn`, `press`, `wait`, `set_fact` and `recognize`. A number may be given as a text that denotes
one, and a text as a number or a truth value. -/

namespace RuleEngine

namespace Descriptor

/-- The error for a parameter with a value of the wrong kind. -/
def invalid (d : Descriptor) (param reason : String) : EngineError :=
  .configuration (ActionFailure.invalidParameter d.name param reason).message

/-- The value of a parameter; null is no value. -/
def param? (d : Descriptor) (key : String) : Option Json :=
  (d.params.get? key).filter fun v => !v.isNull

/-- The number that a value denotes. -/
def numberOf? : Json → Option Double
  | .num n => some n.toDouble
  | .str s => Double.parse? (Text.trim s)
  | _ => none

/-- A parameter that is a number. -/
def number? (d : Descriptor) (key : String) : Except EngineError (Option Double) :=
  match d.param? key with
  | none => .ok none
  | some v =>
    match (numberOf? v).filter (·.isFinite) with
    | some n => .ok (some n)
    | none => .error (d.invalid key "expected a number")

/-- A parameter that must be a number. -/
def number (d : Descriptor) (key : String) : Except EngineError Double :=
  match d.number? key with
  | .error e => .error e
  | .ok (some n) => .ok n
  | .ok none => .error (d.invalid key "is required")

/-- A parameter that is a number of milliseconds. -/
def millis? (d : Descriptor) (key : String) : Except EngineError (Option Duration) :=
  match d.number? key with
  | .error e => .error e
  | .ok none => .ok none
  | .ok (some ms) =>
    if ms.isBelowZero then .error (d.invalid key "must not be negative")
    else
      match Duration.ofSeconds? (Duration.secondsOfMillis ms) with
      | some t => .ok (some t)
      | none => .error (d.invalid key "is out of range")

/-- The text that a value stands for. -/
def textOf? : Json → Option String
  | .str s => some (Text.trim s)
  | .num n => some (Json.numberText n)
  | .bool b => some (if b then "true" else "false")
  | _ => none

/-- A parameter that must be a text, and not an empty one. -/
def text (d : Descriptor) (key : String) : Except EngineError String :=
  match d.param? key with
  | none => .error (d.invalid key "is required")
  | some v =>
    match textOf? v with
    | none => .error (d.invalid key "expected text")
    | some s => if s.isEmpty then .error (d.invalid key "is required") else .ok s

end Descriptor

namespace Variant

def turn : Variant where
  fields :=
    [{ key := "distance", title := "Distance", kind := .text, required := true, icon := "rotate",
       placeholder := "-90" }]
  effect d := (d.number "distance").map .turn

/-- How long a key is held unless the descriptor says otherwise. -/
def defaultHoldMs : Nat := 50

def press : Variant where
  fields :=
    [{ key := "key", title := "Key", kind := .text, required := true, icon := "keyboard",
       placeholder := "space" },
     { key := "hold_ms", title := "Hold (ms)", kind := .text,
       default := some (.num (.int defaultHoldMs)) }]
  effect d :=
    match d.text "key" with
    | .error e => .error e
    | .ok key =>
      (d.millis? "hold_ms").map fun hold => .press key (hold.getD (.ofMillis defaultHoldMs))

def wait : Variant where
  fields :=
    [{ key := "ms", title := "Duration (ms)", kind := .text, required := true, icon := "clock" }]
  effect d :=
    match d.millis? "ms" with
    | .error e => .error e
    | .ok none => .error (d.invalid "ms" "is required")
    | .ok (some t) => .ok (.wait t)

/-- Write a fact; only the tick itself does that. -/
def setFact : Variant where
  fields :=
    [{ key := "key", title := "Fact", kind := .text, required := true },
     { key := "value", title := "Value", kind := .codeEditor, required := true,
       language := some "yaml" }]
  effect d :=
    if d.async then .error (.configuration "operation 'set_fact' cannot run asynchronously")
    else
      match d.text "key" with
      | .error e => .error e
      | .ok key =>
        match d.params.get? "value" with
        | some v => .ok (.setFact key v)
        | none => .error (d.invalid "value" "is required")

def recognize : Variant where
  fields :=
    [{ key := "target", title := "Target", kind := .text, required := true, icon := "eye" },
     { key := "result_key", title := "Store result as", kind := .text, required := true }]
  effect d :=
    match d.text "target" with
    | .error e => .error e
    | .ok target => (d.text "result_key").map fun key => .recognize target key

end Variant

def Registry.builtin : Registry :=
  ((((Registry.mk []).register "turn" .turn |>.register "press" .press).register "wait" .wait)
    |>.register "set_fact" .setFact).register "recognize" .recognize

end RuleEngine
