import RuleEngine.Context
import RuleEngine.Operation.Execution
import RuleEngine.Operator.Basic
import RuleEngine.Operator.Tick

set_option autoImplicit false

/-! # Hosts

An operator runs its ticks in surroundings that hold it and its context and that execute the bound
operations. A `Host` says what these surroundings do to a state of any type; nothing is known of an
execution but that it ends somehow and does not undo a stop. -/

namespace RuleEngine

/-- The surroundings of an operator. -/
structure Host (σ : Type) where
  operator : σ → Operator
  setOperator : Operator → σ → σ
  context : σ → Context
  setContext : Context → σ → σ
  /-- Execute an operation of a rule under a dispatch number, until it has ended. -/
  execute : String → Nat → Compiled → σ → Completion × σ
  /-- Begin to execute an operation of a rule under a dispatch number, without waiting for it. -/
  launch : String → Nat → Compiled → σ → σ
  emit : Notice → σ → σ
  operator_setOperator : ∀ o s, operator (setOperator o s) = o
  context_setOperator : ∀ o s, context (setOperator o s) = context s
  operator_setContext : ∀ c s, operator (setContext c s) = operator s
  context_setContext : ∀ c s, context (setContext c s) = c
  isStopped_execute : ∀ rule dispatch c s, (operator s).isStopped = true →
    (operator (execute rule dispatch c s).2).isStopped = true
  isStopped_launch : ∀ rule dispatch c s, (operator s).isStopped = true →
    (operator (launch rule dispatch c s)).isStopped = true
  isStopped_emit : ∀ n s, (operator s).isStopped = true → (operator (emit n s)).isStopped = true

namespace Host

variable {σ : Type} (h : Host σ)

def isStopped (s : σ) : Bool := (h.operator s).isStopped

/-- Enter an operation into the table of the operator. -/
def track (rule : String) (c : Compiled) (s : σ) : Nat × σ :=
  let (dispatch, o) := (h.operator s).track ⟨rule, c.name⟩
  (dispatch, h.setOperator o s)

/-- Execute an operation of a rule, with an entry in the table. -/
def executeTracked (rule : String) (c : Compiled) (s : σ) : Except ActionFailure Unit × σ :=
  let (dispatch, s) := h.track rule c s
  let (completion, s) := h.execute rule dispatch c s
  (completion.result c.name, h.setOperator ((h.operator s).leave dispatch) s)

/-- Execute an operation of a rule without waiting for it. -/
def dispatchDetached (rule : String) (c : Compiled) (s : σ) : σ :=
  let (dispatch, s) := h.track rule c s
  h.launch rule dispatch c s

/-- Note that a rule has completed an action. -/
def record (rule : String) (s : σ) : σ := h.setContext ((h.context s).recordAction rule) s

/-- What a tick does to the state of a host. -/
def tickEnv : TickEnv σ where
  isStopped := h.isStopped
  execute := h.executeTracked
  dispatch := h.dispatchDetached
  record := h.record
  emit := h.emit

def tick (s : σ) : Except EngineError TickReport × σ :=
  match (h.operator s).enterTick with
  | (.error e, o) => (.error e, h.setOperator o s)
  | (.ok _, o) =>
    let s := h.setOperator o s
    match (h.operator s).currentPlan with
    | .error e => (.error e, s)
    | .ok plan =>
      let s := h.setContext (h.context s).beginTick s
      Tick.run h.tickEnv plan (h.context s).tick (h.context s).facts.get? s

end Host

end RuleEngine
