import RuleEngine.Operator.Tick
import RuleEngine.Proofs.Operator.Threads
import RuleEngine.Simulation.World

set_option autoImplicit false

/-! # Calls at an operator

Any thread may load an operator, run a tick on it, stop it or save its template, at any time. A load
keeps the lifecycle to itself from its beginning to its end, so it is one event. The other calls look
at the operator or change it several times, and what the others do falls in between: a tick becomes
running and then asks for the plan, a save looks at the lifecycle and then turns to the files, and a
stop goes through the steps of `OperatorStep` and reports at the end. `CallStep` says which event is
possible when, and what becomes of it.
-/

namespace RuleEngine

/-- How far a call has come that runs a tick. -/
inductive TickCall
  | absent
  /-- The operator is running; the call has not asked for the plan. -/
  | entered
  /-- The call goes through the rules of its plan. -/
  | planned (plan : Plan)
  | refused (e : EngineError)

/-- How far a call has come that saves the template. -/
inductive SaveCall
  | absent
  /-- The call has looked at the operator. -/
  | admitted (seen : Operator)
  | returned (answer : Except EngineError FilePath)

/-- What ticks and executions report. -/
inductive IsWorkNotice : Notice → Prop
  | failed (tick : Nat) (rule : Rule) (operation : String) (f : ActionFailure) :
      IsWorkNotice (Tick.failureNotice tick rule operation f)
  | critical (tick : Nat) (rule : Rule) (f : ActionFailure) :
      IsWorkNotice (Tick.criticalNotice tick rule f)
  | completed (report : TickReport) : IsWorkNotice (Tick.completedNotice report)
  | detached {rule operation : String} {result : Except ActionFailure Unit} {n : Notice} :
      n ∈ World.detachedNotices rule operation result → IsWorkNotice n
  /-- No thread was found for an operation. -/
  | abandoned (rule operation error : String) :
      IsWorkNotice (.actionFailed, World.detachedData rule operation (some error))

/-- What can happen at an operator that is called by any number of threads. -/
inductive CallEvent
  | load (files : FileTree) (answer : Except EngineError Unit)
  /-- A tick becomes running, or is refused. -/
  | enterTick (caller : Nat) (answer : Except EngineError Unit)
  /-- A tick asks for the plan. -/
  | takePlan (caller : Nat) (answer : Except EngineError Plan)
  /-- A save looks at the operator. -/
  | askSave (caller : Nat)
  /-- A save has turned to the files, and returns. -/
  | save (caller : Nat) (files : FileTree) (answer : Except EngineError FilePath)
  /-- A dispatch or a stop goes on. -/
  | inner (e : OperatorEvent)
  /-- A tick or an execution reports something. -/
  | notify (n : Notice)
  /-- The call that has stopped the operator reports it, and returns. -/
  | reportStop

/-- What the call knows that has stopped the operator: the lifecycle before it, how many operations it
has told to stop, and whether it has reported all this. -/
structure StopTally where
  previous : Lifecycle := .unloaded
  count : Nat := 0
  reported : Bool := false
deriving DecidableEq

/-- What an event at an operator adds to this. A call that finds the operator open begins anew. -/
def StopTally.add (o : Operator) (tally : StopTally) : OperatorEvent → StopTally
  | .stop =>
    match o.markStopped.1 with
    | some previous => { previous := previous }
    | none => tally
  | .reach _ => { tally with count := tally.count + 1 }
  | _ => tally

/-- An operator and the calls that are under way at it. -/
structure OperatorCalls where
  threads : OperatorThreads
  ticks : Nat → TickCall := fun _ => .absent
  saves : Nat → SaveCall := fun _ => .absent
  tally : StopTally := {}
  /-- What was reported, the oldest first. -/
  notices : List Notice := []

def OperatorCalls.operator (s : OperatorCalls) : Operator := s.threads.operator

/-- Something else becomes of the operator. -/
def OperatorCalls.withOperator (s : OperatorCalls) (o : Operator) : OperatorCalls :=
  { s with threads := { s.threads with operator := o } }

def TickCall.ofEntry : Except EngineError Unit → TickCall
  | .ok _ => .entered
  | .error e => .refused e

def TickCall.ofPlan : Except EngineError Plan → TickCall
  | .ok plan => .planned plan
  | .error e => .refused e

/-- What one event makes of an operator and the calls at it. -/
inductive CallStep : OperatorCalls → CallEvent → OperatorCalls → Prop
  | load {s : OperatorCalls} {files : FileTree} {n : Notice} {o : Operator} :
      s.operator.load files = .ok (n, o) →
      CallStep s (.load files (.ok ()))
        { s.withOperator o with notices := s.notices ++ [n] }
  | loadFailed {s : OperatorCalls} {e : EngineError} (files : FileTree) :
      s.operator.load files = .error e → CallStep s (.load files (.error e)) s
  | enterTick {s : OperatorCalls} {answer : Except EngineError Unit} {o : Operator} (caller : Nat) :
      s.ticks caller = .absent → s.operator.enterTick = (answer, o) →
      CallStep s (.enterTick caller answer)
        { s.withOperator o with ticks := Function.update s.ticks caller (.ofEntry answer) }
  | takePlan {s : OperatorCalls} {answer : Except EngineError Plan} (caller : Nat) :
      s.ticks caller = .entered → s.operator.currentPlan = answer →
      CallStep s (.takePlan caller answer)
        { s with ticks := Function.update s.ticks caller (.ofPlan answer) }
  | askSave {s : OperatorCalls} (caller : Nat) :
      s.saves caller = .absent →
      CallStep s (.askSave caller)
        { s with saves := Function.update s.saves caller (.admitted s.operator) }
  | save {s : OperatorCalls} {caller : Nat} {seen : Operator} {files files' : FileTree} {n : Notice}
      {path : FilePath} :
      s.saves caller = .admitted seen → seen.save files = (.ok (n, path), files') →
      CallStep s (.save caller files (.ok path))
        { s with
          saves := Function.update s.saves caller (.returned (.ok path))
          notices := s.notices ++ [n] }
  | saveFailed {s : OperatorCalls} {caller : Nat} {seen : Operator} {files files' : FileTree}
      {e : EngineError} :
      s.saves caller = .admitted seen → seen.save files = (.error e, files') →
      CallStep s (.save caller files (.error e))
        { s with saves := Function.update s.saves caller (.returned (.error e)) }
  | inner {s : OperatorCalls} {e : OperatorEvent} {t : OperatorThreads} :
      OperatorStep s.threads e t →
      CallStep s (.inner e) { s with threads := t, tally := s.tally.add s.operator e }
  | notify {s : OperatorCalls} {n : Notice} :
      IsWorkNotice n → CallStep s (.notify n) { s with notices := s.notices ++ [n] }
  | reportStop {s : OperatorCalls} :
      s.threads.stopper = .finished → s.tally.reported = false →
      CallStep s .reportStop
        { s with
          tally := { s.tally with reported := true }
          notices := s.notices ++ [s.operator.stoppedNotice s.tally.previous s.tally.count] }

/-! ## Calls that nothing interrupts -/

namespace Operator

variable {o : Operator}

theorem enterTick_eq_ok (h : o.lifecycle = .loaded ∨ o.lifecycle = .running) :
    o.enterTick = (.ok (), { o with lifecycle := .running }) := by
  unfold enterTick
  rcases h with hl | hl <;> rw [hl]

theorem enterTick_eq_error (h : o.lifecycle = .unloaded ∨ o.lifecycle = .stopped) :
    o.enterTick = (.error (.invalidState "run a tick" o.lifecycle.name), o) := by
  unfold enterTick
  rcases h with hl | hl <;> rw [hl]

/-- An operator lets a tick in, or refuses it and stays as it is. -/
theorem enterTick_cases {answer : Except EngineError Unit} {o' : Operator}
    (h : o.enterTick = (answer, o')) :
    ((o.lifecycle = .loaded ∨ o.lifecycle = .running) ∧ answer = .ok () ∧
        o' = { o with lifecycle := .running }) ∨
      ((o.lifecycle = .unloaded ∨ o.lifecycle = .stopped) ∧
        answer = .error (.invalidState "run a tick" o.lifecycle.name) ∧ o' = o) := by
  by_cases hrunnable : o.lifecycle = .loaded ∨ o.lifecycle = .running
  · rw [enterTick_eq_ok hrunnable] at h
    cases h
    exact .inl ⟨hrunnable, rfl, rfl⟩
  · have hrefused : o.lifecycle = .unloaded ∨ o.lifecycle = .stopped := by
      cases hl : o.lifecycle <;> simp_all
    rw [enterTick_eq_error hrefused] at h
    cases h
    exact .inr ⟨hrefused, rfl, rfl⟩

theorem currentPlan_eq_ok {plan : Plan} (h : o.plan = some plan) : o.currentPlan = .ok plan := by
  unfold currentPlan
  rw [h]

end Operator

theorem StopTally.reported_add {tally : StopTally} (o : Operator) (e : OperatorEvent)
    (h : tally.reported = false) : (tally.add o e).reported = false := by
  cases e with
  | stop =>
      unfold add
      cases o.markStopped.1 with
      | none => exact h
      | some previous => rfl
  | _ => exact h

namespace OperatorCalls

variable (s : OperatorCalls)

/-- A tick that nobody stops has its plan as soon as it asks for it. -/
theorem tick_run {caller : Nat} (habsent : s.ticks caller = .absent) {plan : Plan}
    (hplan : s.operator.plan = some plan)
    (hlifecycle : s.operator.lifecycle = .loaded ∨ s.operator.lifecycle = .running) :
    ∃ t, Run CallStep s [.enterTick caller (.ok ()), .takePlan caller (.ok plan)] t ∧
      t.ticks caller = .planned plan := by
  have henter := CallStep.enterTick caller habsent (Operator.enterTick_eq_ok hlifecycle)
  have htake := (Run.nil.snoc henter).snoc
    (.takePlan caller (Function.update_self ..) (Operator.currentPlan_eq_ok hplan))
  exact ⟨_, htake, Function.update_self ..⟩

/-- What happens at the threads of an operator happens at the operator and its calls, and none of it
is a report. -/
theorem inner_run {es : List OperatorEvent} {t : OperatorThreads}
    (h : Run OperatorStep s.threads es t) (hreported : s.tally.reported = false) :
    ∃ tally : StopTally, tally.reported = false ∧
      Run CallStep s (es.map .inner) { s with threads := t, tally := tally } := by
  induction h with
  | nil => exact ⟨s.tally, hreported, .nil⟩
  | @snoc es m t e _ hstep ih =>
      obtain ⟨tally, hsilent, hrun⟩ := ih
      have hinner := CallStep.inner (s := { s with threads := m, tally := tally }) hstep
      rw [List.map_append]
      exact ⟨_, StopTally.reported_add _ _ hsilent, hrun.snoc hinner⟩

/-- A stop that nobody interrupts comes to its end, and returns. -/
theorem stop_run (hopen : s.operator.isStopped = false) (hnodup : s.operator.dispatches.Nodup)
    (hreported : s.tally.reported = false) :
    ∃ es t, s.operator.stop.2 = t.operator ∧ Run CallStep s (es ++ [.reportStop]) t := by
  obtain ⟨es, threads, hresult, hfinished, hrun⟩ := s.threads.stop_run hopen hnodup
  obtain ⟨tally, hsilent, hcalls⟩ := s.inner_run hrun hreported
  have hreport := hcalls.snoc (.reportStop hfinished hsilent)
  refine ⟨_, _, ?_, hreport⟩
  exact hresult

end OperatorCalls

end RuleEngine
