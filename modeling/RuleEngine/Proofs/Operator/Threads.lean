import Mathlib.Logic.Function.Basic
import RuleEngine.Operator.Basic
import RuleEngine.Proofs.Interleaving

set_option autoImplicit false

/-! # Threads at an operator

Operations are dispatched on the thread of the tick and on threads of their own, and any thread may
stop the operator. They meet at the lifecycle and at the table of running operations, and take turns
there in the steps of `Operator`. Neither telling the operations of the table to stop nor clearing
the table is one step: the thread goes from entry to entry. It is sure to come to the entries that
were there when it began and still are; an entry that came later it may meet or miss.
-/

namespace RuleEngine

/-- How far a dispatch has come. -/
inductive DispatchStage
  | unborn
  /-- It has a number. -/
  | numbered
  /-- It is in the table, and has not looked whether the operator was stopped. -/
  | entered
  /-- It has seen that the operator was stopped. -/
  | late
  /-- It has told its operation to stop. -/
  | told
  /-- Its operation may be executed. -/
  | ready
  | executing
  | executed
  | ended
deriving DecidableEq, Inhabited

/-- The operation may be executed or was: nothing is left to do before. -/
def DispatchStage.isTracked : DispatchStage → Bool
  | .ready | .executing | .executed | .ended => true
  | .unborn | .numbered | .entered | .late | .told => false

/-- The dispatch may have an entry in the table. -/
def DispatchStage.isLive : DispatchStage → Bool
  | .entered | .late | .told | .ready | .executing | .executed => true
  | .unborn | .numbered | .ended => false

/-- How far the thread has come that stops the operator. -/
inductive StopStage
  | idle
  /-- The operator is marked as stopped. -/
  | marked
  /-- The operations are told to stop; `todo` are those that were there in the beginning. -/
  | telling (todo : List Nat)
  | through
  /-- The table is cleared; `todo` are those that were there in the beginning. -/
  | clearing (todo : List Nat)
  | cleared
  | finished
deriving DecidableEq, Inhabited

/-- What can happen at an operator. -/
inductive OperatorEvent
  | take (dispatch : Nat)
  | enter (dispatch : Nat) (tracked : Tracked)
  /-- A dispatch looks whether the operator was stopped. -/
  | check (dispatch : Nat)
  /-- A dispatch tells its own operation to stop. -/
  | tell (dispatch : Nat)
  /-- A dispatch that came late leaves the table. -/
  | withdraw (dispatch : Nat)
  | start (dispatch : Nat)
  | finish (dispatch : Nat)
  | leave (dispatch : Nat)
  /-- There is no thread for the operation; the dispatch ends without an execution. -/
  | abandon (dispatch : Nat)
  | stop
  /-- The stopping thread turns to the table. -/
  | look
  /-- The stopping thread comes to an entry, and tells the operation to stop. -/
  | reach (dispatch : Nat)
  | looked
  /-- The stopping thread begins to clear the table. -/
  | wipe
  | drop (dispatch : Nat)
  | wiped
  /-- The stopping thread gives up the plan, and is done. -/
  | release
deriving DecidableEq

/-- The numbers of the dispatches in the table. -/
def Operator.dispatches (o : Operator) : List Nat := o.inFlight.map (·.1)

/-- An operator, its dispatches, and the thread that stops it. -/
structure OperatorThreads where
  operator : Operator
  stage : Nat → DispatchStage := fun _ => .unborn
  stopper : StopStage := .idle

def OperatorThreads.advance (s : OperatorThreads) (dispatch : Nat) (stage : DispatchStage)
    (operator : Operator) : OperatorThreads :=
  { s with operator := operator, stage := Function.update s.stage dispatch stage }

namespace OperatorThreads

variable (s : OperatorThreads) (d : Nat) (stage : DispatchStage) (o : Operator)

@[simp] theorem advance_operator : (s.advance d stage o).operator = o := rfl

@[simp] theorem advance_stopper : (s.advance d stage o).stopper = s.stopper := rfl

@[simp] theorem advance_stage_self : (s.advance d stage o).stage d = stage :=
  Function.update_self ..

@[simp] theorem advance_stage_of_ne {other : Nat} (h : other ≠ d) :
    (s.advance d stage o).stage other = s.stage other :=
  Function.update_of_ne h ..

end OperatorThreads

/-- What one event makes of the threads at an operator. -/
inductive OperatorStep : OperatorThreads → OperatorEvent → OperatorThreads → Prop
  | take {s : OperatorThreads} :
      OperatorStep s (.take s.operator.takeDispatch.1)
        (s.advance s.operator.takeDispatch.1 .numbered s.operator.takeDispatch.2)
  | enter {s : OperatorThreads} (d : Nat) (tracked : Tracked) :
      s.stage d = .numbered →
      OperatorStep s (.enter d tracked) (s.advance d .entered (s.operator.enter d tracked))
  | check {s : OperatorThreads} (d : Nat) :
      s.stage d = .entered →
      OperatorStep s (.check d)
        (s.advance d (if s.operator.isStopped then .late else .ready) s.operator)
  | tell {s : OperatorThreads} (d : Nat) :
      s.stage d = .late → OperatorStep s (.tell d) (s.advance d .told (s.operator.signal d))
  | withdraw {s : OperatorThreads} (d : Nat) :
      s.stage d = .told → OperatorStep s (.withdraw d) (s.advance d .ready (s.operator.leave d))
  | start {s : OperatorThreads} (d : Nat) :
      s.stage d = .ready → OperatorStep s (.start d) (s.advance d .executing s.operator)
  | finish {s : OperatorThreads} (d : Nat) :
      s.stage d = .executing → OperatorStep s (.finish d) (s.advance d .executed s.operator)
  | leave {s : OperatorThreads} (d : Nat) :
      s.stage d = .executed → OperatorStep s (.leave d) (s.advance d .ended (s.operator.leave d))
  | abandon {s : OperatorThreads} (d : Nat) :
      s.stage d = .ready → OperatorStep s (.abandon d) (s.advance d .ended (s.operator.leave d))
  | stop {s : OperatorThreads} :
      OperatorStep s .stop
        { s with
          operator := s.operator.markStopped.2
          stopper := if s.operator.markStopped.1.isSome then .marked else s.stopper }
  | look {s : OperatorThreads} :
      s.stopper = .marked →
      OperatorStep s .look { s with stopper := .telling s.operator.dispatches }
  | reach {s : OperatorThreads} {todo : List Nat} (d : Nat) :
      s.stopper = .telling todo → d ∈ s.operator.dispatches →
      OperatorStep s (.reach d)
        { s with
          operator := s.operator.signal d
          stopper := .telling (todo.filter fun other => other != d) }
  | looked {s : OperatorThreads} {todo : List Nat} :
      s.stopper = .telling todo → (∀ d ∈ todo, d ∉ s.operator.dispatches) →
      OperatorStep s .looked { s with stopper := .through }
  | wipe {s : OperatorThreads} :
      s.stopper = .through →
      OperatorStep s .wipe { s with stopper := .clearing s.operator.dispatches }
  | drop {s : OperatorThreads} {todo : List Nat} (d : Nat) :
      s.stopper = .clearing todo → d ∈ s.operator.dispatches →
      OperatorStep s (.drop d) { s with operator := s.operator.leave d }
  | wiped {s : OperatorThreads} {todo : List Nat} :
      s.stopper = .clearing todo → (∀ d ∈ todo, d ∉ s.operator.dispatches) →
      OperatorStep s .wiped { s with stopper := .cleared }
  | release {s : OperatorThreads} :
      s.stopper = .cleared →
      OperatorStep s .release { s with operator := s.operator.dropPlan, stopper := .finished }

/-! ## The table and the marks -/

namespace Operator

variable (o : Operator) (d : Nat)

@[simp] theorem dispatches_takeDispatch : o.takeDispatch.2.dispatches = o.dispatches := rfl

@[simp] theorem dispatches_enter (tracked : Tracked) :
    (o.enter d tracked).dispatches = o.dispatches ++ [d] := by
  simp [dispatches, enter]

@[simp] theorem dispatches_signal : (o.signal d).dispatches = o.dispatches := rfl

@[simp] theorem dispatches_leave :
    (o.leave d).dispatches = o.dispatches.filter fun other => other != d := by
  simp [dispatches, leave, List.filter_map, Function.comp_def]

theorem markStopped_eq_none (h : o.isStopped = true) : o.markStopped = (none, o) := by
  simp [markStopped, h]

theorem markStopped_eq_some (h : o.isStopped = false) :
    o.markStopped = (some o.lifecycle, { o with lifecycle := .stopped }) := by
  simp [markStopped, h]

@[simp] theorem nextDispatch_markStopped : o.markStopped.2.nextDispatch = o.nextDispatch := by
  cases h : o.isStopped <;> simp [markStopped, h]

@[simp] theorem dispatches_markStopped : o.markStopped.2.dispatches = o.dispatches := by
  cases h : o.isStopped <;> simp [markStopped, h, dispatches]

@[simp] theorem dispatches_dropPlan : o.dropPlan.dispatches = o.dispatches := rfl

@[simp] theorem isStopped_takeDispatch : o.takeDispatch.2.isStopped = o.isStopped := rfl

@[simp] theorem isStopped_enter (tracked : Tracked) :
    (o.enter d tracked).isStopped = o.isStopped := rfl

@[simp] theorem isStopped_markStopped : o.markStopped.2.isStopped = true := by
  cases h : o.isStopped <;> simp [markStopped, h]
  rfl

@[simp] theorem isSignalled_signal (other : Nat) :
    (o.signal d).isSignalled other = (o.isSignalled other || decide (other = d)) := by
  simp [isSignalled, signal]

@[simp] theorem isSignalled_markStopped : o.markStopped.2.isSignalled d = o.isSignalled d := by
  cases h : o.isStopped <;> simp [markStopped, h, isSignalled]

end Operator

/-- An operation that was told to stop stays so. -/
theorem OperatorStep.isSignalled {s t : OperatorThreads} {e : OperatorEvent} {d : Nat}
    (h : OperatorStep s e t) (hd : s.operator.isSignalled d = true) :
    t.operator.isSignalled d = true := by
  cases h with
  | tell => simpa using .inl hd
  | stop => simpa using hd
  | reach => simpa using .inl hd
  | _ => exact hd

/-! ## Calls that nothing interrupts -/

namespace Operator

variable (o : Operator) (tracked : Tracked)

theorem track_eq_of_open (h : o.isStopped = false) :
    o.track tracked = (o.nextDispatch, o.takeDispatch.2.enter o.nextDispatch tracked) := by
  have hentered : ¬ (o.takeDispatch.2.enter o.nextDispatch tracked).isStopped = true := by simp [h]
  exact Prod.ext rfl (if_neg hentered)

theorem track_eq_of_stopped (h : o.isStopped = true) :
    o.track tracked = (o.nextDispatch,
      ((o.takeDispatch.2.enter o.nextDispatch tracked).signal o.nextDispatch).leave
        o.nextDispatch) := by
  have hentered : (o.takeDispatch.2.enter o.nextDispatch tracked).isStopped = true := by simp [h]
  exact Prod.ext rfl (if_pos hentered)

/-- Taking out the entries one after the other takes out all of them. -/
theorem foldl_leave (todo : List Nat) :
    todo.foldl leave o = { o with inFlight := o.inFlight.filter fun e => decide (e.1 ∉ todo) } := by
  induction todo generalizing o with
  | nil => simp [List.filter_eq_self.mpr]
  | cons d rest ih =>
      rw [List.foldl_cons, ih]
      simp only [leave, List.filter_filter]
      congr 1
      refine List.filter_congr fun e _ => ?_
      by_cases hd : e.1 = d <;> simp [hd]

theorem foldl_leave_dispatches : o.dispatches.foldl leave o = o.clearTable := by
  rw [foldl_leave]
  have hnone : (o.inFlight.filter fun e => decide (e.1 ∉ o.dispatches)) = [] := by
    refine List.filter_eq_nil_iff.mpr fun e he => ?_
    have hmem : e.1 ∈ o.dispatches := List.mem_map_of_mem he
    simpa using hmem
  rw [hnone]
  rfl

theorem dispatches_foldl_signal (todo : List Nat) :
    (todo.foldl signal o).dispatches = o.dispatches := by
  induction todo generalizing o with
  | nil => rfl
  | cons d rest ih => exact ih (o.signal d)

theorem foldl_signal_dispatches : o.dispatches.foldl signal o = o.signalAll.2 := by
  rw [dispatches, List.foldl_map]
  rfl

end Operator

namespace OperatorThreads

variable (s : OperatorThreads)

/-- A dispatch enters its operation while nobody stops the operator. -/
theorem track_run_open (tracked : Tracked) (hopen : s.operator.isStopped = false) :
    ∃ d t, s.operator.track tracked = (d, t.operator) ∧
      Run OperatorStep s [.take d, .enter d tracked, .check d] t := by
  have htake := Run.nil.snoc (OperatorStep.take (s := s))
  have henter := htake.snoc (.enter _ tracked (advance_stage_self ..))
  have hcheck := henter.snoc (.check _ (advance_stage_self ..))
  exact ⟨_, _, s.operator.track_eq_of_open tracked hopen, hcheck⟩

/-- A dispatch enters its operation when the operator has been stopped. -/
theorem track_run_stopped (tracked : Tracked) (hstopped : s.operator.isStopped = true) :
    ∃ d t, s.operator.track tracked = (d, t.operator) ∧
      Run OperatorStep s [.take d, .enter d tracked, .check d, .tell d, .withdraw d] t := by
  have htake := Run.nil.snoc (OperatorStep.take (s := s))
  have henter := htake.snoc (.enter _ tracked (advance_stage_self ..))
  have hcheck := henter.snoc (.check _ (advance_stage_self ..))
  simp only [advance_operator, Operator.isStopped_enter, Operator.isStopped_takeDispatch, hstopped,
    if_true] at hcheck
  have htell := hcheck.snoc (.tell _ (advance_stage_self ..))
  have hwithdraw := htell.snoc (.withdraw _ (advance_stage_self ..))
  exact ⟨_, _, s.operator.track_eq_of_stopped tracked hstopped, hwithdraw⟩

/-- The stopping thread comes to the entries of a list, one after the other. -/
theorem reach_run {todo : List Nat} (hstopper : s.stopper = .telling todo) (hnodup : todo.Nodup)
    (hmem : ∀ d ∈ todo, d ∈ s.operator.dispatches) :
    Run OperatorStep s (todo.map .reach)
      { s with operator := todo.foldl Operator.signal s.operator, stopper := .telling [] } := by
  induction todo generalizing s with
  | nil =>
      rw [← hstopper]
      exact .nil
  | cons d rest ih =>
      obtain ⟨hd, hrest⟩ := List.nodup_cons.mp hnodup
      have hreach := OperatorStep.reach d hstopper (hmem d (by simp))
      have hothers : (d :: rest).filter (fun other => other != d) = rest := by
        rw [List.filter_cons_of_neg (by simp), List.filter_eq_self]
        intro other hother
        have hne : other ≠ d := fun heq => hd (heq ▸ hother)
        simpa using hne
      rw [hothers] at hreach
      have hmem' : ∀ other ∈ rest, other ∈ (s.operator.signal d).dispatches :=
        fun other hother => hmem other (by simp [hother])
      have hrun := ih { s with operator := s.operator.signal d, stopper := .telling rest } rfl hrest
        hmem'
      exact (Run.nil.snoc hreach).append hrun

/-- The stopping thread takes the entries of a list out of the table, one after the other. -/
theorem drop_run {all todo : List Nat} (hstopper : s.stopper = .clearing all) (hnodup : todo.Nodup)
    (hmem : ∀ d ∈ todo, d ∈ s.operator.dispatches) :
    Run OperatorStep s (todo.map .drop)
      { s with operator := todo.foldl Operator.leave s.operator } := by
  induction todo generalizing s with
  | nil => exact .nil
  | cons d rest ih =>
      obtain ⟨hd, hrest⟩ := List.nodup_cons.mp hnodup
      have hdrop := OperatorStep.drop d hstopper (hmem d (by simp))
      have hmem' : ∀ other ∈ rest, other ∈ (s.operator.leave d).dispatches := by
        intro other hother
        have hne : other ≠ d := fun heq => hd (heq ▸ hother)
        simpa [hne] using hmem other (by simp [hother])
      have hrun := ih { s with operator := s.operator.leave d } hstopper hrest hmem'
      exact (Run.nil.snoc hdrop).append hrun

theorem stop_run (hopen : s.operator.isStopped = false) (hnodup : s.operator.dispatches.Nodup) :
    ∃ es t, s.operator.stop.2 = t.operator ∧ t.stopper = .finished ∧ Run OperatorStep s es t := by
  have hmarked := s.operator.markStopped_eq_some hopen
  generalize hm : { s.operator with lifecycle := .stopped } = marked at hmarked
  have hdispatches : marked.dispatches = s.operator.dispatches := by rw [← hm]; rfl
  have hresult : s.operator.stop.2 = marked.signalAll.2.clearTable.dropPlan := by
    simp [Operator.stop, hmarked]
  have hmark : Run OperatorStep s [.stop, .look]
      { s with operator := marked, stopper := .telling marked.dispatches } := by
    have hstop := OperatorStep.stop (s := s)
    simp only [hmarked, Option.isSome_some, if_true] at hstop
    exact (Run.nil.snoc hstop).snoc (.look rfl)
  have htell := reach_run { s with operator := marked, stopper := .telling marked.dispatches } rfl
    (hdispatches ▸ hnodup) fun d hd => hd
  rw [Operator.foldl_signal_dispatches] at htell
  have hwipe := (htell.snoc (.looked rfl (by simp))).snoc (.wipe rfl)
  have hsignalled : marked.signalAll.2.dispatches = marked.dispatches := by
    rw [← Operator.foldl_signal_dispatches, Operator.dispatches_foldl_signal]
  have hdrop := drop_run { s with
    operator := marked.signalAll.2, stopper := .clearing marked.signalAll.2.dispatches } rfl
    (by rw [hsignalled, hdispatches]; exact hnodup) fun d hd => hd
  rw [Operator.foldl_leave_dispatches] at hdrop
  have hend := ((hmark.append (hwipe.append hdrop)).snoc (.wiped rfl ?_)).snoc (.release rfl)
  · exact ⟨_, _, hresult, rfl, hend⟩
  · simp [Operator.clearTable, Operator.dispatches]

end OperatorThreads

end RuleEngine
