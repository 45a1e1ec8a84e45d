import RuleEngine.Proofs.Operator.TickDispatches

set_option autoImplicit false

/-! # Operators that change between ticks

Who runs ticks changes the lifecycle and the plan of an operator, and between the ticks others dispatch
operations and stop it. What was proved of operators holds all the same: as long as nobody has stopped
an operator, its dispatches do not depend on its lifecycle or its plan (`OperatorStep.renew`), so the
threads at the operator are where they could have come if both had been there from the beginning
(`renew_run`).
-/

namespace RuleEngine

/-- The operator has another lifecycle and another plan, and all else is as before. -/
def OperatorThreads.renew (s : OperatorThreads) (lifecycle : Lifecycle) (plan : Option Plan) :
    OperatorThreads :=
  { s with operator := { s.operator with lifecycle := lifecycle, plan := plan } }

section Renewal

variable {s t : OperatorThreads} {e : OperatorEvent} {o : Operator} {fs : List OperatorEvent}
  {l : Lifecycle} {p : Option Plan}

theorem Operator.isStopped_eq_false_iff : o.isStopped = false ↔ o.lifecycle ≠ .stopped := by
  unfold isStopped
  rw [beq_eq_false_iff_ne]

theorem Operator.lifecycle_of_isStopped (h : o.isStopped = true) : o.lifecycle = .stopped := by
  by_contra hne
  rw [isStopped_eq_false_iff.2 hne] at h
  cases h

/-- Dispatches at an operator that is open do not depend on its lifecycle or its plan. -/
theorem OperatorStep.renew (h : OperatorStep s e t) (htable : TableFits s)
    (hopen : t.operator.isStopped = false) (hl : l ≠ .stopped) :
    OperatorStep (s.renew l p) e (t.renew l p) := by
  have hrenewed : (s.renew l p).operator.isStopped = false :=
    Operator.isStopped_eq_false_iff.2 hl
  -- a stop that is under way has found the operator open
  have hidle : s.stopper = .idle := by
    by_contra hne
    rw [h.isStopped (htable.stopped hne)] at hopen
    cases hopen
  cases h with
  | take => exact .take
  | enter d tracked hstage => exact .enter d tracked hstage
  | check d hstage =>
      have hcheck := OperatorStep.check (s := s.renew l p) d hstage
      rw [hrenewed] at hcheck
      rw [show s.operator.isStopped = false from hopen]
      exact hcheck
  | tell d hstage => exact .tell d hstage
  | withdraw d hstage => exact .withdraw d hstage
  | start d hstage => exact .start d hstage
  | finish d hstage => exact .finish d hstage
  | leave d hstage => exact .leave d hstage
  | abandon d hstage => exact .abandon d hstage
  | stop =>
      rw [show ({ s with operator := _, stopper := _ } : OperatorThreads).operator.isStopped = true
        from s.operator.isStopped_markStopped] at hopen
      cases hopen
  | look hstopper | reach _ hstopper | looked hstopper | wipe hstopper | drop _ hstopper
  | wiped hstopper | release hstopper =>
      rw [hidle] at hstopper
      cases hstopper

/-- Where an operator is open, another lifecycle and another plan might have been there from the
beginning. -/
theorem renew_run (ho : o.inFlight = []) (h : Run OperatorStep (.begin o) fs s)
    (hopen : s.operator.isStopped = false) (hl : l ≠ .stopped) :
    Run OperatorStep (.begin { o with lifecycle := l, plan := p }) fs (s.renew l p) := by
  induction h with
  | nil => exact .nil
  | @snoc fs m t e hrun hstep ih =>
      have hbefore : m.operator.isStopped = false := by
        cases hstopped : m.operator.isStopped with
        | false => rfl
        | true =>
            rw [hstep.isStopped hstopped] at hopen
            cases hopen
      exact (ih hbefore).snoc (hstep.renew (tableFits ho hrun) hopen hl)

/-- A dispatch that has ended stays so. -/
theorem OperatorStep.ended (h : OperatorStep s e t) (htable : TableFits s) {d : Nat}
    (hd : s.stage d = .ended) : t.stage d = .ended := by
  by_cases he : e.dispatch? = some d
  · cases h with
    | take =>
        have hunborn := OperatorStep.take.unborn_of_take htable
        rw [show s.operator.takeDispatch.1 = d from Option.some.inj he, hd] at hunborn
        cases hunborn
    | enter d' _ hstage | check d' hstage | tell d' hstage | withdraw d' hstage | start d' hstage
    | finish d' hstage | leave d' hstage | abandon d' hstage =>
        obtain rfl := Option.some.inj he
        rw [hd] at hstage
        cases hstage
    | _ => cases he
  · exact (h.stage_of_ne he).trans hd

end Renewal

end RuleEngine
