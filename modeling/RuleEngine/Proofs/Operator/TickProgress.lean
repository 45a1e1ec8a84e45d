import RuleEngine.Proofs.Operator.TickDispatches

set_option autoImplicit false

/-! # Ticks come to their end

Whatever has happened so far, and wherever the tick and its dispatches stand, the tick is not stuck:
there is a way on that leads it to its result (`canEnd`). Only its own steps are needed for it, and
the answers of devices and lane to what they have been asked for.

The way leads back from the end. An execution that has ended answers; one that has begun comes to its
end; a dispatch on its way to the table gets there; and behind every answer the rest of the program
is smaller.
-/

namespace RuleEngine

namespace TickThreads

/-- There is a way on that leads the tick to its end. -/
def CanEnd (s : TickThreads) : Prop :=
  ∃ es t result, Run TickStep s es t ∧ t.program = .ret result

theorem CanEnd.of_step {s t : TickThreads} {e : TickEvent} (h : TickStep s e t) (ht : t.CanEnd) :
    s.CanEnd := by
  obtain ⟨es, u, result, hrun, hend⟩ := ht
  exact ⟨[e] ++ es, u, result, (Run.nil.snoc h).append hrun, hend⟩

/-- Whatever the tick is answered, it can end. -/
def EndsBehind (next : Except ActionFailure Unit → TickProgram (Except EngineError TickReport)) :
    Prop :=
  ∀ (result : Except ActionFailure Unit) (t : TickThreads), t.program = next result →
    t.current = none → t.CanEnd

/-- The tick waits for a dispatch, and will go on with its answer. -/
structure WaitsFor (s : TickThreads) (d : Nat) (w : TickWork)
    (next : Except ActionFailure Unit → TickProgram (Except EngineError TickReport)) : Prop where
  program : s.program = .execute w.rule w.operation next
  current : s.current = some d
  work : s.work d = some w

variable {s : TickThreads} {d : Nat} {w : TickWork}
variable {next : Except ActionFailure Unit → TickProgram (Except EngineError TickReport)}

/-! ## From the execution to the answer -/

theorem canEnd_of_ended {c : Completion} (h : s.WaitsFor d w next) (hended : w.stage = .ended c)
    (hstage : s.threads.stage d = .executing)
    (hnext : EndsBehind next) : s.CanEnd := by
  refine .of_step (.own h.work (.finish hended) (.finish d hstage)) ?_
  refine .of_step (.answer h.program h.current h.work hended (.leave d ?_)) (hnext _ _ rfl rfl)
  exact OperatorThreads.advance_stage_self ..

theorem canEnd_of_last {c : Completion} {e : ExecEvent} (h : s.WaitsFor d w next)
    (hstage : s.threads.stage d = .executing)
    (hlast : ExecStep w.operation (s.operator.isSignalled d) s.clock w.stage e (.ended c))
    (hnext : EndsBehind next) : s.CanEnd := by
  refine .of_step (.exec hstage h.work hlast) ?_
  refine canEnd_of_ended (w := { w with stage := .ended c }) ⟨h.program, h.current, ?_⟩ rfl hstage
    hnext
  exact Function.update_self ..

theorem canEnd_of_begun (h : s.WaitsFor d w next) (hstage : s.threads.stage d = .executing)
    (hbegun : w.stage ≠ .fresh)
    (hnext : EndsBehind next) : s.CanEnd := by
  obtain ⟨rule, operation, detached, stage⟩ := w
  cases stage with
  | fresh => exact absurd rfl hbegun
  | ended c => exact canEnd_of_ended h rfl hstage hnext
  | commanded => exact canEnd_of_last h hstage (.answer .done) hnext
  | storing key value => exact canEnd_of_last h hstage (.write key value) hnext
  | clearing key => exact canEnd_of_last h hstage (.clear key) hnext
  | submitting target key => exact canEnd_of_last h hstage (.refuse .laneClosed) hnext
  | awaiting key =>
      -- the lane answers with an error; a stop comes before it
      obtain ⟨c, hpoll⟩ : ∃ c, ExecStep operation (s.operator.isSignalled d) s.clock
          (.awaiting key) (.poll (some (.error .laneClosed))) (.ended c) := by
        cases s.operator.isSignalled d with
        | true => exact ⟨_, .poll key _⟩
        | false => exact ⟨_, .poll key _⟩
      exact canEnd_of_last h hstage hpoll hnext
  | sleeping deadline =>
      refine .of_step (.pass (Nat.le_max_left s.clock deadline)) ?_
      refine canEnd_of_last ⟨h.program, h.current, h.work⟩ hstage (.wake (Or.inr ?_)) hnext
      exact Nat.le_max_right ..
  | commanding command =>
      refine .of_step (.exec hstage h.work (.command command)) ?_
      refine canEnd_of_last (w := ⟨rule, operation, detached, .commanded⟩)
        ⟨h.program, h.current, Function.update_self ..⟩ hstage (.answer .done) hnext

theorem canEnd_of_executing (h : s.WaitsFor d w next) (hstage : s.threads.stage d = .executing)
    (hnext : EndsBehind next) : s.CanEnd := by
  by_cases hbegun : w.stage = .fresh
  · have hbegin : ExecStep w.operation (s.operator.isSignalled d) s.clock .fresh
        (.begin s.clock) _ := .begin
    rw [← hbegun] at hbegin
    refine .of_step (.exec hstage h.work hbegin) ?_
    refine canEnd_of_begun (w := { w with stage := .ofBeginning _ })
      ⟨h.program, h.current, Function.update_self ..⟩ hstage ?_ hnext
    cases w.operation.effect.begin w.operation.name (s.operator.isSignalled d) s.clock <;> nofun
  · exact canEnd_of_begun h hstage hbegun hnext

/-! ## From the number to the execution -/

/-- A dispatch that has not begun its execution gets ready for it. -/
theorem canEnd_of_waiting (hwork : s.work d = some w)
    (hwaiting : (s.threads.stage d).isWaiting = true)
    (hready : ∀ threads : OperatorThreads, threads.stage d = .ready →
      ({ s with threads := threads } : TickThreads).CanEnd) : s.CanEnd := by
  have htold : ∀ threads : OperatorThreads, threads.stage d = .told →
      ({ s with threads := threads } : TickThreads).CanEnd := fun _ hstage =>
    .of_step (.own hwork .withdraw (.withdraw d hstage))
      (hready _ (OperatorThreads.advance_stage_self ..))
  have hlate : ∀ threads : OperatorThreads, threads.stage d = .late →
      ({ s with threads := threads } : TickThreads).CanEnd := fun _ hstage =>
    .of_step (.own hwork .tell (.tell d hstage)) (htold _ (OperatorThreads.advance_stage_self ..))
  have hentered : ∀ threads : OperatorThreads, threads.stage d = .entered →
      ({ s with threads := threads } : TickThreads).CanEnd := by
    intro threads hstage
    refine .of_step (.own hwork .check (.check d hstage)) ?_
    by_cases hstopped : threads.operator.isStopped = true
    · refine hlate _ ?_
      rw [OperatorThreads.advance_stage_self, if_pos hstopped]
    · refine hready _ ?_
      rw [OperatorThreads.advance_stage_self, if_neg hstopped]
  cases hstage : s.threads.stage d with
  | numbered =>
      exact .of_step (.own hwork .enter (.enter d _ hstage))
        (hentered _ (OperatorThreads.advance_stage_self ..))
  | entered => exact hentered s.threads hstage
  | late => exact hlate s.threads hstage
  | told => exact htold s.threads hstage
  | ready => exact hready s.threads hstage
  | unborn | executing | executed | ended =>
      rw [hstage] at hwaiting
      cases hwaiting

/-- The dispatch that the tick waits for gets ready, is executed and answers. -/
theorem WaitsFor.canEnd_of_waiting (h : s.WaitsFor d w next)
    (hwaiting : (s.threads.stage d).isWaiting = true) (hnext : EndsBehind next) : s.CanEnd := by
  refine TickThreads.canEnd_of_waiting h.work hwaiting fun threads hready => ?_
  refine .of_step (.own h.work .start (.start d hready)) ?_
  exact canEnd_of_executing ⟨h.program, h.current, h.work⟩
    (OperatorThreads.advance_stage_self ..) hnext

/-! ## Programs -/

/-- A tick that is at no dispatch can end. -/
theorem canEnd_of_free {p : TickProgram (Except EngineError TickReport)} (hprogram : s.program = p)
    (hcurrent : s.current = none) : s.CanEnd := by
  induction p generalizing s with
  | ret result => exact ⟨[], s, result, .nil, hprogram⟩
  | look next ih => exact .of_step (.look hprogram) (ih _ rfl hcurrent)
  | record rule next ih => exact .of_step (.record hprogram) (ih rfl hcurrent)
  | emit n next ih => exact .of_step (.emit hprogram) (ih rfl hcurrent)
  | execute rule c next ih =>
      refine .of_step (.take hcurrent (by rw [hprogram]; rfl) .take) ?_
      have hwaits : ∀ threads current, TickThreads.WaitsFor { s with
          threads := threads
          current := some current
          work := Function.update s.work current
            (some { rule := rule, operation := c, detached := false }) }
          current { rule := rule, operation := c, detached := false } next :=
        fun _ _ => ⟨hprogram, rfl, Function.update_self ..⟩
      refine (hwaits _ _).canEnd_of_waiting ?_ fun result t ht hfree => ih result ht hfree
      show ((s.threads.advance _ _ _).stage _).isWaiting = true
      rw [OperatorThreads.advance_stage_self]
      rfl
  | dispatch rule c next ih =>
      refine .of_step (.take hcurrent (by rw [hprogram]; rfl) .take) ?_
      refine TickThreads.canEnd_of_waiting (Function.update_self ..) ?_ fun threads hready => ?_
      · show ((s.threads.advance _ _ _).stage _).isWaiting = true
        rw [OperatorThreads.advance_stage_self]
        rfl
      · refine .of_step (.spawn hprogram rfl (Function.update_self ..) ?_) (ih rfl rfl)
        show (threads.stage _).isTracked = true
        rw [hready]
        rfl

end TickThreads

/-! ## Ticks that are at a dispatch -/

/-- The dispatch that the tick is at is the one that its program has begun. -/
def CurrentFits (s : TickThreads) : Prop :=
  ∀ d, s.current = some d → ∃ w, s.work d = some w ∧
    ((∃ next, s.program = .execute w.rule w.operation next ∧ w.detached = false ∧
        s.threads.stage d ≠ .ended) ∨
      ∃ next, s.program = .dispatch w.rule w.operation next)

/-- Events that are not about the dispatch that the tick is at leave it there. -/
theorem CurrentFits.quiet {s t : TickThreads} {e : TickEvent} {d : Nat} (h : CurrentFits s)
    (hstep : TickStep s e t) (he : e.dispatch? ≠ some d) (hprogram : t.program = s.program)
    (hd : s.current = some d) : ∃ w, t.work d = some w ∧
      ((∃ next, t.program = .execute w.rule w.operation next ∧ w.detached = false ∧
          t.threads.stage d ≠ .ended) ∨
        ∃ next, t.program = .dispatch w.rule w.operation next) := by
  obtain ⟨w, hw, hcurrent⟩ := h d hd
  obtain ⟨hwork, hstage⟩ := hstep.quiet he
  rw [hwork, hprogram, hstage (by simp [hw])]
  exact ⟨w, hw, hcurrent⟩

theorem CurrentFits.step {s t : TickThreads} {e : TickEvent} (h : CurrentFits s)
    (hstep : TickStep s e t) : CurrentFits t := by
  have hgo := hstep
  intro d hd
  cases hstep with
  | others | context | pass => exact h.quiet hgo nofun rfl hd
  | look hprogram | record hprogram | emit hprogram =>
      -- the tick is at no dispatch
      obtain ⟨w, -, ⟨next, hother, -⟩ | ⟨next, hother⟩⟩ := h d hd
      all_goals
        rw [hprogram] at hother
        cases hother
  | @take d' w t' hcurrent hnext hop =>
      obtain rfl := Option.some.inj hd
      refine ⟨w, Function.update_self .., ?_⟩
      obtain ⟨-, ⟨next, hprogram, hdetached⟩ | ⟨next, hprogram, -⟩⟩ :=
        TickProgram.work?_eq_some hnext
      · refine Or.inl ⟨next, hprogram, hdetached, ?_⟩
        show t'.stage d' ≠ .ended
        rw [hop.stage_of_take]
        decide
      · exact Or.inr ⟨next, hprogram⟩
  | @own d' w e' t' hwork htakes hop =>
      by_cases heq : d' = d
      · subst heq
        obtain ⟨w, hw, ⟨next, hprogram, hdetached, -⟩ | ⟨next, hprogram⟩⟩ := h d' hd
        · refine ⟨w, hw, Or.inl ⟨next, hprogram, hdetached, ?_⟩⟩
          show t'.stage d' ≠ .ended
          intro hended
          rcases htakes.stages hop with ⟨-, ht⟩ | ⟨-, ht⟩ | ⟨-, ht, -⟩
          all_goals
            rw [hended] at ht
            cases ht
        · exact ⟨w, hw, Or.inr ⟨next, hprogram⟩⟩
      · refine h.quiet hgo (fun hsome => heq ?_) rfl hd
        exact Option.some.inj (htakes.dispatch?.symm.trans hsome)
  | @exec d' w' x stage hstage hwork hexec =>
      by_cases heq : d' = d
      · subst heq
        obtain ⟨w, hw, hcurrent⟩ := h d' hd
        obtain rfl : w' = w := Option.some.inj (hwork.symm.trans hw)
        exact ⟨{ w' with stage := stage }, Function.update_self .., hcurrent⟩
      · exact h.quiet hgo (fun hsome => heq (Option.some.inj hsome)) rfl hd
  | answer | spawn | abandon => cases hd
  | @conclude d' w' c t' hwork hdetached hended hop =>
      by_cases heq : d' = d
      · subst heq
        obtain ⟨w, hw, ⟨next, -, hwaited, -⟩ | ⟨next, hprogram⟩⟩ := h d' hd
        · obtain rfl : w' = w := Option.some.inj (hwork.symm.trans hw)
          rw [hwaited] at hdetached
          cases hdetached
        · exact ⟨w, hw, Or.inr ⟨next, hprogram⟩⟩
      · exact h.quiet hgo (fun hsome => heq (Option.some.inj hsome)) rfl hd

section Runs

variable {plan : Plan} {context : Context} {start s : TickThreads} {es : List TickEvent}

theorem currentFits (hstart : start.IsNew plan context) (h : Run TickStep start es s) :
    CurrentFits s := by
  induction h with
  | nil =>
      obtain ⟨threads, clock, rfl⟩ := hstart.begun
      exact fun d hd => by cases hd
  | snoc _ hstep ih => exact ih.step hstep

/-- **A tick is never stuck**: there is always a way on to its end. -/
theorem canEnd (hstart : start.IsNew plan context) (h : Run TickStep start es s) : s.CanEnd := by
  cases hcurrent : s.current with
  | none => exact TickThreads.canEnd_of_free rfl hcurrent
  | some d =>
      obtain ⟨w, hw, ⟨next, hprogram, -, hstage⟩ | ⟨next, hprogram⟩⟩ :=
        currentFits hstart h d hcurrent
      · have hfits := workFits hstart h hw
        have hnext : TickThreads.EndsBehind next :=
          fun _ _ ht hfree => TickThreads.canEnd_of_free ht hfree
        have hwaits : s.WaitsFor d w next := ⟨hprogram, hcurrent, hw⟩
        cases hs : s.threads.stage d with
        | unborn => exact absurd hs hfits.born
        | ended => exact absurd hs hstage
        | executing => exact TickThreads.canEnd_of_executing hwaits hs hnext
        | executed =>
            obtain ⟨c, hended⟩ := hfits.ended hs
            exact .of_step (.answer hprogram hcurrent hw hended (.leave d hs)) (hnext _ _ rfl rfl)
        | numbered | entered | late | told | ready =>
            exact hwaits.canEnd_of_waiting (by rw [hs]; rfl) hnext
      · by_cases htracked : (s.threads.stage d).isTracked = true
        · exact .of_step (.spawn hprogram hcurrent hw htracked) (TickThreads.canEnd_of_free rfl rfl)
        · have hwaiting : (s.threads.stage d).isWaiting = true :=
            DispatchStage.isWaiting_of_not_isTracked (workFits hstart h hw).born htracked
          refine TickThreads.canEnd_of_waiting hw hwaiting fun threads hready => ?_
          refine .of_step (.spawn hprogram hcurrent hw ?_) (TickThreads.canEnd_of_free rfl rfl)
          show (threads.stage d).isTracked = true
          rw [hready]
          rfl

end Runs

end RuleEngine
