import RuleEngine.Proofs.Operator.Interruption
import RuleEngine.Proofs.Operator.Lifecycle
import RuleEngine.Proofs.Operator.Renewal
import RuleEngine.Proofs.Session.Threads

set_option autoImplicit false

/-! # The operator of a session

A session changes the lifecycle and the plan of its operator, and between the ticks that it runs
others dispatch operations and stop it. What was proved of operators and of ticks holds all the same:
as long as nobody has stopped an operator, its dispatches do not depend on its lifecycle or its plan
(`OperatorStep.renew`), so at every moment the threads at the operator are where they could have come
without the session (`sessionReached`), and every tick that runs begins at such a moment
(`tickingFits`).
-/

namespace RuleEngine

/-! ## What the session does to its operator -/

section Steps

variable {ω α : Type} {config : SessionSettings} {s t : SessionThreads ω α} {e : SessionEvent ω α}

/-- What happens to the threads at the operator: nothing, one of their own steps, or the session
gives an open operator another lifecycle or another plan. -/
theorem SessionStep.threads (h : SessionStep config s e t) :
    t.ticks.threads = s.ticks.threads ∨
      (∃ e', OperatorStep s.ticks.threads e' t.ticks.threads) ∨
        ∃ l p, s.operator.isStopped = false ∧ l ≠ .stopped ∧
          t.ticks.threads = s.ticks.threads.renew l p := by
  cases h with
  | tick hstep =>
      rcases hstep.threads with hsame | hop
      · exact .inl hsame
      · exact .inr (.inl hop)
  | load _ hload =>
      obtain ⟨hstate, -, plan, rfl⟩ := Operator.load_eq_ok hload
      refine .inr (.inr ⟨.loaded, some plan, ?_, by decide, rfl⟩)
      rw [Operator.isStopped_eq_false_iff, hstate]
      decide
  | enterTick _ henter =>
      rcases Operator.enterTick_cases henter with ⟨hrunnable, rfl, rfl⟩ | ⟨-, rfl, rfl⟩
      · refine .inr (.inr ⟨.running, s.operator.plan, ?_, by decide, rfl⟩)
        rw [Operator.isStopped_eq_false_iff]
        rcases hrunnable with hl | hl <;> simp [hl]
      · exact .inl rfl
  | stop _ hop => exact .inr (.inl ⟨_, hop⟩)
  | _ => exact .inl rfl

theorem SessionStep.isStopped (h : SessionStep config s e t)
    (hs : s.operator.isStopped = true) : t.operator.isStopped = true := by
  unfold SessionThreads.operator
  rcases h.threads with hsame | ⟨_, hop⟩ | ⟨_, _, hopen, -, -⟩
  · rw [hsame]
    exact hs
  · exact hop.isStopped hs
  · rw [hopen] at hs
    cases hs

theorem SessionStep.ended (h : SessionStep config s e t) (htable : TableFits s.ticks.threads)
    {d : Nat} (hd : s.ticks.threads.stage d = .ended) : t.ticks.threads.stage d = .ended := by
  rcases h.threads with hsame | ⟨_, hop⟩ | ⟨_, _, -, -, hrenewed⟩
  · rw [hsame]
    exact hd
  · exact hop.ended htable hd
  · rw [hrenewed]
    exact hd

end Steps

/-! ## Between ticks -/

/-- Nothing is left to do of a tick. -/
structure TickThreads.IsIdle (s : TickThreads) : Prop where
  current : s.current = none
  program : ∃ result, s.program = .ret result
  work : ∀ d, s.work d = none

/-- Between ticks only others do something. -/
theorem TickStep.isIdle {s t : TickThreads} {e : TickEvent} (h : TickStep s e t) (hs : s.IsIdle) :
    t.IsIdle ∧ e.dispatch? = none := by
  obtain ⟨hcurrent, ⟨result, hprogram⟩, hwork⟩ := hs
  cases h with
  | others | context | pass => exact ⟨⟨hcurrent, ⟨result, hprogram⟩, hwork⟩, rfl⟩
  | look hnext | record hnext | emit hnext =>
      rw [hprogram] at hnext
      cases hnext
  | take _ hnext =>
      rw [hprogram] at hnext
      cases hnext
  | own hw | exec _ hw | answer _ _ hw | spawn _ _ hw | abandon _ _ _ hw | conclude hw =>
      rw [hwork] at hw
      cases hw

/-! ## Runs -/

section Runs

variable {ω α : Type} {config : SessionSettings} {o : Operator} {context : Context}
  {es : List (SessionEvent ω α)} {s : SessionThreads ω α}

/-- The threads at the operator are where they could have come without the session. -/
theorem sessionReached (ho : o.inFlight = []) (hsignalled : o.signalled = [])
    (h : Run (SessionStep config) (.begin o context) es s) :
    ∃ o' fs, o'.inFlight = [] ∧ o'.signalled = [] ∧
      Run OperatorStep (.begin o') fs s.ticks.threads := by
  induction h with
  | nil => exact ⟨o, [], ho, hsignalled, .nil⟩
  | snoc _ hstep ih =>
      obtain ⟨o', fs, ho', hsignalled', hrun⟩ := ih
      rcases hstep.threads with hsame | ⟨e, hop⟩ | ⟨l, p, hopen, hl, hrenewed⟩
      · rw [hsame]
        exact ⟨o', fs, ho', hsignalled', hrun⟩
      · exact ⟨o', fs ++ [e], ho', hsignalled', hrun.snoc hop⟩
      · rw [hrenewed]
        exact ⟨{ o' with lifecycle := l, plan := p }, fs, ho', hsignalled',
          renew_run ho' hrun hopen hl⟩

theorem sessionTableFits (ho : o.inFlight = []) (hsignalled : o.signalled = [])
    (h : Run (SessionStep config) (.begin o context) es s) : TableFits s.ticks.threads := by
  obtain ⟨o', fs, ho', -, hrun⟩ := sessionReached ho hsignalled h
  exact tableFits ho' hrun

/-- The dispatch that the tick is at is the one that its program has begun, and between ticks there
is none. -/
theorem sessionCurrentFits (h : Run (SessionStep config) (.begin o context) es s) :
    CurrentFits s.ticks := by
  induction h with
  | nil => exact fun d hd => by cases hd
  | snoc _ hstep ih =>
      cases hstep with
      | tick htick => exact ih.step htick
      | takePlan => exact fun d hd => by cases hd
      | panic _ _ hcurrent => exact fun d hd => absurd (hcurrent.symm.trans hd) nofun
      | answer _ hprogram =>
          intro d hd
          obtain ⟨w, -, ⟨next, hother, -⟩ | ⟨next, hother⟩⟩ := ih d hd
          all_goals
            rw [hprogram] at hother
            cases hother
      | stop _ hop =>
          cases hop
          exact ih
      | _ => exact ih

theorem sessionIdle (h : Run (SessionStep config) (.begin o context) es s)
    (hstage : s.stage ≠ .ticking) : s.ticks.IsIdle := by
  induction h with
  | nil => exact ⟨rfl, ⟨_, rfl⟩, fun _ => rfl⟩
  | @snoc es m t e hrun hstep ih =>
      -- the session was between ticks, and the tick is as it was
      have hkept : m.stage ≠ .ticking → t.ticks.current = m.ticks.current →
          t.ticks.program = m.ticks.program → t.ticks.work = m.ticks.work → t.ticks.IsIdle := by
        intro hbefore hcurrent hprogram hwork
        obtain ⟨hc, hp, hw⟩ := ih hbefore
        exact ⟨hcurrent.trans hc, hprogram ▸ hp, hwork ▸ hw⟩
      cases hstep with
      | tick htick => exact (htick.isIdle (ih hstage)).1
      | takePlan => exact absurd rfl hstage
      | panic _ _ hcurrent => exact ⟨hcurrent, ⟨_, rfl⟩, fun _ => rfl⟩
      | @answer result _ hprogram =>
          refine ⟨?_, ⟨result, hprogram⟩, fun _ => rfl⟩
          cases hcurrent : m.ticks.current with
          | none => exact hcurrent
          | some d =>
              obtain ⟨w, -, ⟨next, hother, -⟩ | ⟨next, hother⟩⟩ := sessionCurrentFits hrun d hcurrent
              all_goals
                rw [hprogram] at hother
                cases hother
      | notify | reap | lane | shutdown => exact hkept hstage rfl rfl rfl
      | look hold | load hold | loadFailed _ hold | tickDue hold | shutdownSeen hold
      | enterTick hold | planGone hold | judge hold | stop hold | stopped hold | takeWorkers hold
      | join hold | joined hold | leave hold =>
          exact hkept (by rw [hold]; nofun) rfl rfl rfl

/-! ## Ticks that run -/

/-- Only a step of the tick changes a tick that runs. -/
theorem SessionStep.ticking {t : SessionThreads ω α} {e : SessionEvent ω α}
    (h : SessionStep config s e t) (ht : t.stage = .ticking) :
    (s.stage = .ticking ∧ (t.ticks = s.ticks ∨ ∃ f, e = .tick f ∧ TickStep s.ticks f t.ticks)) ∨
      ∃ plan, e = .takePlan (.ok plan) ∧
        t.ticks = .begin s.ticks.threads plan s.ticks.context s.ticks.clock := by
  have hstage := h.stage
  rw [ht] at hstage
  generalize hs : s.stage = stage at hstage
  cases hstage with
  | aside haside =>
      refine .inl ⟨rfl, ?_⟩
      cases h with
      | tick htick => exact .inr ⟨_, rfl, htick⟩
      | notify | reap | lane | shutdown => exact .inl rfl
      | _ => cases haside
  | takePlan plan =>
      cases h with
      | takePlan => exact .inr ⟨plan, rfl, rfl⟩

/-- A tick that runs is a run of its own, on the plan that it was given. -/
theorem tickingFits (ho : o.inFlight = []) (hsignalled : o.signalled = [])
    (h : Run (SessionStep config) (.begin o context) es s) (hstage : s.stage = .ticking) :
    ∃ plan facts start fs, start.IsNew plan facts ∧ Run TickStep start fs s.ticks ∧
      .takePlan (.ok plan) ∈ es ∧ ∀ f ∈ fs, .tick f ∈ es := by
  induction h with
  | nil => cases hstage
  | @snoc es m t e hrun hstep ih =>
      rcases hstep.ticking hstage with ⟨hbefore, hticks⟩ | ⟨plan, rfl, hticks⟩
      · obtain ⟨plan, facts, start, fs, hnew, hfs, hplan, hmem⟩ := ih hbefore
        have hold : ∀ f ∈ fs, .tick f ∈ es ++ [e] := fun f hf => List.mem_append_left _ (hmem f hf)
        rcases hticks with hsame | ⟨f, rfl, htick⟩
        · rw [hsame]
          exact ⟨plan, facts, start, fs, hnew, hfs, List.mem_append_left _ hplan, hold⟩
        · refine ⟨plan, facts, start, fs ++ [f], hnew, hfs.snoc htick, List.mem_append_left _ hplan,
            fun g hg => ?_⟩
          rcases List.mem_append.1 hg with hg | hg
          · exact hold g hg
          · rw [List.mem_singleton.1 hg]
            exact List.mem_append_right _ (List.mem_singleton_self _)
      · rw [hticks]
        exact ⟨plan, _, _, [], ⟨⟨_, _, rfl⟩, sessionReached ho hsignalled hrun⟩, .nil,
          List.mem_append_right _ (List.mem_singleton_self _), fun f hf => by cases hf⟩

end Runs

end RuleEngine
