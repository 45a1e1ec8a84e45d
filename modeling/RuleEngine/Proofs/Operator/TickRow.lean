import RuleEngine.Proofs.Operator.Calls
import RuleEngine.Proofs.Operator.Renewal
import RuleEngine.Proofs.Operator.TickHistory

set_option autoImplicit false

/-! # Ticks in a row

One thread runs ticks on an operator, as many as it likes, and then waits for the threads of the
operations that the ticks did not wait for. These go on by themselves, across the ticks: when such an
operation has been executed its thread takes it out of the table, reports what has become of it, and is
finished. Meanwhile the ticks give up threads that have finished, and others dispatch operations, change
the context and stop the operator. `RowStep` says what can happen when, and what becomes of it; what
happens in a tick and at the operator are steps of `TickStep`.
-/

namespace RuleEngine

/-! ## The machine -/

/-- How far the thread has come that runs the ticks. -/
inductive RowStage
  /-- No tick runs. -/
  | idle
  /-- A tick was let in, and has not asked for the plan. -/
  | planning
  | ticking
  /-- It waits for the threads of operations. -/
  | joining (todo : List Nat)
  | joined

/-- The next tick can be run, and the threads can be waited for. -/
def RowStage.isFree : RowStage → Bool
  | .idle | .joined => true
  | .planning | .ticking | .joining _ => false

/-- The threads that are being waited for. -/
def RowStage.todo : RowStage → List Nat
  | .joining todo => todo
  | .idle | .planning | .ticking | .joined => []

/-- The tick was let in or refused. -/
def RowStage.ofEntry : Except EngineError Unit → RowStage
  | .ok _ => .planning
  | .error _ => .idle

/-- The ticks of a row, and what they share with others. -/
structure TickRow where
  /-- The tick that runs or the last one, the dispatches of all ticks and all that was reported. -/
  ticks : TickThreads
  stage : RowStage := .idle
  /-- The operations whose threads can be waited for. -/
  workers : List Nat := []
  /-- What the operations answer that have left the table and have not been reported on. -/
  leaving : Nat → Option Answer := fun _ => none

inductive RowEvent
  /-- The tick goes on, an operation is executed, or others do something. -/
  | tick (e : TickEvent)
  /-- The thread of an operation takes it out of the table. -/
  | leave (d : Nat)
  /-- The thread of an operation reports what has become of it, and finishes. -/
  | report (a : Answer)
  /-- A thread that has finished is given up. -/
  | reap (d : Nat)
  | enterTick (answer : Except EngineError Unit)
  | takePlan (answer : Except EngineError Plan)
  /-- The tick returns. -/
  | answer (result : Except EngineError TickReport)
  | takeWorkers
  | join (d : Nat)
  /-- No thread is left to be waited for. -/
  | joined

namespace TickRow

def operator (s : TickRow) : Operator := s.ticks.threads.operator

/-- Something else becomes of the threads at the operator. -/
def withThreads (s : TickRow) (t : OperatorThreads) : TickRow :=
  { s with ticks := { s.ticks with threads := t } }

/-- The thread of an operation has finished, or there was none. -/
def IsDone (s : TickRow) (d : Nat) : Prop :=
  s.ticks.threads.stage d = .ended ∧ s.leaving d = none

def begin (o : Operator) (context : Context) : TickRow where
  ticks := { threads := { operator := o }, context := context, program := .ret (.ok {}) }

end TickRow

/-- The operation that has got its thread. -/
def TickEvent.worker? : TickEvent → Option Nat
  | .spawn d => some d
  | _ => none

/-- A tick begins on a plan; the dispatches of the ticks before it go on. -/
def TickThreads.next (s : TickThreads) (plan : Plan) : TickThreads :=
  { s with
    context := s.context.beginTick
    program := Tick.program plan s.context.beginTick.tick s.context.beginTick.facts.get? }

/-- What one event makes of a row of ticks. -/
inductive RowStep : TickRow → RowEvent → TickRow → Prop
  | tick {s : TickRow} {e : TickEvent} {t : TickThreads} :
      (∀ a, e ≠ .conclude a) → TickStep s.ticks e t →
      RowStep s (.tick e) { s with ticks := t, workers := s.workers ++ e.worker?.toList }
  | leave {s : TickRow} {d : Nat} {w : TickWork} {c : Completion} {t : OperatorThreads} :
      s.ticks.work d = some w → w.detached = true → w.stage = .ended c →
      OperatorStep s.ticks.threads (.leave d) t →
      RowStep s (.leave d)
        { s.withThreads t with
          leaving := Function.update s.leaving d
            (some ⟨d, w.rule, w.operation, c.result w.operation.name⟩) }
  | report {s : TickRow} {a : Answer} :
      s.leaving a.dispatch = some a →
      RowStep s (.report a)
        { s with
          ticks := { s.ticks with
            notices := s.ticks.notices ++ World.detachedNotices a.rule a.operation.name a.result }
          leaving := Function.update s.leaving a.dispatch none }
  | reap {s : TickRow} (d : Nat) :
      s.stage = .ticking → d ∈ s.workers → s.IsDone d →
      RowStep s (.reap d) { s with workers := s.workers.erase d }
  | enterTick {s : TickRow} {answer : Except EngineError Unit} {o : Operator} :
      s.stage.isFree = true → s.operator.enterTick = (answer, o) →
      RowStep s (.enterTick answer)
        { s.withThreads { s.ticks.threads with operator := o } with stage := .ofEntry answer }
  | takePlan {s : TickRow} {plan : Plan} :
      s.stage = .planning → s.operator.currentPlan = .ok plan →
      RowStep s (.takePlan (.ok plan)) { s with ticks := s.ticks.next plan, stage := .ticking }
  | planGone {s : TickRow} {e : EngineError} :
      s.stage = .planning → s.operator.currentPlan = .error e →
      RowStep s (.takePlan (.error e)) { s with stage := .idle }
  | answer {s : TickRow} {result : Except EngineError TickReport} :
      s.stage = .ticking → s.ticks.program = .ret result →
      RowStep s (.answer result) { s with stage := .idle }
  | takeWorkers {s : TickRow} :
      s.stage.isFree = true →
      RowStep s .takeWorkers { s with stage := .joining s.workers, workers := [] }
  | join {s : TickRow} {d : Nat} {rest : List Nat} :
      s.stage = .joining (d :: rest) → s.IsDone d →
      RowStep s (.join d) { s with stage := .joining rest }
  | joined {s : TickRow} :
      s.stage = .joining [] → RowStep s .joined { s with stage := .joined }

/-- Where no operation gets its thread, there is nothing more to wait for. -/
theorem RowStep.tick_of_no_worker {s : TickRow} {e : TickEvent} {t : TickThreads}
    (hnone : ∀ a, e ≠ .conclude a) (hworker : e.worker? = none) (hstep : TickStep s.ticks e t) :
    RowStep s (.tick e) { s with ticks := t } := by
  have hrow := RowStep.tick hnone hstep
  rw [hworker, Option.toList_none, List.append_nil] at hrow
  exact hrow

/-! ## The operator -/

section Steps

variable {s t : TickRow} {e : RowEvent}

/-- What happens to the threads at the operator: nothing, one of their own steps, or an open operator
becomes running. -/
theorem RowStep.threads (h : RowStep s e t) :
    t.ticks.threads = s.ticks.threads ∨
      (∃ e', OperatorStep s.ticks.threads e' t.ticks.threads) ∨
        s.operator.isStopped = false ∧
          t.ticks.threads = s.ticks.threads.renew .running s.operator.plan := by
  cases h with
  | tick _ hstep =>
      rcases hstep.threads with hsame | hop
      · exact .inl hsame
      · exact .inr (.inl hop)
  | leave _ _ _ hop => exact .inr (.inl ⟨_, hop⟩)
  | enterTick _ henter =>
      rcases Operator.enterTick_cases henter with ⟨hrunnable, rfl, rfl⟩ | ⟨-, rfl, rfl⟩
      · refine .inr (.inr ⟨?_, rfl⟩)
        rw [Operator.isStopped_eq_false_iff]
        rcases hrunnable with hl | hl <;> simp [hl]
      · exact .inl rfl
  | _ => exact .inl rfl

/-- Only a stop makes an operator stopped. -/
theorem OperatorStep.stopped_cases {s t : OperatorThreads} {e : OperatorEvent} (h : OperatorStep s e t)
    (ht : t.operator.isStopped = true) : s.operator.isStopped = true ∨ e = .stop := by
  cases h with
  | stop => exact .inr rfl
  | _ => exact .inl ht

theorem RowStep.stopped_cases (h : RowStep s e t) (ht : t.operator.isStopped = true) :
    s.operator.isStopped = true ∨ e = .tick (.others .stop) := by
  cases h with
  | tick _ hstep =>
      cases hstep with
      | others _ hop => exact (hop.stopped_cases ht).imp_right fun heq => by rw [heq]
      | take _ _ hop | answer _ _ _ _ hop | abandon _ _ _ _ hop =>
          exact .inl ((hop.stopped_cases ht).resolve_right nofun)
      | own _ htakes hop =>
          exact .inl ((hop.stopped_cases ht).resolve_right (by cases htakes <;> nofun))
      | conclude _ _ _ hop => exact .inl ((hop.stopped_cases ht).resolve_right nofun)
      | _ => exact .inl ht
  | leave _ _ _ hop => exact .inl ((hop.stopped_cases ht).resolve_right nofun)
  | enterTick _ henter =>
      rcases Operator.enterTick_cases henter with ⟨-, rfl, rfl⟩ | ⟨-, rfl, rfl⟩
      · cases ht
      · exact .inl ht
  | _ => exact .inl ht

theorem RowStep.isSignalled (h : RowStep s e t) {d : Nat} (hs : s.operator.isSignalled d = true) :
    t.operator.isSignalled d = true := by
  unfold TickRow.operator
  rcases h.threads with hsame | ⟨_, hop⟩ | ⟨-, hrenewed⟩
  · rw [hsame]
    exact hs
  · exact hop.isSignalled hs
  · rw [hrenewed]
    exact hs

/-! ## Dispatches -/

def RowEvent.dispatch? : RowEvent → Option Nat
  | .tick e => e.dispatch?
  | .leave d => some d
  | .report a => some a.dispatch
  | .reap _ | .enterTick _ | .takePlan _ | .answer _ | .takeWorkers | .join _ | .joined => none

/-- Events that are not about a dispatch of a tick leave it as it is. -/
theorem RowStep.quiet (h : RowStep s e t) {d : Nat} (he : e.dispatch? ≠ some d) :
    t.ticks.work d = s.ticks.work d ∧ t.leaving d = s.leaving d ∧
      (s.ticks.work d ≠ none → t.ticks.threads.stage d = s.ticks.threads.stage d) := by
  have hne : ∀ {other : Nat}, some other ≠ some d → d ≠ other := fun hsome heq => hsome (heq ▸ rfl)
  cases h with
  | tick _ hstep => exact ⟨(hstep.quiet he).1, rfl, (hstep.quiet he).2⟩
  | leave _ _ _ hop => exact ⟨rfl, Function.update_of_ne (hne he) .., fun _ => hop.stage_of_ne he⟩
  | report => exact ⟨rfl, Function.update_of_ne (hne he) .., fun _ => rfl⟩
  | _ => exact ⟨rfl, rfl, fun _ => rfl⟩

/-- A dispatch of a tick has work from its first event on. -/
theorem RowStep.work_ne_none (h : RowStep s e t) {d : Nat} (hd : s.ticks.work d ≠ none) :
    t.ticks.work d ≠ none := by
  cases h with
  | tick _ hstep => exact hstep.work_ne_none (.inl hd)
  | _ => exact hd

/-- The dispatch that the tick is at is the one that its program begins. -/
def TickThreads.AtWork (s : TickThreads) : Prop :=
  ∀ d, s.current = some d → ∃ w, s.work d = some w ∧ s.program.work? = some { w with stage := .fresh }

/-- Where the program begins no dispatch, the tick is at none. -/
theorem TickThreads.AtWork.idle {s : TickThreads} (h : s.AtWork) (hwork : s.program.work? = none) :
    s.current = none := by
  by_contra hne
  obtain ⟨d, hd⟩ := Option.ne_none_iff_exists'.1 hne
  obtain ⟨w, -, hnext⟩ := h d hd
  rw [hwork] at hnext
  cases hnext

/-- The tick waits for the dispatch that it is at, if its program says so. -/
theorem TickThreads.AtWork.detached {s : TickThreads} {d : Nat} {w w' : TickWork} (h : s.AtWork)
    (hcurrent : s.current = some d) (hwork : s.work d = some w) (hprogram : s.program.work? = some w') :
    w.detached = w'.detached := by
  obtain ⟨v, hv, hnext⟩ := h d hcurrent
  obtain rfl : w = v := Option.some.inj (hwork.symm.trans hv)
  obtain rfl : { w with stage := .fresh } = w' := Option.some.inj (hnext.symm.trans hprogram)
  rfl

theorem TickStep.atWork {s t : TickThreads} {e : TickEvent} (h : TickStep s e t) (hs : s.AtWork) :
    t.AtWork := by
  intro d hd
  have hquiet : e.dispatch? ≠ some d → t.program = s.program → s.current = some d →
      ∃ w, t.work d = some w ∧ t.program.work? = some { w with stage := .fresh } := by
    intro he hprogram hcurrent
    obtain ⟨w, hw, hnext⟩ := hs d hcurrent
    exact ⟨w, (h.quiet he).1.trans hw, hprogram ▸ hnext⟩
  cases h with
  | others | context | pass => exact hquiet nofun rfl hd
  | look hprogram | record hprogram | emit hprogram =>
      -- the tick is at no dispatch
      have hidle := hs.idle (by rw [hprogram]; rfl)
      cases hidle.symm.trans hd
  | @take d' w _ hcurrent hnext =>
      obtain rfl := Option.some.inj hd
      refine ⟨w, Function.update_self .., hnext.trans ?_⟩
      rw [← (TickProgram.work?_eq_some hnext).1]
  | own hwork =>
      obtain ⟨w, hw, hnext⟩ := hs d hd
      exact ⟨w, hw, hnext⟩
  | @exec d' w' x stage _ hwork =>
      obtain ⟨w, hw, hnext⟩ := hs d hd
      by_cases heq : d = d'
      · subst heq
        obtain rfl : w' = w := Option.some.inj (hwork.symm.trans hw)
        exact ⟨{ w' with stage := stage }, Function.update_self .., hnext⟩
      · exact ⟨w, (Function.update_of_ne heq ..).trans hw, hnext⟩
  | answer | spawn | abandon => cases hd
  | conclude =>
      obtain ⟨w, hw, hnext⟩ := hs d hd
      exact ⟨w, hw, hnext⟩

end Steps

/-! ## Runs -/

section Runs

variable {o : Operator} {context : Context} {es : List RowEvent} {s : TickRow}

/-- The threads at the operator are where they could have come without the ticks. -/
theorem rowReached (ho : o.inFlight = []) (hsignalled : o.signalled = [])
    (h : Run RowStep (.begin o context) es s) :
    ∃ o' fs, o'.inFlight = [] ∧ o'.signalled = [] ∧
      Run OperatorStep (.begin o') fs s.ticks.threads := by
  induction h with
  | nil => exact ⟨o, [], ho, hsignalled, .nil⟩
  | snoc _ hstep ih =>
      obtain ⟨o', fs, ho', hsignalled', hrun⟩ := ih
      rcases hstep.threads with hsame | ⟨e, hop⟩ | ⟨hopen, hrenewed⟩
      · rw [hsame]
        exact ⟨o', fs, ho', hsignalled', hrun⟩
      · exact ⟨o', fs ++ [e], ho', hsignalled', hrun.snoc hop⟩
      · rw [hrenewed]
        exact ⟨{ o' with lifecycle := .running, plan := _ }, fs, ho', hsignalled',
          renew_run ho' hrun hopen (by decide)⟩

theorem rowTableFits (ho : o.inFlight = []) (hsignalled : o.signalled = [])
    (h : Run RowStep (.begin o context) es s) : TableFits s.ticks.threads := by
  obtain ⟨o', fs, ho', -, hrun⟩ := rowReached ho hsignalled h
  exact tableFits ho' hrun

theorem rowSignalFits (ho : o.inFlight = []) (hsignalled : o.signalled = [])
    (h : Run RowStep (.begin o context) es s) : SignalFits s.ticks.threads := by
  obtain ⟨o', fs, ho', hsignalled', hrun⟩ := rowReached ho hsignalled h
  exact signalFits ho' hsignalled' hrun

/-- An operator that is stopped was so from the beginning, or somebody has stopped it. -/
theorem rowStopped (h : Run RowStep (.begin o context) es s) (hs : s.operator.isStopped = true) :
    o.isStopped = true ∨ .tick (.others .stop) ∈ es := by
  induction h with
  | nil => exact .inl hs
  | @snoc es m t e _ hstep ih =>
      rcases hstep.stopped_cases hs with hbefore | rfl
      · exact (ih hbefore).imp_right (List.mem_append_left _)
      · exact .inr (List.mem_append_right _ (List.mem_singleton_self _))

/-- Between ticks the program of the last one is at its end. -/
theorem rowProgram (h : Run RowStep (.begin o context) es s) (hstage : s.stage ≠ .ticking) :
    ∃ result, s.ticks.program = .ret result := by
  induction h with
  | nil => exact ⟨_, rfl⟩
  | @snoc es m t e _ hstep ih =>
      cases hstep with
      | tick _ htick =>
          obtain ⟨result, hprogram⟩ := ih hstage
          refine ⟨result, ?_⟩
          cases htick with
          | look hnext | record hnext | emit hnext | answer hnext | spawn hnext | abandon _ hnext =>
              rw [hprogram] at hnext
              cases hnext
          | _ => exact hprogram
      | takePlan => exact absurd rfl hstage
      | answer _ hprogram => exact ⟨_, hprogram⟩
      | leave | report | reap => exact ih hstage
      | enterTick hfree =>
          refine ih fun hticking => ?_
          rw [hticking] at hfree
          cases hfree
      | takeWorkers hfree =>
          refine ih fun hticking => ?_
          rw [hticking] at hfree
          cases hfree
      | planGone hbefore | join hbefore | joined hbefore => exact ih (by rw [hbefore]; nofun)

/-- The dispatch that a tick is at is the one that its program begins, and between ticks there is
none. -/
theorem rowAtWork (h : Run RowStep (.begin o context) es s) : s.ticks.AtWork := by
  induction h with
  | nil => exact fun d hd => by cases hd
  | @snoc es m t e hrun hstep ih =>
      cases hstep with
      | tick _ htick => exact htick.atWork ih
      | takePlan hstage =>
          intro d hd
          obtain ⟨result, hprogram⟩ := rowProgram hrun (by rw [hstage]; nofun)
          have hidle := ih.idle (by rw [hprogram]; rfl)
          cases hidle.symm.trans hd
      | _ => exact ih

theorem rowCurrent (h : Run RowStep (.begin o context) es s) {result : Except EngineError TickReport}
    (hprogram : s.ticks.program = .ret result) : s.ticks.current = none :=
  (rowAtWork h).idle (by rw [hprogram]; rfl)

/-- An operator that is stopped from the beginning lets no tick in. -/
theorem rowIdle (hstopped : o.isStopped = true) (h : Run RowStep (.begin o context) es s) :
    s.operator.isStopped = true ∧ s.stage ≠ .planning ∧ s.stage ≠ .ticking ∧
      ∀ d, s.ticks.work d = none := by
  induction h with
  | nil => exact ⟨hstopped, nofun, nofun, fun _ => rfl⟩
  | @snoc es m t e hrun hstep ih =>
      obtain ⟨hs, hplanning, hticking, hwork⟩ := ih
      cases hstep with
      | tick _ htick =>
          refine ⟨htick.isStopped hs, hplanning, hticking, fun d => ?_⟩
          cases htick with
          | take _ hnext =>
              obtain ⟨result, hprogram⟩ := rowProgram hrun hticking
              rw [hprogram] at hnext
              cases hnext
          | exec _ hsome =>
              rw [hwork] at hsome
              cases hsome
          | _ => exact hwork d
      | leave hsome =>
          rw [hwork] at hsome
          cases hsome
      | enterTick _ henter =>
          rcases Operator.enterTick_cases henter with ⟨hrunnable, -, -⟩ | ⟨-, rfl, rfl⟩
          · have hlifecycle := Operator.lifecycle_of_isStopped hs
            rw [hlifecycle] at hrunnable
            rcases hrunnable with h | h <;> cases h
          · exact ⟨hs, nofun, nofun, hwork⟩
      | takePlan hbefore | planGone hbefore => exact absurd hbefore hplanning
      | answer hbefore => exact absurd hbefore hticking
      | report | reap => exact ⟨hs, hplanning, hticking, hwork⟩
      | takeWorkers | join | joined => exact ⟨hs, nofun, nofun, hwork⟩

end Runs

end RuleEngine
