import RuleEngine.Proofs.Rule.Selection
import RuleEngine.Proofs.Session.Progress

set_option autoImplicit false

/-! # A session whose operator is stopped from outside

Anybody may stop the operator of a session, before the session, in the middle of it, or in the middle of
a tick. For the session that is a normal end: the next tick is refused, and the session returns the
totals of those that have succeeded.

There is one moment at which it is not. A session whose operator has no template looks for that first,
and calls for the load then. If the operator is stopped in between (`StoppedBeforeLoad`), the load is
refused, and the session takes the refusal for an error, as it does not do where a tick is refused
(`endsAtStop`).
-/

namespace RuleEngine

/-! ## The operator -/

section Operators

variable {s t : OperatorThreads} {e : OperatorEvent}

/-- As long as nobody stops the operator, its threads leave its lifecycle and its plan as they are. -/
theorem OperatorStep.open_eq (h : OperatorStep s e t) (htable : TableFits s)
    (hopen : t.operator.isStopped = false) :
    t.operator.lifecycle = s.operator.lifecycle ∧ t.operator.plan = s.operator.plan := by
  cases h with
  | stop =>
      rw [Operator.isStopped_markStopped] at hopen
      cases hopen
  | release hstopper =>
      have hstopped : s.operator.isStopped = true := htable.stopped (by rw [hstopper]; nofun)
      cases hstopped.symm.trans hopen
  | _ => exact ⟨rfl, rfl⟩

theorem OperatorStep.eq_stop (h : OperatorStep s e t) (hopen : s.operator.isStopped = false)
    (hstopped : t.operator.isStopped = true) : e = .stop := by
  cases h with
  | stop => rfl
  | _ => cases hopen.symm.trans hstopped

/-- What a template is loaded from does not change. -/
theorem OperatorStep.loadPlan (h : OperatorStep s e t) :
    t.operator.loadPlan = s.operator.loadPlan := by
  cases h with
  | stop =>
      show s.operator.markStopped.2.loadPlan = _
      cases hstopped : s.operator.isStopped with
      | true => rw [Operator.markStopped_eq_none _ hstopped]
      | false =>
          rw [Operator.markStopped_eq_some _ hstopped]
          rfl
  | _ => rfl

theorem TickStep.eq_stop {s t : TickThreads} {e : TickEvent} (h : TickStep s e t)
    (hopen : s.operator.isStopped = false) (hstopped : t.operator.isStopped = true) :
    e = .others .stop := by
  cases h with
  | others _ hop => rw [hop.eq_stop hopen hstopped]
  | own _ htakes hop =>
      obtain rfl := hop.eq_stop hopen hstopped
      cases htakes
  | take _ _ hop | answer _ _ _ _ hop | abandon _ _ _ _ hop | conclude _ _ _ hop =>
      cases hop.eq_stop hopen hstopped
  | _ => cases hopen.symm.trans hstopped

/-- An operator that has loaded its template has it until it is stopped. -/
def Operator.KeepsPlan (o : Operator) : Prop :=
  o.lifecycle = .unloaded ∨ o.isStopped = true ∨ o.plan.isSome = true

end Operators

/-! ## The session -/

section Steps

variable {ω α : Type} {config : SessionSettings} {s t : SessionThreads ω α} {e : SessionEvent ω α}

/-- What becomes of the lifecycle and the plan of the operator. -/
inductive OperatorMove (s : Operator) : SessionEvent ω α → Operator → Prop
  | same {e : SessionEvent ω α} {t : Operator} :
      t.lifecycle = s.lifecycle → t.plan = s.plan → OperatorMove s e t
  | stopped {e : SessionEvent ω α} {t : Operator} :
      t.isStopped = true → s.isStopped = true ∨ e = .tick (.others .stop) ∨ e = .stop →
      OperatorMove s e t
  | loaded (files : FileTree) {t : Operator} :
      t.lifecycle = .loaded → t.plan.isSome = true → OperatorMove s (.load files (.ok ())) t
  | running {t : Operator} :
      s.lifecycle = .loaded ∨ s.lifecycle = .running → t.lifecycle = .running → t.plan = s.plan →
      OperatorMove s (.enterTick (.ok ())) t

theorem SessionStep.move (h : SessionStep config s e t) (htable : TableFits s.ticks.threads) :
    OperatorMove s.operator e t.operator := by
  cases h with
  | @tick f ticks htick =>
      cases hafter : ticks.operator.isStopped with
      | true =>
          refine .stopped hafter ?_
          cases hbefore : s.operator.isStopped with
          | true => exact .inl rfl
          | false => exact .inr (.inl (by rw [htick.eq_stop hbefore hafter]))
      | false =>
          rcases htick.threads with hsame | ⟨_, hop⟩
          · exact .same (congrArg (·.operator.lifecycle) hsame) (congrArg (·.operator.plan) hsame)
          · obtain ⟨hlifecycle, hplan⟩ := hop.open_eq htable hafter
            exact .same hlifecycle hplan
  | @load files _ _ _ hload =>
      obtain ⟨-, -, plan, rfl⟩ := Operator.load_eq_ok hload
      exact .loaded files rfl rfl
  | enterTick _ henter =>
      rcases Operator.enterTick_cases henter with ⟨hrunnable, rfl, rfl⟩ | ⟨-, rfl, rfl⟩
      · exact .running hrunnable rfl rfl
      · exact .same rfl rfl
  | stop _ hop =>
      cases hop
      exact .stopped (Operator.isStopped_markStopped _) (.inr (.inr rfl))
  | _ => exact .same rfl rfl

/-- A template that is there does not go away. -/
theorem OperatorMove.lifecycle_ne {s t : Operator} (h : OperatorMove s e t)
    (hs : s.lifecycle ≠ .unloaded) : t.lifecycle ≠ .unloaded := by
  cases h with
  | same hlifecycle => rwa [hlifecycle]
  | stopped hstopped =>
      rw [Operator.lifecycle_of_isStopped hstopped]
      decide
  | loaded _ hlifecycle | running _ hlifecycle =>
      rw [hlifecycle]
      decide

theorem OperatorMove.keepsPlan {s t : Operator} (h : OperatorMove s e t) (hs : s.KeepsPlan) :
    t.KeepsPlan := by
  unfold Operator.KeepsPlan
  cases h with
  | same hlifecycle hplan =>
      rw [Operator.isStopped, hlifecycle, hplan]
      exact hs
  | stopped hstopped => exact .inr (.inl hstopped)
  | loaded _ _ hplan => exact .inr (.inr hplan)
  | running hrunnable _ hplan =>
      rw [hplan]
      rcases hs with hunloaded | hstopped | hplan'
      · rw [hunloaded] at hrunnable
        rcases hrunnable with h | h <;> cases h
      · rw [Operator.lifecycle_of_isStopped hstopped] at hrunnable
        rcases hrunnable with h | h <;> cases h
      · exact .inr (.inr hplan')

theorem SessionStep.loadPlan (h : SessionStep config s e t) :
    t.operator.loadPlan = s.operator.loadPlan := by
  cases h with
  | tick htick =>
      rcases htick.threads with hsame | ⟨_, hop⟩
      · exact congrArg (·.operator.loadPlan) hsame
      · exact hop.loadPlan
  | load _ hload =>
      obtain ⟨-, -, plan, rfl⟩ := Operator.load_eq_ok hload
      rfl
  | stop _ hop => exact hop.loadPlan
  | enterTick _ henter =>
      rcases Operator.enterTick_cases henter with ⟨-, rfl, rfl⟩ | ⟨-, rfl, rfl⟩ <;> rfl
  | _ => rfl

/-! ### How a session ends -/

theorem StageStep.isLooping {before after : SessionStage} (h : StageStep before e after)
    (hafter : after.isLooping = true) : before.isLooping = true ∨ TurnsToTicks before e := by
  cases h with
  | aside => exact .inl hafter
  | begin hturns => exact .inr hturns
  | tickDue | enterTick | refused | takePlan | planGone | panic | answer | goOn => exact .inl rfl
  | _ => cases hafter

/-- A session that turns to its ticks has a template. -/
theorem SessionStep.lifecycle_ne (h : SessionStep config s e t) (hturns : TurnsToTicks s.stage e)
    (ht : t.stage.isLooping = true) : t.operator.lifecycle ≠ .unloaded := by
  generalize s.stage = stage at hturns
  cases h with
  | look =>
      intro (hunloaded : s.operator.lifecycle = .unloaded)
      dsimp only at ht
      rw [if_pos hunloaded] at ht
      cases ht
  | load _ hload =>
      obtain ⟨-, -, plan, rfl⟩ := Operator.load_eq_ok hload
      nofun
  | _ => cases hturns

theorem StageStep.outcome? {before after : SessionStage} (h : StageStep before e after)
    {outcome : Except EngineError SessionSummary} (hbefore : before.outcome? = some outcome) :
    after.outcome? = some outcome := by
  cases h with
  | aside | stop | stopAgain | stopped | takeWorkers | join | joined | leave => exact hbefore
  | begin hturns | endAtOnce _ hturns | panicAtOnce _ hturns => cases hturns <;> cases hbefore
  | _ => cases hbefore

theorem outcome?_ended_ne (limit : Option Nat) (summary : SessionSummary) (e : EngineError) :
    (SessionStage.ofEnd (Session.ended? limit summary)).outcome? ≠ some (.error e) := by
  unfold Session.ended?
  split <;> nofun

theorem outcome?_beginTicks_ne (config : SessionSettings) (e : EngineError) :
    (Session.beginTicks config).outcome? ≠ some (.error e) := by
  unfold Session.beginTicks
  split
  · nofun
  · exact outcome?_ended_ne config.maxTicks {} e

/-- Where an error that a session ends with has come from: it could not load its template, or a tick
has failed, and not because of a stop. -/
theorem SessionStep.of_error (h : SessionStep config s e t) {error : EngineError}
    (ht : t.stage.outcome? = some (.error error)) :
    s.stage.outcome? = some (.error error) ∨
      (∃ files, e = .load files (.error error) ∧ s.stage = .loading ∧
        s.operator.load files = .error error) ∨
      s.stage = .answered (.error error) ∧
        (Session.isRefusal error && s.operator.isStopped) = false := by
  cases h with
  | notify | tick | reap | lane | shutdown => exact .inl ht
  | look =>
      dsimp only at ht
      split at ht
      · cases ht
      · exact absurd ht (outcome?_beginTicks_ne config error)
  | load => exact absurd ht (outcome?_beginTicks_ne config error)
  | loadFailed files hstage hload =>
      obtain rfl := Except.error.inj (Option.some.inj ht)
      exact .inr (.inl ⟨files, rfl, hstage, hload⟩)
  | @enterTick answer => cases answer <;> cases ht
  | @judge result hstage =>
      cases result with
      | ok report => exact absurd ht (outcome?_ended_ne _ _ error)
      | error e =>
          dsimp only [Session.judge, SessionStage.ofEnd, SessionStage.outcome?] at ht
          split at ht
          · cases ht
          · next hgenuine =>
            obtain rfl := Except.error.inj (Option.some.inj ht)
            exact .inr (.inr ⟨hstage, Bool.eq_false_iff.2 hgenuine⟩)
  | stop hstage =>
      dsimp only at ht
      rw [hstage]
      split at ht <;> exact .inl ht
  | tickDue | takePlan | planGone | panic | answer | shutdownSeen => cases ht
  | stopped hstage | takeWorkers hstage | join hstage | joined hstage | leave hstage =>
      rw [hstage]
      exact .inl ht

end Steps

/-! ## Runs -/

section Runs

variable {ω α : Type} {config : SessionSettings} {o : Operator} {context : Context}
  {es : List (SessionEvent ω α)} {s : SessionThreads ω α}

/-- The operator is stopped from outside when the session has seen that there is no template, and has
not called for it. -/
def StoppedBeforeLoad (es : List (SessionEvent ω α)) : Prop :=
  ∃ front mid back files answer,
    es = front ++ .look .unloaded :: mid ++ .load files answer :: back ∧
      .tick (.others .stop) ∈ mid

theorem StoppedBeforeLoad.snoc (h : StoppedBeforeLoad es) (e : SessionEvent ω α) :
    StoppedBeforeLoad (es ++ [e]) := by
  obtain ⟨front, mid, back, files, answer, rfl, hstop⟩ := h
  exact ⟨front, mid, back ++ [e], files, answer, by simp, hstop⟩

/-- Whenever the session asks for the template, it can be loaded. -/
def IsLoadable (o : Operator) (es : List (SessionEvent ω α)) : Prop :=
  ∀ files answer, .load files answer ∈ es → ∃ plan, o.loadPlan files = .ok plan

/-- No operation of a critical rule fails. -/
def NeverCritical (es : List (SessionEvent ω α)) : Prop :=
  ∀ plan a, .takePlan (.ok plan) ∈ es → .tick (.answer a) ∈ es →
    ∀ r ∈ plan.template.rules, ∀ f, a.Fails plan r f → r.critical = false

/-- No thread of a tick panics. -/
def NeverPanics (es : List (SessionEvent ω α)) : Prop := ∀ message, .panic message ∉ es

theorem isStopped_of_stop_mem (h : Run (SessionStep config) (.begin o context) es s)
    (hstop : .tick (.others .stop) ∈ es) : s.operator.isStopped = true := by
  induction h with
  | nil => cases hstop
  | snoc _ hstep ih =>
      rcases List.mem_append.1 hstop with hstop | hstop
      · exact hstep.isStopped (ih hstop)
      · obtain rfl := List.mem_singleton.1 hstop
        cases hstep with
        | tick htick =>
            cases htick with
            | others _ hop =>
                cases hop
                exact Operator.isStopped_markStopped _

theorem sessionPlan (h : Run (SessionStep config) (.begin o context) es s) :
    s.operator.loadPlan = o.loadPlan := by
  induction h with
  | nil => rfl
  | snoc _ hstep ih => exact hstep.loadPlan.trans ih

theorem sessionKeepsPlan (ho : o.inFlight = []) (hsignalled : o.signalled = []) (hplan : o.KeepsPlan)
    (h : Run (SessionStep config) (.begin o context) es s) : s.operator.KeepsPlan := by
  induction h with
  | nil => exact hplan
  | snoc hrun hstep ih =>
      exact (hstep.move (sessionTableFits ho hsignalled hrun)).keepsPlan ih

theorem lifecycle_of_looping (ho : o.inFlight = []) (hsignalled : o.signalled = [])
    (h : Run (SessionStep config) (.begin o context) es s) (hstage : s.stage.isLooping = true) :
    s.operator.lifecycle ≠ .unloaded := by
  induction h with
  | nil => cases hstage
  | snoc hrun hstep ih =>
      rcases hstep.stage.isLooping hstage with hbefore | hturns
      · exact (hstep.move (sessionTableFits ho hsignalled hrun)).lifecycle_ne (ih hbefore)
      · exact hstep.lifecycle_ne hturns hstage

/-- A session that is about to call for its template has seen that there is none. If its operator has
left that state since, somebody has stopped it. -/
theorem loadingFits (ho : o.inFlight = []) (hsignalled : o.signalled = [])
    (h : Run (SessionStep config) (.begin o context) es s) (hstage : s.stage = .loading) :
    ∃ front mid, es = front ++ .look .unloaded :: mid ∧
      (s.operator.lifecycle = .unloaded ∨ .tick (.others .stop) ∈ mid) := by
  induction h with
  | nil => cases hstage
  | @snoc es m t e hrun hstep ih =>
      have hbefore := hstep.stage
      rw [hstage] at hbefore
      generalize hm : m.stage = stage at hbefore
      cases hbefore with
      | aside haside =>
          obtain ⟨front, mid, rfl, hwhy⟩ := ih hm
          refine ⟨front, mid ++ [e], by simp, ?_⟩
          rcases hwhy with hunloaded | hstop
          · cases hstep.move (sessionTableFits ho hsignalled hrun) with
            | same hlifecycle => exact .inl (hlifecycle.trans hunloaded)
            | stopped _ hwhy =>
                rcases hwhy with hstopped | rfl | rfl
                · rw [Operator.lifecycle_of_isStopped hstopped] at hunloaded
                  cases hunloaded
                · exact .inr (List.mem_append_right _ (List.mem_singleton_self _))
                · cases haside
            | loaded | running => cases haside
          · exact .inr (List.mem_append_left _ hstop)
      | look =>
          cases hstep with
          | look =>
              dsimp only at hstage
              split at hstage
              · next hunloaded => exact ⟨es, [], by rw [hunloaded], .inl hunloaded⟩
              · rcases Session.beginTicks_cases config with hb | hb | ⟨_, hb⟩ <;>
                  cases hb.symm.trans hstage

theorem NeverCritical.front {e : SessionEvent ω α} (h : NeverCritical (es ++ [e])) :
    NeverCritical es :=
  fun plan a hp ha => h plan a (List.mem_append_left _ hp) (List.mem_append_left _ ha)

theorem NeverPanics.front {e : SessionEvent ω α} (h : NeverPanics (es ++ [e])) : NeverPanics es :=
  fun message hmem => h message (List.mem_append_left _ hmem)

/-- A tick that fails of itself has had a critical failure. -/
theorem program_ne_error (ho : o.inFlight = []) (hsignalled : o.signalled = [])
    (h : Run (SessionStep config) (.begin o context) es s) (hcritical : NeverCritical es)
    (hstage : s.stage = .ticking) (e : EngineError) : s.ticks.program ≠ .ret (.error e) := by
  intro hprogram
  obtain ⟨plan, facts, start, fs, hnew, hfs, htaken, hmem⟩ := tickingFits ho hsignalled h hstage
  have hkeeps := programKeeps hnew hfs
  rw [hprogram] at hkeeps
  obtain ⟨r, hr, a, f, hlast, hfails, hbad, -⟩ := hkeeps
  have hanswer : TickEvent.answer a ∈ fs := mem_tickAnswers.1 (List.mem_of_getLast? hlast)
  have hgood := hcritical plan a htaken (hmem _ hanswer) r ((Rule.select_sublist _ _).subset hr) f
    hfails
  cases hbad.symm.trans hgood

/-- A tick fails only because its operator is stopped. -/
theorem answeredFits (ho : o.inFlight = []) (hsignalled : o.signalled = []) (hplan : o.KeepsPlan)
    (h : Run (SessionStep config) (.begin o context) es s) (hcritical : NeverCritical es)
    (hpanics : NeverPanics es) {e : EngineError} (hstage : s.stage = .answered (.error e)) :
    Session.isRefusal e = true ∧ s.operator.isStopped = true := by
  induction h with
  | nil => cases hstage
  | @snoc es m t event hrun hstep ih =>
      have hcritical' := hcritical.front
      have hbefore := hstep.stage
      rw [hstage] at hbefore
      generalize hm : m.stage = stage at hbefore
      cases hbefore with
      | aside =>
          have hfits := ih hcritical' hpanics.front hm
          exact ⟨hfits.1, hstep.isStopped hfits.2⟩
      | refused =>
          have hloaded := lifecycle_of_looping ho hsignalled hrun (by rw [hm]; rfl)
          cases hstep with
          | enterTick _ henter =>
              rcases Operator.enterTick_cases henter with ⟨-, hin, -⟩ | ⟨hrefused, hanswer, rfl⟩
              · cases hin
              · cases hanswer
                refine ⟨rfl, ?_⟩
                show (m.operator.lifecycle == .stopped) = true
                rw [hrefused.resolve_left hloaded]
                rfl
      | planGone =>
          have hloaded := lifecycle_of_looping ho hsignalled hrun (by rw [hm]; rfl)
          have hkeeps := sessionKeepsPlan ho hsignalled hplan hrun
          cases hstep with
          | planGone _ hgone =>
              unfold Operator.currentPlan at hgone
              split at hgone
              · cases hgone
              · next hnone =>
                cases hgone
                refine ⟨rfl, ?_⟩
                rcases hkeeps with hunloaded | hstopped | hsome
                · exact absurd hunloaded hloaded
                · exact hstopped
                · rw [hnone] at hsome
                  cases hsome
      | panic message =>
          exact absurd (List.mem_append_right _ (List.mem_singleton_self _)) (hpanics message)
      | answer =>
          cases hstep with
          | answer _ hprogram =>
              exact absurd hprogram (program_ne_error ho hsignalled hrun hcritical' hm e)

/-- A session ends with an error only if it could not load its template because of a stop. -/
theorem errorFits (ho : o.inFlight = []) (hsignalled : o.signalled = []) (hplan : o.KeepsPlan)
    (h : Run (SessionStep config) (.begin o context) es s) (hloadable : IsLoadable o es)
    (hcritical : NeverCritical es) (hpanics : NeverPanics es) {e : EngineError}
    (hstage : s.stage.outcome? = some (.error e)) : StoppedBeforeLoad es := by
  induction h with
  | nil => cases hstage
  | @snoc es m t event hrun hstep ih =>
      rcases hstep.of_error hstage with hbefore | ⟨files, rfl, hloading, hload⟩ | ⟨hfailed, hgenuine⟩
      · exact (ih (fun files answer hmem => hloadable files answer (List.mem_append_left _ hmem))
          hcritical.front hpanics.front hbefore).snoc event
      · obtain ⟨front, mid, rfl, hunloaded | hstop⟩ := loadingFits ho hsignalled hrun hloading
        · -- an operator that nobody has stopped loads the template
          obtain ⟨plan, hplan'⟩ := hloadable files _
            (List.mem_append_right _ (List.mem_singleton_self _))
          rw [← sessionPlan hrun] at hplan'
          unfold Operator.load at hload
          rw [if_pos hunloaded, hplan'] at hload
          cases hload
        · exact ⟨front, mid, [], files, .error e, rfl, hstop⟩
      · obtain ⟨hrefusal, hstopped⟩ :=
          answeredFits ho hsignalled hplan hrun hcritical.front hpanics.front hfailed
        rw [hrefusal, hstopped] at hgenuine
        cases hgenuine

theorem outcome?_of_run {t : SessionThreads ω α} (h : Run (SessionStep config) s es t)
    {outcome : Except EngineError SessionSummary} (hs : s.stage.outcome? = some outcome) :
    t.stage.outcome? = some outcome := by
  induction h with
  | nil => exact hs
  | snoc _ hstep ih => exact hstep.stage.outcome? ih

/-- If the operator is stopped when the session is about to call for the template, the session ends with
the refusal. -/
theorem refusedFits (h : Run (SessionStep config) (.begin o context) es s)
    (hstopped : StoppedBeforeLoad es) :
    s.stage.outcome? = some (.error (.invalidState "load" "stopped")) := by
  obtain ⟨front, mid, back, files, answer, rfl, hstop⟩ := hstopped
  obtain ⟨m, hfront, hrest⟩ := h.cut
  obtain ⟨m', hstep, hback⟩ := hrest.cases_cons
  refine outcome?_of_run hback ?_
  have hlifecycle := Operator.lifecycle_of_isStopped <| isStopped_of_stop_mem hfront
    (List.mem_append_right _ (List.mem_cons_of_mem _ hstop))
  cases hstep with
  | load _ hload =>
      rw [Operator.load_of_stopped hlifecycle] at hload
      cases hload
  | loadFailed _ _ hload =>
      rw [Operator.load_of_stopped hlifecycle] at hload
      cases hload
      rfl

/-- How a session ends whose operator is stopped from outside. -/
structure EndsAtStop (config : SessionSettings) (es : List (SessionEvent ω α))
    (s : SessionThreads ω α) : Prop where
  /-- If its ticks are some time apart, it can always return, and nobody need ask for it. -/
  returns : config.tickIntervalMs ≠ 0 → s.operator.isStopped = true → s.Returns config
  /-- It returns the totals of the ticks that have succeeded, whenever the operator is stopped -/
  totals : ∀ outcome, s.stage = .returned outcome → ¬ StoppedBeforeLoad es →
    outcome = .ok ((tickReports es).foldl SessionSummary.add {})
  /-- but at one moment: then it returns the refusal of the load. -/
  refused : ∀ outcome, s.stage = .returned outcome → StoppedBeforeLoad es →
    outcome = .error (.invalidState "load" "stopped")

/-- **A stop from outside is a normal end of a session**, unless it comes between the look for a
template and the load. -/
theorem endsAtStop (ho : o.inFlight = []) (hsignalled : o.signalled = []) (hplan : o.KeepsPlan)
    (h : Run (SessionStep config) (.begin o context) es s) (hloadable : IsLoadable o es)
    (hcritical : NeverCritical es) (hpanics : NeverPanics es) : EndsAtStop config es s := by
  refine ⟨fun hperiod => canReturn ho hsignalled hperiod h, fun outcome hstage hintime => ?_,
    fun outcome hstage hlate => ?_⟩
  · cases outcome with
    | ok totals => rw [totals_of_returned h hstage]
    | error e =>
        refine absurd (errorFits (e := e) ho hsignalled hplan h hloadable hcritical hpanics ?_) hintime
        rw [hstage]
        rfl
  · have hrefused := refusedFits h hlate
    rw [hstage] at hrefused
    exact Option.some.inj hrefused

/-- The template has one rule, which presses a key. While the key is held, the operator is stopped and
the device unplugged. The tick succeeds all the same, the next one is refused, and the session returns. -/
theorem endsAtStop_of_tick : ∃ (config : SessionSettings) (o : Operator)
    (es : List (SessionEvent Nat Nat)) (s : SessionThreads Nat Nat),
    o.inFlight = [] ∧ o.signalled = [] ∧ o.KeepsPlan ∧
      Run (SessionStep config) (.begin o {}) es s ∧ IsLoadable o es ∧ NeverCritical es ∧
        NeverPanics es ∧ .look .unloaded ∈ es ∧ .tick (.others .stop) ∈ es ∧
          s.stage = .returned (.ok ⟨1, 0, 1⟩) ∧ EndsAtStop config es s := by
  let o : Operator :=
    { store := ⟨⟨"rules", ["rules"]⟩⟩, registry := .builtin, subDir := "main", name := "demo" }
  let files : FileTree :=
    { files :=
        [(["rules", "main", "demo", "base.yaml"],
          "rules:\n- id: shoot\n  operations:\n  - name: press\n    params:\n      key: space\n")]
      dirs := [["rules"], ["rules", "main"], ["rules", "main", "demo"]] }
  let press : Compiled :=
    ⟨{ name := "press", params := [("key", .str "space")] }, .press "space" (.ofMillis 50)⟩
  let t : Template :=
    { subDir := "main", name := "demo", fragments := ["base"]
      rules := [{ id := "shoot", operations := [press.descriptor] }] }
  let plan : Plan := ⟨t, [("shoot", [press])]⟩
  have hstore : o.store.load files o.subDir o.name o.fromArtifact = .ok t := by decide +kernel
  have hcompile : Plan.compile o.registry t = .ok plan := by decide +kernel
  have hload := Operator.load_of_compile (o := o) rfl hstore hcompile
  have hplan : o.loadPlan files = .ok plan := by
    unfold Operator.loadPlan
    rw [hstore]
    exact hcompile
  let config : SessionSettings := {}
  let first (stage : ExecStage) : TickWork := ⟨"shoot", press, false, stage⟩
  have h1 : Run (SessionStep (α := Nat) (ω := Nat) config) (.begin o {}) [] (.begin o {}) := .nil
  have h2 : Run (SessionStep config) (.begin o {}) [.look .unloaded]
    { SessionThreads.begin o {} with stage := .loading } := h1.snoc (.look rfl)
  have h3 := (((h2.snoc (.load rfl hload)).snoc (.tickDue rfl)).snoc (.enterTick rfl rfl)).snoc (.takePlan rfl rfl)
  have h4 := (h3.snoc (.tick (.look rfl))).snoc (.tick (.take (w := first .fresh) rfl rfl .take))
  have h5 := h4.snoc (.tick (.own (d := 1) (w := first .fresh) rfl .enter (.enter 1 _ rfl)))
  have h6 := h5.snoc (.tick (.own (d := 1) (w := first .fresh) rfl .check (.check 1 rfl)))
  have h7 := h6.snoc (.tick (.own (d := 1) (w := first .fresh) rfl .start (.start 1 rfl)))
  have h8 := h7.snoc (.tick (.exec (d := 1) (w := first .fresh) rfl rfl .begin))
  have h9 := h8.snoc (.tick (.exec (d := 1) (w := first (.commanding (.press "space" (.ofMillis 50))))
    rfl rfl (.command _)))
  -- the stop comes while the key is held
  have h10 := h9.snoc (.tick (.others (by simp [OperatorEvent.dispatch?]) .stop))
  have h11 := h10.snoc
    (.tick (.exec (d := 1) (w := first .commanded) rfl rfl (.answer (.error "unplugged"))))
  let failed : ExecStage := .ended (.failed (.controller "press" "unplugged"))
  have h12 := h11.snoc (.tick (.own (d := 1) (w := first failed) rfl (.finish rfl) (.finish 1 rfl)))
  have h13 := h12.snoc (.tick (.answer (d := 1) (w := first failed) rfl rfl rfl rfl (.leave 1 rfl)))
  have h14 := ((h13.snoc (.tick (.emit rfl))).snoc (.tick (.emit rfl))).snoc (.answer rfl rfl)
  -- the next tick is refused
  have h15 := ((h14.snoc (.judge rfl)).snoc (.tickDue rfl)).snoc (.enterTick rfl rfl)
  have h16 := h15.snoc (.judge rfl)
  obtain ⟨front, m, hfront, hover, hlook, hstop, hloads, hplans, hcalm⟩ : ∃ front m,
      Run (SessionStep config) (.begin o {}) front m ∧ m.stage = .stopping (.ok ⟨1, 0, 1⟩) ∧
        .look .unloaded ∈ front ∧ .tick (.others .stop) ∈ front ∧
          (∀ other answer, .load other answer ∈ front → other = files) ∧
            (∀ other, .takePlan (.ok other) ∈ front → other = plan) ∧ NeverPanics front := by
    refine ⟨_, _, h16, rfl, ?_, ?_, fun other answer hmem => ?_, fun other hmem => ?_,
      fun message hmem => ?_⟩
    · simp only [List.mem_append, List.mem_singleton, true_or]
    · simp only [List.mem_append, List.mem_singleton, true_or, or_true]
    · simp only [List.mem_append, List.mem_singleton, reduceCtorEq, or_false, false_or,
        SessionEvent.load.injEq] at hmem
      exact hmem.1
    · simp only [List.mem_append, List.mem_singleton, reduceCtorEq, or_false, false_or,
        SessionEvent.takePlan.injEq, Except.ok.injEq] at hmem
      exact hmem
    · simp only [List.mem_append, List.mem_singleton, reduceCtorEq, or_false] at hmem
  -- the session and the threads that it waits for do what is left to do
  obtain ⟨fs, s, hend, hwinds, hreturned⟩ := canReturn_of_stopping hfront hover
  have hrun := hfront.append hend
  have hkept : ∀ e ∈ front ++ fs, e.windsUp = false → e ∈ front :=
    fun e => SessionEvent.mem_of_windsUp hwinds
  have hloadable : IsLoadable o (front ++ fs) := by
    intro other answer hmem
    rw [hloads other answer (hkept _ hmem rfl)]
    exact ⟨plan, hplan⟩
  have hcritical : NeverCritical (front ++ fs) := by
    intro other a hmem _ r hr f _
    rw [hplans other (hkept _ hmem rfl)] at hr
    rw [List.mem_singleton.1 hr]
  have hpanics : NeverPanics (front ++ fs) := fun message hmem => hcalm message (hkept _ hmem rfl)
  exact ⟨config, o, front ++ fs, s, rfl, rfl, .inl rfl, hrun, hloadable, hcritical, hpanics,
    List.mem_append_left fs hlook, List.mem_append_left fs hstop, hreturned,
    endsAtStop rfl rfl (.inl rfl) hrun hloadable hcritical hpanics⟩

/-- A stop that comes between the look for a template and the load makes an error of the end. -/
theorem not_totals_of_early_stop : ¬ ∀ (config : SessionSettings) (o : Operator)
    (es : List (SessionEvent Nat Nat)) (s : SessionThreads Nat Nat)
    (outcome : Except EngineError SessionSummary), o.inFlight = [] → o.signalled = [] →
    o.KeepsPlan → config.tickIntervalMs ≠ 0 → Run (SessionStep config) (.begin o {}) es s →
    IsLoadable o es → NeverCritical es → NeverPanics es → s.stage = .returned outcome →
    outcome = .ok ((tickReports es).foldl SessionSummary.add {}) := by
  intro hall
  let o : Operator :=
    { store := ⟨⟨"rules", ["rules"]⟩⟩, registry := {}, subDir := "main", name := "demo" }
  let files : FileTree :=
    { files := [(["rules", "main", "demo", "base.yaml"], "")]
      dirs := [["rules"], ["rules", "main"], ["rules", "main", "demo"]] }
  let t : Template := { subDir := "main", name := "demo", fragments := ["base"] }
  have hstore : o.store.load files o.subDir o.name o.fromArtifact = .ok t := by decide +kernel
  have hplan : o.loadPlan files = .ok ⟨t, []⟩ := by
    unfold Operator.loadPlan
    rw [hstore]
    rfl
  let config : SessionSettings := {}
  have h1 : Run (SessionStep (α := Nat) (ω := Nat) config) (.begin o {}) [] (.begin o {}) := .nil
  have h2 := (h1.snoc (.look rfl)).snoc
    (.tick (.others (by simp [OperatorEvent.dispatch?]) .stop))
  have h3 := h2.snoc (.loadFailed files rfl rfl)
  obtain ⟨fs, s, hend, hwinds, hreturned⟩ := canReturn_of_draining h3 rfl
  have hrun := h3.append hend
  have hbad := hall config o _ s _ rfl rfl (.inl rfl) (by decide) hrun ?loadable ?critical ?panics
    hreturned
  case loadable =>
    intro other answer hmem
    have hmem := SessionEvent.mem_of_windsUp hwinds hmem rfl
    simp only [List.mem_append, List.mem_singleton, List.not_mem_nil, reduceCtorEq, false_or,
      SessionEvent.load.injEq] at hmem
    rw [hmem.1]
    exact ⟨_, hplan⟩
  case critical =>
    intro other a hmem
    have hmem := SessionEvent.mem_of_windsUp hwinds hmem rfl
    simp only [List.mem_append, List.mem_singleton, List.not_mem_nil, reduceCtorEq,
      or_false] at hmem
  case panics =>
    intro message hmem
    have hmem := SessionEvent.mem_of_windsUp hwinds hmem rfl
    simp only [List.mem_append, List.mem_singleton, List.not_mem_nil, reduceCtorEq,
      or_false] at hmem
  cases hbad

end Runs

end RuleEngine
