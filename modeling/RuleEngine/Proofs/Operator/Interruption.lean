import RuleEngine.Proofs.Operator.TickDispatches
import RuleEngine.Proofs.Operator.TickProgress

set_option autoImplicit false

/-! # A stop in the middle of a tick

An operator is stopped while a tick runs, at any moment, and perhaps by a device that an operation of
the tick has turned to. From then on no operation that the tick still dispatches does anything: its
dispatch sees the stop and tells it to stop before it is executed. The tick itself sees the stop when
it looks for it before the next rule, or behind an operation that has answered the stop; so it fires
a front part of its rules, never takes the stop for a failure, and can always come to its end
(`obeysStop`).
-/

namespace RuleEngine

section Runs

variable {plan : Plan} {context : Context} {start s : TickThreads} {es : List TickEvent}

/-- What the tick has still to do keeps the postcondition of a tick. -/
theorem programKeeps (hstart : start.IsNew plan context) (h : Run TickStep start es s) :
    s.program.Keeps (Tick.EndsWell plan (Tick.selected plan context))
      (Tick.MayReport plan (Tick.selected plan context)) s.operator.isStopped (tickAnswers es) := by
  induction h with
  | nil =>
      obtain ⟨threads, clock, rfl⟩ := hstart.begun
      exact Tick.program_keeps plan _ _ _
  | @snoc es m t e hrun hstep ih =>
      have hstopped := hstep.isStopped
      by_cases he : ∃ a, e = .answer a
      · obtain ⟨a, rfl⟩ := he
        rw [tickAnswers_snoc]
        cases hstep with
        | @answer d w c t next hprogram _ hwork hended hop =>
            rw [hprogram] at ih
            refine ih d _ _ hstopped fun f hf hstop => hstopped ?_
            -- only an operation that was told to stop answers the stop
            have hfailed : c = .failed f := by
              cases c with
              | done => cases hf
              | failed g => exact congrArg Completion.failed (Except.error.inj hf)
              | panicked message =>
                  rw [← Except.error.inj hf] at hstop
                  cases hstop
            rw [hfailed] at hended
            have hsignalled := (workFits hstart hrun hwork).genuine f hended hstop
            exact (tickSignalFits hstart hrun).signalled d hsignalled
      · rw [tickAnswers_snoc_of_ne es fun a heq => he ⟨a, heq⟩]
        cases hstep with
        | look hprogram =>
            rw [hprogram] at ih
            exact ih _ id
        | emit hprogram =>
            rw [hprogram] at ih
            exact ih.2
        | record hprogram | spawn hprogram =>
            rw [hprogram] at ih
            exact ih
        | abandon _ hprogram =>
            rw [hprogram] at ih
            exact TickProgram.Keeps.stop ih hstopped
        | answer => exact absurd ⟨_, rfl⟩ he
        | others | own | take | conclude => exact ih.stop hstopped
        | context | pass | exec => exact ih

/-- What a report of a failure has come from: an operation that the tick has waited for, or one that
it has not waited for, or one that no thread was found for. None of them has answered a stop. -/
inductive IsFailureReport (plan : Plan) (rules : List Rule) (es : List TickEvent) : Notice → Prop
  | waited {tick : Nat} {r : Rule} {a : Answer} {f : ActionFailure} :
      r ∈ rules → .answer a ∈ es → a.Fails plan r f →
      IsFailureReport plan rules es (Tick.failureNotice tick r a.operation.name f)
  | detached {a : Answer} {f : ActionFailure} :
      .conclude a ∈ es → a.result = .error f → f.isStopped = false →
      IsFailureReport plan rules es
        (.actionFailed, World.detachedData a.rule a.operation.name (some f.message))
  | abandoned {d : Nat} {rule operation error : String} :
      .abandon d rule operation error ∈ es →
      IsFailureReport plan rules es
        (.actionFailed, World.detachedData rule operation (some error))

theorem IsFailureReport.snoc {rules : List Rule} {n : Notice} (h : IsFailureReport plan rules es n)
    (e : TickEvent) : IsFailureReport plan rules (es ++ [e]) n := by
  cases h with
  | waited hr ha hfails => exact .waited hr (List.mem_append_left _ ha) hfails
  | detached ha hresult hgenuine => exact .detached (List.mem_append_left _ ha) hresult hgenuine
  | abandoned hd => exact .abandoned (List.mem_append_left _ hd)

/-- Every report of a failure has come from a failure. -/
theorem reportsFit (hstart : start.IsNew plan context) (h : Run TickStep start es s) {n : Notice}
    (hn : n ∈ s.notices) (hfailed : n.1 = .actionFailed) :
    IsFailureReport plan (Tick.selected plan context) es n := by
  induction h with
  | nil =>
      obtain ⟨threads, clock, rfl⟩ := hstart.begun
      cases hn
  | @snoc es m t e hrun hstep ih =>
      by_cases hold : n ∈ m.notices
      · exact (ih hold).snoc e
      · cases hstep with
        | emit hprogram =>
            have hkeeps := programKeeps hstart hrun
            rw [hprogram] at hkeeps
            obtain rfl := List.mem_singleton.1 ((List.mem_append.1 hn).resolve_left hold)
            obtain ⟨tick, r, hr, a, ha, f, hfails, rfl⟩ := hkeeps.1 hfailed
            exact .waited hr (List.mem_append_left _ (mem_tickAnswers.1 ha)) hfails
        | abandon error =>
            obtain rfl := List.mem_singleton.1 ((List.mem_append.1 hn).resolve_left hold)
            exact .abandoned (List.mem_append_right _ (List.mem_singleton.2 rfl))
        | @conclude d w c =>
            have hnew := (List.mem_append.1 hn).resolve_left hold
            have hlast : TickEvent.conclude ⟨d, w.rule, w.operation, c.result w.operation.name⟩ ∈
                es ++ [.conclude ⟨d, w.rule, w.operation, c.result w.operation.name⟩] :=
              List.mem_append_right _ (List.mem_singleton.2 rfl)
            cases hresult : c.result w.operation.name with
            | ok _ =>
                rw [hresult] at hnew
                obtain rfl := List.mem_singleton.1 hnew
                cases hfailed
            | error f =>
                rw [hresult] at hnew hlast
                rw [World.detachedNotices] at hnew
                split at hnew
                · cases hnew
                · next hgenuine =>
                  obtain rfl := List.mem_singleton.1 hnew
                  exact .detached hlast rfl (Bool.eq_false_iff.2 hgenuine)
        | _ => exact absurd hn hold

/-! ## A tick that is interrupted -/

/-- What a tick keeps to, whenever the operator is stopped. -/
structure ObeysStop (plan : Plan) (context : Context) (start : TickThreads) (es : List TickEvent)
    (s : TickThreads) : Prop where
  /-- An operation that comes late does nothing but look at its stop signal: it gives no command,
  submits no task and changes no fact, -/
  silent : ∀ d, CameLate start.operator d es → ∀ c e, TickEvent.exec d c e ∈ es →
    ∃ now, e = .begin now
  /-- and if the tick has waited for it, it has answered the stop. -/
  answered : ∀ a, TickEvent.answer a ∈ es → CameLate start.operator a.dispatch es →
    a.result = .error (.stopped a.operation.name)
  /-- The rules that were fired are a front part of those that were selected. -/
  fired : ∀ report, s.program = .ret (.ok report) →
    report.fired <+: (Tick.selected plan context).map (·.id)
  /-- No answer to a stop is recorded as a failure -/
  recorded : ∀ report, s.program = .ret (.ok report) → ∀ x ∈ report.failures,
    x.failure.isStopped = false ∧ ∃ r ∈ Tick.selected plan context, ∃ a,
      TickEvent.answer a ∈ es ∧ x.rule = r.id ∧ a.Fails plan r x.failure
  /-- or reported as one. -/
  reported : ∀ n ∈ s.notices, n.1 = .actionFailed →
    IsFailureReport plan (Tick.selected plan context) es n
  /-- The tick fails only if the operation that it was at did, for a critical rule; it had not come
  late, and has not answered a stop. -/
  failed : ∀ e, s.program = .ret (.error e) → ∃ r ∈ Tick.selected plan context, ∃ a f,
    (tickAnswers es).getLast? = some a ∧ a.Fails plan r f ∧ r.critical = true ∧
      ¬ CameLate start.operator a.dispatch es ∧ e = .criticalActionFailed r.id f
  /-- The tick can always come to its end. -/
  ends : s.CanEnd

/-- **A stop in the middle of a tick is obeyed**, wherever in the tick it comes. -/
theorem obeysStop (hstart : start.IsNew plan context) (h : Run TickStep start es s)
    (hshort : ShortWaits es) : ObeysStop plan context start es s := by
  have hkeeps := programKeeps hstart h
  refine ⟨fun d hlate c e hmem => ?_, fun a => result_of_cameLate hstart h hshort,
    fun report hend => ?_, fun report hend x hx => ?_, fun n => reportsFit hstart h,
    fun e hend => ?_, canEnd hstart h⟩
  · cases hw : s.work d with
    | none => exact absurd rfl (tickIdle h hw _ hmem)
    | some w => exact (lateFits hstart h hshort hw hlate).silent c e hmem
  · rw [hend] at hkeeps
    exact hkeeps.fired
  · rw [hend] at hkeeps
    obtain ⟨r, hr, a, ha, hrule, hfails⟩ := hkeeps.failures x hx
    exact ⟨hfails.genuine, r, hr, a, mem_tickAnswers.1 ha, hrule, hfails⟩
  · rw [hend] at hkeeps
    obtain ⟨r, hr, a, f, hlast, hfails, hcritical, rfl⟩ := hkeeps
    refine ⟨r, hr, a, f, hlast, hfails, hcritical, fun hlate => ?_, rfl⟩
    -- if it had come late, it would have answered the stop
    have ha : TickEvent.answer a ∈ es := mem_tickAnswers.1 (List.mem_of_getLast? hlast)
    have hstopped := hfails.result.symm.trans (result_of_cameLate hstart h hshort ha hlate)
    have hgenuine := hfails.genuine
    rw [Except.error.inj hstopped] at hgenuine
    cases hgenuine

/-- The controller stops the operator while the first operation of a tick waits for it. The second
operation comes late, and the second rule is not begun. -/
theorem obeysStop_of_command : ∃ (plan : Plan) (start s : TickThreads) (es : List TickEvent)
    (report : TickReport), start.IsNew plan {} ∧ Run TickStep start es s ∧ ShortWaits es ∧
      CameLate start.operator 2 es ∧ s.program = .ret (.ok report) ∧ report.fired = ["shoot"] ∧
      report.failures = [] ∧ ObeysStop plan {} start es s := by
  let press : Compiled := ⟨{ name := "press" }, .press "space" .zero⟩
  let mark : Compiled := ⟨{ name := "set_fact" }, .setFact "shot" (.bool true)⟩
  let plan : Plan :=
    { template :=
        { subDir := "main", name := "demo", rules := [{ id := "shoot" }, { id := "rest" }] }
      operations := [("rest", [mark]), ("shoot", [press, mark])] }
  let o : Operator :=
    { store := ⟨⟨"rules", ["rules"]⟩⟩, registry := {}, subDir := "main", name := "demo",
      lifecycle := .running }
  let start : TickThreads := .begin (.begin o) plan {} 0
  let first (stage : ExecStage) : TickWork := ⟨"shoot", press, false, stage⟩
  let second (stage : ExecStage) : TickWork := ⟨"shoot", mark, false, stage⟩
  have hstart : start.IsNew plan {} := ⟨⟨_, _, rfl⟩, ⟨o, [], rfl, rfl, .nil⟩⟩
  have h1 : Run TickStep start [] start := .nil
  -- the first operation gives its command
  have h2 := (h1.snoc (.look rfl)).snoc (.take (w := first .fresh) rfl rfl .take)
  have h3 := h2.snoc (.own (d := 1) (w := first .fresh) rfl .enter (.enter 1 _ rfl))
  have h4 := h3.snoc (.own (d := 1) (w := first .fresh) rfl .check (.check 1 rfl))
  have h5 := h4.snoc (.own (d := 1) (w := first .fresh) rfl .start (.start 1 rfl))
  have h6 := h5.snoc (.exec (d := 1) (w := first .fresh) rfl rfl .begin)
  have h7 := h6.snoc
    (.exec (d := 1) (w := first (.commanding (.press "space" .zero))) rfl rfl (.command _))
  -- the controller stops the operator, and answers
  have h8 := h7.snoc (.others (by simp [OperatorEvent.dispatch?]) .stop)
  have h9 := h8.snoc (.others (by simp [OperatorEvent.dispatch?]) (.look rfl))
  have h10 := h9.snoc (.exec (d := 1) (w := first .commanded) rfl rfl (.answer .done))
  have h11 := h10.snoc (.own (d := 1) (w := first (.ended .done)) rfl (.finish rfl) (.finish 1 rfl))
  have h12 := h11.snoc (.answer (d := 1) (w := first (.ended .done)) rfl rfl rfl rfl (.leave 1 rfl))
  -- the second operation comes late
  have h13 := (h12.snoc (.record rfl)).snoc (.take (w := second .fresh) rfl rfl .take)
  have h14 := h13.snoc (.own (d := 2) (w := second .fresh) rfl .enter (.enter 2 _ rfl))
  have h15 := h14.snoc (.own (d := 2) (w := second .fresh) rfl .check (.check 2 rfl))
  have h16 := h15.snoc (.own (d := 2) (w := second .fresh) rfl .tell (.tell 2 rfl))
  have h17 := h16.snoc (.own (d := 2) (w := second .fresh) rfl .withdraw (.withdraw 2 rfl))
  have h18 := h17.snoc (.own (d := 2) (w := second .fresh) rfl .start (.start 2 rfl))
  have h19 := h18.snoc (.exec (d := 2) (w := second .fresh) rfl rfl .begin)
  let late : ExecStage := .ended (.failed (.stopped "set_fact"))
  have h20 := h19.snoc (.own (d := 2) (w := second late) rfl (.finish rfl) (.finish 2 rfl))
  have h21 := h20.snoc (.answer (d := 2) (w := second late) rfl rfl rfl rfl (.leave 2 rfl))
  have h22 := (h21.snoc (.look rfl)).snoc (.emit rfl)
  refine ⟨plan, start, _, _, _, hstart, h22, ?short, ?late, rfl, rfl, rfl,
    obeysStop hstart h22 ?short⟩
  case short =>
    -- none of the two operations waits
    intro d c now t hmem heffect
    simp only [List.mem_append, List.mem_singleton, List.not_mem_nil, reduceCtorEq, false_or,
      or_false, and_false, TickEvent.exec.injEq, ExecEvent.begin.injEq] at hmem
    rcases hmem with ⟨rfl, rfl, rfl⟩ | ⟨rfl, rfl, rfl⟩
    · cases heffect
    · cases heffect
  case late =>
    -- the events behind its look for a stop do not matter
    iterate 8 refine cameLate_snoc.2 (Or.inl ?_)
    refine cameLate_snoc.2 (Or.inr ⟨.check, Or.inr ?_⟩)
    simp only [List.mem_append, List.mem_singleton, true_or, or_true]

end Runs

end RuleEngine
