import RuleEngine.Operation.Builtin
import RuleEngine.Proofs.Operator.Plan
import RuleEngine.Proofs.Rule.Selection
import RuleEngine.Simulation.Run

set_option autoImplicit false

/-! # What a tick calls

A host can note every operation that it is asked to execute, and how the execution ends
(`Host.logged`). The notes of a tick tell what it did: rule by rule, the operations of each in their
order up to the first one that fails (`Call.Follows`). The report of the tick is read off them, and
so is its error (`Host.tick_runs`).

Nothing is assumed of the executions. That no stop happens during a tick is told from its end, since
a stop is for good.
-/

namespace RuleEngine

/-! ## Calls -/

/-- An operation that a tick has asked for. -/
structure Call where
  rule : String
  operation : Compiled
  /-- How its execution ended; `none` if nobody waited for it. -/
  outcome : Option Completion
deriving DecidableEq

namespace Call

/-- The failure by which an operation ends its rule. A panic is one. -/
def failure? (c : Call) : Option ActionFailure :=
  match c.outcome with
  | none => none
  | some .done => none
  | some (.failed f) => some f
  | some (.panicked _) => some (.panicked c.operation.name)

/-- The calls of one rule follow its operations: nobody waits for the asynchronous ones, the first
failure is the end, and without a failure no operation is left out. -/
structure Follows (rule : String) (operations : List Compiled) (calls : List Call) : Prop where
  ofRule : ∀ c ∈ calls, c.rule = rule
  inOrder : calls.map (·.operation) <+: operations
  detached : ∀ c ∈ calls, c.outcome = none ↔ c.operation.isAsync = true
  failureEnds : ∀ front c back, calls = front ++ c :: back → c.failure? ≠ none → back = []
  complete : (∀ c ∈ calls, c.failure? = none) → calls.map (·.operation) = operations

variable {rule : String} {operations : List Compiled} {calls : List Call} {c : Call}

theorem Follows.nil (rule : String) : Follows rule [] [] where
  ofRule := by simp
  inOrder := List.nil_prefix
  detached := by simp
  failureEnds := by simp
  complete := fun _ => rfl

/-- A call that does not fail leads on to the other operations. -/
theorem Follows.cons (h : Follows rule operations calls) (hrule : c.rule = rule)
    (hasync : c.outcome = none ↔ c.operation.isAsync = true) (hok : c.failure? = none) :
    Follows rule (c.operation :: operations) (c :: calls) where
  ofRule := List.forall_mem_cons.2 ⟨hrule, h.ofRule⟩
  inOrder := List.cons_prefix_cons.2 ⟨rfl, h.inOrder⟩
  detached := List.forall_mem_cons.2 ⟨hasync, h.detached⟩
  failureEnds := by
    intro front d back heq hd
    cases front with
    | nil =>
        cases heq
        exact absurd hok hd
    | cons e front =>
        cases heq
        exact h.failureEnds front d back rfl hd
  complete := by
    intro hall
    rw [List.map_cons, h.complete (List.forall_mem_cons.1 hall).2]

/-- A call that fails is the last one of its rule. -/
theorem Follows.failed (operations : List Compiled) (hrule : c.rule = rule)
    (hasync : c.outcome = none ↔ c.operation.isAsync = true) (hfailed : c.failure? ≠ none) :
    Follows rule (c.operation :: operations) [c] where
  ofRule := by simpa using hrule
  inOrder := by simp
  detached := by simpa using hasync
  failureEnds := by
    intro front d back heq _
    cases front with
    | nil =>
        cases heq
        rfl
    | cons e front =>
        rw [List.cons_append, List.cons.injEq] at heq
        simp at heq
  complete := by
    intro hall
    exact absurd (hall c List.mem_cons_self) hfailed

end Call

/-- What a tick did for one rule. -/
structure RuleRun where
  rule : Rule
  calls : List Call
deriving DecidableEq

namespace RuleRun

def failure? (r : RuleRun) : Option ActionFailure := r.calls.findSome? Call.failure?

/-- The rule is critical and ended early. -/
def EndsTick (r : RuleRun) : Prop := r.rule.critical = true ∧ r.failure? ≠ none

/-- The report about a tick that did this. -/
def report (tick : Nat) (runs : List RuleRun) : TickReport where
  tick := tick
  fired := runs.map (·.rule.id)
  actions := (runs.flatMap (·.calls)).countP (·.outcome == some .done)
  asyncDispatched := (runs.flatMap (·.calls)).countP (·.outcome == none)
  failures := runs.filterMap fun r => r.failure?.map (⟨r.rule.id, ·⟩)

end RuleRun

/-- The report with what the calls of one rule add to it. -/
def TickReport.addCalls (report : TickReport) (calls : List Call) : TickReport :=
  { report with
    actions := report.actions + calls.countP (·.outcome == some .done)
    asyncDispatched := report.asyncDispatched + calls.countP (·.outcome == none) }

/-- The report with what the runs of rules add to it. -/
def TickReport.addRuns (report : TickReport) (runs : List RuleRun) : TickReport :=
  { report with
    fired := report.fired ++ runs.map (·.rule.id)
    actions := report.actions + (runs.flatMap (·.calls)).countP (·.outcome == some .done)
    asyncDispatched := report.asyncDispatched + (runs.flatMap (·.calls)).countP (·.outcome == none)
    failures := report.failures ++ runs.filterMap fun r => r.failure?.map (⟨r.rule.id, ·⟩) }

theorem TickReport.addRuns_cons (report : TickReport) (r : RuleRun) (runs : List RuleRun) :
    report.addRuns (r :: runs) = (report.addRuns [r]).addRuns runs := by
  cases hf : r.failure? <;> simp [addRuns, hf, Nat.add_assoc]

def Tick.RuleEnd.failure? : Tick.RuleEnd → Option ActionFailure
  | .failed _ f => some f
  | _ => none

/-! ## One step of a run -/

namespace Tick

variable {σ : Type} {env : TickEnv σ} {rule : String} {c : Compiled} {cs : List Compiled}
  {report : TickReport} {s s' : σ}

theorem runOperations_async (hasync : c.isAsync = true) :
    runOperations env rule (c :: cs) report s =
      runOperations env rule cs { report with asyncDispatched := report.asyncDispatched + 1 }
        (env.dispatch rule c s) := by
  rw [runOperations, if_pos hasync]

theorem runOperations_ok (hsync : ¬ c.isAsync = true)
    (hexecute : env.execute rule c s = (.ok (), s')) :
    runOperations env rule (c :: cs) report s =
      runOperations env rule cs { report with actions := report.actions + 1 }
        (env.record rule s') := by
  rw [runOperations, if_neg hsync, hexecute]

theorem runOperations_error (hsync : ¬ c.isAsync = true) {f : ActionFailure}
    (hexecute : env.execute rule c s = (.error f, s')) :
    runOperations env rule (c :: cs) report s =
      if f.isStopped && env.isStopped s' then (.stopped, report, s')
      else (.failed c.name f, report, s') := by
  rw [runOperations, if_neg hsync, hexecute]

variable {plan : Plan} {r : Rule} {rs : List Rule} {report' : TickReport}

theorem runRules_done (hs : ¬ env.isStopped s = true)
    (hrun : runOperations env r.id (plan.operationsOf r)
      { report with fired := report.fired ++ [r.id] } s = (.done, report', s')) :
    runRules env plan (r :: rs) report s = runRules env plan rs report' s' := by
  rw [runRules, if_neg hs]
  dsimp only
  rw [hrun]

theorem runRules_stopped (hs : ¬ env.isStopped s = true)
    (hrun : runOperations env r.id (plan.operationsOf r)
      { report with fired := report.fired ++ [r.id] } s = (.stopped, report', s')) :
    runRules env plan (r :: rs) report s = (.ok report', s') := by
  rw [runRules, if_neg hs]
  dsimp only
  rw [hrun]

theorem runRules_failed (hs : ¬ env.isStopped s = true) {operation : String} {f : ActionFailure}
    (hrun : runOperations env r.id (plan.operationsOf r)
      { report with fired := report.fired ++ [r.id] } s = (.failed operation f, report', s')) :
    runRules env plan (r :: rs) report s =
      let failed := env.emit (failureNotice report'.tick r operation f) s'
      if r.critical then
        (.error (.criticalActionFailed r.id f),
          env.emit (criticalNotice report'.tick r f) failed)
      else
        runRules env plan rs { report' with failures := report'.failures ++ [⟨r.id, f⟩] } failed := by
  rw [runRules, if_neg hs]
  dsimp only
  rw [hrun]

end Tick

/-! ## Hosts that note their calls -/

namespace Host

variable {σ : Type}

/-- The host notes every call behind those that it has noted already. -/
def logged (h : Host σ) : Host (σ × List Call) where
  operator s := h.operator s.1
  setOperator o s := (h.setOperator o s.1, s.2)
  context s := h.context s.1
  setContext c s := (h.setContext c s.1, s.2)
  execute rule dispatch c s :=
    let (e, s') := h.execute rule dispatch c s.1
    (e, s', s.2 ++ [⟨rule, c, some e⟩])
  launch rule dispatch c s := (h.launch rule dispatch c s.1, s.2 ++ [⟨rule, c, none⟩])
  emit n s := (h.emit n s.1, s.2)
  operator_setOperator o s := h.operator_setOperator o s.1
  context_setOperator o s := h.context_setOperator o s.1
  operator_setContext c s := h.operator_setContext c s.1
  context_setContext c s := h.context_setContext c s.1
  isStopped_execute rule dispatch c s := h.isStopped_execute rule dispatch c s.1
  isStopped_launch rule dispatch c s := h.isStopped_launch rule dispatch c s.1
  isStopped_emit n s := h.isStopped_emit n s.1

variable (h : Host σ)

/-! ## A stop is for good -/

theorem isStopped_track (rule : String) (c : Compiled) (s : σ) (hs : h.isStopped s = true) :
    h.isStopped (h.track rule c s).2 = true := by
  unfold isStopped track at *
  dsimp only
  rw [h.operator_setOperator]
  unfold Operator.track Operator.takeDispatch
  dsimp only
  split <;> exact hs

theorem isStopped_executeTracked (rule : String) (c : Compiled) (s : σ)
    (hs : h.isStopped s = true) : h.isStopped (h.executeTracked rule c s).2 = true := by
  have htrack := h.isStopped_track rule c s hs
  have hexecute := h.isStopped_execute rule (h.track rule c s).1 c _ htrack
  unfold isStopped executeTracked
  dsimp only
  rw [h.operator_setOperator]
  exact hexecute

theorem isStopped_dispatchDetached (rule : String) (c : Compiled) (s : σ)
    (hs : h.isStopped s = true) : h.isStopped (h.dispatchDetached rule c s) = true :=
  h.isStopped_launch rule _ c _ (h.isStopped_track rule c s hs)

theorem isStopped_record (rule : String) (s : σ) : h.isStopped (h.record rule s) = h.isStopped s := by
  unfold isStopped record
  rw [h.operator_setContext]

/-- What ends without a stop began without one. -/
theorem quiet_of_imp {s s' : σ} (hstop : h.isStopped s = true → h.isStopped s' = true)
    (hquiet : h.isStopped s' = false) : h.isStopped s = false :=
  Bool.eq_false_iff.2 (mt hstop (Bool.eq_false_iff.1 hquiet))

/-! ## The operations of a rule -/

/-- The failures of a call are those of its execution. -/
theorem failure?_of_result (rule : String) (c : Compiled) (e : Completion) :
    (e.result c.name = .ok () ∧ (⟨rule, c, some e⟩ : Call).failure? = none ∧ e = .done) ∨
      ∃ f, e.result c.name = .error f ∧ (⟨rule, c, some e⟩ : Call).failure? = some f ∧ e ≠ .done := by
  cases e with
  | done => exact Or.inl ⟨rfl, rfl, rfl⟩
  | failed f => exact Or.inr ⟨f, rfl, rfl, by simp⟩
  | panicked m => exact Or.inr ⟨.panicked c.name, rfl, rfl, by simp⟩

/-- An execution that is waited for is noted with its end. -/
theorem executeTracked_logged (rule : String) (c : Compiled) (s : σ) (log : List Call) :
    ∃ e : Completion,
      h.executeTracked rule c s = (e.result c.name, (h.executeTracked rule c s).2) ∧
      h.logged.executeTracked rule c (s, log) =
        (e.result c.name, (h.executeTracked rule c s).2, log ++ [⟨rule, c, some e⟩]) :=
  ⟨_, rfl, rfl⟩

/-- What a run of operations with some calls has done, unless a stop was noticed. -/
structure OperationsRun (rule : String) (operations : List Compiled) (report : TickReport)
    (calls : List Call) (ending : Tick.RuleEnd) (report' : TickReport) : Prop where
  follows : Call.Follows rule operations calls
  ending_ne : ending ≠ .stopped
  failure : ending.failure? = calls.findSome? Call.failure?
  report_eq : report' = report.addCalls calls

section OperationsRun

variable {rule : String} {c : Compiled} {cs : List Compiled} {report report' : TickReport}
  {calls : List Call} {ending : Tick.RuleEnd}

theorem OperationsRun.nil (rule : String) (report : TickReport) :
    OperationsRun rule [] report [] .done report :=
  ⟨.nil rule, by simp, rfl, rfl⟩

/-- An asynchronous operation is counted, and the rule goes on. -/
theorem OperationsRun.detached (hasync : c.isAsync = true)
    (h : OperationsRun rule cs { report with asyncDispatched := report.asyncDispatched + 1 } calls
      ending report') :
    OperationsRun rule (c :: cs) report (⟨rule, c, none⟩ :: calls) ending report' := by
  refine ⟨h.follows.cons (c := ⟨rule, c, none⟩) rfl (by simpa using hasync) rfl, h.ending_ne, ?_, ?_⟩
  · rw [h.failure, List.findSome?_cons]
    rfl
  · rw [h.report_eq]
    simp [TickReport.addCalls, Nat.add_assoc, Nat.add_comm 1]

/-- An operation that completes is counted, and the rule goes on. -/
theorem OperationsRun.done (hsync : ¬ c.isAsync = true)
    (h : OperationsRun rule cs { report with actions := report.actions + 1 } calls ending report') :
    OperationsRun rule (c :: cs) report (⟨rule, c, some .done⟩ :: calls) ending report' := by
  refine ⟨h.follows.cons (c := ⟨rule, c, some .done⟩) rfl (by simpa using hsync) rfl, h.ending_ne,
    ?_, ?_⟩
  · rw [h.failure, List.findSome?_cons]
    rfl
  · rw [h.report_eq]
    simp [TickReport.addCalls, Nat.add_assoc, Nat.add_comm 1]

/-- An operation that fails is the last one, and nothing is counted. -/
theorem OperationsRun.failed (hsync : ¬ c.isAsync = true) {e : Completion} {f : ActionFailure}
    (hf : (⟨rule, c, some e⟩ : Call).failure? = some f) (he : e ≠ .done) :
    OperationsRun rule (c :: cs) report [⟨rule, c, some e⟩] (.failed c.name f) report := by
  refine ⟨.failed (c := ⟨rule, c, some e⟩) cs rfl (by simpa using hsync) (by simp [hf]), by simp,
    ?_, ?_⟩
  · rw [List.findSome?_cons, hf]
    rfl
  · simp [TickReport.addCalls, he]

end OperationsRun

/-- The operations of a rule are run alike with notes and without, a stop is for good, and without
a stop the notes tell what was done. -/
structure OperationsLogged (rule : String) (operations : List Compiled) (report : TickReport) (s : σ)
    (log : List Call) (ending : Tick.RuleEnd) (report' : TickReport) (s' : σ) (calls : List Call) :
    Prop where
  plain : Tick.runOperations h.tickEnv rule operations report s = (ending, report', s')
  logged : Tick.runOperations h.logged.tickEnv rule operations report (s, log) =
    (ending, report', s', log ++ calls)
  stop : h.isStopped s = true → h.isStopped s' = true
  run : h.isStopped s' = false → OperationsRun rule operations report calls ending report'

section OperationsLogged

variable {h} {rule : String} {c : Compiled} {cs : List Compiled} {report report' : TickReport}
  {s s₁ s' : σ} {log calls : List Call} {ending : Tick.RuleEnd}

theorem OperationsLogged.detached (hasync : c.isAsync = true)
    (hrest : h.OperationsLogged rule cs { report with asyncDispatched := report.asyncDispatched + 1 }
      (h.dispatchDetached rule c s) (log ++ [⟨rule, c, none⟩]) ending report' s' calls) :
    h.OperationsLogged rule (c :: cs) report s log ending report' s' (⟨rule, c, none⟩ :: calls) where
  plain := by
    rw [Tick.runOperations_async hasync]
    exact hrest.plain
  logged := by
    rw [Tick.runOperations_async hasync, List.append_cons log _ calls]
    exact hrest.logged
  stop hs := hrest.stop (h.isStopped_dispatchDetached rule c s hs)
  run hs' := (hrest.run hs').detached hasync

theorem OperationsLogged.done (hsync : ¬ c.isAsync = true)
    (hplain : h.executeTracked rule c s = (.ok (), s₁))
    (hlogged : h.logged.executeTracked rule c (s, log) =
      (.ok (), s₁, log ++ [⟨rule, c, some .done⟩]))
    (hstop : h.isStopped s = true → h.isStopped s₁ = true)
    (hrest : h.OperationsLogged rule cs { report with actions := report.actions + 1 }
      (h.record rule s₁) (log ++ [⟨rule, c, some .done⟩]) ending report' s' calls) :
    h.OperationsLogged rule (c :: cs) report s log ending report' s'
      (⟨rule, c, some .done⟩ :: calls) where
  plain := by
    rw [Tick.runOperations_ok hsync hplain]
    exact hrest.plain
  logged := by
    rw [Tick.runOperations_ok hsync hlogged, List.append_cons log _ calls]
    exact hrest.logged
  stop hs := by
    refine hrest.stop ?_
    rw [h.isStopped_record]
    exact hstop hs
  run hs' := (hrest.run hs').done hsync

theorem OperationsLogged.failed (hsync : ¬ c.isAsync = true) {e : Completion} {f : ActionFailure}
    (hplain : h.executeTracked rule c s = (.error f, s'))
    (hlogged : h.logged.executeTracked rule c (s, log) =
      (.error f, s', log ++ [⟨rule, c, some e⟩]))
    (hstop : h.isStopped s = true → h.isStopped s' = true)
    (hf : (⟨rule, c, some e⟩ : Call).failure? = some f) (he : e ≠ .done) :
    ∃ ending, h.OperationsLogged rule (c :: cs) report s log ending report s'
      [⟨rule, c, some e⟩] := by
  have hrun : Tick.runOperations h.tickEnv rule (c :: cs) report s = _ :=
    Tick.runOperations_error hsync hplain
  have hlog : Tick.runOperations h.logged.tickEnv rule (c :: cs) report (s, log) = _ :=
    Tick.runOperations_error hsync hlogged
  -- the answer to a stop is told from a failure by the stop itself
  by_cases hs' : (f.isStopped && h.isStopped s') = true
  · refine ⟨.stopped, hrun.trans (if_pos hs'), hlog.trans (if_pos hs'), hstop, ?_⟩
    intro hquiet
    rw [hquiet, Bool.and_false] at hs'
    cases hs'
  · refine ⟨.failed c.name f, hrun.trans (if_neg hs'), hlog.trans (if_neg hs'), hstop, ?_⟩
    intro _
    exact .failed hsync hf he

end OperationsLogged

theorem runOperations_logged (rule : String) (operations : List Compiled) (report : TickReport)
    (s : σ) (log : List Call) :
    ∃ ending report' s' calls,
      h.OperationsLogged rule operations report s log ending report' s' calls := by
  induction operations generalizing report s log with
  | nil =>
      refine ⟨.done, report, s, [], rfl, ?_, id, fun _ => .nil rule report⟩
      rw [List.append_nil]
      rfl
  | cons c cs ih =>
      by_cases hasync : c.isAsync = true
      · obtain ⟨ending, report', s', calls, hrest⟩ := ih _ _ _
        exact ⟨ending, report', s', _, hrest.detached hasync⟩
      · obtain ⟨e, hplain, hlogged⟩ := h.executeTracked_logged rule c s log
        have hstop := h.isStopped_executeTracked rule c s
        generalize (h.executeTracked rule c s).2 = s₁ at hplain hlogged hstop
        rcases failure?_of_result rule c e with ⟨hok, -, rfl⟩ | ⟨f, herror, hf, hne⟩
        · rw [hok] at hplain hlogged
          obtain ⟨ending, report', s', calls, hrest⟩ := ih _ _ _
          exact ⟨ending, report', s', _, .done hasync hplain hlogged hstop hrest⟩
        · rw [herror] at hplain hlogged
          have hfailed : ∃ ending, h.OperationsLogged rule (c :: cs) report s log ending report s₁
              [⟨rule, c, some e⟩] :=
            OperationsLogged.failed hasync hplain hlogged hstop hf hne
          obtain ⟨ending, hfailed⟩ := hfailed
          exact ⟨ending, report, s₁, _, hfailed⟩

/-! ## The rules of a tick -/

/-- How a tick goes through rules: the operations of each are followed to their end, up to the first
critical rule that fails. -/
inductive RulesRun (plan : Plan) :
    List Rule → TickReport → List RuleRun → Except EngineError TickReport → Prop
  | nil (report : TickReport) : RulesRun plan [] report [] (.ok report)
  | next {r : Rule} {rs : List Rule} {report : TickReport} {calls : List Call}
      {runs : List RuleRun} {result : Except EngineError TickReport} :
      Call.Follows r.id (plan.operationsOf r) calls → ¬ RuleRun.EndsTick ⟨r, calls⟩ →
      RulesRun plan rs (report.addRuns [⟨r, calls⟩]) runs result →
      RulesRun plan (r :: rs) report (⟨r, calls⟩ :: runs) result
  | critical {r : Rule} {rs : List Rule} {report : TickReport} {calls : List Call}
      {f : ActionFailure} :
      Call.Follows r.id (plan.operationsOf r) calls → r.critical = true →
      RuleRun.failure? ⟨r, calls⟩ = some f →
      RulesRun plan (r :: rs) report [⟨r, calls⟩] (.error (.criticalActionFailed r.id f))

section RulesRun

variable {plan : Plan} {rules : List Rule} {report : TickReport} {runs : List RuleRun}
  {result : Except EngineError TickReport}

/-- A rule that is done leads on to the other rules. -/
theorem RulesRun.of_done {r : Rule} {calls : List Call} {report' : TickReport}
    (hops : OperationsRun r.id (plan.operationsOf r)
      { report with fired := report.fired ++ [r.id] } calls .done report')
    (hrest : RulesRun plan rules report' runs result) :
    RulesRun plan (r :: rules) report (⟨r, calls⟩ :: runs) result := by
  have hnone : RuleRun.failure? ⟨r, calls⟩ = none := hops.failure.symm
  have hreport : report.addRuns [⟨r, calls⟩] = report' := by
    rw [hops.report_eq]
    simp [TickReport.addRuns, TickReport.addCalls, hnone]
  refine .next hops.follows (fun hends => hends.2 hnone) ?_
  rw [hreport]
  exact hrest

/-- So does a rule that has failed and is not critical. -/
theorem RulesRun.of_failed {r : Rule} {calls : List Call} {report' : TickReport}
    {operation : String} {f : ActionFailure} (hcritical : ¬ r.critical = true)
    (hops : OperationsRun r.id (plan.operationsOf r)
      { report with fired := report.fired ++ [r.id] } calls (.failed operation f) report')
    (hrest : RulesRun plan rules
      { report' with failures := report'.failures ++ [⟨r.id, f⟩] } runs result) :
    RulesRun plan (r :: rules) report (⟨r, calls⟩ :: runs) result := by
  have hf : RuleRun.failure? ⟨r, calls⟩ = some f := hops.failure.symm
  have hreport : report.addRuns [⟨r, calls⟩] =
      { report' with failures := report'.failures ++ [⟨r.id, f⟩] } := by
    rw [hops.report_eq]
    simp [TickReport.addRuns, TickReport.addCalls, hf]
  refine .next hops.follows (fun hends => hcritical hends.1) ?_
  rw [hreport]
  exact hrest

theorem RulesRun.follows (hrun : RulesRun plan rules report runs result) :
    ∀ run ∈ runs, Call.Follows run.rule.id (plan.operationsOf run.rule) run.calls := by
  induction hrun with
  | nil => simp
  | next hfollows _ _ ih => exact List.forall_mem_cons.2 ⟨hfollows, ih⟩
  | critical hfollows => simpa using hfollows

/-- The rules are begun in their order. -/
theorem RulesRun.inOrder (hrun : RulesRun plan rules report runs result) :
    runs.map (·.rule) <+: rules := by
  induction hrun with
  | nil => exact List.nil_prefix
  | next _ _ _ ih => exact List.cons_prefix_cons.2 ⟨rfl, ih⟩
  | critical => simp

/-- Unless a critical rule fails, every rule is begun, and the report tells what was done. -/
theorem RulesRun.ok (hrun : RulesRun plan rules report runs result)
    (hnone : ∀ run ∈ runs, ¬ run.EndsTick) :
    runs.map (·.rule) = rules ∧ result = .ok (report.addRuns runs) := by
  induction hrun with
  | nil => simp [TickReport.addRuns]
  | next _ _ _ ih =>
      obtain ⟨hrules, hresult⟩ := ih (List.forall_mem_cons.1 hnone).2
      rw [List.map_cons, hrules, hresult, ← TickReport.addRuns_cons]
      exact ⟨rfl, rfl⟩
  | critical _ hcritical hf =>
      refine absurd ⟨hcritical, ?_⟩ (hnone _ List.mem_cons_self)
      rw [hf]
      exact Option.some_ne_none _

/-- A critical rule that fails is the last one, and its failure is the error. -/
theorem RulesRun.error (hrun : RulesRun plan rules report runs result) {run : RuleRun}
    (hmem : run ∈ runs) (hends : run.EndsTick) :
    ∃ front f, runs = front ++ [run] ∧ (∀ r ∈ front, ¬ r.EndsTick) ∧ run.failure? = some f ∧
      result = .error (.criticalActionFailed run.rule.id f) := by
  induction hrun with
  | nil => cases hmem
  | next _ hgoes _ ih =>
      rcases List.mem_cons.1 hmem with rfl | hmem
      · exact absurd hends hgoes
      · obtain ⟨front, f, rfl, hfront, hf, hresult⟩ := ih hmem
        exact ⟨_ :: front, f, rfl, List.forall_mem_cons.2 ⟨hgoes, hfront⟩, hf, hresult⟩
  | critical _ _ hf =>
      obtain rfl := List.mem_singleton.1 hmem
      exact ⟨[], _, rfl, by simp, hf, rfl⟩

end RulesRun

/-- Rules are run alike with notes and without, a stop is for good, and without a stop the notes tell
what was done. -/
structure RulesLogged (plan : Plan) (rules : List Rule) (report : TickReport) (s : σ)
    (log : List Call) (result : Except EngineError TickReport) (s' : σ) (runs : List RuleRun) :
    Prop where
  plain : Tick.runRules h.tickEnv plan rules report s = (result, s')
  logged : Tick.runRules h.logged.tickEnv plan rules report (s, log) =
    (result, s', log ++ runs.flatMap (·.calls))
  stop : h.isStopped s = true → h.isStopped s' = true
  run : h.isStopped s' = false → RulesRun plan rules report runs result

section RulesLogged

variable {h} {plan : Plan} {r : Rule} {rs : List Rule} {report report' : TickReport}
  {s s₁ s' : σ} {log calls : List Call} {result : Except EngineError TickReport}
  {runs : List RuleRun}

/-- Nothing is done once a stop is noticed. -/
theorem RulesLogged.noticed (hs : h.isStopped s = true) :
    h.RulesLogged plan (r :: rs) report s log (.ok report) s [] where
  plain := if_pos hs
  logged := by
    rw [List.flatMap_nil, List.append_nil]
    exact if_pos hs
  stop := id
  run hs' := by
    rw [hs] at hs'
    cases hs'

theorem RulesLogged.done (hs : ¬ h.isStopped s = true)
    (hops : h.OperationsLogged r.id (plan.operationsOf r)
      { report with fired := report.fired ++ [r.id] } s log .done report' s₁ calls)
    (hrest : h.RulesLogged plan rs report' s₁ (log ++ calls) result s' runs) :
    h.RulesLogged plan (r :: rs) report s log result s' (⟨r, calls⟩ :: runs) where
  plain := by
    rw [Tick.runRules_done hs hops.plain]
    exact hrest.plain
  logged := by
    rw [Tick.runRules_done hs hops.logged, List.flatMap_cons, ← List.append_assoc]
    exact hrest.logged
  stop := hrest.stop ∘ hops.stop
  run hs' := .of_done (hops.run (h.quiet_of_imp hrest.stop hs')) (hrest.run hs')

theorem RulesLogged.stopped (hs : ¬ h.isStopped s = true)
    (hops : h.OperationsLogged r.id (plan.operationsOf r)
      { report with fired := report.fired ++ [r.id] } s log .stopped report' s' calls) :
    h.RulesLogged plan (r :: rs) report s log (.ok report') s' [⟨r, calls⟩] where
  plain := Tick.runRules_stopped hs hops.plain
  logged := by rw [Tick.runRules_stopped hs hops.logged, List.flatMap_singleton]
  stop := hops.stop
  run hs' := absurd rfl (hops.run hs').ending_ne

theorem RulesLogged.critical (hs : ¬ h.isStopped s = true) (hcritical : r.critical = true)
    {operation : String} {f : ActionFailure}
    (hops : h.OperationsLogged r.id (plan.operationsOf r)
      { report with fired := report.fired ++ [r.id] } s log (.failed operation f) report' s₁ calls) :
    h.RulesLogged plan (r :: rs) report s log (.error (.criticalActionFailed r.id f))
      (h.emit (Tick.criticalNotice report'.tick r f)
        (h.emit (Tick.failureNotice report'.tick r operation f) s₁)) [⟨r, calls⟩] where
  plain := by
    rw [Tick.runRules_failed hs hops.plain]
    exact if_pos hcritical
  logged := by
    rw [Tick.runRules_failed hs hops.logged, List.flatMap_singleton]
    exact if_pos hcritical
  stop hs' := h.isStopped_emit _ _ (h.isStopped_emit _ _ (hops.stop hs'))
  run hs' := by
    have hs₁ : h.isStopped s₁ = false :=
      h.quiet_of_imp (fun hs₁ => h.isStopped_emit _ _ (h.isStopped_emit _ _ hs₁)) hs'
    have hrun := hops.run hs₁
    exact .critical hrun.follows hcritical hrun.failure.symm

theorem RulesLogged.failed (hs : ¬ h.isStopped s = true) (hcritical : ¬ r.critical = true)
    {operation : String} {f : ActionFailure}
    (hops : h.OperationsLogged r.id (plan.operationsOf r)
      { report with fired := report.fired ++ [r.id] } s log (.failed operation f) report' s₁ calls)
    (hrest : h.RulesLogged plan rs { report' with failures := report'.failures ++ [⟨r.id, f⟩] }
      (h.emit (Tick.failureNotice report'.tick r operation f) s₁) (log ++ calls) result s' runs) :
    h.RulesLogged plan (r :: rs) report s log result s' (⟨r, calls⟩ :: runs) where
  plain := by
    rw [Tick.runRules_failed hs hops.plain]
    exact (if_neg hcritical).trans hrest.plain
  logged := by
    rw [Tick.runRules_failed hs hops.logged, List.flatMap_cons, ← List.append_assoc]
    exact (if_neg hcritical).trans hrest.logged
  stop hs' := hrest.stop (h.isStopped_emit _ _ (hops.stop hs'))
  run hs' := by
    have hs₁ : h.isStopped s₁ = false :=
      h.quiet_of_imp (fun hs₁ => hrest.stop (h.isStopped_emit _ _ hs₁)) hs'
    exact .of_failed hcritical (hops.run hs₁) (hrest.run hs')

end RulesLogged

theorem runRules_logged (plan : Plan) (rules : List Rule) (report : TickReport) (s : σ)
    (log : List Call) :
    ∃ result s' runs, h.RulesLogged plan rules report s log result s' runs := by
  induction rules generalizing report s log with
  | nil =>
      refine ⟨.ok report, s, [], rfl, ?_, id, fun _ => .nil report⟩
      rw [List.flatMap_nil, List.append_nil]
      rfl
  | cons r rs ih =>
      by_cases hs : h.isStopped s = true
      · exact ⟨_, _, _, .noticed hs⟩
      · obtain ⟨ending, report', s₁, calls, hops⟩ :=
          h.runOperations_logged r.id (plan.operationsOf r)
            { report with fired := report.fired ++ [r.id] } s log
        cases ending with
        | done =>
            obtain ⟨result, s', runs, hrest⟩ := ih report' s₁ (log ++ calls)
            exact ⟨_, _, _, .done hs hops hrest⟩
        | stopped => exact ⟨_, _, _, .stopped hs hops⟩
        | failed operation f =>
            -- the rule has failed; whether the tick has is told by the rule
            by_cases hcritical : r.critical = true
            · exact ⟨_, _, _, .critical hs hcritical hops⟩
            · obtain ⟨result, s', runs, hrest⟩ :=
                ih { report' with failures := report'.failures ++ [⟨r.id, f⟩] }
                  (h.emit (Tick.failureNotice report'.tick r operation f) s₁) (log ++ calls)
              exact ⟨_, _, _, .failed hs hcritical hops hrest⟩

/-! ## A tick -/

theorem run_logged (plan : Plan) (tick : Nat) (facts : FactSource) (s : σ) (log : List Call) :
    ∃ result s' runs,
      Tick.run h.tickEnv plan tick facts s = (result, s') ∧
      Tick.run h.logged.tickEnv plan tick facts (s, log) =
        (result, s', log ++ runs.flatMap (·.calls)) ∧
      (h.isStopped s' = false →
        RulesRun plan (Rule.select facts plan.template.rules) { tick } runs result) := by
  obtain ⟨result, s', runs, hrun, hlog, -, hquiet⟩ :=
    h.runRules_logged plan (Rule.select facts plan.template.rules) { tick } s log
  unfold Tick.run
  rw [hrun, hlog]
  cases result with
  | ok report =>
      refine ⟨.ok report, h.emit (Tick.completedNotice report) s', runs, rfl, rfl, fun hs' => ?_⟩
      exact hquiet (h.quiet_of_imp (h.isStopped_emit _ s') hs')
  | error e => exact ⟨.error e, s', runs, rfl, rfl, hquiet⟩

theorem tick_eq {plan : Plan} {s : σ}
    (hlifecycle : (h.operator s).lifecycle = .loaded ∨ (h.operator s).lifecycle = .running)
    (hplan : (h.operator s).plan = some plan) :
    h.tick s =
      Tick.run h.tickEnv plan (h.context s).beginTick.tick (h.context s).beginTick.facts.get?
        (h.setContext (h.context s).beginTick
          (h.setOperator { h.operator s with lifecycle := .running } s)) := by
  have henter : (h.operator s).enterTick =
      (.ok (), { h.operator s with lifecycle := .running }) := by
    unfold Operator.enterTick
    rcases hlifecycle with hl | hl <;> rw [hl]
  unfold tick
  rw [henter]
  dsimp only
  rw [h.operator_setOperator, h.context_setOperator, h.context_setContext]
  unfold Operator.currentPlan
  dsimp only
  rw [hplan]

/-- Over a tick in which nothing is stopped, the rules that fire for the facts at its beginning are
taken in order, and the operations of each in the order of its descriptors. A rule ends with the
first failure of an operation that is waited for. If no critical rule ends so, the tick reports what
was done; otherwise the first one that does is the last rule, and its failure is the error. -/
theorem tick_runs {registry : Registry} {t : Template} {plan : Plan} {s : σ}
    (hcompiled : Plan.compile registry t = .ok plan) (hplan : (h.operator s).plan = some plan)
    (hlifecycle : (h.operator s).lifecycle = .loaded ∨ (h.operator s).lifecycle = .running)
    (hquiet : h.isStopped (h.tick s).2 = false) :
    ∃ runs : List RuleRun,
      h.logged.tick (s, []) = ((h.tick s).1, (h.tick s).2, runs.flatMap (·.calls)) ∧
      runs.map (·.rule) <+: Rule.select (h.context s).beginTick.facts.get? t.rules ∧
      (∀ run ∈ runs, ∃ operations, Plan.Compiles registry run.rule.operations operations ∧
        Call.Follows run.rule.id operations run.calls) ∧
      ((∀ run ∈ runs, ¬ run.EndsTick) →
        runs.map (·.rule) = Rule.select (h.context s).beginTick.facts.get? t.rules ∧
        (h.tick s).1 = .ok (RuleRun.report (h.context s).beginTick.tick runs)) ∧
      (∀ run ∈ runs, run.EndsTick → ∃ front f,
        runs = front ++ [run] ∧ (∀ r ∈ front, ¬ r.EndsTick) ∧ run.failure? = some f ∧
        (h.tick s).1 = .error (.criticalActionFailed run.rule.id f)) := by
  have htick := h.tick_eq hlifecycle hplan
  have hlogged := h.logged.tick_eq (s := (s, [])) hlifecycle hplan
  obtain ⟨result, s', runs, hrun, hlog, hruns⟩ :=
    h.run_logged plan (h.context s).beginTick.tick (h.context s).beginTick.facts.get?
      (h.setContext (h.context s).beginTick
        (h.setOperator { h.operator s with lifecycle := .running } s)) []
  rw [htick, hrun] at hquiet ⊢
  rw [hlogged]
  obtain rfl := Plan.template_compile hcompiled
  have hrules := hruns hquiet
  refine ⟨runs, hlog, hrules.inOrder, ?_, ?_, ?_⟩
  · intro run hmem
    have hrule : run.rule ∈ plan.template.rules :=
      (Rule.select_sublist _ _).subset (hrules.inOrder.subset (List.mem_map_of_mem hmem))
    exact ⟨plan.operationsOf run.rule, Plan.compiles_operationsOf hcompiled _ hrule,
      hrules.follows run hmem⟩
  · intro hnone
    obtain ⟨hall, hresult⟩ := hrules.ok hnone
    refine ⟨hall, hresult.trans ?_⟩
    simp [TickReport.addRuns, RuleRun.report]
  · intro run hmem hends
    exact hrules.error hmem hends

/-- It says so of a world in which a rule writes the fact that it asks for. -/
theorem tick_runs_mark :
    ∃ (plan : Plan) (w : World),
      (Plan.compile .builtin plan.template = .ok plan ∧ w.operator.plan = some plan ∧
        w.operator.lifecycle = .loaded ∧ World.host.isStopped (World.host.tick w).2 = false) ∧
      ∃ runs : List RuleRun,
        World.host.logged.tick (w, []) =
          ((World.host.tick w).1, (World.host.tick w).2, runs.flatMap (·.calls)) ∧
        runs.map (·.rule) <+: Rule.select w.context.beginTick.facts.get? plan.template.rules := by
  let mark : Descriptor :=
    { name := "set_fact", params := [("key", .str "seen"), ("value", .bool true)] }
  let t : Template :=
    { subDir := "main", name := "demo",
      rules := [{ id := "mark", condition := .not (.present "seen"), operations := [mark] }] }
  let plan : Plan := ⟨t, [("mark", [⟨mark, .setFact "seen" (.bool true)⟩])]⟩
  let w : World :=
    { operator := { store := default, registry := .builtin, subDir := "main", name := "demo",
                    lifecycle := .loaded, plan := some plan } }
  have hcompiled : Plan.compile .builtin t = .ok plan := by decide +kernel
  have hquiet : World.host.isStopped (World.host.tick w).2 = false := by decide +kernel
  obtain ⟨runs, hlogged, hrules, -⟩ := World.host.tick_runs hcompiled rfl (Or.inl rfl) hquiet
  exact ⟨plan, w, ⟨hcompiled, rfl, rfl, hquiet⟩, runs, hlogged, hrules⟩

end Host

end RuleEngine
