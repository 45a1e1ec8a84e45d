import RuleEngine.Operator.Tick

set_option autoImplicit false

/-! # Ticks as programs

`Tick.run` goes through its rules in one go. Seen from other threads a tick is a row of steps, and
anything may happen between them. `Tick.program` is the tree of these steps: every step leads to what
the tick does with the answer. Run alone, it does what `Tick.run` does (`Tick.run_program`).

What a tick makes of the answers, whatever they are, is said by a postcondition on the tree
(`TickProgram.Keeps`). The answers are bound only by what holds at every operator: a stop is for
good, and only an operator that is stopped has operations that answer a stop. Under such answers a
tick fires the rules that were selected in their order, and takes no answer to a stop for a failure
(`Tick.program_keeps`).
-/

namespace RuleEngine

/-- Steps on the way to a result of type `α`. -/
inductive TickProgram (α : Type)
  | ret (a : α)
  /-- Look whether the operator was stopped. -/
  | look (next : Bool → TickProgram α)
  /-- Execute an operation of a rule and wait for it. -/
  | execute (rule : String) (c : Compiled) (next : Except ActionFailure Unit → TickProgram α)
  /-- Execute an operation of a rule without waiting for it. -/
  | dispatch (rule : String) (c : Compiled) (next : TickProgram α)
  | record (rule : String) (next : TickProgram α)
  | emit (n : Notice) (next : TickProgram α)

/-- What an operation that a tick has waited for has answered. -/
structure Answer where
  dispatch : Nat
  rule : String
  operation : Compiled
  result : Except ActionFailure Unit

namespace TickProgram

variable {α σ : Type}

def run (env : TickEnv σ) : TickProgram α → σ → α × σ
  | .ret a, s => (a, s)
  | .look next, s => (next (env.isStopped s)).run env s
  | .execute rule c next, s =>
    (next (env.execute rule c s).1).run env (env.execute rule c s).2
  | .dispatch rule c next, s => next.run env (env.dispatch rule c s)
  | .record rule next, s => next.run env (env.record rule s)
  | .emit n next, s => next.run env (env.emit n s)

@[simp] theorem run_look (env : TickEnv σ) (next : Bool → TickProgram α) (s : σ) :
    (look next).run env s = (next (env.isStopped s)).run env s := rfl

@[simp] theorem run_execute (env : TickEnv σ) (rule : String) (c : Compiled)
    (next : Except ActionFailure Unit → TickProgram α) (s : σ) :
    (execute rule c next).run env s =
      (next (env.execute rule c s).1).run env (env.execute rule c s).2 := rfl

@[simp] theorem run_emit (env : TickEnv σ) (n : Notice) (next : TickProgram α) (s : σ) :
    (emit n next).run env s = next.run env (env.emit n s) := rfl

/-- Whatever a program is answered, it ends with `post` and emits only what `note` allows. Both may
depend on the answers so far. The flag says that the operator is known to be stopped. -/
def Keeps (post : List Answer → α → Prop) (note : List Answer → Notice → Prop) :
    Bool → List Answer → TickProgram α → Prop
  | _, as, .ret a => post as a
  | stopped, as, .look next =>
    ∀ seen, (stopped = true → seen = true) → Keeps post note seen as (next seen)
  | stopped, as, .execute rule c next =>
    ∀ d result later, (stopped = true → later = true) →
      (∀ f, result = .error f → f.isStopped = true → later = true) →
      Keeps post note later (as ++ [⟨d, rule, c, result⟩]) (next result)
  | stopped, as, .dispatch _ _ next => Keeps post note stopped as next
  | stopped, as, .record _ next => Keeps post note stopped as next
  | stopped, as, .emit n next => note as n ∧ Keeps post note stopped as next

variable {post : List Answer → α → Prop} {note : List Answer → Notice → Prop}

/-- A stop may come at any time. -/
theorem Keeps.stop {stopped later : Bool} {as : List Answer} {p : TickProgram α}
    (h : p.Keeps post note stopped as) (hlater : stopped = true → later = true) :
    p.Keeps post note later as := by
  induction p with
  | ret a => exact h
  | look next _ => exact fun seen hseen => h seen fun hstopped => hseen (hlater hstopped)
  | execute rule c next _ =>
      exact fun d result seen hseen hanswer =>
        h d result seen (fun hstopped => hseen (hlater hstopped)) hanswer
  | dispatch rule c next ih => exact ih h
  | record rule next ih => exact ih h
  | emit n next ih => exact ⟨h.1, ih h.2⟩

end TickProgram

namespace Tick

variable {α σ : Type}

/-! ## The program of a tick -/

/-- Execute operations of a rule until one of them fails, and go on with how the rule ends. -/
def operationsProgram (rule : String) (next : RuleEnd → TickReport → TickProgram α) :
    List Compiled → TickReport → TickProgram α
  | [], report => next .done report
  | c :: cs, report =>
    if c.isAsync then
      .dispatch rule c (operationsProgram rule next cs
        { report with asyncDispatched := report.asyncDispatched + 1 })
    else
      .execute rule c fun
        | .ok _ =>
          .record rule (operationsProgram rule next cs
            { report with actions := report.actions + 1 })
        | .error f =>
          if f.isStopped then
            .look fun stopped =>
              if stopped then next .stopped report else next (.failed c.name f) report
          else next (.failed c.name f) report

def completion (report : TickReport) : TickProgram (Except EngineError TickReport) :=
  .emit (completedNotice report) (.ret (.ok report))

/-- Run rules until a stop is noticed or a critical one fails. -/
def rulesProgram (plan : Plan) :
    List Rule → TickReport → TickProgram (Except EngineError TickReport)
  | [], report => completion report
  | r :: rs, report =>
    .look fun stopped =>
      if stopped then completion report
      else
        operationsProgram r.id
          (fun
            | .done, report => rulesProgram plan rs report
            | .stopped, report => completion report
            | .failed operation f, report =>
              .emit (failureNotice report.tick r operation f)
                (if r.critical then
                  .emit (criticalNotice report.tick r f)
                    (.ret (.error (.criticalActionFailed r.id f)))
                else
                  rulesProgram plan rs { report with failures := report.failures ++ [⟨r.id, f⟩] }))
          (plan.operationsOf r) { report with fired := report.fired ++ [r.id] }

/-- The program of a tick with a number on the facts at its beginning. -/
def program (plan : Plan) (tick : Nat) (facts : FactSource) :
    TickProgram (Except EngineError TickReport) :=
  rulesProgram plan (Rule.select facts plan.template.rules) { tick }

/-! ## Running it alone -/

theorem run_operationsProgram (env : TickEnv σ) (rule : String)
    (next : RuleEnd → TickReport → TickProgram α) (cs : List Compiled) (report : TickReport)
    (s : σ) :
    (operationsProgram rule next cs report).run env s =
      match runOperations env rule cs report s with
      | (ending, report, s) => (next ending report).run env s := by
  induction cs generalizing report s with
  | nil => rfl
  | cons c cs ih =>
      unfold operationsProgram runOperations
      by_cases hasync : c.isAsync = true
      · rw [if_pos hasync, if_pos hasync]
        exact ih _ _
      · rw [if_neg hasync, if_neg hasync, TickProgram.run_execute]
        obtain ⟨result, t, hresult⟩ : ∃ result t, env.execute rule c s = (result, t) := ⟨_, _, rfl⟩
        rw [hresult]
        cases result with
        | ok _ => exact ih _ _
        | error f =>
            dsimp only
            by_cases hstop : f.isStopped = true
            · rw [if_pos hstop, TickProgram.run_look]
              by_cases hseen : env.isStopped t = true
              · rw [if_pos hseen, if_pos (by simp [hstop, hseen])]
              · rw [if_neg hseen, if_neg (by simp [hseen])]
            · rw [if_neg hstop, if_neg (by simp [hstop])]

theorem run_rulesProgram (env : TickEnv σ) (plan : Plan) (rs : List Rule) (report : TickReport)
    (s : σ) :
    (rulesProgram plan rs report).run env s =
      match runRules env plan rs report s with
      | (.ok report, s) => (.ok report, env.emit (completedNotice report) s)
      | (.error e, s) => (.error e, s) := by
  induction rs generalizing report s with
  | nil => rfl
  | cons r rs ih =>
      unfold rulesProgram runRules
      rw [TickProgram.run_look]
      by_cases hstopped : env.isStopped s = true
      · rw [if_pos hstopped, if_pos hstopped]
        rfl
      · rw [if_neg hstopped, if_neg hstopped, run_operationsProgram]
        dsimp only
        obtain ⟨ending, report', t, hrun⟩ : ∃ ending report' t,
            runOperations env r.id (plan.operationsOf r)
              { report with fired := report.fired ++ [r.id] } s = (ending, report', t) :=
          ⟨_, _, _, rfl⟩
        rw [hrun]
        cases ending with
        | done => exact ih report' t
        | stopped => rfl
        | failed operation f =>
            dsimp only
            rw [TickProgram.run_emit]
            by_cases hcritical : r.critical = true
            · rw [if_pos hcritical, if_pos hcritical]
              rfl
            · rw [if_neg hcritical, if_neg hcritical]
              exact ih _ _

/-- **A tick that nobody interrupts does what its program does.** -/
theorem run_program (env : TickEnv σ) (plan : Plan) (tick : Nat) (facts : FactSource) (s : σ) :
    (program plan tick facts).run env s = run env plan tick facts s :=
  run_rulesProgram env plan _ _ s

end Tick

/-! ## What a tick makes of the answers -/

/-- The operation of a rule has failed, and not because of a stop. -/
structure Answer.Fails (a : Answer) (plan : Plan) (r : Rule) (f : ActionFailure) : Prop where
  rule : a.rule = r.id
  operation : a.operation ∈ plan.operationsOf r
  result : a.result = .error f
  genuine : f.isStopped = false

/-- The report fits the rules of the tick and the answers so far. -/
structure TickReport.Fits (report : TickReport) (plan : Plan) (rules : List Rule)
    (as : List Answer) : Prop where
  fired : report.fired <+: rules.map (·.id)
  failures : ∀ x ∈ report.failures, ∃ r ∈ rules, ∃ a ∈ as, x.rule = r.id ∧ a.Fails plan r x.failure

/-- How a tick may end. If it fails, the last operation that it has waited for has failed, for a
critical rule. -/
def Tick.EndsWell (plan : Plan) (rules : List Rule) (as : List Answer) :
    Except EngineError TickReport → Prop
  | .ok report => report.Fits plan rules as
  | .error e => ∃ r ∈ rules, ∃ a f, as.getLast? = some a ∧ a.Fails plan r f ∧ r.critical = true ∧
      e = .criticalActionFailed r.id f

/-- If a tick reports a failure, it is that of an operation that it has waited for. -/
def Tick.MayReport (plan : Plan) (rules : List Rule) (as : List Answer) (n : Notice) : Prop :=
  n.1 = .actionFailed → ∃ tick, ∃ r ∈ rules, ∃ a ∈ as, ∃ f, a.Fails plan r f ∧
    n = Tick.failureNotice tick r a.operation.name f

theorem TickReport.Fits.mono {report : TickReport} {plan : Plan} {rules : List Rule}
    {as bs : List Answer} (h : report.Fits plan rules as) (hgrown : as <+: bs) :
    report.Fits plan rules bs := by
  refine ⟨h.fired, fun x hx => ?_⟩
  obtain ⟨r, hr, a, ha, hrule, hfails⟩ := h.failures x hx
  exact ⟨r, hr, a, hgrown.subset ha, hrule, hfails⟩

namespace Tick

variable {α : Type} {post : List Answer → α → Prop} {note : List Answer → Notice → Prop}

/-- The operations of a rule change nothing of a report but how many there were. -/
structure SameRules (report later : TickReport) : Prop where
  fired : later.fired = report.fired
  failures : later.failures = report.failures

/-- The last answer is what has ended a rule. -/
def EndedBy (rule : String) (cs : List Compiled) (as : List Answer) : RuleEnd → Prop
  | .done | .stopped => True
  | .failed operation f => ∃ a, as.getLast? = some a ∧ a.rule = rule ∧ a.operation ∈ cs ∧
      a.operation.name = operation ∧ a.result = .error f ∧ f.isStopped = false

/-- The operations of a rule keep a postcondition if whatever comes next does. -/
theorem operationsProgram_keeps {rule : String} {next : RuleEnd → TickReport → TickProgram α}
    {cs : List Compiled} {report : TickReport} {stopped : Bool} {as : List Answer}
    (hnext : ∀ ending report' later bs, as <+: bs → SameRules report report' →
      EndedBy rule cs bs ending → (next ending report').Keeps post note later bs) :
    (operationsProgram rule next cs report).Keeps post note stopped as := by
  induction cs generalizing report stopped as with
  | nil => exact hnext .done report stopped as List.prefix_rfl ⟨rfl, rfl⟩ trivial
  | cons c cs ih =>
      -- what has ended the rest of the rule has ended the rule
      have hended : ∀ {bs ending}, EndedBy rule cs bs ending → EndedBy rule (c :: cs) bs ending := by
        intro bs ending h
        cases ending with
        | done => trivial
        | stopped => trivial
        | failed operation f =>
            obtain ⟨a, hlast, hrule, hmem, hrest⟩ := h
            exact ⟨a, hlast, hrule, List.mem_cons_of_mem c hmem, hrest⟩
      unfold operationsProgram
      by_cases hasync : c.isAsync = true
      · rw [if_pos hasync]
        refine ih fun ending report' later bs hbs hsame h => ?_
        exact hnext ending report' later bs hbs ⟨hsame.fired, hsame.failures⟩ (hended h)
      · rw [if_neg hasync]
        intro d result later _ hanswer
        have hgrown : as <+: as ++ [⟨d, rule, c, result⟩] := List.prefix_append _ _
        cases result with
        | ok _ =>
            refine ih fun ending report' later bs hbs hsame h => ?_
            exact hnext ending report' later bs (hgrown.trans hbs) ⟨hsame.fired, hsame.failures⟩
              (hended h)
        | error f =>
            dsimp only
            by_cases hstop : f.isStopped = true
            · -- the answer to a stop: the tick sees the stop when it looks
              rw [if_pos hstop]
              intro seen hseen
              have hlooked : seen = true := hseen (hanswer f rfl hstop)
              dsimp only
              rw [if_pos hlooked]
              exact hnext .stopped report seen _ hgrown ⟨rfl, rfl⟩ trivial
            · rw [if_neg hstop]
              refine hnext _ report later _ hgrown ⟨rfl, rfl⟩ ?_
              exact ⟨_, List.getLast?_concat, rfl, List.mem_cons_self, rfl, rfl,
                Bool.eq_false_iff.2 hstop⟩

theorem completion_keeps {plan : Plan} {rules : List Rule} {report : TickReport} {stopped : Bool}
    {as : List Answer} (h : report.Fits plan rules as) :
    (completion report).Keeps (EndsWell plan rules) (MayReport plan rules) stopped as :=
  ⟨fun hfailed => absurd hfailed (by simp [completedNotice]), h⟩

theorem rulesProgram_keeps {plan : Plan} {rules rest : List Rule} {report : TickReport}
    {stopped : Bool} {as : List Answer} (hrest : rules.map (·.id) = report.fired ++ rest.map (·.id))
    (hmem : ∀ r ∈ rest, r ∈ rules) (h : report.Fits plan rules as) :
    (rulesProgram plan rest report).Keeps (EndsWell plan rules) (MayReport plan rules) stopped
      as := by
  induction rest generalizing report stopped as with
  | nil => exact completion_keeps h
  | cons r rest ih =>
      unfold rulesProgram
      intro seen _
      dsimp only
      by_cases hseen : seen = true
      · rw [if_pos hseen]
        exact completion_keeps h
      · rw [if_neg hseen]
        have hr : r ∈ rules := hmem r List.mem_cons_self
        refine operationsProgram_keeps fun ending report' later bs hbs hsame hended => ?_
        have hfired : rules.map (·.id) = report'.fired ++ rest.map (·.id) := by
          rw [hrest, hsame.fired, List.map_cons, List.append_assoc]
          rfl
        have hfits : report'.Fits plan rules bs := by
          refine ⟨⟨rest.map (·.id), hfired.symm⟩, ?_⟩
          rw [hsame.failures]
          exact (h.mono hbs).failures
        have hlater : ∀ r ∈ rest, r ∈ rules := fun r hr => hmem r (List.mem_cons_of_mem _ hr)
        cases ending with
        | done => exact ih hfired hlater hfits
        | stopped => exact completion_keeps hfits
        | failed operation f =>
            obtain ⟨a, hlast, hrule, hop, hname, hresult, hgenuine⟩ := hended
            have ha : a ∈ bs := List.mem_of_getLast? hlast
            have hfails : a.Fails plan r f := ⟨hrule, hop, hresult, hgenuine⟩
            dsimp only
            refine ⟨fun _ => ⟨report'.tick, r, hr, a, ha, f, hfails, by rw [hname]⟩, ?_⟩
            by_cases hcritical : r.critical = true
            · rw [if_pos hcritical]
              refine ⟨fun hfailed => absurd hfailed (by simp [criticalNotice]), ?_⟩
              exact ⟨r, hr, a, f, hlast, hfails, hcritical, rfl⟩
            · rw [if_neg hcritical]
              refine ih hfired hlater ⟨⟨rest.map (·.id), hfired.symm⟩, fun x hx => ?_⟩
              rcases List.mem_append.1 hx with hx | hx
              · exact hfits.failures x hx
              · obtain rfl := List.mem_singleton.1 hx
                exact ⟨r, hr, a, ha, rfl, hfails⟩

/-- **A tick fires the selected rules in their order, and takes no answer to a stop for a failure**,
whatever else it is answered. -/
theorem program_keeps (plan : Plan) (tick : Nat) (facts : FactSource) (stopped : Bool) :
    (program plan tick facts).Keeps (EndsWell plan (Rule.select facts plan.template.rules))
      (MayReport plan (Rule.select facts plan.template.rules)) stopped [] := by
  refine rulesProgram_keeps rfl (fun _ hr => hr) ⟨List.nil_prefix, ?_⟩
  exact fun x hx => absurd hx List.not_mem_nil

end Tick

end RuleEngine
