import RuleEngine.Proofs.Operation.Acceptance
import RuleEngine.Proofs.Operator.Plan
import RuleEngine.Proofs.Operator.TickWrites
import RuleEngine.Proofs.Rule.Selection

set_option autoImplicit false

/-! # Whose operations ticks execute

A tick begins only operations of its rules (`Tick.program_begins`), and notes a rule only for an operation
that has completed (`Tick.program_records`); both are said of its program, whatever that is answered. In a
row of ticks every dispatch comes from the program of some tick, and the dispatches of a tick that has
returned have ended, but for those that it did not wait for. So who may still write a fact is known from
the programs since some moment and from the dispatches that were open then (`WritersAmong`).
-/

namespace RuleEngine

/-! ## What a program begins -/

/-- Whatever the program is answered, it begins only such dispatches. -/
def TickProgram.Begins {α : Type} (P : TickWork → Prop) : TickProgram α → Prop
  | .ret _ => True
  | .look next => ∀ stopped, (next stopped).Begins P
  | .execute rule c next => P ⟨rule, c, false, .fresh⟩ ∧ ∀ result, (next result).Begins P
  | .dispatch rule c next => P ⟨rule, c, true, .fresh⟩ ∧ next.Begins P
  | .record _ next => next.Begins P
  | .emit _ next => next.Begins P

/-- It is an operation of one of these rules, and the tick waits for it unless it is asynchronous. -/
def TickWork.Belongs (plan : Plan) (rules : List Rule) (w : TickWork) : Prop :=
  ∃ r ∈ rules, w.rule = r.id ∧ w.operation ∈ plan.operationsOf r ∧
    w.detached = w.operation.isAsync

section Programs

variable {α : Type} {P : TickWork → Prop} {p m : TickProgram α}

theorem TickProgram.Begins.work {w : TickWork} (h : p.Begins P) (hw : p.work? = some w) : P w := by
  cases p with
  | execute | dispatch =>
      cases hw
      exact h.1
  | _ => cases hw

theorem ProgramStep.begins {a : TickAct} (h : ProgramStep p a m) (hp : p.Begins P) : m.Begins P := by
  cases h with
  | look stopped => exact hp stopped
  | execute d result => exact hp.2 result
  | dispatch => exact hp.2
  | record | emit => exact hp

namespace Tick

theorem operationsProgram_begins {rule : String} {next : RuleEnd → TickReport → TickProgram α}
    {cs : List Compiled} {report : TickReport} (hcs : ∀ c ∈ cs, P ⟨rule, c, c.isAsync, .fresh⟩)
    (hnext : ∀ ending later, (next ending later).Begins P) :
    (operationsProgram rule next cs report).Begins P := by
  induction cs generalizing report with
  | nil => exact hnext .done report
  | cons c cs ih =>
      obtain ⟨hc, hrest⟩ := List.forall_mem_cons.1 hcs
      unfold operationsProgram
      by_cases hasync : c.isAsync = true
      · rw [hasync] at hc
        rw [if_pos hasync]
        exact ⟨hc, ih hrest⟩
      · rw [Bool.eq_false_iff.2 hasync] at hc
        rw [if_neg hasync]
        refine ⟨hc, fun result => ?_⟩
        cases result with
        | ok _ => exact ih hrest
        | error f =>
            dsimp only
            split
            · intro stopped
              dsimp only
              split <;> exact hnext _ _
            · exact hnext _ _

theorem rulesProgram_begins {plan : Plan} {rs : List Rule} {report : TickReport}
    (h : ∀ r ∈ rs, ∀ c ∈ plan.operationsOf r, P ⟨r.id, c, c.isAsync, .fresh⟩) :
    (rulesProgram plan rs report).Begins P := by
  induction rs generalizing report with
  | nil => trivial
  | cons r rs ih =>
      obtain ⟨hr, hrest⟩ := List.forall_mem_cons.1 h
      unfold rulesProgram
      intro stopped
      dsimp only
      split
      · trivial
      · refine operationsProgram_begins hr fun ending later => ?_
        cases ending with
        | done => exact ih hrest
        | stopped => trivial
        | failed operation f =>
            show TickProgram.Begins P (ite _ _ _)
            split
            · trivial
            · exact ih hrest

/-- A tick begins only operations of the rules that were selected. -/
theorem program_begins {plan : Plan} {tick : Nat} {facts : FactSource}
    (h : ∀ w : TickWork, w.Belongs plan (Rule.select facts plan.template.rules) → P w) :
    (program plan tick facts).Begins P :=
  rulesProgram_begins fun r hr _ hc => h _ ⟨r, hr, rfl, hc, rfl⟩

end Tick

end Programs

/-! ## What a program records -/

/-- The rules of the operations that have completed, in order. -/
def TickAct.completedRules (acts : List TickAct) : List String :=
  ((answers acts).filter fun a => !a.hasFailed).map (·.rule)

@[simp] theorem TickAct.completedRules_append (front back : List TickAct) :
    completedRules (front ++ back) = completedRules front ++ completedRules back := by
  simp [completedRules, answers]

/-- Whatever the program is answered, the first thing that it does behind an operation that has completed
is to record the rule, and it records nothing else. The rule that is due has not been recorded yet. -/
def TickProgram.Records {α : Type} : Option String → TickProgram α → Prop
  | due, .ret _ => due = none
  | due, .look next => due = none ∧ ∀ stopped, (next stopped).Records none
  | due, .execute rule _ next =>
    due = none ∧ (next (.ok ())).Records (some rule) ∧ ∀ f, (next (.error f)).Records none
  | due, .dispatch _ _ next => due = none ∧ next.Records none
  | due, .record rule next => due = some rule ∧ next.Records none
  | due, .emit _ next => due = none ∧ next.Records none

section Records

variable {α : Type} {p m : TickProgram α} {acts : List TickAct}

theorem ProgramStep.records {a : TickAct} {due : Option String} (h : ProgramStep p a m)
    (hp : p.Records due) :
    ∃ later, m.Records later ∧
      TickAct.recorded [a] ++ later.toList = due.toList ++ TickAct.completedRules [a] := by
  cases h with
  | look stopped =>
      obtain ⟨rfl, hnext⟩ := hp
      exact ⟨none, hnext stopped, rfl⟩
  | @execute rule c next d result =>
      obtain ⟨rfl, hdone, hfailed⟩ := hp
      cases result with
      | ok _ => exact ⟨some rule, hdone, rfl⟩
      | error f => exact ⟨none, hfailed f, rfl⟩
  | dispatch | emit =>
      obtain ⟨rfl, hnext⟩ := hp
      exact ⟨none, hnext, rfl⟩
  | record =>
      obtain ⟨rfl, hnext⟩ := hp
      exact ⟨none, hnext, rfl⟩

/-- What was recorded is what has completed, but for the rule that is due. -/
theorem TickProgram.Records.run (hp : p.Records none) (h : Run ProgramStep p acts m) :
    ∃ due, m.Records due ∧
      TickAct.recorded acts ++ due.toList = TickAct.completedRules acts := by
  induction h with
  | nil => exact ⟨none, hp, rfl⟩
  | @snoc acts _ _ a _ hstep ih =>
      obtain ⟨due, hdue, hsame⟩ := ih
      obtain ⟨later, hlater, hnext⟩ := hstep.records hdue
      refine ⟨later, hlater, ?_⟩
      rw [TickAct.recorded_append, TickAct.completedRules_append, List.append_assoc, hnext,
        ← List.append_assoc, hsame]

namespace Tick

theorem operationsProgram_records {rule : String} {next : RuleEnd → TickReport → TickProgram α}
    {cs : List Compiled} {report : TickReport}
    (hnext : ∀ ending later, (next ending later).Records none) :
    (operationsProgram rule next cs report).Records none := by
  induction cs generalizing report with
  | nil => exact hnext .done report
  | cons c cs ih =>
      unfold operationsProgram
      split
      · exact ⟨rfl, ih⟩
      · refine ⟨rfl, ⟨rfl, ih⟩, fun f => ?_⟩
        dsimp only
        split
        · refine ⟨rfl, fun stopped => ?_⟩
          dsimp only
          split <;> exact hnext _ _
        · exact hnext _ _

theorem rulesProgram_records (plan : Plan) (rs : List Rule) (report : TickReport) :
    (rulesProgram plan rs report).Records none := by
  induction rs generalizing report with
  | nil => exact ⟨rfl, rfl⟩
  | cons r rs ih =>
      unfold rulesProgram
      refine ⟨rfl, fun stopped => ?_⟩
      dsimp only
      split
      · exact ⟨rfl, rfl⟩
      · refine operationsProgram_records fun ending later => ?_
        cases ending with
        | done => exact ih later
        | stopped => exact ⟨rfl, rfl⟩
        | failed operation f =>
            refine ⟨rfl, ?_⟩
            split
            · exact ⟨rfl, rfl⟩
            · exact ih _

/-- A tick that has come to its end has recorded the rules of the operations that have completed. -/
theorem program_records {plan : Plan} {tick : Nat} {facts : FactSource}
    {result : Except EngineError TickReport} (h : (program plan tick facts).Ends acts result) :
    TickAct.recorded acts = TickAct.completedRules acts := by
  obtain ⟨due, rfl, hsame⟩ := TickProgram.Records.run (rulesProgram_records _ _ _) h
  exact (List.append_nil _).symm.trans hsame

end Tick

end Records

/-! ## The plan -/

theorem OperatorStep.plan_cases {s t : OperatorThreads} {e : OperatorEvent} (h : OperatorStep s e t) :
    t.operator.plan = s.operator.plan ∨ t.operator.plan = none := by
  cases h with
  | release => exact .inr rfl
  | stop =>
      refine .inl ?_
      cases hopen : s.operator.isStopped with
      | true => rw [Operator.markStopped_eq_none _ hopen]
      | false => rw [Operator.markStopped_eq_some _ hopen]
  | _ => exact .inl rfl

section Rows

variable {o : Operator} {context : Context} {before es : List RowEvent} {e : RowEvent}
  {s t : TickRow} {d : Nat} {w : TickWork} {P : TickWork → Prop}

/-- The plan of a row is there from the beginning. -/
theorem rowPlan {plan : Plan} (h : Run RowStep s es t) (hplan : t.operator.plan = some plan) :
    s.operator.plan = some plan := by
  induction h with
  | nil => exact hplan
  | snoc _ hstep ih =>
      refine ih ?_
      unfold TickRow.operator at hplan ⊢
      rcases hstep.threads with hsame | ⟨_, hop⟩ | ⟨-, hrenewed⟩
      · rwa [hsame] at hplan
      · rcases hop.plan_cases with hsame | hnone
        · rwa [hsame] at hplan
        · rw [hnone] at hplan
          cases hplan
      · rwa [hrenewed] at hplan

theorem Operator.plan_of_currentPlan {plan : Plan} (h : o.currentPlan = .ok plan) :
    o.plan = some plan := by
  unfold currentPlan at h
  split at h
  · cases h
    assumption
  · cases h

theorem RowStep.begins (h : RowStep s e t) (hs : s.ticks.program.Begins P)
    (hplan : ∀ plan, e = .takePlan (.ok plan) → s.operator.plan = some plan →
      (s.ticks.next plan).program.Begins P) : t.ticks.program.Begins P := by
  cases h with
  | tick _ htick =>
      rcases htick.program_cases with ⟨-, hsame⟩ | ⟨a, -, hact⟩
      · dsimp only
        rw [hsame]
        exact hs
      · exact hact.begins hs
  | takePlan _ hcurrent => exact hplan _ rfl (Operator.plan_of_currentPlan hcurrent)
  | _ => exact hs

/-! ## Dispatches -/

/-- Nothing happens any more to a dispatch that has ended. -/
theorem RowStep.ended (h : RowStep s e t) (htable : TableFits s.ticks.threads)
    (hwork : s.ticks.work d ≠ none) (hd : s.ticks.threads.stage d = .ended) :
    t.ticks.work d = s.ticks.work d ∧ t.ticks.threads.stage d = .ended := by
  cases h with
  | tick _ htick => exact htick.ended htable hwork hd
  | leave _ _ _ hop => exact ⟨rfl, hop.ended htable hd⟩
  | _ => exact ⟨rfl, hd⟩

/-- A dispatch that the tick is at is one that its program begins. -/
theorem TickThreads.AtWork.begins {s : TickThreads} (h : s.AtWork) (hprogram : s.program.Begins P)
    (hcurrent : s.current = some d) (hwork : s.work d = some w) : P { w with stage := .fresh } := by
  obtain ⟨v, hv, hnext⟩ := h d hcurrent
  obtain rfl : w = v := Option.some.inj (hwork.symm.trans hv)
  exact hprogram.work hnext

/-- Every dispatch that has not ended and may write a fact is such a one. -/
def WritersAmong (P : TickWork → Prop) (s : TickRow) : Prop :=
  ∀ d w, s.ticks.work d = some w → w.operation.effect.factKey? ≠ none →
    s.ticks.threads.stage d ≠ .ended → P { w with stage := .fresh }

theorem WritersAmong.step (h : WritersAmong P s) (htable : TableFits s.ticks.threads)
    (hat : t.ticks.AtWork) (hprogram : t.ticks.program.Begins P) (hstep : RowStep s e t) :
    WritersAmong P t := by
  intro d w hw hkey hopen
  rcases hstep.work_cases hw with ⟨stage, hwork⟩ | ⟨hcurrent, -⟩
  · refine h d { w with stage := stage } hwork hkey fun hended => hopen ?_
    exact (hstep.ended htable (by rw [hwork]; nofun) hended).2
  · exact hat.begins hprogram hcurrent hw

theorem rowWork_ne_none (h : Run RowStep s es t) (hd : s.ticks.work d ≠ none) :
    t.ticks.work d ≠ none := by
  induction h with
  | nil => exact hd
  | snoc _ hstep ih => exact hstep.work_ne_none ih

theorem TickWork.Belongs.mono {plan : Plan} {rules rules' : List Rule} (h : w.Belongs plan rules)
    (hrules : rules ⊆ rules') : w.Belongs plan rules' := by
  obtain ⟨r, hr, hrest⟩ := h
  exact ⟨r, hrules hr, hrest⟩

/-- All that ticks execute belongs to the plan that the row began with. -/
theorem rowBelongs (h : Run RowStep (.begin o context) es s) (hw : s.ticks.work d = some w) :
    ∃ plan, o.plan = some plan ∧ w.Belongs plan plan.template.rules := by
  -- what the program has yet to begin must belong to the plan as well
  suffices hall : s.ticks.program.Begins
      (fun w => ∃ plan, o.plan = some plan ∧ w.Belongs plan plan.template.rules) ∧
      ∀ d w, s.ticks.work d = some w →
        ∃ plan, o.plan = some plan ∧ w.Belongs plan plan.template.rules from hall.2 d w hw
  clear hw
  induction h with
  | nil => exact ⟨trivial, nofun⟩
  | @snoc es m t e hrun hstep ih =>
      obtain ⟨hprogram, hworks⟩ := ih
      have hnext := hstep.begins hprogram fun plan _ hplan =>
        Tick.program_begins fun w hw =>
          ⟨plan, rowPlan hrun hplan, hw.mono (Rule.select_sublist _ _).subset⟩
      refine ⟨hnext, fun d w hw => ?_⟩
      rcases hstep.work_cases hw with ⟨stage, hwork⟩ | ⟨hcurrent, -⟩
      · exact hworks d { w with stage := stage } hwork
      · exact (rowAtWork (hrun.snoc hstep)).begins hnext hcurrent hw

/-! ## Rows behind rows -/

variable (ho : o.inFlight = []) (hsignalled : o.signalled = [])
  (hbefore : Run RowStep (.begin o context) before s)

include ho hsignalled hbefore

/-- A dispatch that has ended stays as it is. -/
theorem rowEnded (h : Run RowStep s es t) (hwork : s.ticks.work d ≠ none)
    (hd : s.ticks.threads.stage d = .ended) :
    t.ticks.work d = s.ticks.work d ∧ t.ticks.threads.stage d = .ended := by
  induction h with
  | nil => exact ⟨rfl, hd⟩
  | snoc hrun hstep ih =>
      obtain ⟨hsame, hended⟩ := ih
      have htable := rowTableFits ho hsignalled (hbefore.append hrun)
      obtain ⟨hsame', hended'⟩ := hstep.ended htable (hsame ▸ hwork) hended
      exact ⟨hsame'.trans hsame, hended'⟩

/-- A dispatch is new, or it was known before, perhaps at another stage. -/
theorem rowKnown (h : Run RowStep s es t) (hw : t.ticks.work d = some w) :
    s.ticks.work d = none ∨ ∃ stage, s.ticks.work d = some { w with stage := stage } := by
  induction h generalizing w with
  | nil => exact .inr ⟨w.stage, hw⟩
  | @snoc es m t e hrun hstep ih =>
      rcases hstep.work_cases hw with ⟨stage, hwork⟩ | ⟨-, u, hop⟩
      · exact ih (w := { w with stage := stage }) hwork
      -- what is taken has no work
      · refine .inl ?_
        by_contra hne
        exact rowWork_ne_none hrun hne (rowNew ho hsignalled (hbefore.append hrun) hop)

omit hbefore in
/-- A dispatch that a tick has waited for has ended, or the tick is at it. -/
theorem rowWaited (h : Run RowStep (.begin o context) es s) (hw : s.ticks.work d = some w)
    (hwaited : w.detached = false) :
    s.ticks.threads.stage d = .ended ∨ s.ticks.current = some d := by
  induction h generalizing w with
  | nil => cases hw
  | @snoc es m t e hrun hstep ih =>
      rcases hstep.work_cases hw with ⟨stage, hwork⟩ | ⟨hcurrent, -⟩
      · rcases ih hwork hwaited with hended | hcurrent
        · have htable := rowTableFits ho hsignalled hrun
          exact .inl (hstep.ended htable (by rw [hwork]; nofun) hended).2
        · have hdetached : ∀ {v : TickWork}, m.ticks.program.work? = some v → v.detached = false :=
            fun hnext => ((rowAtWork hrun).detached hcurrent hwork hnext).symm.trans hwaited
          cases hstep with
          | tick _ htick =>
              cases htick with
              | take hnone =>
                  rw [hnone] at hcurrent
                  cases hcurrent
              | answer _ hat _ _ hop =>
                  obtain rfl := Option.some.inj (hcurrent.symm.trans hat)
                  exact .inl hop.leave_stages.2
              | spawn hprogram | abandon _ hprogram =>
                  cases hdetached (congrArg TickProgram.work? hprogram)
              | _ => exact .inr hcurrent
          | _ => exact .inr hcurrent
      · exact .inr hcurrent

omit hbefore in
/-- Between ticks all dispatches have ended that ticks have waited for. -/
theorem rowLeft (h : Run RowStep (.begin o context) es s) (hfree : s.stage ≠ .ticking)
    (hw : s.ticks.work d = some w) (hwaited : w.detached = false) :
    s.ticks.threads.stage d = .ended := by
  obtain ⟨_, hprogram⟩ := rowProgram h hfree
  refine (rowWaited ho hsignalled h hw hwaited).resolve_right fun hcurrent => ?_
  rw [rowCurrent h hprogram] at hcurrent
  cases hcurrent

/-- A dispatch that has not ended is new, if it had ended before wherever it was known. -/
theorem rowSince (h : Run RowStep s es t) (hw : t.ticks.work d = some w)
    (hopen : t.ticks.threads.stage d ≠ .ended)
    (hended : ∀ stage, s.ticks.work d = some { w with stage := stage } →
      s.ticks.threads.stage d = .ended) : s.ticks.work d = none := by
  rcases rowKnown ho hsignalled hbefore h hw with hnew | ⟨stage, hold⟩
  · exact hnew
  · have hlater := rowEnded ho hsignalled hbefore h (by rw [hold]; nofun) (hended stage hold)
    exact absurd hlater.2 hopen

/-- While no tick begins, only operations are executed that may be: those that were open before, and those
that the program begins. -/
theorem rowWriters (h : Run RowStep s es t) (hprogram : s.ticks.program.Begins P)
    (hwriters : WritersAmong P s) (hes : ∀ plan, .takePlan (.ok plan) ∉ es) :
    t.ticks.program.Begins P ∧ WritersAmong P t ∧
      ∀ x ∈ factWrites es, ∃ w, P w ∧ w.operation = x.operation := by
  induction h with
  | nil => exact ⟨hprogram, hwriters, List.forall_mem_nil _⟩
  | @snoc es m t e hrun hstep ih =>
      obtain ⟨hbegins, hamong, hold⟩ := ih fun plan hmem => hes plan (List.mem_append_left _ hmem)
      have hall := hbefore.append hrun
      have hnext : t.ticks.program.Begins P := hstep.begins hbegins fun plan he =>
        absurd (List.mem_append_right _ (List.mem_singleton.2 he.symm)) (hes plan)
      refine ⟨hnext, ?_, fun ⟨d, c, fact⟩ hx => ?_⟩
      · exact hamong.step (rowTableFits ho hsignalled hall) (rowAtWork (hall.snoc hstep)) hnext hstep
      · obtain ⟨event, hmem, hfact⟩ := mem_factWrites.1 hx
        rcases List.mem_append.1 hmem with hmem | hlast
        · exact hold _ (mem_factWrites.2 ⟨event, hmem, hfact⟩)
        · cases List.mem_singleton.1 hlast
          cases hstep with
          | tick _ htick =>
              cases htick with
              | exec hstage hwork hexec =>
                  -- what writes may do so, and has not ended
                  have hkey := (hexec.writes (rowFate ho hsignalled hall hwork) hfact).factKey?
                  have hopen : m.ticks.threads.stage d ≠ .ended := by
                    rw [hstage]
                    decide
                  exact ⟨_, hamong _ _ hwork (by rw [hkey]; nofun) hopen, rfl⟩

end Rows

end RuleEngine
