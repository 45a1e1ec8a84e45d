import Mathlib.Data.List.Forall2
import RuleEngine.Proofs.Interleaving
import RuleEngine.Proofs.Operator.Program

set_option autoImplicit false

/-! # What a tick reports and what it returns

The history of a tick is the row of what it does and what it is answered. Its notices and its result
are put together at different places, and still tell the same (`Tick.Accounts`): for every rule that
an operation has ended there is one notice about a failed action and one entry of the report, in the
same order, and the notice at the end shows the report as it is returned. That holds whatever the tick
is answered, and whenever it is told that the operator was stopped.
-/

namespace RuleEngine

/-- What a tick does, or is answered. -/
inductive TickAct
  | look (stopped : Bool)
  | answer (a : Answer)
  /-- An operation is executed that the tick does not wait for. -/
  | dispatch
  | record (rule : String)
  | emit (n : Notice)

/-- How a program goes on. -/
inductive ProgramStep {α : Type} : TickProgram α → TickAct → TickProgram α → Prop
  | look {next : Bool → TickProgram α} (stopped : Bool) :
      ProgramStep (.look next) (.look stopped) (next stopped)
  | execute {rule : String} {c : Compiled} {next : Except ActionFailure Unit → TickProgram α}
      (d : Nat) (result : Except ActionFailure Unit) :
      ProgramStep (.execute rule c next) (.answer ⟨d, rule, c, result⟩) (next result)
  | dispatch {rule : String} {c : Compiled} {next : TickProgram α} :
      ProgramStep (.dispatch rule c next) .dispatch next
  | record {rule : String} {next : TickProgram α} :
      ProgramStep (.record rule next) (.record rule) next
  | emit {n : Notice} {next : TickProgram α} : ProgramStep (.emit n next) (.emit n) next

/-! ## What a history tells -/

def Answer.hasFailed (a : Answer) : Bool :=
  match a.result with
  | .ok _ => false
  | .error _ => true

namespace TickAct

/-- What was reported, in order. -/
def notices (acts : List TickAct) : List Notice :=
  acts.filterMap fun
    | .emit n => some n
    | _ => none

def answers (acts : List TickAct) : List Answer :=
  acts.filterMap fun
    | .answer a => some a
    | _ => none

def failed (acts : List TickAct) : List Answer := (answers acts).filter (·.hasFailed)

/-- How many operations the tick has waited for that have completed. -/
def completed (acts : List TickAct) : Nat := (answers acts).countP (!·.hasFailed)

/-- How many operations are executed that the tick does not wait for. -/
def dispatched (acts : List TickAct) : Nat :=
  acts.countP fun
    | .dispatch => true
    | _ => false

variable (front back : List TickAct)

@[simp] theorem notices_append : notices (front ++ back) = notices front ++ notices back :=
  List.filterMap_append

@[simp] theorem failed_append : failed (front ++ back) = failed front ++ failed back := by
  simp [failed, answers]

@[simp] theorem completed_append : completed (front ++ back) = completed front + completed back := by
  simp [completed, answers]

@[simp] theorem dispatched_append :
    dispatched (front ++ back) = dispatched front + dispatched back :=
  List.countP_append

end TickAct

/-! ## Programs that have come to their end -/

namespace TickProgram

variable {α : Type} {p : TickProgram α} {acts : List TickAct} {result : α}

/-- The program has come to its end, with a result. -/
def Ends (p : TickProgram α) (acts : List TickAct) (result : α) : Prop :=
  Run ProgramStep p acts (.ret result)

theorem Ends.of_ret {a : α} (h : (ret a).Ends acts result) : acts = [] ∧ result = a := by
  cases acts with
  | nil =>
      cases Run.eq_of_nil h
      exact ⟨rfl, rfl⟩
  | cons act rest =>
      obtain ⟨m, hstep, -⟩ := Run.cases_cons h
      cases hstep

/-- There is nothing left to do. -/
def isRet : TickProgram α → Bool
  | .ret _ => true
  | .look _ | .execute .. | .dispatch .. | .record .. | .emit .. => false

/-- A program that is not at its end has gone on. -/
theorem Ends.cases (h : p.Ends acts result) (hp : p.isRet = false) :
    ∃ act m rest, acts = act :: rest ∧ ProgramStep p act m ∧ m.Ends rest result := by
  cases acts with
  | nil =>
      rw [← Run.eq_of_nil h] at hp
      cases hp
  | cons act rest =>
      obtain ⟨m, hstep, hrest⟩ := Run.cases_cons h
      exact ⟨act, m, rest, rfl, hstep, hrest⟩

end TickProgram

/-- Surroundings that also keep a list of what is reported. -/
def TickEnv.logged {σ : Type} (env : TickEnv σ) : TickEnv (σ × List Notice) where
  isStopped s := env.isStopped s.1
  execute rule c s := ((env.execute rule c s.1).1, (env.execute rule c s.1).2, s.2)
  dispatch rule c s := (env.dispatch rule c s.1, s.2)
  record rule s := (env.record rule s.1, s.2)
  emit n s := (env.emit n s.1, s.2 ++ [n])

/-- A program that nobody interrupts has a history, which tells what was reported. -/
theorem TickProgram.run_logged {α σ : Type} (env : TickEnv σ) (p : TickProgram α) (s : σ)
    (log : List Notice) :
    ∃ acts, p.Ends acts (p.run env.logged (s, log)).1 ∧
      (p.run env.logged (s, log)).2.2 = log ++ TickAct.notices acts := by
  induction p generalizing s log with
  | ret a => exact ⟨[], .nil, (List.append_nil log).symm⟩
  | look next ih =>
      obtain ⟨acts, hends, hlog⟩ := ih (env.isStopped s) s log
      exact ⟨.look (env.isStopped s) :: acts, (Run.nil.snoc (.look _)).append hends, hlog⟩
  | execute rule c next ih =>
      obtain ⟨acts, hends, hlog⟩ := ih (env.execute rule c s).1 (env.execute rule c s).2 log
      exact ⟨.answer ⟨0, rule, c, _⟩ :: acts, (Run.nil.snoc (.execute 0 _)).append hends, hlog⟩
  | dispatch rule c next ih =>
      obtain ⟨acts, hends, hlog⟩ := ih (env.dispatch rule c s) log
      exact ⟨.dispatch :: acts, (Run.nil.snoc .dispatch).append hends, hlog⟩
  | record rule next ih =>
      obtain ⟨acts, hends, hlog⟩ := ih (env.record rule s) log
      exact ⟨.record rule :: acts, (Run.nil.snoc .record).append hends, hlog⟩
  | emit n next ih =>
      obtain ⟨acts, hends, hlog⟩ := ih (env.emit n s) (log ++ [n])
      refine ⟨.emit n :: acts, (Run.nil.snoc .emit).append hends, ?_⟩
      rw [List.append_assoc] at hlog
      exact hlog

namespace Tick

open TickAct

/-! ## The operations of a rule -/

/-- The answers behind the end of a rule: only the last operation has failed, if any has. -/
def EndsBy (rule : String) (cs : List Compiled) (acts : List TickAct) : RuleEnd → Prop
  | .done => failed acts = []
  | .stopped => ∃ a f, failed acts = [a] ∧ a.rule = rule ∧ a.operation ∈ cs ∧ a.result = .error f ∧
      f.isStopped = true ∧ .look true ∈ acts
  | .failed operation f => ∃ a, failed acts = [a] ∧ a.rule = rule ∧ a.operation ∈ cs ∧
      a.operation.name = operation ∧ a.result = .error f

/-- The history of the operations of a rule, and the reports before and behind it. -/
structure RuleHistory (rule : String) (cs : List Compiled) (report : TickReport)
    (acts : List TickAct) (ending : RuleEnd) (later : TickReport) : Prop where
  silent : notices acts = []
  tick : later.tick = report.tick
  fired : later.fired = report.fired
  failures : later.failures = report.failures
  actions : later.actions = report.actions + completed acts
  asyncDispatched : later.asyncDispatched = report.asyncDispatched + dispatched acts
  ended : EndsBy rule cs acts ending

/-- Acts in front that are no failure. -/
theorem EndsBy.append {rule : String} {c : Compiled} {cs : List Compiled} {front acts : List TickAct}
    {ending : RuleEnd} (h : EndsBy rule cs acts ending) (hfront : failed front = []) :
    EndsBy rule (c :: cs) (front ++ acts) ending := by
  have hsame : failed (front ++ acts) = failed acts := by
    rw [failed_append, hfront, List.nil_append]
  cases ending with
  | done => exact hsame.trans h
  | stopped =>
      obtain ⟨a, f, ha, hrule, hmem, hresult, hstop, hseen⟩ := h
      exact ⟨a, f, hsame.trans ha, hrule, List.mem_cons_of_mem c hmem, hresult, hstop,
        List.mem_append_right front hseen⟩
  | failed operation f =>
      obtain ⟨a, ha, hrule, hmem, hrest⟩ := h
      exact ⟨a, hsame.trans ha, hrule, List.mem_cons_of_mem c hmem, hrest⟩

section RuleHistory

variable {rule : String} {c : Compiled} {cs : List Compiled} {report mid later : TickReport}
  {front acts : List TickAct} {ending : RuleEnd}

/-- Operations in front that have completed, or that the tick does not wait for. -/
theorem RuleHistory.append (h : RuleHistory rule cs mid acts ending later)
    (hsilent : notices front = []) (hfront : failed front = [])
    (hmid : mid = { report with
      actions := report.actions + completed front
      asyncDispatched := report.asyncDispatched + dispatched front }) :
    RuleHistory rule (c :: cs) report (front ++ acts) ending later := by
  subst hmid
  have hactions := h.actions
  have hasync := h.asyncDispatched
  dsimp only at hactions hasync
  refine ⟨?_, h.tick, h.fired, h.failures, ?_, ?_, h.ended.append hfront⟩
  · rw [notices_append, hsilent, h.silent, List.append_nil]
  · rw [completed_append]
    omega
  · rw [dispatched_append]
    omega

theorem RuleHistory.of_failed (report : TickReport) {a : Answer} {f : ActionFailure}
    (hrule : a.rule = rule) (hmem : a.operation ∈ cs) (hresult : a.result = .error f) :
    RuleHistory rule cs report [.answer a] (.failed a.operation.name f) report ∧
      RuleHistory rule cs report [.answer a, .look false] (.failed a.operation.name f) report ∧
      (f.isStopped = true →
        RuleHistory rule cs report [.answer a, .look true] .stopped report) := by
  have hfails : a.hasFailed = true := by rw [Answer.hasFailed, hresult]
  have hfailed : ∀ stopped, failed [.answer a] = [a] ∧ failed [.answer a, .look stopped] = [a] := by
    simp [failed, TickAct.answers, hfails]
  have hcompleted : ∀ stopped, completed [.answer a] = 0 ∧
      completed [.answer a, .look stopped] = 0 := by
    simp [completed, TickAct.answers, hfails]
  refine ⟨⟨rfl, rfl, rfl, rfl, ?_, rfl, a, (hfailed true).1, hrule, hmem, rfl, hresult⟩,
    ⟨rfl, rfl, rfl, rfl, ?_, rfl, a, (hfailed false).2, hrule, hmem, rfl, hresult⟩, fun hstop =>
    ⟨rfl, rfl, rfl, rfl, ?_, rfl, a, f, (hfailed true).2, hrule, hmem, hresult, hstop, by simp⟩⟩
  · rw [(hcompleted true).1, Nat.add_zero]
  · rw [(hcompleted false).2, Nat.add_zero]
  · rw [(hcompleted true).2, Nat.add_zero]

end RuleHistory

theorem operationsProgram_history {α : Type} {rule : String}
    {next : RuleEnd → TickReport → TickProgram α} {cs : List Compiled} {report : TickReport}
    {acts : List TickAct} {result : α}
    (h : (operationsProgram rule next cs report).Ends acts result) :
    ∃ front back ending later, acts = front ++ back ∧ (next ending later).Ends back result ∧
      RuleHistory rule cs report front ending later := by
  induction cs generalizing report acts with
  | nil => exact ⟨[], acts, .done, report, rfl, h, ⟨rfl, rfl, rfl, rfl, rfl, rfl, rfl⟩⟩
  | cons c cs ih =>
      unfold operationsProgram at h
      by_cases hasync : c.isAsync = true
      · rw [if_pos hasync] at h
        obtain ⟨act, m, rest, rfl, hstep, hrest⟩ := h.cases rfl
        cases hstep
        obtain ⟨front, back, ending, later, rfl, hback, hfront⟩ := ih hrest
        exact ⟨[.dispatch] ++ front, back, ending, later, rfl, hback, hfront.append rfl rfl rfl⟩
      · rw [if_neg hasync] at h
        obtain ⟨act, m, rest, rfl, hstep, hrest⟩ := h.cases rfl
        cases hstep with
        | execute d answered =>
            cases answered with
            | ok _ =>
                obtain ⟨act, m, rest, rfl, hstep, hrest⟩ := hrest.cases rfl
                cases hstep
                obtain ⟨front, back, ending, later, rfl, hback, hfront⟩ := ih hrest
                exact ⟨[.answer ⟨d, rule, c, .ok ()⟩, .record rule] ++ front, back, ending, later, rfl,
                  hback, hfront.append rfl rfl rfl⟩
            | error f =>
                have hmem : c ∈ c :: cs := List.mem_cons_self
                obtain ⟨hfailed, hlooked, hstopped⟩ :=
                  RuleHistory.of_failed (a := ⟨d, rule, c, .error f⟩) report rfl hmem rfl
                dsimp only at hrest
                by_cases hstop : f.isStopped = true
                · rw [if_pos hstop] at hrest
                  obtain ⟨act, m, rest, rfl, hstep, hrest⟩ := hrest.cases rfl
                  cases hstep with
                  | look seen =>
                      cases seen with
                      | true => exact ⟨_, rest, _, report, rfl, hrest, hstopped hstop⟩
                      | false => exact ⟨_, rest, _, report, rfl, hrest, hlooked⟩
                · rw [if_neg hstop] at hrest
                  exact ⟨_, rest, _, report, rfl, hrest, hfailed⟩

end Tick

/-! ## The rules of a tick -/

/-- A rule that an operation has ended, with the answer of the operation. -/
structure EndedRule where
  rule : Rule
  answer : Answer
  failure : ActionFailure

namespace EndedRule

/-- The notice about the operation. -/
def notice (tick : Nat) (x : EndedRule) : Notice :=
  Tick.failureNotice tick x.rule x.answer.operation.name x.failure

/-- What the report says. -/
def record (x : EndedRule) : RuleFailure := ⟨x.rule.id, x.failure⟩

/-- It is an operation of the rule that has failed. -/
structure Fits (x : EndedRule) (plan : Plan) : Prop where
  rule : x.answer.rule = x.rule.id
  operation : x.answer.operation ∈ plan.operationsOf x.rule
  result : x.answer.result = .error x.failure

end EndedRule

namespace Tick

open TickAct

/-! ## What the notices say -/

section Notices

variable {tick : Nat}

/-- The notice says which operation has failed in which tick and rule, and why. -/
structure ShowsFailure (tick : Nat) (x : EndedRule) (n : Notice) : Prop where
  type : n.1 = .actionFailed
  tick : n.2.field? "tick" = some (.num (.int tick))
  rule : n.2.field? "rule" = some (.str x.rule.id)
  operation : n.2.field? "operation" = some (.str x.answer.operation.name)
  error : n.2.field? "error" = some (.str x.failure.message)
  critical : n.2.field? "critical" = some (.bool x.rule.critical)

/-- The notice says which rule has ended the tick, and why. -/
structure ShowsCritical (tick : Nat) (x : EndedRule) (n : Notice) : Prop where
  type : n.1 = .criticalFailure
  tick : n.2.field? "tick" = some (.num (.int tick))
  rule : n.2.field? "rule" = some (.str x.rule.id)
  error : n.2.field? "error" = some (.str x.failure.message)

/-- The notice agrees with the report, of whose failures it says how many there are. -/
structure ShowsReport (report : TickReport) (n : Notice) : Prop where
  type : n.1 = .tickCompleted
  tick : n.2.field? "tick" = some (.num (.int report.tick))
  fired : n.2.field? "fired" = some (.arr (report.fired.map Json.str))
  actions : n.2.field? "actions" = some (.num (.int report.actions))
  asyncDispatched : n.2.field? "async_dispatched" = some (.num (.int report.asyncDispatched))
  failures : n.2.field? "failures" = some (.num (.int report.failures.length))

theorem showsFailure_notice (x : EndedRule) : ShowsFailure tick x (x.notice tick) :=
  ⟨rfl, rfl, rfl, rfl, rfl, rfl⟩

theorem showsCritical_criticalNotice (x : EndedRule) :
    ShowsCritical tick x (criticalNotice tick x.rule x.failure) := ⟨rfl, rfl, rfl, rfl⟩

theorem showsReport_completedNotice (report : TickReport) :
    ShowsReport report (completedNotice report) := ⟨rfl, rfl, rfl, rfl, rfl, rfl⟩

theorem forall₂_showsFailure_notice (xs : List EndedRule) :
    List.Forall₂ (ShowsFailure tick) xs (xs.map (·.notice tick)) :=
  List.forall₂_map_right_iff.2 (List.forall₂_same.2 fun x _ => showsFailure_notice x)

end Notices

/-! ## What the report tells -/

/-- The report tells of the rules that were begun, of those that an operation has ended, and of how many
operations there were. -/
structure Reports (plan : Plan) (tick : Nat) (begun : List Rule) (xs : List EndedRule)
    (acts : List TickAct) (report : TickReport) : Prop where
  tick : report.tick = tick
  fired : report.fired = begun.map (·.id)
  actions : report.actions = completed acts
  asyncDispatched : report.asyncDispatched = dispatched acts
  failures : report.failures = xs.map (·.record)
  among : (xs.map (·.rule)).Sublist begun
  fits : ∀ x ∈ xs, x.Fits plan ∧ x.rule.critical = false

/-- An operation has answered a stop that the tick has seen. -/
def SawStop (acts : List TickAct) (stopped : List Answer) : Prop :=
  ∃ a f, stopped = [a] ∧ a.result = .error f ∧ f.isStopped = true ∧ .look true ∈ acts

/-- What a tick has reported, and which operations have failed in it, behind a result. -/
inductive Accounts (plan : Plan) (tick : Nat) (rules : List Rule) (acts : List TickAct) :
    Except EngineError TickReport → Prop
  /-- A notice for each failure of the report, in its order, and then one that shows the report. -/
  | completed {begun : List Rule} {xs : List EndedRule} {stopped : List Answer} {report : TickReport}
      {failures : List Notice} {last : Notice} :
      begun <+: rules → Reports plan tick begun xs acts report →
      notices acts = failures ++ [last] →
      List.Forall₂ (ShowsFailure tick) xs failures → ShowsReport report last →
      failed acts = xs.map (·.answer) ++ stopped → stopped = [] ∨ SawStop acts stopped →
      Accounts plan tick rules acts (.ok report)
  /-- A notice for each failure in front, and then two for the one that the tick returns. -/
  | critical {begun : List Rule} {xs : List EndedRule} {x : EndedRule} {failures : List Notice}
      {failure last : Notice} :
      begun ++ [x.rule] <+: rules → (xs.map (·.rule)).Sublist begun →
      (∀ y ∈ xs, y.Fits plan ∧ y.rule.critical = false) → x.Fits plan → x.rule.critical = true →
      notices acts = failures ++ [failure, last] → List.Forall₂ (ShowsFailure tick) xs failures →
      ShowsFailure tick x failure → ShowsCritical tick x last →
      failed acts = (xs ++ [x]).map (·.answer) →
      Accounts plan tick rules acts (.error (.criticalActionFailed x.rule.id x.failure))

section Rules

variable {plan : Plan} {tick : Nat} {rules begun rest : List Rule} {xs : List EndedRule}
  {front back : List TickAct} {report : TickReport} {result : Except EngineError TickReport}

/-- What the tick has done and reported so far, when it turns to its next rule. -/
structure SoFar (plan : Plan) (tick : Nat) (begun : List Rule) (xs : List EndedRule)
    (acts : List TickAct) (report : TickReport) : Prop where
  reports : Reports plan tick begun xs acts report
  notices : TickAct.notices acts = xs.map (·.notice tick)
  failed : TickAct.failed acts = xs.map (·.answer)

/-- Acts behind that are no operation. -/
theorem Reports.append (h : Reports plan tick begun xs front report) (hcompleted : completed back = 0)
    (hdispatched : dispatched back = 0) : Reports plan tick begun xs (front ++ back) report where
  tick := h.tick
  fired := h.fired
  actions := by rw [completed_append, hcompleted, Nat.add_zero, h.actions]
  asyncDispatched := by rw [dispatched_append, hdispatched, Nat.add_zero, h.asyncDispatched]
  failures := h.failures
  among := h.among
  fits := h.fits

/-- The operations of one more rule. -/
theorem Reports.rule {r : Rule} {cs : List Compiled} {ending : RuleEnd} {later : TickReport}
    (h : Reports plan tick begun xs front report)
    (hrule : RuleHistory r.id cs { report with fired := report.fired ++ [r.id] } back ending later) :
    Reports plan tick (begun ++ [r]) xs (front ++ back) later where
  tick := hrule.tick.trans h.tick
  fired := by
    rw [hrule.fired, List.map_append]
    exact congrArg (· ++ [r.id]) h.fired
  actions := by rw [hrule.actions, completed_append, h.actions]
  asyncDispatched := by rw [hrule.asyncDispatched, dispatched_append, h.asyncDispatched]
  failures := hrule.failures.trans h.failures
  among := h.among.trans (List.sublist_append_left _ _)
  fits := h.fits

theorem Reports.ended {x : EndedRule} (h : Reports plan tick (begun ++ [x.rule]) xs front report)
    (hamong : (xs.map (·.rule)).Sublist begun) (hx : x.Fits plan) (hcritical : x.rule.critical = false) :
    Reports plan tick (begun ++ [x.rule]) (xs ++ [x]) front
      { report with failures := report.failures ++ [x.record] } where
  tick := h.tick
  fired := h.fired
  actions := h.actions
  asyncDispatched := h.asyncDispatched
  failures := by
    rw [List.map_append, ← h.failures]
    rfl
  among := by
    rw [List.map_append]
    exact hamong.append (.refl _)
  fits := by
    intro y hy
    rcases List.mem_append.1 hy with hy | hy
    · exact h.fits y hy
    · rw [List.mem_singleton.1 hy]
      exact ⟨hx, hcritical⟩

/-- A tick that is completed behind what it has reported so far. -/
theorem completion_accounts (stopped : List Answer) (hbegun : begun <+: rules)
    (hreports : Reports plan tick begun xs front report)
    (hnotices : notices front = xs.map (·.notice tick))
    (hfailed : failed front = xs.map (·.answer) ++ stopped)
    (hstopped : stopped = [] ∨ SawStop front stopped) (h : (completion report).Ends back result) :
    Accounts plan tick rules (front ++ back) result := by
  obtain ⟨act, m, rest, rfl, hstep, hrest⟩ := h.cases rfl
  cases hstep
  obtain ⟨rfl, rfl⟩ := hrest.of_ret
  have hlast : notices (front ++ [.emit (completedNotice report)]) =
      xs.map (·.notice tick) ++ [completedNotice report] := by
    rw [notices_append, hnotices]
    rfl
  have hsame : failed (front ++ [.emit (completedNotice report)]) = xs.map (·.answer) ++ stopped := by
    rw [failed_append, hfailed]
    exact List.append_nil _
  refine .completed hbegun (hreports.append rfl rfl) hlast (forall₂_showsFailure_notice xs)
    (showsReport_completedNotice report) hsame (hstopped.imp_right ?_)
  rintro ⟨a, f, ha, hresult, hstop, hseen⟩
  exact ⟨a, f, ha, hresult, hstop, List.mem_append_left _ hseen⟩

theorem rulesProgram_accounts (hrules : rules = begun ++ rest)
    (h : SoFar plan tick begun xs front report) (hends : (rulesProgram plan rest report).Ends back result) :
    Accounts plan tick rules (front ++ back) result := by
  -- what the tick has done so far is a front of the whole, and the report fits it
  induction rest generalizing begun xs front back report with
  | nil =>
      refine completion_accounts [] ⟨[], hrules.symm⟩ h.reports h.notices ?_ (.inl rfl) hends
      rw [h.failed, List.append_nil]
  | cons r rest ih =>
      have hbegun : begun ++ [r] <+: rules := ⟨rest, by simp [hrules]⟩
      unfold rulesProgram at hends
      obtain ⟨act, m, acts, rfl, hstep, hacts⟩ := hends.cases rfl
      cases hstep with
      | look seen =>
          rw [List.append_cons]
          have hlooked : SoFar plan tick begun xs (front ++ [.look seen]) report := by
            refine ⟨h.reports.append rfl rfl, ?_, ?_⟩
            · rw [notices_append, h.notices]
              exact List.append_nil _
            · rw [failed_append, h.failed]
              exact List.append_nil _
          generalize front ++ [.look seen] = front at hlooked
          dsimp only at hacts
          by_cases hseen : seen = true
          · rw [if_pos hseen] at hacts
            refine completion_accounts [] ⟨r :: rest, hrules.symm⟩ hlooked.reports
              hlooked.notices ?_ (.inl rfl) hacts
            rw [hlooked.failed, List.append_nil]
          · rw [if_neg hseen] at hacts
            obtain ⟨ops, back, ending, later, rfl, hback, hops⟩ := operationsProgram_history hacts
            have hreports := hlooked.reports.rule hops
            have hnotices : notices (front ++ ops) = xs.map (·.notice tick) := by
              rw [notices_append, hops.silent, List.append_nil, hlooked.notices]
            have hfailed : failed (front ++ ops) = xs.map (·.answer) ++ failed ops := by
              rw [failed_append, hlooked.failed]
            have hended := hops.ended
            rw [← List.append_assoc]
            cases ending with
            | done =>
                have hnone : failed ops = [] := hended
                refine ih (by rw [hrules, List.append_cons]) ⟨hreports, hnotices, ?_⟩ hback
                rw [hfailed, hnone, List.append_nil]
            | stopped =>
                obtain ⟨a, f, ha, -, -, hresult, hstop, hlook⟩ := hended
                rw [ha] at hfailed
                refine completion_accounts [a] hbegun hreports hnotices hfailed (.inr ?_) hback
                exact ⟨a, f, rfl, hresult, hstop, List.mem_append_right _ hlook⟩
            | failed operation f =>
                obtain ⟨a, ha, hrule, hmem, rfl, hresult⟩ := hended
                rw [ha] at hfailed
                have hx : EndedRule.Fits ⟨r, a, f⟩ plan := ⟨hrule, hmem, hresult⟩
                obtain rfl : later.tick = tick := hreports.tick
                obtain ⟨act, m, acts, rfl, hstep, hacts⟩ := hback.cases rfl
                cases hstep
                by_cases hcritical : r.critical = true
                · rw [if_pos hcritical] at hacts
                  obtain ⟨act, m, acts, rfl, hstep, hacts⟩ := hacts.cases rfl
                  cases hstep
                  obtain ⟨rfl, rfl⟩ := hacts.of_ret
                  refine .critical (x := ⟨r, a, f⟩) hbegun hlooked.reports.among hlooked.reports.fits hx
                    hcritical ?_ (forall₂_showsFailure_notice xs) (showsFailure_notice _)
                    (showsCritical_criticalNotice _) ?_
                  · rw [notices_append, hnotices]
                    rfl
                  · rw [failed_append, hfailed, List.map_append]
                    exact List.append_nil _
                · rw [if_neg hcritical] at hacts
                  rw [List.append_cons]
                  have hreported := hreports.ended (x := ⟨r, a, f⟩) hlooked.reports.among hx
                    (Bool.eq_false_iff.2 hcritical)
                  have hnext : SoFar plan later.tick (begun ++ [r]) (xs ++ [⟨r, a, f⟩])
                      (front ++ ops ++ [.emit (failureNotice later.tick r a.operation.name f)])
                      { later with failures := later.failures ++ [⟨r.id, f⟩] } := by
                    refine ⟨hreported.append rfl rfl, ?_, ?_⟩
                    · rw [notices_append, hnotices, List.map_append]
                      rfl
                    · rw [failed_append, hfailed, List.map_append]
                      exact List.append_nil _
                  exact ih (by rw [hrules, List.append_cons]) hnext hacts

end Rules

/-- **A tick tells of every failure twice, in the notices and in its result**, in the same order, and
at the end it shows the report that it returns. -/
theorem program_accounts {plan : Plan} {tick : Nat} {facts : FactSource} {acts : List TickAct}
    {result : Except EngineError TickReport} (h : (program plan tick facts).Ends acts result) :
    Accounts plan tick (Rule.select facts plan.template.rules) acts result := by
  have hreports : Reports plan tick [] [] [] { tick } :=
    ⟨rfl, rfl, rfl, rfl, rfl, .slnil, List.forall_mem_nil _⟩
  unfold program at h
  generalize Rule.select facts plan.template.rules = rules at h ⊢
  exact rulesProgram_accounts (List.nil_append rules).symm ⟨hreports, rfl, rfl⟩ h

/-- So does a tick that nobody interrupts, in any surroundings. -/
theorem run_accounts {σ : Type} (env : TickEnv σ) (plan : Plan) (tick : Nat) (facts : FactSource)
    (s : σ) :
    ∃ acts, (run env.logged plan tick facts (s, [])).2.2 = notices acts ∧
      Accounts plan tick (Rule.select facts plan.template.rules) acts
        (run env.logged plan tick facts (s, [])).1 := by
  obtain ⟨acts, hends, hlog⟩ := (program plan tick facts).run_logged env s []
  rw [run_program] at hends hlog
  exact ⟨acts, hlog, program_accounts hends⟩

end Tick

end RuleEngine
