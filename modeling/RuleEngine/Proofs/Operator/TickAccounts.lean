import RuleEngine.Proofs.Operator.Calls
import RuleEngine.Proofs.Operator.TickDispatches
import RuleEngine.Proofs.Operator.TickHistory

set_option autoImplicit false

/-! # The notices of ticks

Any number of threads may run ticks on an operator, one after the other or at the same time, while
others stop it, change the context, execute operations and report what becomes of the asynchronous
ones. `TickCallStep` says what a call does that runs a tick; of an operation it waits for any answer.

The notices about failed actions, critical failures and completed ticks that are not about
asynchronous operations are those of the calls (`TickCallsFit.log`), and those of a call say what it
returns (`CallAccounts`).
-/

namespace RuleEngine

/-! ## Calls -/

/-- How far a call has come that runs a tick. -/
inductive TickStage
  | absent
  /-- It was let in, and has not asked for the plan. -/
  | entered
  | running (p : TickProgram (Except EngineError TickReport))
  | returned (result : Except EngineError TickReport)

/-- An operator and the calls at it that run ticks. -/
structure TickCalls where
  operator : Operator
  context : Context
  stage : Nat → TickStage := fun _ => .absent
  /-- What was reported, the oldest first. -/
  notices : List Notice := []

inductive TickCallEvent
  /-- Others do something to the operator and the context, and so do operations. -/
  | others (operator : Operator) (context : Context)
  /-- Others report something. -/
  | aside (n : Notice)
  | enter (caller : Nat)
  /-- The call is not let in, or there is no plan. -/
  | refuse (caller : Nat) (e : EngineError)
  /-- The call has its plan, and begins a tick on a context. -/
  | begin (caller : Nat) (plan : Plan) (context : Context)
  | act (caller : Nat) (a : TickAct)
  | ret (caller : Nat) (result : Except EngineError TickReport)

/-- What others report: what becomes of asynchronous operations, and what ticks have no notices
about. -/
inductive IsAside : Notice → Prop
  | detached {rule operation : String} {result : Except ActionFailure Unit} {n : Notice} :
      n ∈ World.detachedNotices rule operation result → IsAside n
  /-- No thread was found for an operation. -/
  | abandoned (rule operation error : String) :
      IsAside (.actionFailed, World.detachedData rule operation (some error))
  | other {n : Notice} :
      n.1 ≠ .actionFailed → n.1 ≠ .criticalFailure → n.1 ≠ .tickCompleted → IsAside n

def TickAct.apply : TickAct → Context → Context
  | .record rule, c => c.recordAction rule
  | _, c => c

def TickCalls.advance (s : TickCalls) (caller : Nat) (stage : TickStage) : TickCalls :=
  { s with stage := Function.update s.stage caller stage }

/-- What one event makes of an operator and the calls at it. -/
inductive TickCallStep : TickCalls → TickCallEvent → TickCalls → Prop
  | others {s : TickCalls} (o : Operator) (c : Context) :
      TickCallStep s (.others o c) { s with operator := o, context := c }
  | aside {s : TickCalls} {n : Notice} :
      IsAside n → TickCallStep s (.aside n) { s with notices := s.notices ++ [n] }
  | enter {s : TickCalls} {k : Nat} {o : Operator} :
      s.stage k = .absent → s.operator.enterTick = (.ok (), o) →
      TickCallStep s (.enter k) ({ s with operator := o }.advance k .entered)
  | refuse {s : TickCalls} {k : Nat} {e : EngineError} {o : Operator} :
      s.stage k = .absent → s.operator.enterTick = (.error e, o) →
      TickCallStep s (.refuse k e) ({ s with operator := o }.advance k (.returned (.error e)))
  | planGone {s : TickCalls} {k : Nat} {e : EngineError} :
      s.stage k = .entered → s.operator.currentPlan = .error e →
      TickCallStep s (.refuse k e) (s.advance k (.returned (.error e)))
  | begin {s : TickCalls} {k : Nat} {plan : Plan} :
      s.stage k = .entered → s.operator.currentPlan = .ok plan →
      TickCallStep s (.begin k plan s.context.beginTick)
        ({ s with context := s.context.beginTick }.advance k
          (.running (Tick.program plan s.context.beginTick.tick s.context.beginTick.facts.get?)))
  | act {s : TickCalls} {k : Nat} {p m : TickProgram (Except EngineError TickReport)}
      {a : TickAct} :
      s.stage k = .running p → ProgramStep p a m →
      (∀ stopped, a = .look stopped → stopped = s.operator.isStopped) →
      TickCallStep s (.act k a)
        ({ s with
          context := a.apply s.context
          notices := s.notices ++ TickAct.notices [a] }.advance k (.running m))
  | ret {s : TickCalls} {k : Nat} {result : Except EngineError TickReport} :
      s.stage k = .running (.ret result) →
      TickCallStep s (.ret k result) (s.advance k (.returned result))

namespace TickCalls

variable (s : TickCalls) (caller : Nat) (stage : TickStage)

@[simp] theorem advance_notices : (s.advance caller stage).notices = s.notices := rfl

@[simp] theorem advance_stage_self : (s.advance caller stage).stage caller = stage :=
  Function.update_self ..

@[simp] theorem advance_stage_of_ne {other : Nat} (h : other ≠ caller) :
    (s.advance caller stage).stage other = s.stage other :=
  Function.update_of_ne h ..

end TickCalls

/-! ## What is told by the events -/

/-- What a call has done, and what it was answered. -/
def actsOf (caller : Nat) (es : List TickCallEvent) : List TickAct :=
  es.filterMap fun
    | .act k a => if k = caller then some a else none
    | _ => none

/-- What the calls have reported, in order, each with the call. -/
def callNotices (es : List TickCallEvent) : List (Nat × Notice) :=
  es.filterMap fun
    | .act k (.emit n) => some (k, n)
    | _ => none

/-- A notice about a failed action, a critical failure or a completed tick that is not about an
asynchronous operation. -/
def Notice.isOfTick (n : Notice) : Bool :=
  (n.1 == .actionFailed || n.1 == .criticalFailure || n.1 == .tickCompleted) &&
    n.2.field? "async" != some (.bool true)

/-- What is done in a tick, and in which call. -/
def TickCallEvent.act? : TickCallEvent → Option (Nat × TickAct)
  | .act k a => some (k, a)
  | .others .. | .aside _ | .enter _ | .refuse .. | .begin .. | .ret .. => none

@[simp] theorem actsOf_snoc_act (caller : Nat) (es : List TickCallEvent) (a : TickAct) :
    actsOf caller (es ++ [.act caller a]) = actsOf caller es ++ [a] := by
  simp [actsOf]

/-- What happens elsewhere is not done by the call. -/
theorem actsOf_snoc_of_ne {caller : Nat} {es : List TickCallEvent} {e : TickCallEvent}
    (he : ∀ x, e.act? = some x → x.1 ≠ caller) : actsOf caller (es ++ [e]) = actsOf caller es := by
  rw [actsOf, List.filterMap_append]
  cases e with
  | act k a =>
      have hne : k ≠ caller := he _ rfl
      simp [hne, actsOf]
  | _ => exact List.append_nil _

theorem actsOf_snoc_of_none {es : List TickCallEvent} {e : TickCallEvent} (caller : Nat)
    (he : e.act? = none) : actsOf caller (es ++ [e]) = actsOf caller es := by
  refine actsOf_snoc_of_ne fun x hx => ?_
  rw [he] at hx
  cases hx

theorem notices_actsOf (caller : Nat) (es : List TickCallEvent) :
    TickAct.notices (actsOf caller es) =
      ((callNotices es).filter (·.1 == caller)).map (·.2) := by
  induction es with
  | nil => rfl
  | cons e es ih =>
      cases e with
      | act k a =>
          by_cases hk : k = caller <;> cases a <;>
            simp_all [actsOf, callNotices, TickAct.notices]
      | _ => exact ih

/-! ## Notices of ticks and of others -/

theorem IsAside.not_isOfTick {n : Notice} (h : IsAside n) : n.isOfTick = false := by
  cases h with
  | @detached rule operation result _ hmem =>
      unfold World.detachedNotices at hmem
      split at hmem
      · rw [List.mem_singleton.1 hmem]
        rfl
      · split at hmem
        · cases hmem
        · rw [List.mem_singleton.1 hmem]
          rfl
  | abandoned => rfl
  | other hfailed hcritical hcompleted => simp [Notice.isOfTick, hfailed, hcritical, hcompleted]

/-- Whatever the program is answered, it emits only such notices. -/
def TickProgram.EmitsOnly {α : Type} (note : Notice → Prop) : TickProgram α → Prop
  | .ret _ => True
  | .look next => ∀ stopped, (next stopped).EmitsOnly note
  | .execute _ _ next => ∀ result, (next result).EmitsOnly note
  | .dispatch _ _ next => next.EmitsOnly note
  | .record _ next => next.EmitsOnly note
  | .emit n next => note n ∧ next.EmitsOnly note

theorem ProgramStep.emitsOnly {α : Type} {note : Notice → Prop} {p m : TickProgram α} {a : TickAct}
    (h : ProgramStep p a m) (hp : p.EmitsOnly note) :
    m.EmitsOnly note ∧ ∀ n ∈ TickAct.notices [a], note n := by
  cases h with
  | look stopped => exact ⟨hp stopped, nofun⟩
  | execute d result => exact ⟨hp result, nofun⟩
  | dispatch | record => exact ⟨hp, nofun⟩
  | emit => exact ⟨hp.2, fun n hn => List.mem_singleton.1 hn ▸ hp.1⟩

namespace Tick

theorem operationsProgram_emitsOnly {α : Type} {note : Notice → Prop} {rule : String}
    {next : RuleEnd → TickReport → TickProgram α} {cs : List Compiled} {report : TickReport}
    (hnext : ∀ ending later, (next ending later).EmitsOnly note) :
    (operationsProgram rule next cs report).EmitsOnly note := by
  induction cs generalizing report with
  | nil => exact hnext .done report
  | cons c cs ih =>
      unfold operationsProgram
      split
      · exact ih
      · intro result
        cases result with
        | ok _ => exact ih
        | error f =>
            dsimp only
            split
            · intro stopped
              dsimp only
              split <;> exact hnext _ _
            · exact hnext _ _

theorem completion_emitsOnly (report : TickReport) :
    (completion report).EmitsOnly (·.isOfTick = true) := ⟨rfl, trivial⟩

theorem rulesProgram_emitsOnly (plan : Plan) (rs : List Rule) (report : TickReport) :
    (rulesProgram plan rs report).EmitsOnly (·.isOfTick = true) := by
  induction rs generalizing report with
  | nil => exact completion_emitsOnly report
  | cons r rs ih =>
      unfold rulesProgram
      intro stopped
      dsimp only
      split
      · exact completion_emitsOnly report
      · refine operationsProgram_emitsOnly fun ending later => ?_
        cases ending with
        | done => exact ih later
        | stopped => exact completion_emitsOnly later
        | failed operation f =>
            refine ⟨rfl, ?_⟩
            split
            · exact ⟨rfl, trivial⟩
            · exact ih _

end Tick

/-! ## What the calls account for -/

/-- The result of a call, and what it has reported. -/
inductive CallAccounts (caller : Nat) (es : List TickCallEvent) : Except EngineError TickReport → Prop
  /-- A call that is refused has done nothing. -/
  | refused (state : String) :
      actsOf caller es = [] → CallAccounts caller es (.error (.invalidState "run a tick" state))
  | ran {plan : Plan} {context : Context} {result : Except EngineError TickReport} :
      .begin caller plan context ∈ es →
      Tick.Accounts plan context.tick (Tick.selected plan context) (actsOf caller es) result →
      CallAccounts caller es result

/-- What a call has done so far. -/
def CallFits (caller : Nat) (es : List TickCallEvent) : TickStage → Prop
  | .absent | .entered => actsOf caller es = []
  | .running p => p.EmitsOnly (·.isOfTick = true) ∧ ∃ plan context,
      .begin caller plan context ∈ es ∧
        Run ProgramStep (Tick.program plan context.tick context.facts.get?) (actsOf caller es) p
  | .returned result => CallAccounts caller es result

/-- What happens elsewhere does not matter to a call. -/
theorem CallFits.elsewhere {caller : Nat} {es : List TickCallEvent} {stage : TickStage}
    {e : TickCallEvent} (h : CallFits caller es stage) (he : ∀ x, e.act? = some x → x.1 ≠ caller) :
    CallFits caller (es ++ [e]) stage := by
  have hsame : actsOf caller (es ++ [e]) = actsOf caller es := actsOf_snoc_of_ne he
  cases stage with
  | absent | entered => exact hsame.trans h
  | running p =>
      obtain ⟨hemits, plan, context, hbegin, hrun⟩ := h
      refine ⟨hemits, plan, context, List.mem_append_left _ hbegin, ?_⟩
      rw [hsame]
      exact hrun
  | returned result =>
      cases h with
      | refused state hnone => exact .refused state (hsame.trans hnone)
      | ran hbegin haccounts => exact .ran (List.mem_append_left _ hbegin) (hsame ▸ haccounts)

/-- The calls at an operator and the log of the notices. -/
structure TickCallsFit (es : List TickCallEvent) (s : TickCalls) : Prop where
  /-- The notices of ticks are those of the calls. -/
  log : s.notices.filter (·.isOfTick) = (callNotices es).map (·.2)
  calls : ∀ caller, CallFits caller es (s.stage caller)

theorem callNotices_snoc_of_none {es : List TickCallEvent} {e : TickCallEvent}
    (he : e.act? = none) : callNotices (es ++ [e]) = callNotices es := by
  rw [callNotices, List.filterMap_append]
  cases e with
  | act => cases he
  | _ => exact List.append_nil _

theorem callNotices_snoc_act (es : List TickCallEvent) (caller : Nat) (a : TickAct) :
    (callNotices (es ++ [.act caller a])).map (·.2) =
      (callNotices es).map (·.2) ++ TickAct.notices [a] := by
  rw [callNotices, List.filterMap_append, List.map_append]
  cases a <;> rfl

section Steps

variable {es : List TickCallEvent} {s t : TickCalls} {e : TickCallEvent}

/-- Nothing is done in a tick. -/
theorem TickCallsFit.elsewhere (h : TickCallsFit es s) (he : e.act? = none)
    (hlog : t.notices.filter (·.isOfTick) = s.notices.filter (·.isOfTick))
    (hcalls : ∀ caller, t.stage caller = s.stage caller ∨
      CallFits caller (es ++ [e]) (t.stage caller)) : TickCallsFit (es ++ [e]) t := by
  refine ⟨?_, fun caller => ?_⟩
  · rw [hlog, callNotices_snoc_of_none he, h.log]
  · rcases hcalls caller with hsame | hfits
    · rw [hsame]
      exact (h.calls caller).elsewhere fun x hx => by simp [he] at hx
    · exact hfits

/-- A call goes on, and nothing is done in a tick. -/
theorem TickCallsFit.advance {caller : Nat} {stage : TickStage} (h : TickCallsFit es s)
    (he : e.act? = none) (hlog : t.notices = s.notices) (hstages : t.stage = s.stage)
    (hstage : CallFits caller (es ++ [e]) stage) :
    TickCallsFit (es ++ [e]) (t.advance caller stage) := by
  refine h.elsewhere he (congrArg _ hlog) fun other => ?_
  by_cases heq : other = caller
  · subst heq
    rw [TickCalls.advance_stage_self]
    exact .inr hstage
  · rw [TickCalls.advance_stage_of_ne _ _ _ heq]
    exact .inl (congrFun hstages other)

theorem TickCallsFit.step (h : TickCallsFit es s) (hstep : TickCallStep s e t) :
    TickCallsFit (es ++ [e]) t := by
  cases hstep with
  | others o c => exact h.elsewhere rfl rfl fun _ => .inl rfl
  | @aside n haside =>
      refine h.elsewhere rfl ?_ fun _ => .inl rfl
      have hnone : [n].filter (·.isOfTick) = [] := by simp [haside.not_isOfTick]
      rw [List.filter_append, hnone, List.append_nil]
  | @enter caller o hstage =>
      have hfits := h.calls caller
      rw [hstage] at hfits
      have hnone := (actsOf_snoc_of_none (e := .enter caller) caller rfl).trans hfits
      exact h.advance rfl rfl rfl hnone
  | @refuse caller e o hstage henter =>
      have hfits := h.calls caller
      rw [hstage] at hfits
      have hnone := (actsOf_snoc_of_none (e := .refuse caller e) caller rfl).trans hfits
      rcases Operator.enterTick_cases henter with ⟨-, hok, -⟩ | ⟨-, herror, -⟩
      · cases hok
      · cases herror
        exact h.advance rfl rfl rfl (.refused _ hnone)
  | @planGone caller e hstage hplan =>
      have hfits := h.calls caller
      rw [hstage] at hfits
      have hnone := (actsOf_snoc_of_none (e := .refuse caller e) caller rfl).trans hfits
      unfold Operator.currentPlan at hplan
      split at hplan <;> cases hplan
      exact h.advance rfl rfl rfl (.refused _ hnone)
  | @begin caller plan hstage hplan =>
      have hfits := h.calls caller
      rw [hstage] at hfits
      have hnone :=
        (actsOf_snoc_of_none (e := .begin caller plan s.context.beginTick) caller rfl).trans hfits
      refine h.advance rfl rfl rfl ⟨Tick.rulesProgram_emitsOnly _ _ _, plan, s.context.beginTick,
        List.mem_append_right _ (List.mem_singleton_self _), ?_⟩
      rw [hnone]
      exact .nil
  | @act caller p m a hstage hact _ =>
      have hfits := h.calls caller
      rw [hstage] at hfits
      obtain ⟨hemits, plan, context, hbegin, hrun⟩ := hfits
      obtain ⟨hemits, hnotices⟩ := hact.emitsOnly hemits
      refine ⟨?_, fun other => ?_⟩
      · have hall : (TickAct.notices [a]).filter (·.isOfTick) = TickAct.notices [a] :=
          List.filter_eq_self.2 hnotices
        rw [callNotices_snoc_act, TickCalls.advance_notices, List.filter_append, hall, h.log]
      · by_cases heq : other = caller
        · subst heq
          rw [TickCalls.advance_stage_self]
          refine ⟨hemits, plan, context, List.mem_append_left _ hbegin, ?_⟩
          rw [actsOf_snoc_act]
          exact hrun.snoc hact
        · rw [TickCalls.advance_stage_of_ne _ _ _ heq]
          refine (h.calls other).elsewhere fun x hx => ?_
          cases hx
          exact Ne.symm heq
  | @ret caller result hstage =>
      have hfits := h.calls caller
      rw [hstage] at hfits
      obtain ⟨-, plan, context, hbegin, hrun⟩ := hfits
      refine h.advance rfl rfl rfl (.ran (List.mem_append_left _ hbegin) ?_)
      rw [actsOf_snoc_of_none (e := .ret caller result) caller rfl]
      exact Tick.program_accounts hrun

end Steps

/-- **The notices of ticks and their results tell the same.** Without what is reported about
asynchronous operations, the notices about failed actions, critical failures and completed ticks are
those of the calls, and those of a call account for what it returns. -/
theorem tickCalls_account {o : Operator} {context : Context} {es : List TickCallEvent} {s : TickCalls}
    (h : Run TickCallStep { operator := o, context := context } es s) :
    s.notices.filter (·.isOfTick) = (callNotices es).map (·.2) ∧
      ∀ caller result, s.stage caller = .returned result → CallAccounts caller es result ∧
        TickAct.notices (actsOf caller es) =
          ((callNotices es).filter (·.1 == caller)).map (·.2) := by
  have hfits : TickCallsFit es s := by
    induction h with
    | nil => exact ⟨rfl, fun _ => rfl⟩
    | snoc _ hstep ih => exact ih.step hstep
  refine ⟨hfits.log, fun caller result hstage => ⟨?_, notices_actsOf caller es⟩⟩
  have hcall := hfits.calls caller
  rw [hstage] at hcall
  exact hcall

/-- A tick that goes on behind a rule whose operation has failed. -/
theorem tickCalls_account_of_failure : ∃ (o : Operator) (es : List TickCallEvent) (s : TickCalls)
    (report : TickReport), Run TickCallStep { operator := o, context := {} } es s ∧
      s.stage 0 = .returned (.ok report) ∧
      report.failures = [⟨"shoot", .controller "press" "jammed"⟩] ∧
      s.notices.filter (·.isOfTick) = (callNotices es).map (·.2) ∧
      ∀ caller result, s.stage caller = .returned result → CallAccounts caller es result ∧
        TickAct.notices (actsOf caller es) =
          ((callNotices es).filter (·.1 == caller)).map (·.2) := by
  let press : Compiled := ⟨{ name := "press" }, .press "space" .zero⟩
  let plan : Plan :=
    { template := { subDir := "main", name := "demo", rules := [{ id := "shoot" }] }
      operations := [("shoot", [press])] }
  let o : Operator :=
    { store := ⟨⟨"rules", ["rules"]⟩⟩, registry := {}, subDir := "main", name := "demo",
      lifecycle := .loaded, plan := some plan }
  let start : TickCalls := { operator := o, context := {} }
  have h1 : Run TickCallStep start [] start := .nil
  have h2 := (h1.snoc (.enter (k := 0) rfl rfl)).snoc (.begin (k := 0) rfl rfl)
  have h3 := h2.snoc (.act (k := 0) rfl (.look false) fun _ hlook => by cases hlook; rfl)
  have h4 := h3.snoc
    (.act (k := 0) rfl (.execute 1 (.error (.controller "press" "jammed"))) nofun)
  have h5 := (h4.snoc (.act (k := 0) rfl .emit nofun)).snoc (.act (k := 0) rfl .emit nofun)
  have h6 := h5.snoc (.ret (k := 0) rfl)
  exact ⟨o, _, _, _, h6, rfl, rfl, tickCalls_account h6⟩

end RuleEngine
