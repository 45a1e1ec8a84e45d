import RuleEngine.Operation.Builtin
import RuleEngine.Proofs.Operator.AsyncFates
import RuleEngine.Proofs.Operator.TickAccounts

set_option autoImplicit false

/-! # The notices about operations that no tick waits for

When the threads have been waited for, each operation that no tick has waited for has one outcome,
however many ticks there were, whoever has stopped the operator and in whatever order the threads have
come to their ends. The notices about such operations are those of the outcomes, one for each; only an
operation that was stopped has none. A tick that returns a report has counted them
(`AccountsForAsync`).
-/

namespace RuleEngine

/-! ## The log -/

/-- The notice is about an operation that no tick waits for. -/
def Notice.isAsync (n : Notice) : Bool := n.2.field? "async" == some (.bool true)

namespace World

variable (rule operation : String) (error : Option String)

@[simp] theorem detachedData_rule :
    (detachedData rule operation error).field? "rule" = some (.str rule) := rfl

@[simp] theorem detachedData_operation :
    (detachedData rule operation error).field? "operation" = some (.str operation) := rfl

@[simp] theorem detachedData_async :
    (detachedData rule operation error).field? "async" = some (.bool true) := rfl

end World

/-- What ticks report themselves is not about such operations. -/
theorem Notice.isAsync_of_isOfTick {n : Notice} (h : n.isOfTick = true) : n.isAsync = false := by
  rw [isOfTick, Bool.and_eq_true] at h
  exact Bool.eq_false_iff.2 (bne_iff_ne.1 h.2 <| beq_iff_eq.1 ·)

namespace AsyncOutcome

theorem names_of_notice {x : AsyncOutcome} {n : Notice} (h : x.notice? = some n) :
    n.isAsync = true ∧ n.2.field? "rule" = some (.str x.subject.rule) ∧
      n.2.field? "operation" = some (.str x.subject.operation) := by
  have hdata : ∃ error, n.2 = World.detachedData x.subject.rule x.subject.operation error := by
    cases x with
    | reported a =>
        dsimp only [notice?] at h
        split at h
        · cases h
          exact ⟨none, rfl⟩
        · split at h <;> cases h
          exact ⟨some _, rfl⟩
    | abandoned =>
        cases h
        exact ⟨some _, rfl⟩
  obtain ⟨error, hdata⟩ := hdata
  simp [Notice.isAsync, hdata]

theorem toList_notice_reported (a : Answer) :
    (reported a).notice?.toList = World.detachedNotices a.rule a.operation.name a.result := by
  obtain ⟨d, rule, operation, result⟩ := a
  cases result with
  | ok _ => rfl
  | error f => cases hstop : f.isStopped <;> simp [notice?, World.detachedNotices, hstop]

/-- All that is reported about an outcome is about such an operation. -/
theorem filter_toList_notice (x : AsyncOutcome) :
    x.notice?.toList.filter (·.isAsync) = x.notice?.toList := by
  refine List.filter_eq_self.2 fun n hn => ?_
  exact (names_of_notice (Option.mem_toList.1 hn)).1

end AsyncOutcome

/-- What the program of a tick does, or is answered. -/
def TickEvent.act? : TickEvent → Option TickAct
  | .look stopped => some (.look stopped)
  | .record rule => some (.record rule)
  | .emit n => some (.emit n)
  | .answer a => some (.answer a)
  | .spawn _ | .abandon .. => some .dispatch
  | .others _ | .context _ | .pass _ | .take .. | .own _ | .exec .. | .conclude _ => none

/-- The program of a tick goes on only by what it does and is answered. -/
theorem TickStep.program_cases {s t : TickThreads} {e : TickEvent} (h : TickStep s e t) :
    (e.act? = none ∧ t.program = s.program) ∨
      ∃ a, e.act? = some a ∧ ProgramStep s.program a t.program := by
  cases h with
  | look hprogram => exact .inr ⟨_, rfl, hprogram ▸ .look _⟩
  | record hprogram => exact .inr ⟨_, rfl, hprogram ▸ .record⟩
  | emit hprogram => exact .inr ⟨_, rfl, hprogram ▸ .emit⟩
  | answer hprogram => exact .inr ⟨_, rfl, hprogram ▸ .execute _ _⟩
  | spawn hprogram | abandon _ hprogram => exact .inr ⟨_, rfl, hprogram ▸ .dispatch⟩
  | _ => exact .inl ⟨rfl, rfl⟩

section Log

variable {o : Operator} {context : Context} {es : List RowEvent} {s : TickRow}

theorem rowEmitsOnly (h : Run RowStep (.begin o context) es s) :
    s.ticks.program.EmitsOnly (·.isOfTick = true) := by
  induction h with
  | nil => trivial
  | snoc _ hstep ih =>
      cases hstep with
      | tick _ htick =>
          rcases htick.program_cases with ⟨-, hsame⟩ | ⟨a, -, hact⟩
          · dsimp only
            rw [hsame]
            exact ih
          · exact (hact.emitsOnly ih).1
      | takePlan => exact Tick.rulesProgram_emitsOnly _ _ _
      | _ => exact ih

/-- The notices about operations that no tick waits for are those of the outcomes. -/
theorem asyncLog (h : Run RowStep (.begin o context) es s) :
    s.ticks.notices.filter (·.isAsync) = (asyncOutcomes es).filterMap (·.notice?) := by
  induction h with
  | nil => rfl
  | @snoc es m t e hrun hstep ih =>
      -- what is added to the log by an outcome, or by anything else
      have hlog : ∀ x : AsyncOutcome, e.outcome? = some x →
          t.ticks.notices = m.ticks.notices ++ x.notice?.toList →
          t.ticks.notices.filter (·.isAsync) = (asyncOutcomes (es ++ [e])).filterMap (·.notice?) := by
        intro x houtcome hnotices
        rw [hnotices, List.filter_append, ih, x.filter_toList_notice, asyncOutcomes_snoc, houtcome,
          List.filterMap_append]
        cases hx : x.notice? <;> simp [hx]
      have hsilent : e.outcome? = none →
          t.ticks.notices.filter (·.isAsync) = m.ticks.notices.filter (·.isAsync) →
          t.ticks.notices.filter (·.isAsync) = (asyncOutcomes (es ++ [e])).filterMap (·.notice?) := by
        intro houtcome hsame
        rw [hsame, ih, asyncOutcomes_snoc, houtcome]
        exact (congrArg _ (List.append_nil _)).symm
      cases hstep with
      | tick hnone htick =>
          cases htick with
          | @emit n _ hprogram =>
              have hemits := rowEmitsOnly hrun
              rw [hprogram] at hemits
              refine hsilent rfl ?_
              rw [List.filter_append, List.filter_cons_of_neg, List.filter_nil, List.append_nil]
              rw [Notice.isAsync_of_isOfTick hemits.1]
              exact Bool.false_ne_true
          | abandon => exact hlog _ rfl rfl
          | conclude => exact absurd rfl (hnone _)
          | _ => exact hsilent rfl rfl
      | report => exact hlog _ rfl (congrArg _ (AsyncOutcome.toList_notice_reported _).symm)
      | _ => exact hsilent rfl rfl

end Log

/-! ## Counting the dispatches -/

/-- The tick begins with its plan and returns. -/
def RowEvent.isBorder : RowEvent → Bool
  | .takePlan _ | .answer _ => true
  | _ => false

/-- What the programs of ticks have done, and what they were answered. -/
def rowActs (es : List RowEvent) : List TickAct :=
  es.filterMap fun
    | .tick e => e.act?
    | _ => none

theorem rowActs_append (front back : List RowEvent) :
    rowActs (front ++ back) = rowActs front ++ rowActs back :=
  List.filterMap_append

/-- The tick is at an operation that it does not wait for, and has not gone on. -/
def TickThreads.pending (s : TickThreads) : Nat :=
  match s.current, s.program with
  | some _, .dispatch .. => 1
  | _, _ => 0

theorem TickThreads.pending_of_idle {s : TickThreads} (h : s.current = none) : s.pending = 0 := by
  rw [pending, h]

/-- What the tick does and what it begins to dispatch agree, but for the operation that it is at. -/
theorem TickStep.pending {s t : TickThreads} {e : TickEvent} (h : TickStep s e t) (hat : s.AtWork)
    (hnone : ∀ a, e ≠ .conclude a) :
    s.pending + (RowEvent.tick e).dispatched?.toList.length =
      TickAct.dispatched e.act?.toList + t.pending := by
  cases h with
  | others | context | pass | own | exec => exact Nat.add_comm _ 0
  | look hprogram | record hprogram | emit hprogram =>
      -- where the program does something of its own, the tick is at no dispatch
      have hcurrent := hat.idle (by rw [hprogram]; rfl)
      simp [RowEvent.dispatched?, TickEvent.act?, TickThreads.pending, TickAct.dispatched, hcurrent]
  | @take d w u hcurrent hnext =>
      rw [TickThreads.pending_of_idle hcurrent]
      rcases (TickProgram.work?_eq_some hnext).2 with ⟨next, hprogram, hw⟩ | ⟨next, hprogram, hw⟩
      all_goals
        simp [RowEvent.dispatched?, TickEvent.act?, TickThreads.pending, TickAct.dispatched, hprogram, hw]
  | answer hprogram | spawn hprogram hcurrent | abandon _ hprogram hcurrent =>
      simp [RowEvent.dispatched?, TickEvent.act?, TickThreads.pending, TickAct.dispatched, *]
  | conclude => exact absurd rfl (hnone _)

/-- The program of a tick and the dispatches since its beginning. -/
structure TickSoFar (p : TickProgram (Except EngineError TickReport)) (mid : List RowEvent)
    (s : TickRow) : Prop where
  acts : Run ProgramStep p (rowActs mid) s.ticks.program
  count : (asyncDispatches mid).length = TickAct.dispatched (rowActs mid) + s.ticks.pending

theorem TickSoFar.step {p : TickProgram (Except EngineError TickReport)} {mid : List RowEvent}
    {s t : TickRow} {e : RowEvent} (h : TickSoFar p mid s) (hat : s.ticks.AtWork)
    (hstep : RowStep s e t) (he : e.isBorder = false) : TickSoFar p (mid ++ [e]) t := by
  have hrest : rowActs [e] = [] → e.dispatched? = none → t.ticks.program = s.ticks.program →
      t.ticks.pending = s.ticks.pending → TickSoFar p (mid ++ [e]) t := by
    intro hacts hdispatched hprogram hpending
    have hsame : rowActs (mid ++ [e]) = rowActs mid := by
      rw [rowActs_append, hacts, List.append_nil]
    refine ⟨?_, ?_⟩
    · rw [hsame, hprogram]
      exact h.acts
    · rw [asyncDispatches_snoc, hdispatched, hsame, hpending]
      exact (congrArg List.length (List.append_nil _)).trans h.count
  cases hstep with
  | @tick x u hnone htick =>
      have hacts : rowActs (mid ++ [.tick x]) = rowActs mid ++ x.act?.toList := by
        rw [rowActs_append]
        cases hact : x.act? <;> simp [rowActs, hact]
      refine ⟨?_, ?_⟩
      · rw [hacts]
        rcases htick.program_cases with ⟨hact, hsame⟩ | ⟨a, hact, hprogram⟩
        · rw [hact]
          dsimp only
          rw [hsame]
          simpa using h.acts
        · rw [hact]
          exact h.acts.snoc hprogram
      · have hcount := h.count
        have hpending := htick.pending hat hnone
        rw [asyncDispatches_snoc, List.length_append, hacts, TickAct.dispatched_append]
        dsimp only
        omega
  | leave | report | reap | enterTick | takeWorkers | join | joined => exact hrest rfl rfl rfl rfl
  | planGone | takePlan | answer => cases he

section Counting

variable {o : Operator} {context : Context} {es : List RowEvent} {s : TickRow}

/-- The tick that runs goes through its program since it has taken its plan. -/
theorem tickSoFar (h : Run RowStep (.begin o context) es s) (hstage : s.stage = .ticking) :
    ∃ front plan mid tick facts, es = front ++ .takePlan (.ok plan) :: mid ∧
      (∀ e ∈ mid, e.isBorder = false) ∧ TickSoFar (Tick.program plan tick facts) mid s := by
  induction h with
  | nil => cases hstage
  | @snoc es m t e hrun hstep ih =>
      -- the tick has run before, and goes on
      have hgo : m.stage = .ticking → e.isBorder = false →
          ∃ front plan mid tick facts, es ++ [e] = front ++ .takePlan (.ok plan) :: mid ∧
            (∀ e ∈ mid, e.isBorder = false) ∧ TickSoFar (Tick.program plan tick facts) mid t := by
        intro hticking he
        obtain ⟨front, plan, mid, tick, facts, rfl, hmid, hfar⟩ := ih hticking
        refine ⟨front, plan, mid ++ [e], tick, facts, by simp, fun x hx => ?_,
          hfar.step (rowAtWork hrun) hstep he⟩
        rcases List.mem_append.1 hx with hx | hx
        · exact hmid x hx
        · rw [List.mem_singleton.1 hx]
          exact he
      cases hstep with
      | tick | leave | report | reap => exact hgo hstage rfl
      | @enterTick answer => cases answer <;> cases hstage
      | @takePlan plan hplanning =>
          obtain ⟨result, hprogram⟩ := rowProgram hrun (by rw [hplanning]; nofun)
          have hcurrent : (m.ticks.next plan).current = none := rowCurrent hrun hprogram
          have hidle := TickThreads.pending_of_idle hcurrent
          refine ⟨es, plan, [], _, _, rfl, List.forall_mem_nil _, .nil, ?_⟩
          exact ((Nat.zero_add _).trans hidle).symm
      | planGone | answer | takeWorkers | join | joined => cases hstage

/-- A tick that returns a report has counted the operations that it did not wait for. -/
theorem asyncDispatched_eq {front back : List RowEvent} {report : TickReport}
    (h : Run RowStep (.begin o context) es s) (hes : es = front ++ .answer (.ok report) :: back) :
    ∃ before plan mid, front = before ++ .takePlan (.ok plan) :: mid ∧
      (∀ e ∈ mid, e.isBorder = false) ∧ report.asyncDispatched = (asyncDispatches mid).length := by
  subst hes
  obtain ⟨m, m', hfront, hstep⟩ := h.split
  cases hstep with
  | answer hstage hprogram =>
      obtain ⟨before, plan, mid, tick, facts, rfl, hmid, hfar⟩ := tickSoFar hfront hstage
      refine ⟨before, plan, mid, rfl, hmid, ?_⟩
      have hacts := hfar.acts
      rw [hprogram] at hacts
      cases Tick.program_accounts hacts with
      | completed _ hreports =>
          have hidle := TickThreads.pending_of_idle (rowCurrent hfront hprogram)
          rw [hreports.asyncDispatched, hfar.count, hidle, Nat.add_zero]

end Counting

/-! ## The accounts -/

section Accounts

variable {o : Operator} {context : Context} {es : List RowEvent} {s : TickRow}

/-- What is certain when the threads have been waited for. -/
structure AccountsForAsync (es : List RowEvent) (s : TickRow) : Prop where
  /-- Each operation has a number of its own. -/
  numbers : ((asyncDispatches es).map (·.dispatch)).Nodup
  /-- Each operation has one outcome, and there are no others. -/
  outcomes : ((asyncOutcomes es).map (·.subject)).Perm (asyncDispatches es)
  /-- One notice tells of each outcome, but for the answers to a stop, and there are no others. -/
  log : s.ticks.notices.filter (·.isAsync) = (asyncOutcomes es).filterMap (·.notice?)
  names : ∀ x ∈ asyncOutcomes es, ∀ n, x.notice? = some n →
    n.2.field? "rule" = some (.str x.subject.rule) ∧
      n.2.field? "operation" = some (.str x.subject.operation)
  /-- What a thread reports is how the execution of its operation has ended. -/
  results : ∀ a, .reported a ∈ asyncOutcomes es → ∃ w c, s.ticks.work a.dispatch = some w ∧
    w.stage = .ended c ∧ a = ⟨a.dispatch, w.rule, w.operation, c.result w.operation.name⟩
  /-- An outcome without a notice comes behind a stop of the operator. -/
  stopped : ∀ front a f back, es = front ++ .report a :: back → a.result = .error f →
    f.isStopped = true → .tick (.others .stop) ∈ front
  /-- A tick that returns a report has counted the operations since it has taken its plan. -/
  counts : ∀ front report back, es = front ++ .answer (.ok report) :: back →
    ∃ before plan mid, front = before ++ .takePlan (.ok plan) :: mid ∧
      (∀ e ∈ mid, e.isBorder = false) ∧ report.asyncDispatched = (asyncDispatches mid).length

/-- The numbers of the operations are different. -/
theorem nodup_asyncDispatches (ho : o.inFlight = []) (hsignalled : o.signalled = [])
    (h : Run RowStep (.begin o context) es s) : ((asyncDispatches es).map (·.dispatch)).Nodup := by
  refine List.nodup_iff_count.2 fun d => ?_
  have hcount : ((asyncDispatches es).map (·.dispatch)).count d = (dispatchesOf d es).length := by
    rw [List.count, List.countP_map, List.countP_eq_length_filter]
    rfl
  rw [hcount]
  cases hw : s.ticks.work d with
  | none =>
      rw [(tellsOf_eq_nil (rowUntouched h hw).events).1]
      exact Nat.zero_le 1
  | some w =>
      rw [(asyncFits ho hsignalled h hw).dispatched]
      split <;> simp

/-- Where every operation has one outcome, the outcomes are those of the operations. -/
theorem outcomes_perm (h : ∀ d, (outcomesOf d es).map (·.subject) = dispatchesOf d es) :
    ((asyncOutcomes es).map (·.subject)).Perm (asyncDispatches es) := by
  refine List.perm_iff_count.2 fun x => ?_
  -- it is enough to count what was told of the dispatch of the operation
  have hx : ∀ l : List AsyncDispatch,
      (l.filter (·.dispatch == x.dispatch)).count x = l.count x := fun l =>
    List.count_filter (beq_self_eq_true _)
  calc ((asyncOutcomes es).map (·.subject)).count x
      = ((outcomesOf x.dispatch es).map (·.subject)).count x := by
        rw [← hx, List.filter_map]
        rfl
    _ = (dispatchesOf x.dispatch es).count x := by rw [h]
    _ = (asyncDispatches es).count x := hx _

/-- The thread of an operation has answered a stop only if the operation was told to stop. -/
theorem stop_of_report (ho : o.inFlight = []) (hsignalled : o.signalled = [])
    {front back : List RowEvent} {a : Answer} {f : ActionFailure}
    (h : Run RowStep (.begin o context) (front ++ .report a :: back) s) (hresult : a.result = .error f)
    (hstop : f.isStopped = true) : .tick (.others .stop) ∈ front := by
  obtain ⟨m, m', hfront, hstep⟩ := h.split
  cases hstep with
  | report hleaving =>
      cases hw : m.ticks.work a.dispatch with
      | none =>
          rw [(rowUntouched hfront hw).leaving] at hleaving
          cases hleaving
      | some w =>
          have hfits := asyncFits ho hsignalled hfront hw
          obtain ⟨-, -, c, hended, hsame, -⟩ := hfits.of_leaving hleaving
          have hc : c = .failed f := by
            rw [hsame] at hresult
            cases c with
            | done => cases hresult
            | failed =>
                cases hresult
                rfl
            | panicked =>
                cases hresult
                cases hstop
          have htold := hfits.genuine f (hc ▸ hended) hstop
          have hstopped := (rowSignalFits ho hsignalled hfront).signalled _ htold
          rcases rowStopped hfront hstopped with hbefore | hmem
          · obtain ⟨-, -, -, hidle⟩ := rowIdle hbefore hfront
            rw [hidle] at hw
            cases hw
          · exact hmem

theorem result_of_outcome (ho : o.inFlight = []) (hsignalled : o.signalled = [])
    (h : Run RowStep (.begin o context) es s) {a : Answer} (ha : .reported a ∈ asyncOutcomes es) :
    ∃ w c, s.ticks.work a.dispatch = some w ∧ w.stage = .ended c ∧
      a = ⟨a.dispatch, w.rule, w.operation, c.result w.operation.name⟩ := by
  have hmem : .reported a ∈ outcomesOf a.dispatch es := List.mem_filter.2 ⟨ha, beq_self_eq_true _⟩
  cases hw : s.ticks.work a.dispatch with
  | none =>
      rw [(tellsOf_eq_nil (rowUntouched h hw).events).2] at hmem
      cases hmem
  | some w =>
      have hfits := asyncFits ho hsignalled h hw
      cases hdetached : w.detached with
      | false =>
          rw [(hfits.waited hdetached).1] at hmem
          cases hmem
      | true =>
          cases hfits.fate hdetached with
          | underway _ _ hnone | leaving _ _ _ hnone =>
              rw [hnone] at hmem
              cases hmem
          | reported _ hended hone =>
              rw [hone] at hmem
              exact ⟨w, _, rfl, hended, AsyncOutcome.reported.inj (List.mem_singleton.1 hmem)⟩
          | abandoned _ _ hone =>
              rw [hone] at hmem
              cases List.mem_singleton.1 hmem

/-- **No operation gets lost that a tick does not wait for, and none is told of twice.** When ticks have
run in a row, as many as there were, and the threads have been waited for, each such operation has one
outcome, and the notices about such operations are those of the outcomes. -/
theorem accountsForAsync (ho : o.inFlight = []) (hsignalled : o.signalled = [])
    (h : Run RowStep (.begin o context) es s) (hjoined : s.stage = .joined) :
    AccountsForAsync es s where
  numbers := nodup_asyncDispatches ho hsignalled h
  outcomes := outcomes_perm (outcomesOf_of_joined ho hsignalled h hjoined)
  log := asyncLog h
  names := fun x _ _ hn => (x.names_of_notice hn).2
  results := fun _ => result_of_outcome ho hsignalled h
  stopped := fun _ _ _ _ hes => stop_of_report ho hsignalled (hes ▸ h)
  counts := fun _ _ _ => asyncDispatched_eq h

/-- A tick does not wait for two operations. The second completes; then the operator is stopped, and the
first answers the stop. -/
theorem accountsForAsync_of_stop : ∃ (o : Operator) (es : List RowEvent) (s : TickRow),
    (∀ plan, o.plan = some plan → Plan.compile .builtin plan.template = .ok plan) ∧
      o.inFlight = [] ∧ o.signalled = [] ∧ Run RowStep (.begin o {}) es s ∧ s.stage = .joined ∧
      asyncDispatches es = [⟨1, "shoot", "press"⟩, ⟨2, "shoot", "wait"⟩] ∧
      (s.ticks.notices.filter (·.isAsync)).map (·.1) = [.actionCompleted] ∧
      AccountsForAsync es s := by
  let pressing : Descriptor :=
    { name := "press", params := [("hold_ms", .num (.int 0)), ("key", .str "space")], async := true }
  let waiting : Descriptor := { name := "wait", params := [("ms", .num (.int 0))], async := true }
  let press : Compiled := ⟨pressing, .press "space" .zero⟩
  let wait : Compiled := ⟨waiting, .wait .zero⟩
  let plan : Plan :=
    { template :=
        { subDir := "main", name := "demo", rules := [{ id := "shoot", operations := [pressing, waiting] }] }
      operations := [("shoot", [press, wait])] }
  let o : Operator :=
    { store := ⟨⟨"rules", ["rules"]⟩⟩, registry := .builtin, subDir := "main", name := "demo",
      lifecycle := .loaded, plan := some plan }
  have hbuiltin : ∀ p, o.plan = some p → Plan.compile .builtin p.template = .ok p := by
    intro p hp
    obtain rfl : plan = p := Option.some.inj hp
    decide +kernel
  let first (stage : ExecStage) : TickWork := ⟨"shoot", press, true, stage⟩
  let second (stage : ExecStage) : TickWork := ⟨"shoot", wait, true, stage⟩
  have tick : ∀ {es : List RowEvent} {s : TickRow} {e : TickEvent} {t : TickThreads},
      Run RowStep (.begin o {}) es s → (∀ a, e ≠ .conclude a) ∧ e.worker? = none →
      TickStep s.ticks e t → Run RowStep (.begin o {}) (es ++ [.tick e]) { s with ticks := t } :=
    fun h he hstep => h.snoc (.tick_of_no_worker he.1 he.2 hstep)
  have h1 : Run RowStep (.begin o {}) [] (.begin o {}) := .nil
  have h2 := (h1.snoc (@RowStep.enterTick _ (.ok ()) _ rfl rfl)).snoc
    (@RowStep.takePlan _ plan rfl rfl)
  have h3 := tick h2 ⟨by simp, rfl⟩ (.look rfl)
  -- both operations get their threads, and the tick returns
  have h4 := tick h3 ⟨by simp, rfl⟩ (.take (w := first .fresh) rfl rfl .take)
  have h5 := tick h4 ⟨by simp, rfl⟩ (.own (d := 1) (w := first .fresh) rfl .enter (.enter 1 _ rfl))
  have h6 := tick h5 ⟨by simp, rfl⟩ (.own (d := 1) (w := first .fresh) rfl .check (.check 1 rfl))
  have h7 := h6.snoc (.tick (by simp) (.spawn (d := 1) (w := first .fresh) rfl rfl rfl rfl))
  have h8 := tick h7 ⟨by simp, rfl⟩ (.take (w := second .fresh) rfl rfl .take)
  have h9 := tick h8 ⟨by simp, rfl⟩ (.own (d := 2) (w := second .fresh) rfl .enter (.enter 2 _ rfl))
  have h10 := tick h9 ⟨by simp, rfl⟩ (.own (d := 2) (w := second .fresh) rfl .check (.check 2 rfl))
  have h11 := h10.snoc (.tick (by simp) (.spawn (d := 2) (w := second .fresh) rfl rfl rfl rfl))
  have h12 := (tick h11 ⟨by simp, rfl⟩ (.emit rfl)).snoc (.answer rfl rfl)
  -- the second operation completes
  have h13 := tick h12 ⟨by simp, rfl⟩ (.own (d := 2) (w := second .fresh) rfl .start (.start 2 rfl))
  have h14 := tick h13 ⟨by simp, rfl⟩ (.exec (d := 2) (w := second .fresh) rfl rfl .begin)
  have h15 := tick h14 ⟨by simp, rfl⟩
    (.exec (d := 2) (w := second (.sleeping 0)) rfl rfl (.wake (.inr (Nat.le_refl 0))))
  have h16 := tick h15 ⟨by simp, rfl⟩
    (.own (d := 2) (w := second (.ended .done)) rfl (.finish rfl) (.finish 2 rfl))
  have h17 := h16.snoc (.leave (d := 2) (w := second (.ended .done)) rfl rfl rfl (.leave 2 rfl))
  have h18 := h17.snoc (.report (a := ⟨2, "shoot", wait, .ok ()⟩) rfl)
  -- the operator is stopped before the first one begins
  have h19 := tick h18 ⟨by simp, rfl⟩ (.others (by simp [OperatorEvent.dispatch?]) .stop)
  have h20 := tick h19 ⟨by simp, rfl⟩ (.others (by simp [OperatorEvent.dispatch?]) (.look rfl))
  have h21 := tick h20 ⟨by simp, rfl⟩ (.others (by simp [OperatorEvent.dispatch?]) (.reach 1 rfl (by decide)))
  have h22 := tick h21 ⟨by simp, rfl⟩ (.own (d := 1) (w := first .fresh) rfl .start (.start 1 rfl))
  have h23 := tick h22 ⟨by simp, rfl⟩ (.exec (d := 1) (w := first .fresh) rfl rfl .begin)
  let late : ExecStage := .ended (.failed (.stopped "press"))
  have h24 := tick h23 ⟨by simp, rfl⟩ (.own (d := 1) (w := first late) rfl (.finish rfl) (.finish 1 rfl))
  have h25 := h24.snoc (.leave (d := 1) (w := first late) rfl rfl rfl (.leave 1 rfl))
  have h26 := h25.snoc (.report (a := ⟨1, "shoot", press, .error (.stopped "press")⟩) rfl)
  have h27 := h26.snoc (.takeWorkers rfl)
  have h28 := h27.snoc (@RowStep.join _ 1 [2] rfl ⟨rfl, rfl⟩)
  have h29 := h28.snoc (@RowStep.join _ 2 [] rfl ⟨rfl, rfl⟩)
  have h30 := h29.snoc (.joined rfl)
  exact ⟨o, _, _, hbuiltin, rfl, rfl, h30, rfl, by decide +kernel, rfl,
    accountsForAsync rfl rfl h30 rfl⟩

end Accounts

end RuleEngine
