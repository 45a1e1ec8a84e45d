import RuleEngine.Proofs.Operator.TickOrigins

set_option autoImplicit false

/-! # What a tick leaves alone

A call that runs a tick changes the context at three places: the tick gets a number, the rule is noted of
every operation that the tick has waited for and that has completed, and operations write facts when they
are executed. Where nobody else changes the context, nothing else happens to it, however the tick ends; and
a call that is refused leaves all of it as it is (`FramesTick`).
-/

namespace RuleEngine

/-! ## Calls -/

/-- What a call that runs a tick returns, if it returns at this event. -/
def RowEvent.result? : RowEvent → Option (Except EngineError TickReport)
  | .enterTick (.error e) | .takePlan (.error e) => some (.error e)
  | .answer result => some result
  | _ => none

/-- A call that runs a tick, with what others do meanwhile: it is let in or refused at its first event, and
returns at its last one. -/
inductive IsTickCall : List RowEvent → Except EngineError TickReport → Prop
  | mk {body : List RowEvent} {last : RowEvent} {answer : Except EngineError Unit}
      {result : Except EngineError TickReport} :
      (body ++ [last]).head? = some (.enterTick answer) → (∀ e ∈ body, e.result? = none) →
      last.result? = some result → IsTickCall (body ++ [last]) result

section Calls

variable {es : List RowEvent} {s t : TickRow} {e : RowEvent}

/-- A tick that runs goes on until it returns. -/
theorem RowStep.ticking (h : RowStep s e t) (hs : s.stage = .ticking) (he : e.result? = none) :
    t.stage = .ticking ∧ ∀ plan, e ≠ .takePlan (.ok plan) := by
  cases h with
  | tick | leave | report | reap => exact ⟨hs, nofun⟩
  | answer => cases he
  | enterTick hfree | takeWorkers hfree =>
      rw [hs] at hfree
      cases hfree
  | takePlan hstage | planGone hstage | join hstage | joined hstage =>
      rw [hs] at hstage
      cases hstage

theorem ticking_run (h : Run RowStep s es t) (hs : s.stage = .ticking)
    (hes : ∀ e ∈ es, e.result? = none) :
    t.stage = .ticking ∧ ∀ plan, .takePlan (.ok plan) ∉ es := by
  induction h with
  | nil => exact ⟨hs, fun _ => List.not_mem_nil⟩
  | @snoc es m t e _ hstep ih =>
      obtain ⟨hm, hnone⟩ := ih fun e he => hes e (List.mem_append_left _ he)
      obtain ⟨ht, hlast⟩ :=
        hstep.ticking hm (hes e (List.mem_append_right _ (List.mem_singleton_self _)))
      refine ⟨ht, fun plan hmem => ?_⟩
      rcases List.mem_append.1 hmem with hmem | hmem
      · exact hnone plan hmem
      · exact hlast plan (List.mem_singleton.1 hmem).symm

/-- A tick that runs returns when its program is at its end. -/
theorem RowStep.returned {result : Except EngineError TickReport} (h : RowStep s e t)
    (hs : s.stage = .ticking) (he : e.result? = some result) : t.ticks.program = .ret result := by
  cases h with
  | answer _ hprogram =>
      cases he
      exact hprogram
  | enterTick hfree =>
      rw [hs] at hfree
      cases hfree
  | planGone hstage =>
      rw [hs] at hstage
      cases hstage
  | _ => cases he

/-- Where no tick runs and none has returned, none has begun. -/
theorem not_takePlan_of_run (h : Run RowStep s es t) (ht : t.stage ≠ .ticking)
    (hes : ∀ e ∈ es, e.result? = none) (plan : Plan) : .takePlan (.ok plan) ∉ es := by
  intro hmem
  obtain ⟨front, back, rfl⟩ := List.append_of_mem hmem
  obtain ⟨m, -, hrest⟩ := h.cut
  obtain ⟨m', hstep, hback⟩ := hrest.cases_cons
  have hm : m'.stage = .ticking := by
    cases hstep with
    | takePlan => rfl
  -- it would still run
  exact ht (ticking_run hback hm fun e he =>
    hes e (List.mem_append_right _ (List.mem_cons_of_mem _ he))).1

/-- Without a plan no tick runs. -/
theorem not_ticking_run (h : Run RowStep s es t) (hs : s.stage ≠ .ticking)
    (hes : ∀ plan, .takePlan (.ok plan) ∉ es) : t.stage ≠ .ticking := by
  induction h with
  | nil => exact hs
  | @snoc es m t e _ hstep ih =>
      have hm := ih fun plan hmem => hes plan (List.mem_append_left _ hmem)
      cases hstep with
      | tick | leave | report | reap => exact hm
      | @enterTick answer => cases answer <;> nofun
      | @takePlan plan => exact absurd (List.mem_append_right _ (List.mem_singleton_self _)) (hes plan)
      | planGone | answer | takeWorkers | join | joined => nofun

/-- No tick gets its number. -/
theorem begun_eq_zero (hes : ∀ plan, .takePlan (.ok plan) ∉ es) :
    es.countP RowEvent.isBeginning = 0 := by
  rw [List.countP_eq_zero]
  intro e he hbeginning
  unfold RowEvent.isBeginning at hbeginning
  split at hbeginning
  · exact hes _ he
  · cases hbeginning

/-- While no tick begins, the programs of ticks go on by what they do and are answered. -/
theorem rowProgram_run (h : Run RowStep s es t) (hes : ∀ plan, .takePlan (.ok plan) ∉ es) :
    Run ProgramStep s.ticks.program (rowActs es) t.ticks.program := by
  induction h with
  | nil => exact .nil
  | @snoc es m t e _ hstep ih =>
      have hrun := ih fun plan hmem => hes plan (List.mem_append_left _ hmem)
      have hsilent : rowActs [e] = [] →
          Run ProgramStep s.ticks.program (rowActs (es ++ [e])) m.ticks.program := by
        intro hnone
        rw [rowActs_append, hnone, List.append_nil]
        exact hrun
      cases hstep with
      | @tick x _ _ htick =>
          rcases htick.program_cases with ⟨hact, hsame⟩ | ⟨a, hact, hprogram⟩
          · dsimp only
            rw [hsame]
            exact hsilent (by simp [rowActs, hact])
          · have hlast : rowActs [.tick x] = [a] := by simp [rowActs, hact]
            rw [rowActs_append, hlast]
            exact hrun.snoc hprogram
      | @takePlan plan => exact absurd (List.mem_append_right _ (List.mem_singleton_self _)) (hes plan)
      | _ => exact hsilent rfl

/-- A call that gets no plan is refused. -/
theorem IsTickCall.refused {call : List RowEvent} {result : Except EngineError TickReport}
    (hcall : IsTickCall call result) (h : Run RowStep s call t) (hs : s.stage ≠ .ticking)
    (hnone : ∀ plan, .takePlan (.ok plan) ∉ call) :
    ∃ state, result = .error (.invalidState "run a tick" state) := by
  cases hcall with
  | mk _ _ hlast =>
      obtain ⟨m, hrun, hstep⟩ := h.cases_snoc
      have hm := not_ticking_run hrun hs fun plan hmem => hnone plan (List.mem_append_left _ hmem)
      cases hstep with
      | enterTick _ henter =>
          rcases Operator.enterTick_cases henter with ⟨-, rfl, -⟩ | ⟨-, rfl, -⟩
          · cases hlast
          · cases hlast
            exact ⟨_, rfl⟩
      | planGone _ hcurrent =>
          cases hlast
          unfold Operator.currentPlan at hcurrent
          split at hcurrent
          · cases hcurrent
          · cases hcurrent
            exact ⟨_, rfl⟩
      | answer hticking => exact absurd hticking hm
      | _ => cases hlast

/-- A call has got its plan, and the tick has returned: what has happened before the tick got its number,
and since. -/
structure RanTick (s t : TickRow) (plan : Plan) (result : Except EngineError TickReport)
    (front tail : List RowEvent) (m m' : TickRow) : Prop where
  first : Run RowStep s front m
  step : RowStep m (.takePlan (.ok plan)) m'
  rest : Run RowStep m' tail t
  returned : t.ticks.program = .ret result
  /-- It is the only plan that the call has got. -/
  once : ∀ p, .takePlan (.ok p) ∉ front ∧ .takePlan (.ok p) ∉ tail

/-- A call that gets a plan gets one only, and its tick returns. -/
theorem IsTickCall.ran {call : List RowEvent} {result : Except EngineError TickReport} {plan : Plan}
    (hcall : IsTickCall call result) (h : Run RowStep s call t) (hplan : .takePlan (.ok plan) ∈ call) :
    ∃ front tail m m', call = front ++ .takePlan (.ok plan) :: tail ∧
      RanTick s t plan result front tail m m' := by
  cases hcall with
  | @mk body last _ _ _ hbody hlast =>
      have hmem : .takePlan (.ok plan) ∈ body := by
        rcases List.mem_append.1 hplan with hmem | hmem
        · exact hmem
        · cases List.mem_singleton.1 hmem
          cases hlast
      obtain ⟨front, mid, rfl⟩ := List.append_of_mem hmem
      obtain ⟨u, hrun, hend⟩ := h.cases_snoc
      obtain ⟨m, hfront, hrest⟩ := hrun.cut
      obtain ⟨m', hstep, hmid⟩ := hrest.cases_cons
      have hplanning : m.stage = .planning ∧ m'.stage = .ticking := by
        cases hstep with
        | takePlan hstage => exact ⟨hstage, rfl⟩
      obtain ⟨hu, hnone⟩ := ticking_run hmid hplanning.2 fun e he =>
        hbody e (List.mem_append_right _ (List.mem_cons_of_mem _ he))
      have hfresh := not_takePlan_of_run hfront (by rw [hplanning.1]; nofun) fun e he =>
        hbody e (List.mem_append_left _ he)
      refine ⟨front, mid ++ [last], m, m', by simp, hfront, hstep, hmid.snoc hend,
        hend.returned hu hlast, fun p => ⟨hfresh p, fun hp => ?_⟩⟩
      rcases List.mem_append.1 hp with hp | hp
      · exact hnone p hp
      · cases List.mem_singleton.1 hp
        cases hlast

namespace RanTick

variable {plan : Plan} {result : Except EngineError TickReport} {front tail : List RowEvent}
  {m m' : TickRow}

theorem run (h : RanTick s t plan result front tail m m') :
    Run RowStep s (front ++ .takePlan (.ok plan) :: tail) t := by
  rw [List.append_cons]
  exact (h.first.snoc h.step).append h.rest

theorem plan_eq (h : RanTick s t plan result front tail m m') : s.operator.plan = some plan := by
  refine rowPlan h.first ?_
  cases h.step with
  | takePlan _ hcurrent => exact Operator.plan_of_currentPlan hcurrent

theorem program_eq (h : RanTick s t plan result front tail m m') :
    m'.ticks.program =
      Tick.program plan m.ticks.context.beginTick.tick m.ticks.context.facts.get? := by
  cases h.step with
  | takePlan => rfl

/-- and goes through it to its end. -/
theorem ends (h : RanTick s t plan result front tail m m') :
    (Tick.program plan m.ticks.context.beginTick.tick m.ticks.context.facts.get?).Ends
      (rowActs tail) result := by
  have hrun := rowProgram_run h.rest fun p => (h.once p).2
  rwa [h.program_eq, h.returned] at hrun

/-- The call has got one number. -/
theorem begun (h : RanTick s t plan result front tail m m') :
    (front ++ .takePlan (.ok plan) :: tail).countP RowEvent.isBeginning = 1 := by
  rw [List.countP_append, List.countP_cons, begun_eq_zero fun p => (h.once p).1,
    begun_eq_zero fun p => (h.once p).2]
  rfl

end RanTick

end Calls

/-! ## Built-in operations -/

/-- A built-in operation with this descriptor writes such a fact, given what the lane has found. -/
inductive Descriptor.Writes (found : List (Option Json)) (d : Descriptor) : FactWrite → Prop
  | setFact {key : String} {value : Json} :
      d.name = "set_fact" → d.text "key" = .ok key → d.params.get? "value" = some value →
      Writes found d ⟨key, some value⟩
  | recognize {key : String} {value : Option Json} :
      d.name = "recognize" → d.text "result_key" = .ok key → value ∈ found →
      Writes found d ⟨key, value⟩

namespace Variant

variable {d : Descriptor} {key target : String} {value : Json}

theorem reads_setFact (h : setFact.effect d = .ok (.setFact key value)) :
    d.text "key" = .ok key ∧ d.params.get? "value" = some value := by
  unfold setFact at h
  dsimp only at h
  split at h
  · cases h
  · split at h
    · cases h
    · next htext =>
      split at h
      · next hvalue =>
        cases h
        exact ⟨htext, hvalue⟩
      · cases h

theorem reads_recognize (h : recognize.effect d = .ok (.recognize target key)) :
    d.text "result_key" = .ok key := by
  unfold recognize at h
  dsimp only at h
  split at h
  · cases h
  · obtain ⟨key', htext, hkey⟩ := Except.map_eq_ok.1 h
    cases hkey
    exact htext

end Variant

section Builtin

variable {d : Descriptor} {c : Compiled}

/-- Only `set_fact` and `recognize` write facts, and their descriptors say which. -/
theorem Registry.writes_of_compile {found : List (Option Json)} {x : FactWrite}
    (h : builtin.compile d = .ok c) (hx : c.effect.Writes found x) : d.Writes found x := by
  have hbase := base_of_compile h
  obtain ⟨v, effect, hv, -, heffect, rfl⟩ := compile_eq_ok.1 h
  dsimp only at hx
  cases hx with
  | setFact key value =>
      have hname : d.name = "set_fact" := (congrArg OperationBase.name hbase).symm
      rw [hname] at hv
      cases hv
      obtain ⟨htext, hvalue⟩ := Variant.reads_setFact heffect
      exact .setFact hname htext hvalue
  | recognize hfound =>
      have hname : d.name = "recognize" := (congrArg OperationBase.name hbase).symm
      rw [hname] at hv
      cases hv
      exact .recognize hname (Variant.reads_recognize heffect) hfound

/-- A built-in operation that may write a fact and that a tick does not wait for is `recognize`. -/
theorem Registry.recognize_of_async (h : builtin.compile d = .ok c)
    (hkey : c.effect.factKey? ≠ none) (hasync : c.isAsync = true) :
    ∃ target key, c.effect = .recognize target key := by
  have hbase := congrArg OperationBase.async (base_of_compile h)
  obtain ⟨v, effect, -, -, -, rfl⟩ := compile_eq_ok.1 h
  cases effect with
  | turn | press | wait => exact absurd rfl hkey
  | setFact key value =>
      -- it is never asynchronous
      cases hbase.trans hasync
  | recognize target key => exact ⟨target, key, rfl⟩

/-- What belongs to a plan of built-in operations was compiled from a descriptor of one of its rules. -/
theorem TickWork.Belongs.exists_rule {plan : Plan} {rules : List Rule} {w : TickWork}
    (h : w.Belongs plan rules) (hrules : rules ⊆ plan.template.rules)
    (hplan : Plan.compile .builtin plan.template = .ok plan) :
    ∃ r ∈ rules, w.operation.descriptor ∈ r.operations ∧
      Registry.builtin.compile w.operation.descriptor = .ok w.operation := by
  obtain ⟨r, hr, -, hmem, -⟩ := h
  obtain ⟨d, hd, hcompile⟩ := (Plan.compiles_operationsOf hplan r (hrules hr)).exists_descriptor hmem
  obtain ⟨v, effect, -, -, -, hsame⟩ := Registry.compile_eq_ok.1 hcompile
  have hdescriptor : w.operation.descriptor = d := by rw [hsame]
  rw [hdescriptor]
  exact ⟨r, hr, hd, hcompile⟩

end Builtin

/-! ## The frame -/

/-- What a tick makes of the context. -/
structure TickFrame (plan : Plan) (call : List RowEvent) (before after : Context) : Prop where
  /-- The tick has a number of its own. -/
  tick : after.tick = before.tick + 1
  /-- The last rule is that of the last operation that the tick has waited for and that has completed, -/
  lastRule : after.lastRule =
    (TickAct.completedRules (rowActs call)).getLast?.or before.lastRule
  /-- and without such an operation there was no action. -/
  lastAction : TickAct.completedRules (rowActs call) = [] →
    after.lastAction = before.lastAction ∧ after.moments = before.moments
  /-- A fact that nobody has written is as it was before; -/
  kept : ∀ key, (∀ x ∈ factWrites call, x.fact.key ≠ key) →
    after.facts.get? key = before.facts.get? key
  /-- of the others the last write counts. -/
  last : ∀ front x back, factWrites call = front ++ x :: back →
    (∀ y ∈ back, y.fact.key ≠ x.fact.key) → after.facts.get? x.fact.key = x.fact.value
  /-- What was written was written by operations of the rules that fire: `set_fact` its value to its
  key, and `recognize` what the lane has found to its result key. -/
  writers : ∀ x ∈ factWrites call, ∃ r ∈ Tick.selected plan before,
    x.operation.descriptor ∈ r.operations ∧
      x.operation.descriptor.Writes (foundOf x.dispatch call) x.fact
  /-- Of the operations that the tick has waited for, those have written a fact that are there for it and
  have completed. -/
  answered : ∀ a, .tick (.answer a) ∈ call →
    ((∃ x ∈ factWrites call, x.dispatch = a.dispatch) ↔
      a.result = .ok () ∧ a.operation.effect.factKey? ≠ none)

/-- What a call that runs a tick makes of the context, behind its result. -/
inductive FramesTick (call : List RowEvent) (s t : TickRow) : Except EngineError TickReport → Prop
  /-- It was refused. -/
  | refused (state : String) :
      t.ticks.context = s.ticks.context →
      FramesTick call s t (.error (.invalidState "run a tick" state))
  | ran {plan : Plan} {result : Except EngineError TickReport} :
      s.operator.plan = some plan →
      (∀ e, result = .error e → ∃ rule f, e = .criticalActionFailed rule f) →
      TickFrame plan call s.ticks.context t.ticks.context → FramesTick call s t result

section Frame

variable {o : Operator} {context : Context} {before es call : List RowEvent} {s m t : TickRow}
  {w : TickWork} {result : Except EngineError TickReport}

/-- No `recognize` is pending that an earlier tick has not waited for. -/
def NonePending (s : TickRow) : Prop :=
  ∀ d w, s.ticks.work d = some w → w.detached = true →
    (∃ target key, w.operation.effect = .recognize target key) → s.ticks.threads.stage d = .ended

variable (ho : o.inFlight = []) (hsignalled : o.signalled = [])
  (hbuiltin : ∀ plan, o.plan = some plan → Plan.compile .builtin plan.template = .ok plan)
  (hbefore : Run RowStep (.begin o context) before s)

include ho hsignalled hbefore

include hbuiltin in
/-- Between ticks all dispatches have ended that may write a fact, if none is pending. -/
theorem writersAmong_none (hfree : s.stage ≠ .ticking) (hpending : NonePending s) :
    WritersAmong (fun _ => False) s := by
  intro d w hw hkey hopen
  cases hdetached : w.detached with
  | false => exact hopen (rowLeft ho hsignalled hbefore hfree hw hdetached)
  | true =>
      obtain ⟨plan, hplan, hbelongs⟩ := rowBelongs hbefore hw
      obtain ⟨_, _, -, hcompile⟩ := hbelongs.exists_rule (List.Subset.refl _) (hbuiltin plan hplan)
      obtain ⟨_, _, -, -, hasync⟩ := hbelongs
      have hrecognize := Registry.recognize_of_async hcompile hkey (hasync.symm.trans hdetached)
      exact hopen (hpending d w hw hdetached hrecognize)

/-- Without a tick, and with nothing pending, the context stays as it is. -/
theorem context_of_quiet (hfree : s.stage ≠ .ticking) (hnone : WritersAmong (fun _ => False) s)
    (h : Run RowStep s es t) (hes : ∀ plan, .takePlan (.ok plan) ∉ es)
    (halone : ∀ c, .tick (.context c) ∉ es) :
    WritersAmong (fun _ => False) t ∧ factWrites es = [] ∧ rowActs es = [] ∧
      t.ticks.context = s.ticks.context := by
  obtain ⟨r, hprogram⟩ := rowProgram hbefore hfree
  have hbegins : s.ticks.program.Begins fun _ => False := by
    rw [hprogram]
    trivial
  obtain ⟨-, hstill, hwriters⟩ := rowWriters ho hsignalled hbefore h hbegins hnone hes
  have hwrites : factWrites es = [] := by
    refine List.eq_nil_iff_forall_not_mem.2 fun x hx => ?_
    obtain ⟨_, hfalse, -⟩ := hwriters x hx
    exact hfalse
  have hacts : rowActs es = [] := by
    obtain ⟨r', hprogram'⟩ := rowProgram (hbefore.append h) (not_ticking_run h hfree hes)
    have hrun := rowProgram_run h hes
    rw [hprogram, hprogram'] at hrun
    exact (TickProgram.Ends.of_ret hrun).1
  refine ⟨hstill, hwrites, hacts, (rowContext h halone).eq_of_silent hwrites ?_ (begun_eq_zero hes)⟩
  rw [recordedRules, hacts]
  rfl

/-- What is written is what the effect says and the lane has found since. -/
theorem rowWrites (hnone : WritersAmong (fun _ => False) s) (h : Run RowStep s es t) {x : ExecWrite}
    (hx : x ∈ factWrites es) : x.operation.effect.Writes (foundOf x.dispatch es) x.fact := by
  obtain ⟨d, c, fact⟩ := x
  obtain ⟨event, hmem, hfact⟩ := mem_factWrites.1 hx
  obtain ⟨front, back, rfl⟩ := List.append_of_mem hmem
  obtain ⟨m, m', hfront, hstep⟩ := h.split
  cases hstep with
  | tick _ htick =>
      cases htick with
      | @exec _ w _ _ hstage hwork hexec =>
          have hwrites := hexec.writes (rowFate ho hsignalled (hbefore.append hfront) hwork) hfact
          -- all others that may write a fact had ended
          have hnew : s.ticks.work d = none :=
            rowSince ho hsignalled hbefore hfront hwork (by rw [hstage]; nofun) fun stage hold =>
              by_contra fun hopen => hnone d _ hold (by rw [hwrites.factKey?]; nofun) hopen
          rw [(tellsOf_behind (rowUntouched hbefore hnew).events front).1] at hwrites
          refine hwrites.mono ?_
          rw [foundOf, foundOf, execsOf_append, List.filterMap_append]
          exact List.subset_append_left _ _

/-- Of the operations that a tick has waited for, those have written a fact that are there for it and have
completed. -/
theorem wrote_of_answer (hfree : s.stage ≠ .ticking) (h : Run RowStep s es t) {a : Answer}
    (ha : .tick (.answer a) ∈ es) :
    (∃ x ∈ factWrites es, x.dispatch = a.dispatch) ↔
      a.result = .ok () ∧ a.operation.effect.factKey? ≠ none := by
  obtain ⟨front, back, rfl⟩ := List.append_of_mem ha
  obtain ⟨m, hfront, hrest⟩ := h.cut
  obtain ⟨m', hstep, hback⟩ := hrest.cases_cons
  have hall := (hbefore.append hfront).snoc hstep
  cases hstep with
  | tick _ htick =>
      cases htick with
      | @answer d w c _ _ hprogram hcurrent hwork hended hop =>
          have hwaited : w.detached = false :=
            (rowAtWork (hbefore.append hfront)).detached hcurrent hwork
              (congrArg TickProgram.work? hprogram)
          -- all others that a tick has waited for had ended
          have hnew : s.ticks.work d = none :=
            rowSince ho hsignalled hbefore hfront hwork (by rw [hop.leave_stages.1]; nofun)
              fun stage hold => rowLeft ho hsignalled hbefore hfree hold hwaited
          -- and nothing happens to it behind its answer
          obtain ⟨hsame, -⟩ := rowEnded ho hsignalled hall hback (d := d)
            (by show m.ticks.work d ≠ none; rw [hwork]; nofun) hop.leave_stages.2
          have hfate := rowFate ho hsignalled (hbefore.append h) (hsame.trans hwork)
          rw [hended, (tellsOf_behind (rowUntouched hbefore hnew).events _).2] at hfate
          rw [exists_factWrite_iff]
          generalize writesOf d _ = written at hfate ⊢
          cases hfate with
          | away haway => cases haway
          | failed hfailed => cases c <;> simp_all [Completion.result]
          | done hkey => simp [hkey]
          | written hwrites => simp [Completion.result, hwrites.factKey?]

include hbuiltin in
/-- What is written while a tick runs is written by operations of the rules that fire. -/
theorem writers_of_ran {plan : Plan} {front tail : List RowEvent} {m m' : TickRow}
    (h : RanTick s t plan result front tail m m') (hnone : WritersAmong (fun _ => False) m)
    {x : ExecWrite} (hx : x ∈ factWrites tail) :
    ∃ r ∈ Tick.selected plan m.ticks.context, x.operation.descriptor ∈ r.operations ∧
      Registry.builtin.compile x.operation.descriptor = .ok x.operation := by
  have hbegins : m'.ticks.program.Begins (·.Belongs plan (Tick.selected plan m.ticks.context)) := by
    rw [h.program_eq]
    exact Tick.program_begins fun _ hw => hw
  have hamong : WritersAmong (·.Belongs plan (Tick.selected plan m.ticks.context)) m' := by
    cases h.step with
    | takePlan => exact fun d w hw hkey hopen => (hnone d w hw hkey hopen).elim
  obtain ⟨-, -, hwriters⟩ := rowWriters ho hsignalled ((hbefore.append h.first).snoc h.step) h.rest
    hbegins hamong fun p => (h.once p).2
  obtain ⟨w, hbelongs, hoperation⟩ := hwriters x hx
  rw [← hoperation]
  exact hbelongs.exists_rule (Rule.select_sublist _ _).subset (hbuiltin plan (rowPlan hbefore h.plan_eq))

include hbuiltin in
/-- A tick that has run leaves all else alone. -/
theorem tickFrame {plan : Plan} {front tail : List RowEvent} {m m' : TickRow}
    (h : RanTick s t plan result front tail m m') (hfree : s.stage ≠ .ticking)
    (hnone : WritersAmong (fun _ => False) s) (hsorted : s.ticks.context.facts.Sorted)
    (halone : ∀ c, .tick (.context c) ∉ front ++ .takePlan (.ok plan) :: tail) :
    TickFrame plan (front ++ .takePlan (.ok plan) :: tail) s.ticks.context t.ticks.context := by
  have hcontext := rowContext h.run halone
  -- nothing happens to the context before the tick has its number
  obtain ⟨hstill, hwrites, hacts, hsame⟩ := context_of_quiet ho hsignalled hbefore hfree hnone h.first
    (fun p => (h.once p).1) fun c hmem => halone c (List.mem_append_left _ hmem)
  have htailWrites : factWrites (front ++ .takePlan (.ok plan) :: tail) = factWrites tail := by
    rw [factWrites_append, hwrites]
    rfl
  have hrecorded : recordedRules (front ++ .takePlan (.ok plan) :: tail) =
      TickAct.completedRules (rowActs (front ++ .takePlan (.ok plan) :: tail)) := by
    rw [recordedRules, rowActs_append, hacts]
    exact Tick.program_records h.ends
  refine ⟨?_, ?_, fun hempty => ?_, fun key hkey => ?_, fun first x rest hsplit hrest => ?_,
    fun x hx => ?_, fun a => wrote_of_answer ho hsignalled hbefore hfree h.run⟩
  · rw [hcontext.tick, h.begun]
  · rw [hcontext.rule, hrecorded]
  · exact hcontext.action (hrecorded.trans hempty)
  · rw [hcontext.facts]
    exact FactWrite.get?_applyAll_of_ne (List.forall_mem_map.2 hkey)
  · rw [hcontext.facts, hsplit, List.map_append, List.map_cons]
    exact FactWrite.get?_applyAll_last _ hsorted (List.forall_mem_map.2 hrest)
  · obtain ⟨r, hr, hdescriptor, hcompile⟩ :=
      writers_of_ran ho hsignalled hbuiltin hbefore h hstill (htailWrites ▸ hx)
    rw [hsame] at hr
    exact ⟨r, hr, hdescriptor, Registry.writes_of_compile hcompile
      (rowWrites ho hsignalled hbefore hnone h.run hx)⟩

include hbuiltin in
/-- **A tick leaves all else alone**, however it ends: what it makes of the context is told by what has
completed and by what was written, and a call that is refused makes nothing of it. -/
theorem framesTick (hsorted : s.ticks.context.facts.Sorted) (hpending : NonePending s)
    (h : Run RowStep s call t) (hcall : IsTickCall call result)
    (halone : ∀ c, .tick (.context c) ∉ call) : FramesTick call s t result := by
  have hfree : s.stage ≠ .ticking := by
    cases hcall with
    | @mk body last answer _ hhead =>
        obtain ⟨rest, hcons⟩ := List.head?_eq_some_iff.1 hhead
        rw [hcons] at h
        obtain ⟨m, hstep, -⟩ := h.cases_cons
        cases hstep with
        | enterTick hstage =>
            intro hticking
            rw [hticking] at hstage
            cases hstage
  have hnone := writersAmong_none ho hsignalled hbuiltin hbefore hfree hpending
  by_cases hplan : ∃ plan, .takePlan (.ok plan) ∈ call
  · obtain ⟨plan, hplan⟩ := hplan
    obtain ⟨front, tail, m, m', rfl, hran⟩ := hcall.ran h hplan
    refine .ran hran.plan_eq (fun e he => ?_)
      (tickFrame ho hsignalled hbuiltin hbefore hran hfree hnone hsorted halone)
    have hends := hran.ends
    rw [he] at hends
    cases Tick.program_accounts hends with
    | critical => exact ⟨_, _, rfl⟩
  · have hplan := not_exists.1 hplan
    obtain ⟨state, rfl⟩ := hcall.refused h hfree hplan
    exact .refused state
      (context_of_quiet ho hsignalled hbefore hfree hnone h hplan halone).2.2.2

omit ho hsignalled hbefore in
/-- A tick writes one fact, and takes another out because the lane has not found what it stands for. -/
theorem framesTick_of_recognition : ∃ (o : Operator) (context : Context) (call : List RowEvent)
    (t : TickRow) (report : TickReport), o.inFlight = [] ∧ o.signalled = [] ∧
      (∀ plan, o.plan = some plan → Plan.compile .builtin plan.template = .ok plan) ∧
      context.facts.Sorted ∧ NonePending (.begin o context) ∧
      Run RowStep (.begin o context) call t ∧ IsTickCall call (.ok report) ∧
      (∀ c, .tick (.context c) ∉ call) ∧ context.facts = [("boss", .bool true)] ∧
      t.ticks.context.facts = [("shot", .bool true)] ∧ t.ticks.context.lastRule = some "shoot" ∧
      FramesTick call (.begin o context) t (.ok report) := by
  let marking : Descriptor :=
    { name := "set_fact", params := [("key", .str " shot "), ("value", .bool true)] }
  let looking : Descriptor :=
    { name := "recognize", params := [("result_key", .str "boss"), ("target", .str "boss.png")] }
  let mark : Compiled := ⟨marking, .setFact "shot" (.bool true)⟩
  let look : Compiled := ⟨looking, .recognize "boss.png" "boss"⟩
  let plan : Plan :=
    { template :=
        { subDir := "main", name := "demo", rules := [{ id := "shoot", operations := [marking, looking] }] }
      operations := [("shoot", [mark, look])] }
  let o : Operator :=
    { store := ⟨⟨"rules", ["rules"]⟩⟩, registry := .builtin, subDir := "main", name := "demo",
      lifecycle := .loaded, plan := some plan }
  let context : Context := { facts := [("boss", .bool true)] }
  let report : TickReport := { tick := 1, fired := ["shoot"], actions := 2 }
  have hbuiltin : ∀ p, o.plan = some p → Plan.compile .builtin p.template = .ok p := by
    intro p hp
    obtain rfl : plan = p := Option.some.inj hp
    decide +kernel
  let first (stage : ExecStage) : TickWork := ⟨"shoot", mark, false, stage⟩
  let second (stage : ExecStage) : TickWork := ⟨"shoot", look, false, stage⟩
  have tick : ∀ {es : List RowEvent} {s : TickRow} {e : TickEvent} {t : TickThreads},
      Run RowStep (.begin o context) es s → (∀ a, e ≠ .conclude a) ∧ e.worker? = none →
      TickStep s.ticks e t →
      Run RowStep (.begin o context) (es ++ [.tick e]) { s with ticks := t } :=
    fun h he hstep => h.snoc (.tick_of_no_worker he.1 he.2 hstep)
  have h1 : Run RowStep (.begin o context) [] (.begin o context) := .nil
  have h2 := (h1.snoc (@RowStep.enterTick _ (.ok ()) _ rfl rfl)).snoc
    (@RowStep.takePlan _ plan rfl rfl)
  have h3 := tick h2 ⟨by simp, rfl⟩ (.look rfl)
  -- the first operation writes its fact
  have h4 := tick h3 ⟨by simp, rfl⟩ (.take (w := first .fresh) rfl rfl .take)
  have h5 := tick h4 ⟨by simp, rfl⟩ (.own (d := 1) (w := first .fresh) rfl .enter (.enter 1 _ rfl))
  have h6 := tick h5 ⟨by simp, rfl⟩ (.own (d := 1) (w := first .fresh) rfl .check (.check 1 rfl))
  have h7 := tick h6 ⟨by simp, rfl⟩ (.own (d := 1) (w := first .fresh) rfl .start (.start 1 rfl))
  have h8 := tick h7 ⟨by simp, rfl⟩ (.exec (d := 1) (w := first .fresh) rfl rfl .begin)
  have h9 := tick h8 ⟨by simp, rfl⟩
    (.exec (d := 1) (w := first (.storing "shot" (.bool true))) rfl rfl (.write _ _))
  have h10 := tick h9 ⟨by simp, rfl⟩
    (.own (d := 1) (w := first (.ended .done)) rfl (.finish rfl) (.finish 1 rfl))
  have h11 := tick h10 ⟨by simp, rfl⟩
    (.answer (d := 1) (w := first (.ended .done)) rfl rfl rfl rfl (.leave 1 rfl))
  have h12 := tick h11 ⟨by simp, rfl⟩ (.record rfl)
  -- the lane does not find what the second one looks for
  have h13 := tick h12 ⟨by simp, rfl⟩ (.take (w := second .fresh) rfl rfl .take)
  have h14 := tick h13 ⟨by simp, rfl⟩ (.own (d := 2) (w := second .fresh) rfl .enter (.enter 2 _ rfl))
  have h15 := tick h14 ⟨by simp, rfl⟩ (.own (d := 2) (w := second .fresh) rfl .check (.check 2 rfl))
  have h16 := tick h15 ⟨by simp, rfl⟩ (.own (d := 2) (w := second .fresh) rfl .start (.start 2 rfl))
  have h17 := tick h16 ⟨by simp, rfl⟩ (.exec (d := 2) (w := second .fresh) rfl rfl .begin)
  have h18 := tick h17 ⟨by simp, rfl⟩
    (.exec (d := 2) (w := second (.submitting "boss.png" "boss")) rfl rfl (.submit _ _))
  have h19 := tick h18 ⟨by simp, rfl⟩
    (.exec (d := 2) (w := second (.awaiting "boss")) rfl rfl (.poll _ (some (.ok none))))
  have h20 := tick h19 ⟨by simp, rfl⟩
    (.exec (d := 2) (w := second (.clearing "boss")) rfl rfl (.clear _))
  have h21 := tick h20 ⟨by simp, rfl⟩
    (.own (d := 2) (w := second (.ended .done)) rfl (.finish rfl) (.finish 2 rfl))
  have h22 := tick h21 ⟨by simp, rfl⟩
    (.answer (d := 2) (w := second (.ended .done)) rfl rfl rfl rfl (.leave 2 rfl))
  have h23 := tick h22 ⟨by simp, rfl⟩ (.record rfl)
  have h24 := (tick h23 ⟨by simp, rfl⟩ (.emit rfl)).snoc (@RowStep.answer _ (.ok report) rfl rfl)
  have hsorted : context.facts.Sorted := List.pairwise_singleton _ _
  have hpending : NonePending (.begin o context) := fun _ _ hw => by cases hw
  refine ⟨o, context, _, _, report, rfl, rfl, hbuiltin, hsorted, hpending, h24, ?call, ?alone, rfl, ?facts,
    rfl, framesTick rfl rfl hbuiltin .nil hsorted hpending h24 ?call ?alone⟩
  case call =>
    refine @IsTickCall.mk _ _ (.ok ()) _ ?_ ?_ rfl
    · simp
    · simp [RowEvent.result?]
  case alone => simp
  case facts => decide +kernel

end Frame

end RuleEngine
