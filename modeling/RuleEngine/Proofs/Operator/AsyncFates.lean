import RuleEngine.Proofs.Operator.TickRow

set_option autoImplicit false

/-! # What becomes of the operations that no tick waits for

An operation that a tick does not wait for has a thread of its own, or none is found for it. Its thread
executes it, takes it out of the table and reports, in whatever order the threads come to it and
whatever the ticks do meanwhile. How far it has come decides what has been told of its outcome
(`AsyncFate`), and it is never lost from sight: it has finished, or the tick is at it, or its thread is
among those that can be waited for (`RowWorkersFit`).
-/

namespace RuleEngine

/-! ## Dispatches and outcomes -/

/-- An operation that a tick does not wait for. -/
structure AsyncDispatch where
  dispatch : Nat
  rule : String
  operation : String
deriving DecidableEq

/-- What has become of such an operation. -/
inductive AsyncOutcome
  /-- It was executed, and its thread has reported. -/
  | reported (a : Answer)
  /-- No thread was found for it. -/
  | abandoned (d : Nat) (rule operation error : String)

namespace AsyncOutcome

/-- Of which operation it is the outcome. -/
def subject : AsyncOutcome → AsyncDispatch
  | .reported a => ⟨a.dispatch, a.rule, a.operation.name⟩
  | .abandoned d rule operation _ => ⟨d, rule, operation⟩

/-- The notice that tells of it; there is none about the answer to a stop. -/
def notice? : AsyncOutcome → Option Notice
  | .reported a =>
    match a.result with
    | .ok _ => some (.actionCompleted, World.detachedData a.rule a.operation.name none)
    | .error f =>
      if f.isStopped then none
      else some (.actionFailed, World.detachedData a.rule a.operation.name (some f.message))
  | .abandoned _ rule operation error =>
    some (.actionFailed, World.detachedData rule operation (some error))

end AsyncOutcome

/-- The operation that begins to be dispatched without being waited for. -/
def RowEvent.dispatched? : RowEvent → Option AsyncDispatch
  | .tick (.take d w) => if w.detached then some ⟨d, w.rule, w.operation.name⟩ else none
  | _ => none

def RowEvent.outcome? : RowEvent → Option AsyncOutcome
  | .report a => some (.reported a)
  | .tick (.abandon d rule operation error) => some (.abandoned d rule operation error)
  | _ => none

/-- The operations that ticks have not waited for, in order. -/
def asyncDispatches (es : List RowEvent) : List AsyncDispatch := es.filterMap RowEvent.dispatched?

/-- What has become of them, in the order of the reports. -/
def asyncOutcomes (es : List RowEvent) : List AsyncOutcome := es.filterMap RowEvent.outcome?

theorem asyncDispatches_snoc (es : List RowEvent) (e : RowEvent) :
    asyncDispatches (es ++ [e]) = asyncDispatches es ++ e.dispatched?.toList := by
  cases h : e.dispatched? <;> simp [asyncDispatches, h]

theorem asyncOutcomes_snoc (es : List RowEvent) (e : RowEvent) :
    asyncOutcomes (es ++ [e]) = asyncOutcomes es ++ e.outcome?.toList := by
  cases h : e.outcome? <;> simp [asyncOutcomes, h]

/-! ## One dispatch -/

/-- What was told of the beginning of one dispatch. -/
def dispatchesOf (d : Nat) (es : List RowEvent) : List AsyncDispatch :=
  (asyncDispatches es).filter (·.dispatch == d)

/-- What was told of the outcome of one dispatch. -/
def outcomesOf (d : Nat) (es : List RowEvent) : List AsyncOutcome :=
  (asyncOutcomes es).filter (·.subject.dispatch == d)

section Dispatch

variable {d : Nat} {es : List RowEvent} {e : RowEvent}

theorem RowEvent.dispatch?_of_dispatched {x : AsyncDispatch} (h : e.dispatched? = some x) :
    e.dispatch? = some x.dispatch := by
  unfold dispatched? at h
  split at h
  · split at h
    · cases h
      rfl
    · cases h
  · cases h

theorem RowEvent.dispatch?_of_outcome {x : AsyncOutcome} (h : e.outcome? = some x) :
    e.dispatch? = some x.subject.dispatch := by
  unfold outcome? at h
  split at h
  · cases h
    rfl
  · cases h
    rfl
  · cases h

theorem dispatchesOf_snoc (d : Nat) (es : List RowEvent) (e : RowEvent) :
    dispatchesOf d (es ++ [e]) =
      dispatchesOf d es ++ e.dispatched?.toList.filter (·.dispatch == d) := by
  rw [dispatchesOf, asyncDispatches_snoc, List.filter_append]
  rfl

theorem outcomesOf_snoc (d : Nat) (es : List RowEvent) (e : RowEvent) :
    outcomesOf d (es ++ [e]) =
      outcomesOf d es ++ e.outcome?.toList.filter (·.subject.dispatch == d) := by
  rw [outcomesOf, asyncOutcomes_snoc, List.filter_append]
  rfl

/-- Events that are not about a dispatch tell nothing of it. -/
theorem tellsOf_quiet (es : List RowEvent) (he : e.dispatch? ≠ some d) :
    dispatchesOf d (es ++ [e]) = dispatchesOf d es ∧ outcomesOf d (es ++ [e]) = outcomesOf d es := by
  constructor
  · rw [dispatchesOf_snoc]
    cases h : e.dispatched? with
    | none => exact List.append_nil _
    | some x =>
        rw [RowEvent.dispatch?_of_dispatched h] at he
        have hne : ¬ x.dispatch = d := fun heq => he (congrArg some heq)
        simp [hne]
  · rw [outcomesOf_snoc]
    cases h : e.outcome? with
    | none => exact List.append_nil _
    | some x =>
        rw [RowEvent.dispatch?_of_outcome h] at he
        have hne : ¬ x.subject.dispatch = d := fun heq => he (congrArg some heq)
        simp [hne]

/-- Nothing is told of a dispatch without events. -/
theorem tellsOf_eq_nil (h : ∀ e ∈ es, e.dispatch? ≠ some d) :
    dispatchesOf d es = [] ∧ outcomesOf d es = [] := by
  induction es using List.reverseRecOn with
  | nil => exact ⟨rfl, rfl⟩
  | append_singleton es e ih =>
      obtain ⟨hdispatches, houtcomes⟩ := ih fun e he => h e (List.mem_append_left _ he)
      obtain ⟨hd, ho⟩ := tellsOf_quiet es (h e (by simp))
      exact ⟨hd.trans hdispatches, ho.trans houtcomes⟩

end Dispatch

/-- How far an operation has come that no tick waits for, and what was told of its outcome. -/
inductive AsyncFate (es : List RowEvent) (s : TickRow) (d : Nat) (w : TickWork) : Prop
  /-- It is on its way to its thread, or its thread is at work. -/
  | underway :
      s.ticks.threads.stage d ≠ .ended → s.leaving d = none → outcomesOf d es = [] →
      AsyncFate es s d w
  /-- Its thread has taken it out of the table. -/
  | leaving {c : Completion} :
      s.ticks.threads.stage d = .ended → w.stage = .ended c →
      s.leaving d = some ⟨d, w.rule, w.operation, c.result w.operation.name⟩ →
      outcomesOf d es = [] → AsyncFate es s d w
  | reported {c : Completion} :
      s.IsDone d → w.stage = .ended c →
      outcomesOf d es = [.reported ⟨d, w.rule, w.operation, c.result w.operation.name⟩] →
      AsyncFate es s d w
  | abandoned (error : String) :
      s.IsDone d → outcomesOf d es = [.abandoned d w.rule w.operation.name error] →
      AsyncFate es s d w

/-- What is certain about a dispatch of a tick. -/
structure AsyncFits (es : List RowEvent) (s : TickRow) (d : Nat) (w : TickWork) : Prop where
  born : s.ticks.threads.stage d ≠ .unborn
  dispatched : dispatchesOf d es = if w.detached then [⟨d, w.rule, w.operation.name⟩] else []
  fate : w.detached = true → AsyncFate es s d w
  waited : w.detached = false → outcomesOf d es = [] ∧ s.leaving d = none
  genuine : ∀ f, w.stage = .ended (.failed f) → f.isStopped = true →
    s.operator.isSignalled d = true

/-- Nothing has happened to a number that no tick has taken. -/
structure IsUntouched (es : List RowEvent) (s : TickRow) (d : Nat) : Prop where
  events : ∀ e ∈ es, e.dispatch? ≠ some d
  leaving : s.leaving d = none

section Steps

variable {es : List RowEvent} {s t : TickRow} {e : RowEvent} {d : Nat} {w : TickWork}

/-- An event that is neither a beginning nor an outcome. -/
theorem tellsOf_silent (d : Nat) (es : List RowEvent) (hdispatched : e.dispatched? = none)
    (houtcome : e.outcome? = none) :
    dispatchesOf d (es ++ [e]) = dispatchesOf d es ∧ outcomesOf d (es ++ [e]) = outcomesOf d es := by
  rw [dispatchesOf_snoc, outcomesOf_snoc, hdispatched, houtcome]
  exact ⟨List.append_nil _, List.append_nil _⟩

theorem IsUntouched.step (h : s.ticks.work d = none → IsUntouched es s d) (hstep : RowStep s e t)
    (ht : t.ticks.work d = none) : IsUntouched (es ++ [e]) t d := by
  have hbefore : s.ticks.work d = none := by
    by_contra hne
    exact hstep.work_ne_none hne ht
  obtain ⟨hevents, hleaving⟩ := h hbefore
  have he : e.dispatch? ≠ some d := by
    intro he
    cases hstep with
    | tick _ htick => exact htick.work_ne_none (.inr he) ht
    | leave hwork =>
        obtain rfl := Option.some.inj he
        rw [hbefore] at hwork
        cases hwork
    | report hreport =>
        obtain rfl := Option.some.inj he
        rw [hleaving] at hreport
        cases hreport
    | _ => cases he
  refine ⟨fun f hf => ?_, (hstep.quiet he).2.1.trans hleaving⟩
  rcases List.mem_append.1 hf with hf | hf
  · exact hevents f hf
  · rw [List.mem_singleton.1 hf]
    exact he

/-- A dispatch begins. -/
theorem AsyncFits.of_take (h : IsUntouched es s d) (hstage : t.ticks.threads.stage d = .numbered)
    (hleaving : t.leaving d = none) (hfresh : w.stage = .fresh) :
    AsyncFits (es ++ [.tick (.take d w)]) t d w := by
  obtain ⟨hdispatches, houtcomes⟩ := tellsOf_eq_nil h.events
  have hsilent : outcomesOf d (es ++ [.tick (.take d w)]) = [] := by
    rw [outcomesOf_snoc, houtcomes]
    rfl
  refine ⟨?_, ?_, fun _ => .underway ?_ hleaving hsilent, fun _ => ⟨hsilent, hleaving⟩, ?_⟩
  · rw [hstage]
    decide
  · rw [dispatchesOf_snoc, hdispatches]
    cases hdetached : w.detached <;> simp [RowEvent.dispatched?, hdetached]
  · rw [hstage]
    decide
  · intro f hf
    rw [hfresh] at hf
    cases hf

/-- As long as a dispatch has not ended, nothing was told of its outcome. -/
theorem AsyncFits.open (h : AsyncFits es s d w) (hstage : s.ticks.threads.stage d ≠ .ended) :
    s.leaving d = none ∧ outcomesOf d es = [] := by
  cases hdetached : w.detached with
  | false => exact (h.waited hdetached).symm
  | true =>
      cases h.fate hdetached with
      | underway _ hleaving houtcomes => exact ⟨hleaving, houtcomes⟩
      | leaving hended => exact absurd hended hstage
      | reported hdone => exact absurd hdone.1 hstage
      | abandoned _ hdone => exact absurd hdone.1 hstage

/-- Nothing happens to a dispatch, and nothing is told of it. -/
theorem AsyncFits.same (h : AsyncFits es s d w) (hstep : RowStep s e t)
    (hstage : t.ticks.threads.stage d = s.ticks.threads.stage d) (hleaving : t.leaving d = s.leaving d)
    (hdispatches : dispatchesOf d (es ++ [e]) = dispatchesOf d es)
    (houtcomes : outcomesOf d (es ++ [e]) = outcomesOf d es) : AsyncFits (es ++ [e]) t d w := by
  have hdone : s.IsDone d → t.IsDone d := fun h => ⟨hstage.trans h.1, hleaving.trans h.2⟩
  refine ⟨hstage ▸ h.born, hdispatches.trans h.dispatched, fun hdetached => ?_, fun hwaited => ?_,
    fun f hf hstop => hstep.isSignalled (h.genuine f hf hstop)⟩
  · cases h.fate hdetached with
    | underway hs hl ho => exact .underway (hstage ▸ hs) (hleaving.trans hl) (houtcomes.trans ho)
    | leaving hs hw hl ho =>
        exact .leaving (hstage.trans hs) hw (hleaving.trans hl) (houtcomes.trans ho)
    | reported hs hw ho => exact .reported (hdone hs) hw (houtcomes.trans ho)
    | abandoned error hs ho => exact .abandoned error (hdone hs) (houtcomes.trans ho)
  · obtain ⟨ho, hl⟩ := h.waited hwaited
    exact ⟨houtcomes.trans ho, hleaving.trans hl⟩

/-- What happens elsewhere changes nothing for a dispatch. -/
theorem AsyncFits.quiet (h : AsyncFits es s d w) (hstep : RowStep s e t)
    (hwork : s.ticks.work d = some w) (he : e.dispatch? ≠ some d) : AsyncFits (es ++ [e]) t d w := by
  obtain ⟨-, hleaving, hstage⟩ := hstep.quiet he
  obtain ⟨hdispatches, houtcomes⟩ := tellsOf_quiet es he
  exact h.same hstep (hstage (by rw [hwork]; nofun)) hleaving hdispatches houtcomes

theorem AsyncFits.go (h : AsyncFits es s d w) (hstep : RowStep s e t) (stage : ExecStage)
    (hbefore : s.ticks.threads.stage d ≠ .ended) (hafter : t.ticks.threads.stage d ≠ .ended)
    (hborn : t.ticks.threads.stage d ≠ .unborn) (hleaving : t.leaving = s.leaving)
    (hdispatched : e.dispatched? = none) (houtcome : e.outcome? = none)
    (hgenuine : ∀ f, stage = .ended (.failed f) → f.isStopped = true →
      stage = w.stage ∨ s.operator.isSignalled d = true) :
    AsyncFits (es ++ [e]) t d { w with stage := stage } := by
  obtain ⟨hl, ho⟩ := h.open hbefore
  obtain ⟨hdispatches, houtcomes⟩ := tellsOf_silent d es hdispatched houtcome
  have hl' : t.leaving d = none := (congrFun hleaving d).trans hl
  refine ⟨hborn, hdispatches.trans h.dispatched, fun _ => .underway hafter hl' (houtcomes.trans ho),
    fun _ => ⟨houtcomes.trans ho, hl'⟩, fun f hf hstop => hstep.isSignalled ?_⟩
  rcases hgenuine f hf hstop with hsame | hsignalled
  · exact h.genuine f (hsame ▸ hf) hstop
  · exact hsignalled

theorem AsyncFits.ended (h : AsyncFits es s d w) (hstep : RowStep s e t)
    (hstage : t.ticks.threads.stage d = .ended) (hdispatched : e.dispatched? = none)
    (hfate : w.detached = true → AsyncFate (es ++ [e]) t d w)
    (hwaited : w.detached = false → outcomesOf d (es ++ [e]) = [] ∧ t.leaving d = none) :
    AsyncFits (es ++ [e]) t d w := by
  refine ⟨?_, ?_, hfate, hwaited, fun f hf hstop => hstep.isSignalled (h.genuine f hf hstop)⟩
  · rw [hstage]
    decide
  · rw [dispatchesOf_snoc, hdispatched, h.dispatched]
    exact List.append_nil _

theorem AsyncFits.ended_of_fate (h : AsyncFits es s d w) (hstep : RowStep s e t)
    (hdetached : w.detached = true) (hstage : t.ticks.threads.stage d = .ended)
    (hdispatched : e.dispatched? = none) (hfate : AsyncFate (es ++ [e]) t d w) :
    AsyncFits (es ++ [e]) t d w := by
  refine h.ended hstep hstage hdispatched (fun _ => hfate) fun hwaited => ?_
  rw [hdetached] at hwaited
  cases hwaited

/-- Only operations that no tick waits for have left the table and will report. -/
theorem AsyncFits.of_leaving {a : Answer} (h : AsyncFits es s d w) (ha : s.leaving d = some a) :
    w.detached = true ∧ s.ticks.threads.stage d = .ended ∧ ∃ c, w.stage = .ended c ∧
      a = ⟨d, w.rule, w.operation, c.result w.operation.name⟩ ∧ outcomesOf d es = [] := by
  cases hdetached : w.detached with
  | false =>
      rw [(h.waited hdetached).2] at ha
      cases ha
  | true =>
      cases h.fate hdetached with
      | leaving hended hw hleaving houtcomes =>
          exact ⟨rfl, hended, _, hw, Option.some.inj (ha.symm.trans hleaving), houtcomes⟩
      | underway _ hleaving =>
          rw [hleaving] at ha
          cases ha
      | reported hdone | abandoned _ hdone =>
          rw [hdone.2] at ha
          cases ha

/-- A dispatch on its way to the end of its execution has not ended. -/
theorem TickWork.Takes.going {x : OperatorEvent} {a b : OperatorThreads} (h : w.Takes d x)
    (hstep : OperatorStep a x b) :
    a.stage d ≠ .ended ∧ b.stage d ≠ .ended ∧ b.stage d ≠ .unborn := by
  have hwaiting : ∀ {stage : DispatchStage}, stage.isWaiting = true →
      stage ≠ .ended ∧ stage ≠ .unborn := by
    rintro stage h
    cases stage <;> simp_all [DispatchStage.isWaiting]
  rcases h.stages hstep with ⟨ha, hb⟩ | ⟨ha, hb⟩ | ⟨ha, hb, -⟩
  · exact ⟨(hwaiting ha).1, hwaiting hb⟩
  · rw [ha, hb]
    decide
  · rw [ha, hb]
    decide

theorem AsyncFits.step (h : ∀ w, s.ticks.work d = some w → AsyncFits es s d w)
    (hidle : s.ticks.work d = none → IsUntouched es s d) (htable : TableFits s.ticks.threads)
    (hat : s.ticks.AtWork) (hstep : RowStep s e t) (hw : t.ticks.work d = some w) :
    AsyncFits (es ++ [e]) t d w := by
  have hgo := hstep
  -- only the events that are about the dispatch matter; the tick decides whether it waits for it
  by_cases he : e.dispatch? = some d
  · cases hstep with
    | @tick f _ hnone htick =>
        cases htick with
        | @take d' w' t' hcurrent hnext hop =>
            obtain rfl := Option.some.inj he
            obtain rfl : w' = w := by simpa using hw
            -- a number that is taken is new
            have hnone : s.ticks.work d' = none := by
              by_contra hne
              obtain ⟨w, hw⟩ := Option.ne_none_iff_exists'.1 hne
              exact (h w hw).born (hop.unborn_of_take htable)
            exact .of_take (hidle hnone) hop.stage_of_take (hidle hnone).leaving
              (TickProgram.work?_eq_some hnext).1
        | @own d' w' e' t' hwork htakes hop =>
            obtain rfl : d' = d := Option.some.inj (htakes.dispatch?.symm.trans he)
            obtain ⟨hbefore, hafter, hborn⟩ := htakes.going hop
            exact (h w hw).go hgo w.stage hbefore hafter hborn rfl rfl rfl
              fun _ _ _ => .inl rfl
        | @exec d' w' x stage hstage hwork hexec =>
            obtain rfl := Option.some.inj he
            obtain rfl : { w' with stage := stage } = w := by simpa using hw
            have hlive : s.ticks.threads.stage d' ≠ .ended := by
              rw [hstage]
              decide
            have hborn : s.ticks.threads.stage d' ≠ .unborn := by
              rw [hstage]
              decide
            exact (h w' hwork).go hgo _ hlive hlive hborn rfl rfl rfl fun f hf hstop =>
              .inr (hexec.signalled_of_stopped hf hstop)
        | @answer d' w' c t' next hprogram hcurrent hwork hended hop =>
            obtain rfl := Option.some.inj he
            obtain rfl : w' = w := Option.some.inj (hwork.symm.trans hw)
            have hwaited : w'.detached = false :=
              hat.detached hcurrent hwork (congrArg TickProgram.work? hprogram)
            obtain ⟨ho, hl⟩ := (h w' hwork).waited hwaited
            refine (h w' hwork).ended hgo hop.leave_stages.2 rfl (fun hdetached => ?_) fun _ => ⟨?_, hl⟩
            · rw [hwaited] at hdetached
              cases hdetached
            · exact (tellsOf_silent d' es rfl rfl).2.trans ho
        | spawn =>
            obtain ⟨hdispatches, houtcomes⟩ := tellsOf_silent d es (e := .tick (.spawn _)) rfl rfl
            exact (h w hw).same hgo rfl rfl hdispatches houtcomes
        | @abandon d' w' t' next error hprogram hcurrent hwork hop =>
            obtain rfl := Option.some.inj he
            obtain rfl : w' = w := Option.some.inj (hwork.symm.trans hw)
            have hdetached : w'.detached = true :=
              hat.detached hcurrent hwork (congrArg TickProgram.work? hprogram)
            obtain ⟨hready, hended⟩ := hop.abandon_stages
            obtain ⟨hl, ho⟩ := (h w' hwork).open (by rw [hready]; decide)
            refine (h w' hwork).ended_of_fate hgo hdetached hended rfl
              (.abandoned error ⟨hended, hl⟩ ?_)
            rw [outcomesOf_snoc, ho]
            simp [RowEvent.outcome?, AsyncOutcome.subject]
        | conclude => exact absurd rfl (hnone _)
        | _ => cases he
    | @leave d' w' c t' hwork hdetached hended hop =>
        obtain rfl := Option.some.inj he
        obtain rfl : w' = w := Option.some.inj (hwork.symm.trans hw)
        obtain ⟨hexecuted, hleft⟩ := hop.leave_stages
        obtain ⟨-, ho⟩ := (h w' hwork).open (by rw [hexecuted]; decide)
        refine (h w' hwork).ended_of_fate hgo hdetached hleft rfl (.leaving hleft hended ?_ ?_)
        · exact Function.update_self ..
        · exact (tellsOf_silent d' es rfl rfl).2.trans ho
    | @report a hreport =>
        obtain rfl : a.dispatch = d := Option.some.inj he
        obtain ⟨hdetached, hended, c, hstage, hsame, ho⟩ := (h w hw).of_leaving hreport
        refine (h w hw).ended_of_fate hgo hdetached hended rfl (.reported ⟨hended, ?_⟩ hstage ?_)
        · exact Function.update_self ..
        · rw [outcomesOf_snoc, ho, ← hsame]
          simp [RowEvent.outcome?, AsyncOutcome.subject]
    | _ => cases he
  · have hwork : s.ticks.work d = some w := (hgo.quiet he).1.symm.trans hw
    exact (h w hwork).quiet hgo hwork he

/-! ## The threads that can be waited for -/

/-- Nothing happens any more to an operation whose thread has finished. -/
theorem RowStep.done (h : RowStep s e t) (htable : TableFits s.ticks.threads)
    (hwork : s.ticks.work d ≠ none) (hd : s.IsDone d) : t.IsDone d := by
  obtain ⟨hended, hleaving⟩ := hd
  have hgo := h
  by_cases he : e.dispatch? = some d
  · cases h with
    | tick _ htick => exact ⟨(htick.ended htable hwork hended).2, hleaving⟩
    | leave _ _ _ hop =>
        obtain rfl := Option.some.inj he
        have hexecuted := hop.leave_stages.1
        rw [hended] at hexecuted
        cases hexecuted
    | report hreport =>
        obtain rfl := Option.some.inj he
        rw [hleaving] at hreport
        cases hreport
    | _ => cases he
  · obtain ⟨-, hsame, hstage⟩ := hgo.quiet he
    exact ⟨(hstage hwork).trans hended, hsame.trans hleaving⟩

/-- An operation that no tick waits for has finished, or the tick is at it, or its thread is waited for
or can be. -/
def RowWorkersFit (s : TickRow) : Prop :=
  ∀ d w, s.ticks.work d = some w → w.detached = true →
    s.IsDone d ∨ s.ticks.current = some d ∨ d ∈ s.workers ++ s.stage.todo

/-- A dispatch of a tick was known before, perhaps at another stage, or the tick takes its number and is
at it. -/
theorem RowStep.work_cases (h : RowStep s e t) (hw : t.ticks.work d = some w) :
    (∃ stage, s.ticks.work d = some { w with stage := stage }) ∨
      t.ticks.current = some d ∧ ∃ u, OperatorStep s.ticks.threads (.take d) u := by
  cases h with
  | tick _ htick =>
      cases htick with
      | @take d' _ _ _ _ hop =>
          by_cases heq : d = d'
          · subst heq
            exact .inr ⟨rfl, _, hop⟩
          · exact .inl ⟨w.stage, (Function.update_of_ne heq ..).symm.trans hw⟩
      | @exec d' w' x stage _ hwork =>
          by_cases heq : d = d'
          · subst heq
            obtain rfl : { w' with stage := stage } = w := by simpa using hw
            exact .inl ⟨w'.stage, hwork⟩
          · exact .inl ⟨w.stage, (Function.update_of_ne heq ..).symm.trans hw⟩
      | _ => exact .inl ⟨w.stage, hw⟩
  | _ => exact .inl ⟨w.stage, hw⟩

/-- The tick does not turn away from an operation before it has a thread or none was found. -/
theorem AsyncFits.current (h : AsyncFits es s d w) (hat : s.ticks.AtWork) (hstep : RowStep s e t)
    (hwork : s.ticks.work d = some w) (hdetached : w.detached = true)
    (hcurrent : s.ticks.current = some d) :
    t.IsDone d ∨ t.ticks.current = some d ∨ d ∈ t.workers := by
  cases hstep with
  | tick _ htick =>
      cases htick with
      | take hnone =>
          rw [hnone] at hcurrent
          cases hcurrent
      | answer hprogram =>
          have hwaited := hat.detached hcurrent hwork (congrArg TickProgram.work? hprogram)
          rw [hdetached] at hwaited
          cases hwaited
      | spawn _ hat' =>
          obtain rfl := Option.some.inj (hcurrent.symm.trans hat')
          exact .inr (.inr (List.mem_append_right _ (List.mem_singleton_self _)))
      | abandon _ _ hat' _ hop =>
          obtain rfl := Option.some.inj (hcurrent.symm.trans hat')
          obtain ⟨hready, hended⟩ := hop.abandon_stages
          exact .inl ⟨hended, (h.open (by rw [hready]; decide)).1⟩
      | _ => exact .inr (.inl hcurrent)
  | _ => exact .inr (.inl hcurrent)

/-- A thread is waited for, or given up, only to its end. -/
theorem RowStep.worker (h : RowStep s e t) (hd : d ∈ s.workers ++ s.stage.todo) :
    t.IsDone d ∨ d ∈ t.workers ++ t.stage.todo := by
  have hfree : s.stage.isFree = true → d ∈ s.workers := by
    intro hfree
    rcases List.mem_append.1 hd with hd | hd
    · exact hd
    · cases hstage : s.stage <;> simp_all [RowStage.isFree, RowStage.todo]
  cases h with
  | tick =>
      rcases List.mem_append.1 hd with hd | hd
      · exact .inr (List.mem_append_left _ (List.mem_append_left _ hd))
      · exact .inr (List.mem_append_right _ hd)
  | leave | report => exact .inr hd
  | @reap d' hstage _ hdone =>
      by_cases heq : d = d'
      · exact .inl (heq ▸ hdone)
      · rw [hstage] at hd
        have hd : d ∈ s.workers := by simpa [RowStage.todo] using hd
        exact .inr (List.mem_append_left _ ((List.mem_erase_of_ne heq).2 hd))
  | enterTick hstage => exact .inr (List.mem_append_left _ (hfree hstage))
  | takeWorkers hstage => exact .inr (List.mem_append_right _ (hfree hstage))
  | takePlan hstage | planGone hstage | answer hstage =>
      rw [hstage] at hd
      exact .inr hd
  | @join d' rest hstage hdone =>
      by_cases heq : d = d'
      · exact .inl (heq ▸ hdone)
      · rw [hstage] at hd
        refine .inr ?_
        simpa [RowStage.todo, heq] using hd
  | joined hstage =>
      rw [hstage] at hd
      exact .inr hd

theorem RowWorkersFit.step (h : RowWorkersFit s)
    (hfits : ∀ d w, s.ticks.work d = some w → AsyncFits es s d w)
    (htable : TableFits s.ticks.threads) (hat : s.ticks.AtWork) (hstep : RowStep s e t) :
    RowWorkersFit t := by
  intro d w hw hdetached
  rcases hstep.work_cases hw with ⟨stage, hwork⟩ | ⟨hcurrent, -⟩
  · rcases h d _ hwork hdetached with hdone | hcurrent | hmem
    · exact .inl (hstep.done htable (by simp [hwork]) hdone)
    · rcases (hfits d _ hwork).current hat hstep hwork hdetached hcurrent with hdone | hat' | hmem
      · exact .inl hdone
      · exact .inr (.inl hat')
      · exact .inr (.inr (List.mem_append_left _ hmem))
    · exact (hstep.worker hmem).imp_right .inr
  · exact .inr (.inl hcurrent)

end Steps

/-! ## Runs -/

section Runs

variable {o : Operator} {context : Context} {es : List RowEvent} {s : TickRow} {d : Nat}

theorem rowUntouched (h : Run RowStep (.begin o context) es s) (hd : s.ticks.work d = none) :
    IsUntouched es s d := by
  induction h with
  | nil => exact ⟨List.forall_mem_nil _, rfl⟩
  | snoc _ hstep ih => exact IsUntouched.step ih hstep hd

theorem asyncFits (ho : o.inFlight = []) (hsignalled : o.signalled = [])
    (h : Run RowStep (.begin o context) es s) {w : TickWork} (hw : s.ticks.work d = some w) :
    AsyncFits es s d w := by
  induction h generalizing w with
  | nil => cases hw
  | snoc hrun hstep ih =>
      exact AsyncFits.step (fun _ => ih) (rowUntouched hrun) (rowTableFits ho hsignalled hrun)
        (rowAtWork hrun) hstep hw

theorem rowWorkersFit (ho : o.inFlight = []) (hsignalled : o.signalled = [])
    (h : Run RowStep (.begin o context) es s) : RowWorkersFit s := by
  induction h with
  | nil => exact fun d w hw => by cases hw
  | snoc hrun hstep ih =>
      exact ih.step (fun _ _ => asyncFits ho hsignalled hrun) (rowTableFits ho hsignalled hrun)
        (rowAtWork hrun) hstep

/-- When the threads are waited for, and until the next tick, there are no others. -/
theorem rowWorkers (h : Run RowStep (.begin o context) es s)
    (hstage : (∃ todo, s.stage = .joining todo) ∨ s.stage = .joined) : s.workers = [] := by
  induction h with
  | nil => exact absurd hstage (by simp [TickRow.begin])
  | @snoc es m t e hrun hstep ih =>
      cases hstep with
      | @tick x _ _ htick =>
          obtain ⟨result, hprogram⟩ := rowProgram hrun (by
            rintro hticking
            simp [hticking] at hstage)
          have hnone : x.worker? = none := by
            cases htick with
            | spawn hnext =>
                rw [hprogram] at hnext
                cases hnext
            | _ => rfl
          simp [ih hstage, hnone]
      | leave | report => exact ih hstage
      | reap _ hticking => simp [hticking] at hstage
      | @enterTick answer => cases answer <;> simp [RowStage.ofEntry] at hstage
      | takePlan | planGone | answer => simp at hstage
      | takeWorkers => rfl
      | join hbefore | joined hbefore => exact ih (.inl ⟨_, hbefore⟩)

/-- When the threads have been waited for, all of them have finished. -/
theorem isDone_of_joined (ho : o.inFlight = []) (hsignalled : o.signalled = [])
    (h : Run RowStep (.begin o context) es s) (hjoined : s.stage = .joined) {w : TickWork}
    (hw : s.ticks.work d = some w) (hdetached : w.detached = true) : s.IsDone d := by
  obtain ⟨result, hprogram⟩ := rowProgram h (by rw [hjoined]; nofun)
  rcases rowWorkersFit ho hsignalled h d w hw hdetached with hdone | hcurrent | hmem
  · exact hdone
  · rw [rowCurrent h hprogram] at hcurrent
    cases hcurrent
  · rw [rowWorkers h (.inr hjoined), hjoined] at hmem
    cases hmem

/-- Each operation that no tick waits for has one outcome then, and nothing else has any. -/
theorem outcomesOf_of_joined (ho : o.inFlight = []) (hsignalled : o.signalled = [])
    (h : Run RowStep (.begin o context) es s) (hjoined : s.stage = .joined) (d : Nat) :
    (outcomesOf d es).map (·.subject) = dispatchesOf d es := by
  cases hw : s.ticks.work d with
  | none =>
      obtain ⟨hdispatches, houtcomes⟩ := tellsOf_eq_nil (rowUntouched h hw).events
      rw [hdispatches, houtcomes]
      rfl
  | some w =>
      have hfits := asyncFits ho hsignalled h hw
      rw [hfits.dispatched]
      cases hdetached : w.detached with
      | false =>
          rw [(hfits.waited hdetached).1]
          rfl
      | true =>
          obtain ⟨hended, hleaving⟩ := isDone_of_joined ho hsignalled h hjoined hw hdetached
          cases hfits.fate hdetached with
          | underway hopen => exact absurd hended hopen
          | leaving _ _ hleft =>
              rw [hleaving] at hleft
              cases hleft
          | reported _ _ houtcomes | abandoned _ _ houtcomes =>
              rw [houtcomes]
              rfl

end Runs

end RuleEngine
