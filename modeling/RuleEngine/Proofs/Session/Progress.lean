import RuleEngine.Proofs.Lane.Order
import RuleEngine.Proofs.Session.Cleanup

set_option autoImplicit false

/-! # Sessions come to their end

A session whose operator has been stopped is not stuck, wherever it stands: there is a way on that
leads it to its return (`canReturn`), and nobody need ask for it. The threads that the session
waits for go on, which are the one that stops the operator, those of detached executions, and the worker
of the lane; and a tick that is under way can always come to its end (`canEnd`).

The way leads back from the return: the lane is drained, the threads are joined, the stop is over, and
the last tick is refused.
-/

namespace RuleEngine

/-! ## Threads at the operator -/

/-- A dispatch or a stop begins. -/
def OperatorEvent.begins : OperatorEvent → Bool
  | .take _ | .stop => true
  | .enter _ _ | .check _ | .tell _ | .withdraw _ | .start _ | .finish _ | .leave _ | .abandon _
  | .look | .reach _ | .looked | .wipe | .drop _ | .wiped | .release => false

namespace OperatorThreads

abbrev CanReach (goal : OperatorThreads → Prop) (s : OperatorThreads) : Prop :=
  RuleEngine.CanReach OperatorStep (fun e => e.begins = false) goal s

/-- Every dispatch that has begun can come to its end. -/
theorem canReach_ended {s : OperatorThreads} {d : Nat} (hborn : s.stage d ≠ .unborn) :
    s.CanReach fun t => t.stage d = .ended := by
  have hexecuted : ∀ s : OperatorThreads, s.stage d = .executed →
      s.CanReach fun t => t.stage d = .ended := fun s hstage =>
    .of_step (.leave d hstage) rfl (.here (advance_stage_self ..))
  have hexecuting : ∀ s : OperatorThreads, s.stage d = .executing →
      s.CanReach fun t => t.stage d = .ended := fun s hstage =>
    .of_step (.finish d hstage) rfl (hexecuted _ (advance_stage_self ..))
  have hready : ∀ s : OperatorThreads, s.stage d = .ready →
      s.CanReach fun t => t.stage d = .ended := fun s hstage =>
    .of_step (.start d hstage) rfl (hexecuting _ (advance_stage_self ..))
  have htold : ∀ s : OperatorThreads, s.stage d = .told →
      s.CanReach fun t => t.stage d = .ended := fun s hstage =>
    .of_step (.withdraw d hstage) rfl (hready _ (advance_stage_self ..))
  have hlate : ∀ s : OperatorThreads, s.stage d = .late →
      s.CanReach fun t => t.stage d = .ended := fun s hstage =>
    .of_step (.tell d hstage) rfl (htold _ (advance_stage_self ..))
  have hentered : ∀ s : OperatorThreads, s.stage d = .entered →
      s.CanReach fun t => t.stage d = .ended := by
    intro s hstage
    refine .of_step (.check d hstage) rfl ?_
    by_cases hstopped : s.operator.isStopped = true
    · refine hlate _ ?_
      rw [advance_stage_self, if_pos hstopped]
    · refine hready _ ?_
      rw [advance_stage_self, if_neg hstopped]
  cases hstage : s.stage d with
  | unborn => exact absurd hstage hborn
  | numbered =>
      exact .of_step (.enter d ⟨"", ""⟩ hstage) rfl (hentered _ (advance_stage_self ..))
  | entered => exact hentered s hstage
  | late => exact hlate s hstage
  | told => exact htold s hstage
  | ready => exact hready s hstage
  | executing => exact hexecuting s hstage
  | executed => exact hexecuted s hstage
  | ended => exact .here hstage

/-- The stopping thread can clear the table, and is done then. -/
theorem canReach_finished_of_clearing {s : OperatorThreads} {todo : List Nat}
    (hstopper : s.stopper = .clearing todo) : s.CanReach fun t => t.stopper = .finished := by
  induction hlength : s.operator.dispatches.length using Nat.strong_induction_on generalizing s with
  | _ n ih =>
      by_cases hleft : ∃ d ∈ todo, d ∈ s.operator.dispatches
      · obtain ⟨d, -, hmem⟩ := hleft
        refine .of_step (.drop d hstopper hmem) rfl (ih _ ?_ hstopper rfl)
        rw [← hlength]
        show (s.operator.leave d).dispatches.length < _
        rw [Operator.dispatches_leave, List.length_filter_lt_length_iff_exists]
        exact ⟨d, hmem, by simp⟩
      · have hgone : ∀ d ∈ todo, d ∉ s.operator.dispatches := fun d hd hmem => hleft ⟨d, hd, hmem⟩
        exact .of_step (.wiped hstopper hgone) rfl (.of_step (.release rfl) rfl (.here rfl))

/-- The stopping thread can come to all entries. -/
theorem canReach_finished_of_telling {s : OperatorThreads} {todo : List Nat}
    (hstopper : s.stopper = .telling todo) : s.CanReach fun t => t.stopper = .finished := by
  induction hlength : todo.length using Nat.strong_induction_on generalizing s todo with
  | _ n ih =>
      by_cases hleft : ∃ d ∈ todo, d ∈ s.operator.dispatches
      · obtain ⟨d, hd, hmem⟩ := hleft
        refine .of_step (.reach d hstopper hmem) rfl (ih _ ?_ rfl rfl)
        rw [← hlength, List.length_filter_lt_length_iff_exists]
        exact ⟨d, hd, by simp⟩
      · have hgone : ∀ d ∈ todo, d ∉ s.operator.dispatches := fun d hd hmem => hleft ⟨d, hd, hmem⟩
        exact .of_step (.looked hstopper hgone) rfl
          (.of_step (.wipe rfl) rfl (canReach_finished_of_clearing rfl))

/-- A stop that has begun can come to its end. -/
theorem canReach_finished {s : OperatorThreads} (hstopper : s.stopper ≠ .idle) :
    s.CanReach fun t => t.stopper = .finished := by
  cases hs : s.stopper with
  | idle => exact absurd hs hstopper
  | marked => exact .of_step (.look hs) rfl (canReach_finished_of_telling rfl)
  | telling todo => exact canReach_finished_of_telling hs
  | through => exact .of_step (.wipe hs) rfl (canReach_finished_of_clearing rfl)
  | clearing todo => exact canReach_finished_of_clearing hs
  | cleared => exact .of_step (.release hs) rfl (.here rfl)
  | finished => exact .here hs

end OperatorThreads

/-! ## The lane -/

section Lane

variable {ω α : Type}

theorem closed_of_waits {es : List (LaneEvent ω α)} {s : LaneThreads ω α} (h : Run LaneStep {} es s)
    {caller : Nat} (hwaits : s.waits caller ≠ .absent) : s.lane.accepting = false := by
  induction h with
  | nil => exact absurd rfl hwaits
  | @snoc es m t e hrun hstep ih =>
      by_cases hbefore : m.waits caller = .absent
      · -- the call has just begun
        by_cases he : e.caller? = some caller
        · cases hstep with
          | closeToWait => rfl
          | ask other _ hstage | join other hstage =>
              obtain rfl : other = caller := Option.some.inj he
              rw [hbefore] at hstage
              cases hstage
          | _ => cases he
        · exact absurd ((hstep.waits_of_ne he).trans hbefore) hwaits
      · have haccepting := hstep.work.accepting_eq
        simp only [Lane.work, ih hbefore] at haccepting
        exact haccepting

end Lane

/-! ## The session -/

/-- What there is to do for a session that is over: for itself, and for the threads that it waits
for. -/
def SessionEvent.windsUp {ω α : Type} : SessionEvent ω α → Bool
  | .tick (.others e) => !e.begins
  | .lane e => e.isWork
  | .stop | .stopped | .takeWorkers | .join _ | .joined | .shutdown _ | .leave _ => true
  | .notify | .tick _ | .reap _ | .look _ | .load _ _ | .wake _ | .enterTick _ | .takePlan _
  | .panic _ | .answer _ | .judge _ => false

theorem SessionEvent.mem_of_windsUp {ω α : Type} {front fs : List (SessionEvent ω α)}
    (hfs : ∀ e ∈ fs, e.windsUp = true) {e : SessionEvent ω α} (h : e ∈ front ++ fs)
    (he : e.windsUp = false) : e ∈ front := by
  rcases List.mem_append.1 h with h | h
  · exact h
  · cases he.symm.trans (hfs e h)

section Returns

variable {ω α : Type} {config : SessionSettings} {o : Operator} {context : Context}
  {es : List (SessionEvent ω α)} {s : SessionThreads ω α}
  {outcome : Except EngineError SessionSummary}

/-- A session that is over can return with an outcome. -/
def SessionThreads.CanReturn (config : SessionSettings) (s : SessionThreads ω α)
    (outcome : Except EngineError SessionSummary) : Prop :=
  CanReach (SessionStep config) (fun e => e.windsUp = true) (fun t => t.stage = .returned outcome) s

/-! ### From the lane to the return -/

theorem canReturn_of_waited (hstage : s.stage = .draining outcome)
    (hwaits : s.lane.waits SessionThreads.self = .returned) : s.CanReturn config outcome :=
  .of_step (.leave hstage hwaits) rfl (.here rfl)

/-- What happens at the lane happens at the session. -/
theorem lane_run {fs : List (LaneEvent ω α)} {lane : LaneThreads ω α}
    (h : Run LaneStep s.lane fs lane) (hfs : ∀ f ∈ fs, f.isWork = true) :
    Run (SessionStep config) s (fs.map .lane) { s with lane := lane } := by
  induction h with
  | nil => exact .nil
  | @snoc fs m lane f _ hstep ih =>
      have hrun := ih fun g hg => hfs g (List.mem_append_left _ hg)
      have hwork := hfs f (List.mem_append_right _ (List.mem_singleton_self _))
      have hcaller : f.caller? = none := by
        cases f <;> first | rfl | cases hwork
      rw [List.map_append]
      exact hrun.snoc (.lane (s := { s with lane := m }) (by rw [hcaller]; nofun) hstep)

theorem canReturn_of_waiting (hstage : s.stage = .draining outcome)
    (hwaits : s.lane.waits SessionThreads.self = .joining)
    (hclosed : s.lane.lane.accepting = false) : s.CanReturn config outcome := by
  obtain ⟨fs, lane, hrun, hfs, hgone, hsame⟩ := LaneThreads.canReach_gone hclosed
  refine .of_run (lane_run hrun hfs) (fun e he => ?_) ?_
  · obtain ⟨f, hf, rfl⟩ := List.mem_map.1 he
    exact hfs f hf
  · have hjoining : lane.waits SessionThreads.self = .joining := by
      rw [hsame]
      exact hwaits
    exact .of_step (.shutdown hstage (by simp) (.join _ hjoining hgone)) rfl
      (canReturn_of_waited hstage (by simp))

theorem canReturn_of_asking (h : Run (SessionStep config) (.begin o context) es s)
    (hstage : s.stage = .draining outcome)
    (hwaits : s.lane.waits SessionThreads.self = .asking) : s.CanReturn config outcome := by
  have hclosed := closed_of_waits (laneReached h) (by rw [hwaits]; nofun)
  refine .of_step (.shutdown hstage (by simp) (.ask _ false hwaits)) rfl ?_
  cases hgets : s.lane.lane.takeWorker.1 with
  | true => exact canReturn_of_waiting hstage (by simp) hclosed
  | false => exact canReturn_of_waited hstage (by simp)

theorem canReturn_of_draining (h : Run (SessionStep config) (.begin o context) es s)
    (hstage : s.stage = .draining outcome) : s.CanReturn config outcome := by
  cases hwaits : s.lane.waits SessionThreads.self with
  | absent =>
      have hclose : SessionStep config s _ _ :=
        .shutdown hstage (by simp) (.closeToWait SessionThreads.self hwaits)
      exact .of_step hclose rfl (canReturn_of_asking (h.snoc hclose) hstage (by simp))
  | asking => exact canReturn_of_asking h hstage hwaits
  | joining =>
      have hclosed := closed_of_waits (laneReached h) (by rw [hwaits]; nofun)
      exact canReturn_of_waiting hstage hwaits hclosed
  | returned => exact canReturn_of_waited hstage hwaits

/-! ### From the stop to the lane -/

/-- A dispatch that has begun does not become a new one. -/
theorem OperatorStep.born {s t : OperatorThreads} {e : OperatorEvent} {d : Nat}
    (h : OperatorStep s e t) (hd : s.stage d ≠ .unborn) : t.stage d ≠ .unborn := by
  by_cases he : e.dispatch? = some d
  · cases h with
    | take | enter | check | tell | withdraw | start | finish | leave | abandon =>
        obtain rfl := Option.some.inj he
        rw [OperatorThreads.advance_stage_self]
        first
        | (split <;> simp)
        | simp
    | _ => cases he
  · rw [h.stage_of_ne he]
    exact hd

theorem StageStep.of_todo {before after : SessionStage} {e : SessionEvent ω α}
    (h : StageStep before e after) {d : Nat} (hd : d ∈ after.todo) :
    d ∈ before.todo ∨ e = .takeWorkers := by
  cases h with
  | aside => exact .inl hd
  | takeWorkers => exact .inr rfl
  | join => exact .inl (List.mem_cons_of_mem _ hd)
  | _ => cases hd

/-- A thread can be joined from the moment on at which it is there. -/
theorem SessionStep.of_listed {t : SessionThreads ω α} {e : SessionEvent ω α}
    (h : SessionStep config s e t) {d : Nat} (hd : d ∈ t.listed) :
    d ∈ s.listed ∨ e = .tick (.spawn d) := by
  rcases List.mem_append.1 hd with hworker | htodo
  · have hkept : d ∈ s.workers → d ∈ s.listed := List.mem_append_left _
    cases h with
    | @tick f =>
        rcases List.mem_append.1 hworker with hworker | hspawned
        · exact .inl (hkept hworker)
        · cases f with
          | spawn d' =>
              obtain rfl := List.mem_singleton.1 hspawned
              exact .inr rfl
          | _ => cases hspawned
    | reap => exact .inl (hkept (List.mem_of_mem_erase hworker))
    | takeWorkers => cases hworker
    | _ => exact .inl (hkept hworker)
  · rcases h.stage.of_todo htodo with htodo | rfl
    · exact .inl (List.mem_append_right _ htodo)
    · cases h with
      | takeWorkers => exact .inl (List.mem_append_left _ htodo)

/-- What happens at the operator between ticks happens at the session. -/
theorem others_run {fs : List OperatorEvent} {threads : OperatorThreads} (hidle : s.ticks.IsIdle)
    (h : Run OperatorStep s.ticks.threads fs threads) :
    Run (SessionStep config) s (fs.map fun f => .tick (.others f)) (s.withThreads threads) := by
  induction h with
  | nil => exact .nil
  | @snoc fs m threads f _ hstep ih =>
      have htick : SessionStep config (s.withThreads m) _ _ :=
        .tick (.others (fun d _ => hidle.work d) hstep)
      have hworkers : (s.withThreads m).workers ++ (TickEvent.others f).spawned?.toList = s.workers :=
        List.append_nil s.workers
      rw [hworkers] at htick
      rw [List.map_append]
      exact ih.snoc htick

/-- A session that is between ticks can return if it can when the threads at the operator have come to
a goal. -/
theorem canReturn_of_others {goal : OperatorThreads → Prop}
    (h : Run (SessionStep config) (.begin o context) es s) (hstage : s.stage ≠ .ticking)
    (hgoal : s.ticks.threads.CanReach goal)
    (hreturn : ∀ es threads, Run (SessionStep config) (.begin o context) es (s.withThreads threads) →
      goal threads → (s.withThreads threads).CanReturn config outcome) : s.CanReturn config outcome := by
  obtain ⟨fs, threads, hrun, hfs, hthreads⟩ := hgoal
  have hothers : Run (SessionStep config) s _ _ := others_run (sessionIdle h hstage) hrun
  refine .of_run hothers (fun e he => ?_) (hreturn _ threads (h.append hothers) hthreads)
  obtain ⟨f, hf, rfl⟩ := List.mem_map.1 he
  show (!f.begins) = true
  rw [hfs f hf]
  rfl

theorem born_of_listed (h : Run (SessionStep config) (.begin o context) es s) {d : Nat}
    (hd : d ∈ s.listed) : s.ticks.threads.stage d ≠ .unborn := by
  induction h with
  | nil => cases hd
  | @snoc es m t e hrun hstep ih =>
      rcases hstep.of_listed hd with hbefore | rfl
      · rcases hstep.threads with hsame | ⟨_, hop⟩ | ⟨_, _, -, -, hrenewed⟩
        · rw [hsame]
          exact ih hbefore
        · exact hop.born (ih hbefore)
        · rw [hrenewed]
          exact ih hbefore
      · cases hstep with
        | tick htick =>
            cases htick with
            | spawn _ _ _ htracked =>
                intro hunborn
                have hstage : m.ticks.threads.stage d = .unborn := hunborn
                rw [hstage] at htracked
                cases htracked

theorem canReturn_of_joining {todo : List Nat}
    (h : Run (SessionStep config) (.begin o context) es s)
    (hstage : s.stage = .joining outcome todo) : s.CanReturn config outcome := by
  induction todo generalizing es s with
  | nil =>
      have hjoined : SessionStep config s _ _ := .joined hstage
      exact .of_step hjoined rfl (canReturn_of_draining (h.snoc hjoined) rfl)
  | cons d rest ih =>
      have hborn : s.ticks.threads.stage d ≠ .unborn := by
        refine born_of_listed h (List.mem_append_right _ ?_)
        rw [hstage]
        exact List.mem_cons_self
      refine canReturn_of_others h (by rw [hstage]; nofun) (OperatorThreads.canReach_ended hborn)
        fun es threads hrun hended => ?_
      have hjoin : SessionStep config (s.withThreads threads) _ _ := .join hstage hended
      exact .of_step hjoin rfl (ih (hrun.snoc hjoin) rfl)

theorem canReturn_of_halted (h : Run (SessionStep config) (.begin o context) es s)
    (hstage : s.stage = .halted outcome) : s.CanReturn config outcome := by
  have htake : SessionStep config s _ _ := .takeWorkers hstage
  exact .of_step htake rfl (canReturn_of_joining (h.snoc htake) rfl)

theorem OperatorStep.stopper_ne_idle {s t : OperatorThreads} {e : OperatorEvent}
    (h : OperatorStep s e t) (hs : s.stopper ≠ .idle) : t.stopper ≠ .idle := by
  cases h with
  | stop =>
      dsimp only
      split
      · nofun
      · exact hs
  | look | reach | looked | wipe | wiped | release => nofun
  | _ => exact hs

/-- A session that waits for the end of its stop has stopped the operator itself. -/
theorem stopper_of_halting (h : Run (SessionStep config) (.begin o context) es s)
    (hstage : s.stage = .halting outcome) : s.ticks.threads.stopper ≠ .idle := by
  induction h with
  | nil => cases hstage
  | @snoc es m t e hrun hstep ih =>
      have hbefore := hstep.stage
      rw [hstage] at hbefore
      generalize hm : m.stage = stage at hbefore
      cases hbefore with
      | aside =>
          rcases hstep.threads with hsame | ⟨_, hop⟩ | ⟨_, _, -, -, hrenewed⟩
          · rw [hsame]
            exact ih hm
          · exact hop.stopper_ne_idle (ih hm)
          · rw [hrenewed]
            exact ih hm
      | stop =>
          cases hstep with
          | stop _ hop =>
              cases hop
              by_cases hstopped : m.ticks.threads.operator.isStopped = true
              · cases (if_pos hstopped).symm.trans hstage
              · have hmarked : m.ticks.threads.operator.markStopped.1.isSome = true := by
                  rw [Operator.markStopped_eq_some _ (Bool.eq_false_iff.2 hstopped)]
                  rfl
                show (if m.ticks.threads.operator.markStopped.1.isSome then StopStage.marked else _)
                  ≠ _
                rw [if_pos hmarked]
                nofun

theorem canReturn_of_halting (h : Run (SessionStep config) (.begin o context) es s)
    (hstage : s.stage = .halting outcome) : s.CanReturn config outcome := by
  refine canReturn_of_others h (by rw [hstage]; nofun)
    (OperatorThreads.canReach_finished (stopper_of_halting h hstage))
    fun es threads hrun hfinished => ?_
  have hstopped : SessionStep config (s.withThreads threads) _ _ := .stopped hstage hfinished
  exact .of_step hstopped rfl (canReturn_of_halted (hrun.snoc hstopped) rfl)

theorem canReturn_of_stopping (h : Run (SessionStep config) (.begin o context) es s)
    (hstage : s.stage = .stopping outcome) : s.CanReturn config outcome := by
  have hstop : SessionStep config s _ _ := .stop hstage .stop
  refine .of_step hstop rfl ?_
  by_cases hstopped : s.operator.isStopped = true
  · exact canReturn_of_halted (h.snoc hstop) (if_pos hstopped)
  · exact canReturn_of_halting (h.snoc hstop) (if_neg hstopped)

/-! ### From the last tick to the stop -/

/-- Somebody asks for the end of the session, or the thread of its tick panics. -/
def SessionEvent.endsEarly : SessionEvent ω α → Bool
  | .notify | .panic _ => true
  | _ => false

theorem SessionEvent.endsEarly_of_windsUp {e : SessionEvent ω α} (h : e.windsUp = true) :
    e.endsEarly = false := by
  cases e <;> first | rfl | cases h

/-- A session can return, and nobody need ask for its end. -/
def SessionThreads.Returns (config : SessionSettings) (s : SessionThreads ω α) : Prop :=
  CanReach (SessionStep config) (fun e => e.endsEarly = false)
    (fun t => ∃ outcome, t.stage = .returned outcome) s

theorem SessionThreads.CanReturn.returns (h : s.CanReturn config outcome) : s.Returns config := by
  obtain ⟨fs, t, hrun, hfs, ht⟩ := h
  exact ⟨fs, t, hrun, fun f hf => SessionEvent.endsEarly_of_windsUp (hfs f hf), outcome, ht⟩

theorem returns_of_answered_error {e : EngineError}
    (h : Run (SessionStep config) (.begin o context) es s)
    (hstage : s.stage = .answered (.error e)) : s.Returns config := by
  have hjudge : SessionStep config s _ _ := .judge hstage
  exact .of_step hjudge rfl (canReturn_of_stopping (h.snoc hjudge) rfl).returns

/-- A stopped operator refuses the next tick. -/
theorem returns_of_entering (h : Run (SessionStep config) (.begin o context) es s)
    (hstage : s.stage = .entering) (hstopped : s.operator.isStopped = true) :
    s.Returns config := by
  have henter : SessionStep config s _ _ :=
    .enterTick hstage (Operator.enterTick_eq_error (.inr (Operator.lifecycle_of_isStopped hstopped)))
  exact .of_step henter rfl (returns_of_answered_error (h.snoc henter) rfl)

theorem returns_of_pausing (h : Run (SessionStep config) (.begin o context) es s)
    (hstage : s.stage = .pausing) (hstopped : s.operator.isStopped = true) : s.Returns config := by
  have hdue : SessionStep config s _ _ := .tickDue hstage
  exact .of_step hdue rfl (returns_of_entering (h.snoc hdue) rfl hstopped)

theorem returns_of_ofEnd {end? : Option (Except EngineError SessionSummary)}
    (h : Run (SessionStep config) (.begin o context) es s) (hstage : s.stage = .ofEnd end?)
    (hstopped : s.operator.isStopped = true) : s.Returns config := by
  cases end? with
  | none => exact returns_of_pausing h hstage hstopped
  | some outcome => exact (canReturn_of_stopping h hstage).returns

theorem returns_of_answered {result : Except EngineError TickReport}
    (h : Run (SessionStep config) (.begin o context) es s)
    (hstage : s.stage = .answered result) (hstopped : s.operator.isStopped = true) :
    s.Returns config := by
  have hjudge : SessionStep config s _ _ := .judge hstage
  exact .of_step hjudge rfl (returns_of_ofEnd (h.snoc hjudge) rfl hstopped)

/-- What happens in a tick happens at the session. -/
theorem tick_run {fs : List TickEvent} {ticks : TickThreads} (h : Run TickStep s.ticks fs ticks) :
    ∃ workers, Run (SessionStep config) s (fs.map .tick)
      { s with ticks := ticks, workers := workers } := by
  induction h with
  | nil => exact ⟨s.workers, .nil⟩
  | @snoc fs m ticks f _ hstep ih =>
      obtain ⟨workers, hrun⟩ := ih
      rw [List.map_append]
      exact ⟨_, hrun.snoc (.tick (s := { s with ticks := m, workers := workers }) hstep)⟩

theorem isStopped_of_run {t : SessionThreads ω α} (h : Run (SessionStep config) s es t)
    (hstopped : s.operator.isStopped = true) : t.operator.isStopped = true := by
  induction h with
  | nil => exact hstopped
  | snoc _ hstep ih => exact hstep.isStopped ih

theorem returns_of_ticking (ho : o.inFlight = []) (hsignalled : o.signalled = [])
    (h : Run (SessionStep config) (.begin o context) es s) (hstage : s.stage = .ticking)
    (hstopped : s.operator.isStopped = true) : s.Returns config := by
  obtain ⟨plan, facts, start, before, hnew, hbefore, -, -⟩ := tickingFits ho hsignalled h hstage
  obtain ⟨fs, ticks, result, hticks, hprogram⟩ := canEnd hnew hbefore
  obtain ⟨workers, hrun⟩ : ∃ workers, Run (SessionStep config) s _ _ := tick_run hticks
  have hanswer : SessionStep config { s with ticks := ticks, workers := workers } _ _ :=
    .answer hstage hprogram
  refine .of_run hrun (fun e he => ?_) (.of_step hanswer rfl ?_)
  · obtain ⟨f, -, rfl⟩ := List.mem_map.1 he
    rfl
  · exact returns_of_answered ((h.append hrun).snoc hanswer) rfl
      (isStopped_of_run (hrun.snoc hanswer) hstopped)

theorem returns_of_planning (ho : o.inFlight = []) (hsignalled : o.signalled = [])
    (h : Run (SessionStep config) (.begin o context) es s) (hstage : s.stage = .planning)
    (hstopped : s.operator.isStopped = true) : s.Returns config := by
  cases hplan : s.operator.currentPlan with
  | ok plan =>
      have htake : SessionStep config s _ _ := .takePlan hstage hplan
      exact .of_step htake rfl (returns_of_ticking ho hsignalled (h.snoc htake) rfl hstopped)
  | error e =>
      have hgone : SessionStep config s _ _ := .planGone hstage hplan
      exact .of_step hgone rfl (returns_of_answered_error (h.snoc hgone) rfl)

/-- A period of some time is no reason to panic. -/
theorem stage_ne_panicked (hperiod : config.tickIntervalMs ≠ 0)
    (h : Run (SessionStep config) (.begin o context) es s) (message : String) :
    s.stage ≠ .panicked message := by
  have hbegin : Session.beginTicks config ≠ .panicked message := by
    unfold Session.beginTicks
    rw [if_neg hperiod]
    rcases SessionStage.ofEnd_cases (Session.ended? config.maxTicks {}) with hj | ⟨_, hj⟩ <;>
      rw [hj] <;> nofun
  induction h with
  | nil => nofun
  | @snoc es m t e hrun hstep ih =>
      intro ht
      have hbefore := hstep.stage
      rw [ht] at hbefore
      generalize hm : m.stage = stage at hbefore
      cases hbefore with
      | aside => exact ih hm
      | panicAtOnce _ hturns =>
          cases hturns with
          | look =>
              cases hstep with
              | look =>
                  dsimp only at ht
                  split at ht
                  · cases ht
                  · exact hbegin ht
          | load =>
              cases hstep with
              | load => exact hbegin ht

/-- **A session whose operator was stopped can always return.** -/
theorem canReturn (ho : o.inFlight = []) (hsignalled : o.signalled = [])
    (hperiod : config.tickIntervalMs ≠ 0) (h : Run (SessionStep config) (.begin o context) es s)
    (hstopped : s.operator.isStopped = true) : s.Returns config := by
  have hlifecycle := Operator.lifecycle_of_isStopped hstopped
  cases hstage : s.stage with
  | fresh =>
      have hlook : SessionStep config s _ _ := .look hstage
      have hbegin : (if s.operator.lifecycle = .unloaded then SessionStage.loading
          else Session.beginTicks config) = .ofEnd (Session.ended? config.maxTicks {}) := by
        rw [if_neg (by rw [hlifecycle]; decide), Session.beginTicks, if_neg hperiod]
      exact .of_step hlook rfl (returns_of_ofEnd (h.snoc hlook) hbegin hstopped)
  | loading =>
      have hload : SessionStep config s _ _ :=
        .loadFailed ⟨[], []⟩ hstage (Operator.load_of_stopped hlifecycle _)
      exact .of_step hload rfl (canReturn_of_draining (h.snoc hload) rfl).returns
  | pausing => exact returns_of_pausing h hstage hstopped
  | entering => exact returns_of_entering h hstage hstopped
  | planning => exact returns_of_planning ho hsignalled h hstage hstopped
  | ticking => exact returns_of_ticking ho hsignalled h hstage hstopped
  | answered => exact returns_of_answered h hstage hstopped
  | stopping => exact (canReturn_of_stopping h hstage).returns
  | halting => exact (canReturn_of_halting h hstage).returns
  | halted => exact (canReturn_of_halted h hstage).returns
  | joining => exact (canReturn_of_joining h hstage).returns
  | draining => exact (canReturn_of_draining h hstage).returns
  | returned outcome => exact .here ⟨outcome, hstage⟩
  | panicked message => exact absurd hstage (stage_ne_panicked hperiod h message)

end Returns

end RuleEngine
