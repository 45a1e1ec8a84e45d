import RuleEngine.Proofs.Lane.Shutdown
import RuleEngine.Proofs.Session.Operator
import RuleEngine.Proofs.Session.Totals

set_option autoImplicit false

/-! # What a session leaves behind

However a session ends, it stops the operator, joins the threads of detached executions, and shuts the
lane down, in this order. Every dispatch of a tick is the one that the tick is at, or has ended, or its
thread can be joined (`workersFit`), so that none is left when the session has joined them, and the
table of running operations is empty. As long as nobody else asks for the worker of the lane, the
session gets it, and waits for its end (`shutdownFits`).
-/

namespace RuleEngine

variable {ω α : Type}

/-! ## Detached executions -/

/-- The threads of detached executions that the session is joining. -/
def SessionStage.todo : SessionStage → List Nat
  | .joining _ todo => todo
  | .fresh | .loading | .pausing | .entering | .planning | .ticking | .answered _ | .stopping _
  | .halting _ | .halted _ | .draining _ | .returned _ | .panicked _ => []

/-- The detached executions whose threads can be joined, or are being joined. -/
def SessionThreads.listed (s : SessionThreads ω α) : List Nat := s.workers ++ s.stage.todo

/-- A number is taken at its beginning only. -/
theorem OperatorStep.unborn {s t : OperatorThreads} {e : OperatorEvent} {d : Nat}
    (h : OperatorStep s e t) (he : e ≠ .take d) (hd : s.stage d = .unborn) :
    t.stage d = .unborn := by
  by_cases hown : e.dispatch? = some d
  · cases h with
    | take => exact absurd (congrArg OperatorEvent.take (Option.some.inj hown)) he
    | enter d' _ hstage | check d' hstage | tell d' hstage | withdraw d' hstage | start d' hstage
    | finish d' hstage | leave d' hstage | abandon d' hstage =>
        obtain rfl := Option.some.inj hown
        rw [hd] at hstage
        cases hstage
    | _ => cases hown
  · exact (h.stage_of_ne hown).trans hd

/-- Where a dispatch is behind a step of a tick: it has ended, the tick is at it or has just left it to
itself, or it was there before. -/
theorem TickStep.origin {s t : TickThreads} {e : TickEvent} (h : TickStep s e t) {d : Nat}
    (hforeign : e ≠ .others (.take d)) (hborn : t.threads.stage d ≠ .unborn) :
    t.threads.stage d = .ended ∨ t.current = some d ∨ e = .spawn d ∨
      s.threads.stage d ≠ .unborn ∧ s.current ≠ some d := by
  by_cases hat : s.current = some d
  · cases h with
    | take hnone =>
        rw [hnone] at hat
        cases hat
    | answer _ hcurrent _ _ hop =>
        obtain rfl := Option.some.inj (hcurrent.symm.trans hat)
        exact .inl hop.leave_stages.2
    | spawn _ hcurrent =>
        obtain rfl := Option.some.inj (hcurrent.symm.trans hat)
        exact .inr (.inr (.inl rfl))
    | abandon _ _ hcurrent _ hop =>
        obtain rfl := Option.some.inj (hcurrent.symm.trans hat)
        exact .inl hop.abandon_stages.2
    | _ => exact .inr (.inl hat)
  · by_cases htaken : t.current = some d
    · exact .inr (.inl htaken)
    · refine .inr (.inr (.inr ⟨fun hunborn => hborn ?_, hat⟩))
      cases h with
      | others _ hop => exact hop.unborn (fun heq => hforeign (congrArg _ heq)) hunborn
      | take _ _ hop =>
          exact hop.unborn (fun heq => htaken (congrArg some (OperatorEvent.take.inj heq))) hunborn
      | own _ htakes hop => exact hop.unborn (by cases htakes <;> nofun) hunborn
      | answer _ _ _ _ hop | abandon _ _ _ _ hop | conclude _ _ _ hop => exact hop.unborn nofun hunborn
      | _ => exact hunborn

/-- Apart from the steps of ticks and of others no dispatch goes on. -/
theorem SessionStep.stage_eq {config : SessionSettings} {s t : SessionThreads ω α}
    {e : SessionEvent ω α} (h : SessionStep config s e t) (he : ∀ f, e ≠ .tick f) :
    t.ticks.threads.stage = s.ticks.threads.stage := by
  cases h with
  | tick => exact absurd rfl (he _)
  | stop _ hop =>
      cases hop
      rfl
  | _ => rfl

theorem SessionStep.listed {config : SessionSettings} {s t : SessionThreads ω α}
    {e : SessionEvent ω α} (h : SessionStep config s e t) {d : Nat} (hd : d ∈ s.listed) :
    d ∈ t.listed ∨ ((e = .join d ∨ e = .reap d) ∧ s.ticks.threads.stage d = .ended) := by
  unfold SessionThreads.listed at hd ⊢
  have hkept : s.stage.todo = [] → t.workers = s.workers → d ∈ t.workers ++ t.stage.todo := by
    intro htodo hworkers
    rw [htodo, List.append_nil, ← hworkers] at hd
    exact List.mem_append_left _ hd
  cases h with
  | notify | lane | shutdown => exact .inl hd
  | tick =>
      rcases List.mem_append.1 hd with hd | hd
      · exact .inl (List.mem_append_left _ (List.mem_append_left _ hd))
      · exact .inl (List.mem_append_right _ hd)
  | reap d' hstage hmem hended =>
      by_cases heq : d = d'
      · subst heq
        exact .inr ⟨.inr rfl, hended⟩
      · rw [hstage, SessionStage.todo, List.append_nil] at hd
        exact .inl (List.mem_append_left _ ((List.mem_erase_of_ne heq).2 hd))
  | takeWorkers hstage =>
      rw [hstage, SessionStage.todo, List.append_nil] at hd
      exact .inl (List.mem_append_right _ hd)
  | join hstage hended =>
      rw [hstage] at hd
      rcases List.mem_append.1 hd with hd | hd
      · exact .inl (List.mem_append_left _ hd)
      · rcases List.mem_cons.1 hd with rfl | hd
        · exact .inr ⟨.inl rfl, hended⟩
        · exact .inl (List.mem_append_right _ hd)
  | look hstage | load hstage | loadFailed _ hstage | tickDue hstage | shutdownSeen hstage
  | enterTick hstage | takePlan hstage | planGone hstage | panic _ hstage | answer hstage
  | judge hstage | stop hstage | stopped hstage | joined hstage | leave hstage =>
      exact .inl (hkept (by rw [hstage]; rfl) rfl)

/-- No thread can be joined before the first tick, and none is left when the session has taken them. -/
def SessionStage.keepsWorkers : SessionStage → Bool
  | .pausing | .entering | .planning | .ticking | .answered _ | .stopping _ | .halting _
  | .halted _ => true
  | .fresh | .loading | .joining _ _ | .draining _ | .returned _ | .panicked _ => false

theorem StageStep.keepsWorkers {before after : SessionStage} {e : SessionEvent ω α}
    (h : StageStep before e after) (hafter : after.keepsWorkers = false) :
    before.keepsWorkers = false ∨ e = .takeWorkers := by
  cases h with
  | aside => exact .inl hafter
  | takeWorkers => exact .inr rfl
  | panicAtOnce _ hturns => exact .inl (by cases hturns <;> rfl)
  | look | loadFailed | join | joined | leave => exact .inl rfl
  | _ => cases hafter

/-- Apart from its own steps a tick is at no other dispatch than before. -/
theorem SessionStep.current_eq {config : SessionSettings} {s t : SessionThreads ω α}
    {e : SessionEvent ω α} (h : SessionStep config s e t) (he : ∀ f, e ≠ .tick f)
    (hidle : s.stage ≠ .ticking → s.ticks.IsIdle) : t.ticks.current = s.ticks.current := by
  cases h with
  | tick => exact absurd rfl (he _)
  | takePlan hstage => exact (hidle (by rw [hstage]; nofun)).current.symm
  | _ => rfl

/-- The session has stopped the operator, or could not load the template. -/
def SessionStage.isPastStop : SessionStage → Bool
  | .halting _ | .halted _ | .joining _ _ | .draining _ | .returned _ => true
  | .fresh | .loading | .pausing | .entering | .planning | .ticking | .answered _ | .stopping _
  | .panicked _ => false

theorem StageStep.isPastStop {before after : SessionStage} {e : SessionEvent ω α}
    (h : StageStep before e after) (hafter : after.isPastStop = true) :
    before.isPastStop = true ∨ e = .stop ∨ ∃ files error, e = .load files (.error error) := by
  cases h with
  | aside => exact .inl hafter
  | loadFailed files error => exact .inr (.inr ⟨files, error, rfl⟩)
  | stop | stopAgain => exact .inr (.inl rfl)
  | stopped | takeWorkers | join | joined | leave => exact .inl rfl
  | _ => cases hafter

/-! ## The lane -/

def SessionEvent.lane? : SessionEvent ω α → Option (LaneEvent ω α)
  | .lane e | .shutdown e => some e
  | _ => none

/-- What has happened at the lane, in order. -/
def laneEvents (es : List (SessionEvent ω α)) : List (LaneEvent ω α) :=
  es.filterMap SessionEvent.lane?

@[simp] theorem laneEvents_snoc (es : List (SessionEvent ω α)) (e : SessionEvent ω α) :
    laneEvents (es ++ [e]) = laneEvents es ++ e.lane?.toList := by
  cases h : e.lane? <;> simp [laneEvents, h]

theorem LaneStep.gone {s t : LaneThreads ω α} {e : LaneEvent ω α} (h : LaneStep s e t)
    (hs : s.lane.worker = .gone) : t.lane.worker = .gone := by
  have hwork := h.work
  generalize hw : s.lane.work = w at hwork
  generalize hw' : t.lane.work = w' at hwork
  have hgone : w.worker = .gone := by
    rw [← hw]
    exact hs
  suffices hstays : w'.worker = .gone by
    rw [← hw'] at hstays
    exact hstays
  cases hwork with
  | start hworker | finish _ hworker | count hworker | report _ hworker =>
      rw [hgone] at hworker
      cases hworker
  | exit => rfl
  | _ => exact hgone

/-- Others do not change how far a waiting call has come. -/
theorem LaneStep.waits_of_ne {s t : LaneThreads ω α} {e : LaneEvent ω α} {caller : Nat}
    (h : LaneStep s e t) (he : e.caller? ≠ some caller) : t.waits caller = s.waits caller := by
  have hne : ∀ {other : Nat}, some other ≠ some caller → caller ≠ other :=
    fun hsome heq => hsome (heq ▸ rfl)
  cases h with
  | closeToWait | ask | join => exact Function.update_of_ne (hne he) ..
  | _ => rfl

/-- What happens at the lane of a session: nothing, or one of the steps there. -/
theorem SessionStep.lane_cases {config : SessionSettings} {s t : SessionThreads ω α}
    {e : SessionEvent ω α} (h : SessionStep config s e t) :
    (e.lane? = none ∧ t.lane = s.lane) ∨ ∃ f, e.lane? = some f ∧ LaneStep s.lane f t.lane := by
  cases h with
  | lane _ hlane | shutdown _ _ hlane => exact .inr ⟨_, rfl, hlane⟩
  | _ => exact .inl ⟨rfl, rfl⟩

theorem SessionStep.returned {config : SessionSettings} {s t : SessionThreads ω α}
    {e : SessionEvent ω α} (h : SessionStep config s e t)
    {outcome : Except EngineError SessionSummary} (ht : t.stage = .returned outcome) :
    t.lane.waits SessionThreads.self = s.lane.waits SessionThreads.self ∧
      (s.stage = .returned outcome ∨ s.lane.waits SessionThreads.self = .returned) := by
  have hstage := h.stage
  rw [ht] at hstage
  generalize hs : s.stage = stage at hstage
  cases hstage with
  | aside haside =>
      cases h with
      | notify | tick | reap => exact ⟨rfl, .inl rfl⟩
      | lane hcaller hlane => exact ⟨hlane.waits_of_ne hcaller, .inl rfl⟩
      | shutdown hdraining => cases hs.symm.trans hdraining
      | _ => cases haside
  | leave =>
      cases h with
      | leave _ hwaits => exact ⟨rfl, .inr hwaits⟩

section Runs

variable {config : SessionSettings} {o : Operator} {context : Context}
  {es : List (SessionEvent ω α)} {s : SessionThreads ω α}

theorem workers_eq_nil (h : Run (SessionStep config) (.begin o context) es s)
    (hstage : s.stage.keepsWorkers = false) : s.workers = [] := by
  induction h with
  | nil => rfl
  | @snoc es m t e hrun hstep ih =>
      rcases hstep.stage.keepsWorkers hstage with hbefore | rfl
      · have hnone := ih hbefore
        cases hstep with
        | @tick f _ htick =>
            have hidle := sessionIdle hrun fun hticking => by
              rw [hticking] at hbefore
              cases hbefore
            have hnothing : f.spawned? = none := by
              cases f with
              | spawn => cases (htick.isIdle hidle).2
              | _ => rfl
            rw [hnone, hnothing]
            rfl
        | reap => rw [hnone, List.erase_nil]
        | takeWorkers => rfl
        | _ => exact hnone
      · cases hstep
        rfl

/-- Every dispatch has ended, is the one that the tick is at, or has a thread that can be joined. -/
theorem workersFit (ho : o.inFlight = []) (hsignalled : o.signalled = [])
    (h : Run (SessionStep config) (.begin o context) es s)
    (hforeign : ∀ d, .tick (.others (.take d)) ∉ es) {d : Nat}
    (hborn : s.ticks.threads.stage d ≠ .unborn) :
    s.ticks.threads.stage d = .ended ∨ s.ticks.current = some d ∨ d ∈ s.listed := by
  induction h with
  | nil => exact absurd rfl hborn
  | @snoc es m t e hrun hstep ih =>
      have ih := ih fun other hmem => hforeign other (List.mem_append_left _ hmem)
      have hlisted : d ∈ m.listed → t.ticks.threads.stage d = .ended ∨ d ∈ t.listed := by
        intro hmem
        rcases hstep.listed hmem with hmem | ⟨-, hended⟩
        · exact .inr hmem
        · exact .inl (hstep.ended (sessionTableFits ho hsignalled hrun) hended)
      by_cases he : ∃ f, e = .tick f
      · obtain ⟨f, rfl⟩ := he
        cases hstep with
        | tick htick =>
            have hforeign' : f ≠ .others (.take d) := by
              rintro rfl
              exact hforeign d (List.mem_append_right _ (List.mem_singleton_self _))
            rcases htick.origin hforeign' hborn with hended | hcurrent | rfl | ⟨hold, hnot⟩
            · exact .inl hended
            · exact .inr (.inl hcurrent)
            · refine .inr (.inr (List.mem_append_left _ (List.mem_append_right _ ?_)))
              exact List.mem_singleton_self d
            · rcases ih hold with hended | hcurrent | hmem
              · exact .inl ((SessionStep.tick htick : SessionStep config m _ _).ended
                  (sessionTableFits ho hsignalled hrun) hended)
              · exact absurd hcurrent hnot
              · exact (hlisted hmem).imp_right .inr
      · have hquiet : ∀ f, e ≠ .tick f := fun f heq => he ⟨f, heq⟩
        rw [hstep.stage_eq hquiet] at hborn
        rw [hstep.current_eq hquiet (sessionIdle hrun)]
        rcases ih hborn with hended | hcurrent | hmem
        · rw [hstep.stage_eq hquiet]
          exact .inl hended
        · exact .inr (.inl hcurrent)
        · exact (hlisted hmem).imp_right .inr

/-- The thread of a detached execution can be joined until it is, or is given up when it has ended. -/
theorem spawnedFits (ho : o.inFlight = []) (hsignalled : o.signalled = [])
    (h : Run (SessionStep config) (.begin o context) es s) {d : Nat}
    (hd : .tick (.spawn d) ∈ es) :
    d ∈ s.listed ∨ s.ticks.threads.stage d = .ended ∧ (.join d ∈ es ∨ .reap d ∈ es) := by
  induction h with
  | nil => cases hd
  | @snoc es m t e hrun hstep ih =>
      have hended : m.ticks.threads.stage d = .ended → t.ticks.threads.stage d = .ended :=
        hstep.ended (sessionTableFits ho hsignalled hrun)
      rcases List.mem_append.1 hd with hd | hd
      · rcases ih hd with hmem | ⟨hstage, hgone⟩
        · rcases hstep.listed hmem with hmem | ⟨hgone, hstage⟩
          · exact .inl hmem
          · refine .inr ⟨hended hstage, hgone.imp ?_ ?_⟩ <;> rintro rfl <;> simp
        · exact .inr ⟨hended hstage, hgone.imp (List.mem_append_left _) (List.mem_append_left _)⟩
      · obtain rfl := List.mem_singleton.1 hd
        cases hstep with
        | tick =>
            refine .inl (List.mem_append_left _ (List.mem_append_right _ ?_))
            exact List.mem_singleton_self d

/-- When a session has joined the threads, no dispatch is left. -/
theorem ended_of_joined (ho : o.inFlight = []) (hsignalled : o.signalled = [])
    (h : Run (SessionStep config) (.begin o context) es s)
    (hforeign : ∀ d, .tick (.others (.take d)) ∉ es)
    (hworkers : s.stage.keepsWorkers = false) (htodo : s.stage.todo = []) {d : Nat}
    (hborn : s.ticks.threads.stage d ≠ .unborn) : s.ticks.threads.stage d = .ended := by
  have hidle := sessionIdle h fun hticking => by
    rw [hticking] at hworkers
    cases hworkers
  rcases workersFit ho hsignalled h hforeign hborn with hended | hcurrent | hmem
  · exact hended
  · rw [hidle.current] at hcurrent
    cases hcurrent
  · unfold SessionThreads.listed at hmem
    rw [workers_eq_nil h hworkers, htodo] at hmem
    cases hmem

/-! ## The operator -/

theorem stopped_or_not_loaded (h : Run (SessionStep config) (.begin o context) es s)
    (hstage : s.stage.isPastStop = true) :
    s.operator.isStopped = true ∨ ∃ files e, .load files (.error e) ∈ es := by
  induction h with
  | nil => cases hstage
  | @snoc es m t e hrun hstep ih =>
      rcases hstep.stage.isPastStop hstage with hbefore | rfl | ⟨files, answer, rfl⟩
      · rcases ih hbefore with hstopped | ⟨files, e, hmem⟩
        · exact .inl (hstep.isStopped hstopped)
        · exact .inr ⟨files, e, List.mem_append_left _ hmem⟩
      · cases hstep with
        | stop _ hop =>
            cases hop
            exact .inl (Operator.isStopped_markStopped _)
      · exact .inr ⟨files, answer, List.mem_append_right _ (List.mem_singleton_self _)⟩

theorem laneReached (h : Run (SessionStep config) (.begin o context) es s) :
    Run LaneStep {} (laneEvents es) s.lane := by
  induction h with
  | nil => exact .nil
  | snoc _ hstep ih =>
      rw [laneEvents_snoc]
      rcases hstep.lane_cases with ⟨hnone, hsame⟩ | ⟨f, hf, hlane⟩
      · rw [hnone, hsame, Option.toList_none, List.append_nil]
        exact ih
      · rw [hf]
        exact ih.snoc hlane

/-- The call of the session at the lane. As long as it has not asked for the worker nobody has, so it
gets the worker, and when it has returned the worker has left. -/
structure ShutdownFits (es : List (SessionEvent ω α)) (s : SessionThreads ω α) : Prop where
  unasked : s.lane.waits SessionThreads.self = .absent ∨
    s.lane.waits SessionThreads.self = .asking → asked (laneEvents es) = []
  gone : s.lane.waits SessionThreads.self = .returned → s.lane.lane.worker = .gone

theorem shutdownFits (h : Run (SessionStep config) (.begin o context) es s)
    (hasks : ∀ caller own, .lane (.ask caller own) ∉ es) : ShutdownFits es s := by
  induction h with
  | nil => exact ⟨fun _ => rfl, nofun⟩
  | @snoc es m t e hrun hstep ih =>
      obtain ⟨hunasked, hgone⟩ :=
        ih fun caller own hmem => hasks caller own (List.mem_append_left _ hmem)
      cases hstep with
      | @lane f _ hcaller hlane =>
          have hsilent : f.asked? = none := by
            cases f with
            | ask caller own =>
                exact absurd (List.mem_append_right _ (List.mem_singleton_self _)) (hasks caller own)
            | _ => rfl
          have hsame := hlane.waits_of_ne hcaller
          refine ⟨fun hwaits => ?_, fun hwaits => hlane.gone (hgone (hsame ▸ hwaits))⟩
          rw [laneEvents_snoc]
          show asked (laneEvents es ++ [f]) = []
          rw [asked_snoc, hsilent, hunasked (hsame ▸ hwaits)]
          rfl
      | shutdown hstage hown hlane =>
          simp only [List.mem_cons, List.not_mem_nil, or_false] at hown
          rcases hown with rfl | rfl | rfl
          · cases hlane with
            | closeToWait _ habsent =>
                refine ⟨fun _ => ?_, fun hwaits => absurd hwaits (by simp)⟩
                simpa [SessionEvent.lane?, LaneEvent.asked?] using hunasked (.inl habsent)
          · cases hlane with
            | ask _ _ hasking =>
                -- nobody has asked before
                have hjoinable : m.lane.lane.joinable = true :=
                  (waitsFit (laneReached hrun)).joinable.2 (hunasked (.inr hasking))
                constructor <;> simp [Lane.takeWorker, hjoinable]
          · cases hlane with
            | join _ _ hworker => exact ⟨fun hwaits => absurd hwaits (by simp), fun _ => hworker⟩
      | _ =>
          refine ⟨fun hwaits => ?_, hgone⟩
          simpa [SessionEvent.lane?] using hunasked hwaits

/-- A session that has returned has returned from its call at the lane. -/
theorem waits_of_returned (h : Run (SessionStep config) (.begin o context) es s)
    {outcome : Except EngineError SessionSummary} (hstage : s.stage = .returned outcome) :
    s.lane.waits SessionThreads.self = .returned := by
  induction h with
  | nil => cases hstage
  | snoc _ hstep ih =>
      obtain ⟨hsame, hbefore | hwaits⟩ := hstep.returned hstage
      · exact hsame.trans (ih hbefore)
      · exact hsame.trans hwaits

end Runs

end RuleEngine
