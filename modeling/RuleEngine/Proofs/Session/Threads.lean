import RuleEngine.Configuration.Basic
import RuleEngine.Proofs.Lane.Threads
import RuleEngine.Proofs.Operator.TickThreads
import RuleEngine.Session.Run

set_option autoImplicit false

/-! # A session among other threads

A session looks whether its operator has a template, loads it if not, runs ticks, and cleans up. It
is one thread among others: executions that ticks have detached go on by themselves, anybody may ask
for the end of the session or stop the operator, and anybody may use the lane. `SessionStep` says
what can happen when, and what becomes of it. What happens at the operator in a tick are steps of
`TickStep`, what happens at the lane steps of `LaneStep`, and the waiting shutdown of the session is
that of the caller `SessionThreads.self`.

What a session makes of the answer of a tick is `Session.judge`; that is what `Session.loop` does
(`Session.loop_succ`).
-/

namespace RuleEngine

/-! ## One turn of the loop -/

namespace Session

variable {σ : Type}

/-- The session ends before its next tick if it has run as many as it may. -/
def ended? (limit : Option Nat) (summary : SessionSummary) :
    Option (Except EngineError SessionSummary) :=
  if isComplete limit summary then some (.ok summary) else none

/-- The totals behind a tick. -/
def counted (summary : SessionSummary) : Except EngineError TickReport → SessionSummary
  | .ok report => summary.add report
  | .error _ => summary

/-- How the session ends behind a tick, if it does. -/
def judge (limit : Option Nat) (summary : SessionSummary) (stopped : Bool) :
    Except EngineError TickReport → Option (Except EngineError SessionSummary)
  | .ok report => ended? limit (summary.add report)
  | .error e => some (if isRefusal e && stopped then .ok summary else .error e)

theorem loop_of_ended {env : SessionEnv σ} {limit : Option Nat} {summary : SessionSummary}
    {outcome : Except EngineError SessionSummary} (h : ended? limit summary = some outcome)
    (bound : Nat) (s : σ) : loop env limit bound summary s = some (outcome, s) := by
  unfold ended? at h
  by_cases hcomplete : isComplete limit summary = true
  · rw [if_pos hcomplete] at h
    cases h
    cases bound <;> rw [loop, if_pos hcomplete]
  · rw [if_neg hcomplete] at h
    cases h

/-- One turn of the loop of a session that has not ended. -/
theorem loop_succ (env : SessionEnv σ) (limit : Option Nat) (bound : Nat)
    (summary : SessionSummary) (s : σ) (hgoes : ended? limit summary = none) :
    loop env limit (bound + 1) summary s =
      match env.await s with
      | (.shutdown, s) => some (.ok summary, s)
      | (.tick, s) =>
        match env.runTick s with
        | (answer, s) =>
          match judge limit summary (env.isStopped s) answer with
          | some outcome => some (outcome, s)
          | none => loop env limit bound (counted summary answer) s := by
  have hcomplete : ¬ isComplete limit summary = true := by
    intro hcomplete
    rw [ended?, if_pos hcomplete] at hgoes
    cases hgoes
  rw [loop, if_neg hcomplete]
  rcases hwake : env.await s with ⟨wake, s₁⟩
  cases wake with
  | shutdown => rfl
  | tick =>
      rcases hanswer : env.runTick s₁ with ⟨answer, s₂⟩
      cases answer with
      | ok report =>
          cases hended : ended? limit (summary.add report) with
          | none => simp only [hanswer, judge, counted, hended]
          | some outcome =>
              simp only [hanswer, judge, hended]
              exact loop_of_ended hended bound s₂
      | error e =>
          simp only [hanswer, judge]
          by_cases hstopped : (isRefusal e && env.isStopped s₂) = true
          · rw [if_pos hstopped, if_pos hstopped]
          · rw [if_neg hstopped, if_neg hstopped]

end Session

/-! ## How far a session has come -/

/-- How far the call has come that runs a session. -/
inductive SessionStage
  | fresh
  /-- It has seen that there is no template. -/
  | loading
  /-- It waits for the moment of the next tick, or for a request to end. -/
  | pausing
  /-- It calls for a tick. -/
  | entering
  /-- The tick was let in, and has not asked for the plan. -/
  | planning
  | ticking
  /-- The tick has returned. -/
  | answered (result : Except EngineError TickReport)
  /-- It is over, and the operator is to be stopped. -/
  | stopping (outcome : Except EngineError SessionSummary)
  /-- It has stopped the operator itself, and tells the operations. -/
  | halting (outcome : Except EngineError SessionSummary)
  | halted (outcome : Except EngineError SessionSummary)
  /-- It waits for the threads of detached executions. -/
  | joining (outcome : Except EngineError SessionSummary) (todo : List Nat)
  /-- It shuts the lane down, and waits. -/
  | draining (outcome : Except EngineError SessionSummary)
  | returned (outcome : Except EngineError SessionSummary)
  | panicked (message : String)

/-- The session ends, or waits for the moment of the next tick. -/
def SessionStage.ofEnd : Option (Except EngineError SessionSummary) → SessionStage
  | some outcome => .stopping outcome
  | none => .pausing

/-- What a session does whose template is loaded. -/
def Session.beginTicks (config : SessionSettings) : SessionStage :=
  if config.tickIntervalMs = 0 then .panicked Session.periodPanic
  else .ofEnd (Session.ended? config.maxTicks {})

theorem SessionStage.ofEnd_cases (end? : Option (Except EngineError SessionSummary)) :
    ofEnd end? = .pausing ∨ ∃ outcome, ofEnd end? = .stopping outcome := by
  cases end? with
  | none => exact .inl rfl
  | some outcome => exact .inr ⟨outcome, rfl⟩

theorem Session.beginTicks_cases (config : SessionSettings) :
    beginTicks config = .panicked periodPanic ∨ beginTicks config = .pausing ∨
      ∃ outcome, beginTicks config = .stopping outcome := by
  unfold beginTicks
  split
  · exact .inl rfl
  · exact .inr (SessionStage.ofEnd_cases _)

/-- What a session does whose tick was let in or refused. -/
def SessionStage.ofEntry : Except EngineError Unit → SessionStage
  | .ok _ => .planning
  | .error e => .answered (.error e)

/-- A session, the operator and the context of its ticks, the lane, and all that others do there. -/
structure SessionThreads (ω α : Type) where
  /-- The tick that runs, or the last one, and what it shares with others. -/
  ticks : TickThreads
  lane : LaneThreads ω α := {}
  stage : SessionStage := .fresh
  summary : SessionSummary := {}
  /-- Somebody has asked for the end, and the session does not know it. -/
  shutdownAsked : Bool := false
  /-- The detached executions whose threads can be joined. -/
  workers : List Nat := []

/-- What can happen to a session. -/
inductive SessionEvent (ω α : Type)
  /-- Somebody asks for the end of the session. -/
  | notify
  /-- The tick goes on, or others do something at the operator or the context. -/
  | tick (e : TickEvent)
  /-- The thread of a detached execution that has ended is given up. -/
  | reap (d : Nat)
  /-- Others do something at the lane. -/
  | lane (e : LaneEvent ω α)
  /-- The session looks whether there is a template. -/
  | look (lifecycle : Lifecycle)
  | load (files : FileTree) (answer : Except EngineError Unit)
  | wake (w : Wake)
  /-- A call for a tick begins. -/
  | enterTick (answer : Except EngineError Unit)
  | takePlan (answer : Except EngineError Plan)
  /-- The thread of the tick panics. -/
  | panic (message : String)
  /-- The tick returns. -/
  | answer (result : Except EngineError TickReport)
  /-- The session has its answer, and looks whether the operator was stopped. -/
  | judge (stopped : Bool)
  | stop
  /-- All operations were told to stop. -/
  | stopped
  | takeWorkers
  | join (d : Nat)
  /-- No thread is left to be joined. -/
  | joined
  /-- The session shuts the lane down. -/
  | shutdown (e : LaneEvent ω α)
  /-- The session returns. -/
  | leave (outcome : Except EngineError SessionSummary)

/-- The detached execution that has got its thread. -/
def TickEvent.spawned? : TickEvent → Option Nat
  | .spawn d => some d
  | _ => none

/-- The executions that a tick has begun go on without it. -/
def TickThreads.detach (s : TickThreads) : TickThreads := { s with work := fun _ => none }

namespace SessionThreads

variable {ω α : Type}

/-- The number of the session's own call at the lane. -/
def self : Nat := 0

def operator (s : SessionThreads ω α) : Operator := s.ticks.threads.operator

/-- Something else becomes of the threads at the operator. -/
def withThreads (s : SessionThreads ω α) (t : OperatorThreads) : SessionThreads ω α :=
  { s with ticks := { s.ticks with threads := t } }

/-- Something else becomes of the operator. -/
def withOperator (s : SessionThreads ω α) (o : Operator) : SessionThreads ω α :=
  s.withThreads { s.ticks.threads with operator := o }

def begin (o : Operator) (context : Context) : SessionThreads ω α where
  ticks := { threads := { operator := o }, context := context, program := .ret (.ok {}) }

end SessionThreads

/-- What one event makes of a session and the others. -/
inductive SessionStep {ω α : Type} (config : SessionSettings) :
    SessionThreads ω α → SessionEvent ω α → SessionThreads ω α → Prop
  | notify {s : SessionThreads ω α} : SessionStep config s .notify { s with shutdownAsked := true }
  | tick {s : SessionThreads ω α} {e : TickEvent} {t : TickThreads} :
      TickStep s.ticks e t →
      SessionStep config s (.tick e)
        { s with ticks := t, workers := s.workers ++ e.spawned?.toList }
  | reap {s : SessionThreads ω α} (d : Nat) :
      s.stage = .ticking → d ∈ s.workers → s.ticks.threads.stage d = .ended →
      SessionStep config s (.reap d) { s with workers := s.workers.erase d }
  | lane {s : SessionThreads ω α} {e : LaneEvent ω α} {t : LaneThreads ω α} :
      e.caller? ≠ some SessionThreads.self → LaneStep s.lane e t →
      SessionStep config s (.lane e) { s with lane := t }
  | look {s : SessionThreads ω α} :
      s.stage = .fresh →
      SessionStep config s (.look s.operator.lifecycle)
        { s with
          stage :=
            if s.operator.lifecycle = .unloaded then .loading else Session.beginTicks config }
  | load {s : SessionThreads ω α} {files : FileTree} {n : Notice} {o : Operator} :
      s.stage = .loading → s.operator.load files = .ok (n, o) →
      SessionStep config s (.load files (.ok ()))
        { s.withOperator o with stage := Session.beginTicks config }
  | loadFailed {s : SessionThreads ω α} {e : EngineError} (files : FileTree) :
      s.stage = .loading → s.operator.load files = .error e →
      SessionStep config s (.load files (.error e)) { s with stage := .draining (.error e) }
  | tickDue {s : SessionThreads ω α} :
      s.stage = .pausing → SessionStep config s (.wake .tick) { s with stage := .entering }
  | shutdownSeen {s : SessionThreads ω α} :
      s.stage = .pausing → s.shutdownAsked = true →
      SessionStep config s (.wake .shutdown)
        { s with shutdownAsked := false, stage := .stopping (.ok s.summary) }
  | enterTick {s : SessionThreads ω α} {answer : Except EngineError Unit} {o : Operator} :
      s.stage = .entering → s.operator.enterTick = (answer, o) →
      SessionStep config s (.enterTick answer)
        { s.withOperator o with stage := .ofEntry answer }
  | takePlan {s : SessionThreads ω α} {plan : Plan} :
      s.stage = .planning → s.operator.currentPlan = .ok plan →
      SessionStep config s (.takePlan (.ok plan))
        { s with
          ticks := .begin s.ticks.threads plan s.ticks.context s.ticks.clock
          stage := .ticking }
  | planGone {s : SessionThreads ω α} {e : EngineError} :
      s.stage = .planning → s.operator.currentPlan = .error e →
      SessionStep config s (.takePlan (.error e)) { s with stage := .answered (.error e) }
  | panic {s : SessionThreads ω α} (message : String) :
      s.stage = .ticking → s.ticks.current = none →
      SessionStep config s (.panic message)
        { s with
          ticks := { s.ticks.detach with program := .ret (.error (.taskFailed message)) }
          stage := .answered (.error (.taskFailed message)) }
  | answer {s : SessionThreads ω α} {result : Except EngineError TickReport} :
      s.stage = .ticking → s.ticks.program = .ret result →
      SessionStep config s (.answer result)
        { s with ticks := s.ticks.detach, stage := .answered result }
  | judge {s : SessionThreads ω α} {result : Except EngineError TickReport} :
      s.stage = .answered result →
      SessionStep config s (.judge s.operator.isStopped)
        { s with
          summary := Session.counted s.summary result
          stage :=
            .ofEnd (Session.judge config.maxTicks s.summary s.operator.isStopped result) }
  | stop {s : SessionThreads ω α} {outcome : Except EngineError SessionSummary}
      {t : OperatorThreads} :
      s.stage = .stopping outcome → OperatorStep s.ticks.threads .stop t →
      SessionStep config s .stop
        { s.withThreads t with
          stage := if s.operator.isStopped then .halted outcome else .halting outcome }
  | stopped {s : SessionThreads ω α} {outcome : Except EngineError SessionSummary} :
      s.stage = .halting outcome → s.ticks.threads.stopper = .finished →
      SessionStep config s .stopped { s with stage := .halted outcome }
  | takeWorkers {s : SessionThreads ω α} {outcome : Except EngineError SessionSummary} :
      s.stage = .halted outcome →
      SessionStep config s .takeWorkers
        { s with stage := .joining outcome s.workers, workers := [] }
  | join {s : SessionThreads ω α} {outcome : Except EngineError SessionSummary} {d : Nat}
      {rest : List Nat} :
      s.stage = .joining outcome (d :: rest) → s.ticks.threads.stage d = .ended →
      SessionStep config s (.join d) { s with stage := .joining outcome rest }
  | joined {s : SessionThreads ω α} {outcome : Except EngineError SessionSummary} :
      s.stage = .joining outcome [] →
      SessionStep config s .joined { s with stage := .draining outcome }
  | shutdown {s : SessionThreads ω α} {outcome : Except EngineError SessionSummary}
      {e : LaneEvent ω α} {t : LaneThreads ω α} :
      s.stage = .draining outcome →
      e ∈ [.close (some SessionThreads.self), .ask SessionThreads.self false,
        .join SessionThreads.self] →
      LaneStep s.lane e t →
      SessionStep config s (.shutdown e) { s with lane := t }
  | leave {s : SessionThreads ω α} {outcome : Except EngineError SessionSummary} :
      s.stage = .draining outcome → s.lane.waits SessionThreads.self = .returned →
      SessionStep config s (.leave outcome) { s with stage := .returned outcome }

/-! ## The stages alone -/

/-- The session stays where it is. -/
def SessionEvent.isAside {ω α : Type} : SessionEvent ω α → Bool
  | .notify | .tick _ | .reap _ | .lane _ | .shutdown _ => true
  | .look _ | .load _ _ | .wake _ | .enterTick _ | .takePlan _ | .panic _ | .answer _ | .judge _
  | .stop | .stopped | .takeWorkers | .join _ | .joined | .leave _ => false

/-- The session has a template, and turns to its ticks. -/
inductive TurnsToTicks {ω α : Type} : SessionStage → SessionEvent ω α → Prop
  | look (lifecycle : Lifecycle) : TurnsToTicks .fresh (.look lifecycle)
  | load (files : FileTree) : TurnsToTicks .loading (.load files (.ok ()))

/-- From which stage an event takes a session to which one. -/
inductive StageStep {ω α : Type} : SessionStage → SessionEvent ω α → SessionStage → Prop
  | aside {stage : SessionStage} {e : SessionEvent ω α} :
      e.isAside = true → StageStep stage e stage
  | look (lifecycle : Lifecycle) : StageStep .fresh (.look lifecycle) .loading
  | begin {stage : SessionStage} {e : SessionEvent ω α} :
      TurnsToTicks stage e → StageStep stage e .pausing
  | endAtOnce {stage : SessionStage} {e : SessionEvent ω α}
      (outcome : Except EngineError SessionSummary) :
      TurnsToTicks stage e → StageStep stage e (.stopping outcome)
  | panicAtOnce {stage : SessionStage} {e : SessionEvent ω α} (message : String) :
      TurnsToTicks stage e → StageStep stage e (.panicked message)
  | loadFailed (files : FileTree) (e : EngineError) :
      StageStep .loading (.load files (.error e)) (.draining (.error e))
  | tickDue : StageStep .pausing (.wake .tick) .entering
  | shutdownSeen (outcome : Except EngineError SessionSummary) :
      StageStep .pausing (.wake .shutdown) (.stopping outcome)
  | enterTick : StageStep .entering (.enterTick (.ok ())) .planning
  | refused (e : EngineError) : StageStep .entering (.enterTick (.error e)) (.answered (.error e))
  | takePlan (plan : Plan) : StageStep .planning (.takePlan (.ok plan)) .ticking
  | planGone (e : EngineError) : StageStep .planning (.takePlan (.error e)) (.answered (.error e))
  | panic (message : String) :
      StageStep .ticking (.panic message) (.answered (.error (.taskFailed message)))
  | answer (result : Except EngineError TickReport) :
      StageStep .ticking (.answer result) (.answered result)
  | goOn (result : Except EngineError TickReport) (stopped : Bool) :
      StageStep (.answered result) (.judge stopped) .pausing
  | finish (result : Except EngineError TickReport) (stopped : Bool)
      (outcome : Except EngineError SessionSummary) :
      StageStep (.answered result) (.judge stopped) (.stopping outcome)
  | stop (outcome : Except EngineError SessionSummary) :
      StageStep (.stopping outcome) .stop (.halting outcome)
  | stopAgain (outcome : Except EngineError SessionSummary) :
      StageStep (.stopping outcome) .stop (.halted outcome)
  | stopped (outcome : Except EngineError SessionSummary) :
      StageStep (.halting outcome) .stopped (.halted outcome)
  | takeWorkers (outcome : Except EngineError SessionSummary) (workers : List Nat) :
      StageStep (.halted outcome) .takeWorkers (.joining outcome workers)
  | join (outcome : Except EngineError SessionSummary) (d : Nat) (rest : List Nat) :
      StageStep (.joining outcome (d :: rest)) (.join d) (.joining outcome rest)
  | joined (outcome : Except EngineError SessionSummary) :
      StageStep (.joining outcome []) .joined (.draining outcome)
  | leave (outcome : Except EngineError SessionSummary) :
      StageStep (.draining outcome) (.leave outcome) (.returned outcome)

section Stages

variable {ω α : Type} {config : SessionSettings} {s t : SessionThreads ω α} {e : SessionEvent ω α}

theorem TurnsToTicks.stage {stage : SessionStage} (h : TurnsToTicks stage e) :
    StageStep stage e (Session.beginTicks config) := by
  rcases Session.beginTicks_cases config with hb | hb | ⟨outcome, hb⟩
  · rw [hb]
    exact .panicAtOnce _ h
  · rw [hb]
    exact .begin h
  · rw [hb]
    exact .endAtOnce outcome h

theorem SessionStep.stage (h : SessionStep config s e t) : StageStep s.stage e t.stage := by
  cases h with
  | notify | tick | reap | lane | shutdown => exact .aside rfl
  | look hstage =>
      rw [hstage]
      dsimp only
      split
      · exact .look _
      · exact (TurnsToTicks.look _).stage
  | load hstage =>
      rw [hstage]
      exact (TurnsToTicks.load _).stage
  | @enterTick answer _ hstage =>
      rw [hstage]
      cases answer with
      | ok => exact .enterTick
      | error e => exact .refused e
  | @judge result hstage =>
      rw [hstage]
      dsimp only
      rcases SessionStage.ofEnd_cases (Session.judge config.maxTicks s.summary s.operator.isStopped
        result) with hj | ⟨outcome, hj⟩
      · rw [hj]
        exact .goOn result _
      · rw [hj]
        exact .finish result _ outcome
  | @stop outcome _ hstage =>
      rw [hstage]
      dsimp only
      split
      · exact .stopAgain outcome
      · exact .stop outcome
  | shutdownSeen hstage =>
      rw [hstage]
      exact .shutdownSeen _
  | loadFailed _ hstage | tickDue hstage | takePlan hstage | planGone hstage | panic _ hstage
  | answer hstage | stopped hstage | takeWorkers hstage | join hstage | joined hstage
  | leave hstage =>
      rw [hstage]
      constructor

end Stages

end RuleEngine
