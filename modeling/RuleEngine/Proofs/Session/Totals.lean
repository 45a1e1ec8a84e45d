import Mathlib.Algebra.GroupWithZero.Nat
import RuleEngine.Proofs.Session.Threads

set_option autoImplicit false

/-! # What a session adds up

A session calls for one tick at a time (`sessionCalls`), and the totals that it keeps are those of the
ticks that have succeeded (`sessionTotal`): a report that it has got is counted when it looks at it, and
the session looks at every one before it does anything else. It goes on only as long as it has not run
as many ticks as it may, so there are never more (`sessionLimit`), and if it ends well, its outcome are
the totals (`loopFits`).
-/

namespace RuleEngine

variable {ω α : Type}

/-! ## Calls and reports -/

theorem SessionSummary.foldl_add (reports : List TickReport) (s : SessionSummary) :
    reports.foldl add s =
      { ticks := s.ticks + reports.length
        actions := s.actions + (reports.map (·.actions)).sum
        failures := s.failures + (reports.map (·.failures.length)).sum } := by
  induction reports generalizing s with
  | nil => rfl
  | cons report rest ih =>
      rw [List.foldl_cons, ih]
      simp only [add, List.length_cons, List.map_cons, List.sum_cons, Nat.add_assoc, Nat.add_comm 1]

namespace SessionEvent

def beginsTick : SessionEvent ω α → Bool
  | .enterTick _ => true
  | _ => false

/-- A call for a tick ends: it is refused, it panics, or it returns. -/
def endsTick : SessionEvent ω α → Bool
  | .enterTick (.error _) | .takePlan (.error _) | .panic _ | .answer _ => true
  | _ => false

/-- The report of a tick that has succeeded. -/
def report? : SessionEvent ω α → Option TickReport
  | .answer (.ok report) => some report
  | _ => none

end SessionEvent

def tickReports (es : List (SessionEvent ω α)) : List TickReport :=
  es.filterMap SessionEvent.report?

@[simp] theorem tickReports_snoc (es : List (SessionEvent ω α)) (e : SessionEvent ω α) :
    tickReports (es ++ [e]) = tickReports es ++ e.report?.toList := by
  cases h : e.report? <;> simp [tickReports, h]

namespace SessionStage

/-- A call for a tick is under way. -/
def isInTick : SessionStage → Bool
  | .planning | .ticking => true
  | .fresh | .loading | .pausing | .entering | .answered _ | .stopping _ | .halting _ | .halted _
  | .joining _ _ | .draining _ | .returned _ | .panicked _ => false

/-- The session runs ticks. -/
def isLooping : SessionStage → Bool
  | .pausing | .entering | .planning | .ticking | .answered _ => true
  | .fresh | .loading | .stopping _ | .halting _ | .halted _ | .joining _ _ | .draining _
  | .returned _ | .panicked _ => false

def outcome? : SessionStage → Option (Except EngineError SessionSummary)
  | .stopping outcome | .halting outcome | .halted outcome | .joining outcome _ | .draining outcome
  | .returned outcome => some outcome
  | .fresh | .loading | .pausing | .entering | .planning | .ticking | .answered _
  | .panicked _ => none

/-- The totals, with those of a report that the session has not looked at yet. -/
def total (stage : SessionStage) (summary : SessionSummary) : SessionSummary :=
  match stage with
  | .answered result => Session.counted summary result
  | _ => summary

end SessionStage

/-! ## Steps -/

section Steps

variable {config : SessionSettings} {s t : SessionThreads ω α} {e : SessionEvent ω α}

/-- A call for a tick is under way from its beginning to its end. -/
theorem StageStep.calls {before after : SessionStage} (h : StageStep before e after) :
    e.endsTick.toNat + after.isInTick.toNat = before.isInTick.toNat + e.beginsTick.toNat := by
  cases h with
  | aside haside => cases e <;> first | exact Nat.add_comm .. | cases haside
  | begin hturns | endAtOnce _ hturns | panicAtOnce _ hturns => cases hturns <;> rfl
  | _ => rfl

/-- A report is added to the totals, and nothing else changes them. -/
theorem SessionStep.total (h : SessionStep config s e t) :
    t.stage.total t.summary =
      e.report?.toList.foldl SessionSummary.add (s.stage.total s.summary) := by
  cases h with
  | notify | tick | reap | lane | shutdown => rfl
  | look hstage =>
      dsimp only
      rw [hstage]
      split
      · rfl
      · rcases Session.beginTicks_cases config with hb | hb | ⟨_, hb⟩ <;> rw [hb] <;> rfl
  | load hstage =>
      dsimp only
      rw [hstage]
      rcases Session.beginTicks_cases config with hb | hb | ⟨_, hb⟩ <;> rw [hb] <;> rfl
  | @enterTick answer _ hstage =>
      dsimp only
      rw [hstage]
      cases answer <;> rfl
  | @answer result hstage =>
      dsimp only
      rw [hstage]
      cases result <;> rfl
  | @judge result hstage =>
      dsimp only
      rw [hstage]
      rcases SessionStage.ofEnd_cases (Session.judge ..) with hj | ⟨_, hj⟩ <;> rw [hj] <;> rfl
  | stop hstage =>
      dsimp only
      rw [hstage]
      split <;> rfl
  | loadFailed _ hstage | tickDue hstage | shutdownSeen hstage | takePlan hstage | planGone hstage
  | panic _ hstage | stopped hstage | takeWorkers hstage | join hstage | joined hstage
  | leave hstage =>
      rw [hstage]
      rfl

/-- A report is that of a tick that was running. -/
theorem SessionStep.stage_of_report (h : SessionStep config s e t) {report : TickReport}
    (hreport : e.report? = some report) : s.stage = .ticking := by
  cases h with
  | answer hstage => exact hstage
  | _ => cases hreport

/-- What is certain about the totals at each of the stages of a session. -/
def LoopFits (config : SessionSettings) (summary : SessionSummary) : SessionStage → Prop
  | .fresh | .loading => summary = {}
  | .pausing | .entering | .planning | .ticking | .answered _ =>
    Session.isComplete config.maxTicks summary = false
  | .stopping outcome | .halting outcome | .halted outcome | .joining outcome _ | .draining outcome
  | .returned outcome => ∀ totals, outcome = .ok totals → totals = summary
  | .panicked _ => True

/-- A session that has run enough ticks ends with its totals, and one that has not goes on. -/
theorem loopFits_of_ended? (config : SessionSettings) (summary : SessionSummary) :
    LoopFits config summary (.ofEnd (Session.ended? config.maxTicks summary)) := by
  unfold Session.ended?
  cases hcomplete : Session.isComplete config.maxTicks summary with
  | false => exact hcomplete
  | true => exact fun totals heq => (Except.ok.inj heq).symm

theorem loopFits_beginTicks (config : SessionSettings) :
    LoopFits config {} (Session.beginTicks config) := by
  unfold Session.beginTicks
  split
  · trivial
  · exact loopFits_of_ended? config {}

theorem loopFits_judge (config : SessionSettings) (summary : SessionSummary) (stopped : Bool)
    (result : Except EngineError TickReport) :
    LoopFits config (Session.counted summary result)
      (.ofEnd (Session.judge config.maxTicks summary stopped result)) := by
  cases result with
  | ok report => exact loopFits_of_ended? config (summary.add report)
  | error e =>
      intro totals heq
      split at heq
      · exact (Except.ok.inj heq).symm
      · cases heq

theorem LoopFits.step (h : LoopFits config s.summary s.stage) (hstep : SessionStep config s e t) :
    LoopFits config t.summary t.stage := by
  cases hstep with
  | notify | tick | reap | lane | shutdown => exact h
  | look hstage =>
      rw [hstage] at h
      have hblank : s.summary = {} := h
      dsimp only
      split
      · exact hblank
      · rw [hblank]
        exact loopFits_beginTicks config
  | load hstage =>
      rw [hstage] at h
      have hblank : s.summary = {} := h
      show LoopFits config s.summary _
      rw [hblank]
      exact loopFits_beginTicks config
  | judge => exact loopFits_judge config s.summary _ _
  | loadFailed => exact nofun
  | shutdownSeen => exact fun totals heq => (Except.ok.inj heq).symm
  | @enterTick answer _ hstage =>
      rw [hstage] at h
      cases answer <;> exact h
  | stop hstage =>
      rw [hstage] at h
      dsimp only
      split <;> exact h
  | tickDue hstage | takePlan hstage | planGone hstage | panic _ hstage | answer hstage
  | stopped hstage | takeWorkers hstage | join hstage | joined hstage | leave hstage =>
      rw [hstage] at h
      exact h

end Steps

/-! ## Runs -/

section Runs

variable {config : SessionSettings} {o : Operator} {context : Context}
  {es : List (SessionEvent ω α)} {s : SessionThreads ω α}

/-- Of the calls for a tick that have begun, one at most has not ended. -/
theorem sessionCalls (h : Run (SessionStep config) (.begin o context) es s) :
    es.countP SessionEvent.beginsTick =
      es.countP SessionEvent.endsTick + s.stage.isInTick.toNat := by
  induction h with
  | nil => rfl
  | @snoc es m t e _ hstep ih =>
      have hcalls := hstep.stage.calls
      rw [List.countP_append, List.countP_append, List.countP_singleton, List.countP_singleton, ih]
      cases hbegins : e.beginsTick <;> cases hends : e.endsTick <;>
        simp only [hbegins, hends, Bool.toNat_true, Bool.toNat_false] at hcalls <;> simp <;> omega

/-- The totals are those of the reports. -/
theorem sessionTotal (h : Run (SessionStep config) (.begin o context) es s) :
    s.stage.total s.summary = (tickReports es).foldl SessionSummary.add {} := by
  induction h with
  | nil => rfl
  | snoc _ hstep ih => rw [hstep.total, ih, tickReports_snoc, List.foldl_append]

theorem loopFits (h : Run (SessionStep config) (.begin o context) es s) :
    LoopFits config s.summary s.stage := by
  induction h with
  | nil => rfl
  | snoc _ hstep ih => exact ih.step hstep

/-- A session that ends well returns the totals of the reports. -/
theorem totals_of_returned (h : Run (SessionStep config) (.begin o context) es s)
    {totals : SessionSummary} (hstage : s.stage = .returned (.ok totals)) :
    totals = (tickReports es).foldl SessionSummary.add {} := by
  have hsummary := loopFits h
  have hreports := sessionTotal h
  rw [hstage] at hsummary hreports
  exact (hsummary totals rfl).trans hreports

/-- No more ticks succeed than the session may run. -/
theorem sessionLimit (h : Run (SessionStep config) (.begin o context) es s) {limit : Nat}
    (hlimit : config.maxTicks = some limit) : (tickReports es).length ≤ limit := by
  induction h with
  | nil => exact Nat.zero_le _
  | @snoc es m t e hrun hstep ih =>
      rw [tickReports_snoc, List.length_append]
      cases hreport : e.report? with
      | none => exact ih
      | some report =>
          have hticking := hstep.stage_of_report hreport
          have hgoes := loopFits hrun
          have htotal := sessionTotal hrun
          rw [hticking] at hgoes htotal
          have hticks : m.summary.ticks = (tickReports es).length := by
            rw [show m.summary = _ from htotal, SessionSummary.foldl_add]
            exact Nat.zero_add _
          have hfew : Session.isComplete config.maxTicks m.summary = false := hgoes
          rw [hlimit, Session.isComplete, Option.any_some, decide_eq_false_iff_not, hticks] at hfew
          exact Nat.not_le.1 hfew

end Runs

end RuleEngine
