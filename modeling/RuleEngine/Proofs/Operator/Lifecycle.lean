import RuleEngine.Proofs.Operator.Calls
import RuleEngine.Proofs.Operator.Save

set_option autoImplicit false

/-! # The lifecycle of an operator

The lifecycle and the plan lie apart, and a stop changes first the one and then the other. However the
calls at an operator take turns, the lifecycle goes one way only: it is loaded once, runs, and is
stopped once and for good. As long as it is loaded or running there is a plan; when the call that has
stopped it has returned, there is none any more, and whoever comes later is refused
(`keepsLifecycle`).

Of all that can happen, little matters for this: the lifecycle, the plan, how far the stop has come,
and what was reported. `PhaseStep` says what an event means for these.
-/

namespace RuleEngine

/-- The lifecycle may stay as it is, or move on in one of these ways. -/
def Lifecycle.MovesTo (before after : Lifecycle) : Prop :=
  after = before ∨ (before = .unloaded ∧ after = .loaded) ∨
    ((before = .loaded ∨ before = .running) ∧ after = .running) ∨ after = .stopped

/-- A stopped operator stays so. -/
theorem Lifecycle.MovesTo.stopped {after : Lifecycle} (h : Lifecycle.stopped.MovesTo after) :
    after = .stopped := by
  rcases h with h | ⟨h, -⟩ | ⟨h | h, -⟩ | h
  · exact h
  · cases h
  · cases h
  · cases h
  · exact h

/-- A stop is under way. -/
def StopStage.isBusy : StopStage → Bool
  | .marked | .telling _ | .through | .clearing _ | .cleared => true
  | .idle | .finished => false

/-! ## What matters for the lifecycle -/

/-- The part of an operator and its calls that has to do with the lifecycle. -/
structure Phase where
  lifecycle : Lifecycle
  plan : Option Plan
  stopper : StopStage
  reported : Bool
  notices : List Notice

/-- The part of an operator and its calls that has to do with the lifecycle. -/
def OperatorCalls.phase (s : OperatorCalls) : Phase :=
  ⟨s.operator.lifecycle, s.operator.plan, s.threads.stopper, s.tally.reported, s.notices⟩

/-- What an event means for the lifecycle. -/
inductive PhaseStep : Phase → CallEvent → Phase → Prop
  | load {p : Phase} {files : FileTree} {plan : Plan} {n : Notice} :
      p.lifecycle = .unloaded → n.1 = .templateLoaded →
      PhaseStep p (.load files (.ok ()))
        { p with lifecycle := .loaded, plan := some plan, notices := p.notices ++ [n] }
  | enterTick {p : Phase} {caller : Nat} :
      p.lifecycle = .loaded ∨ p.lifecycle = .running →
      PhaseStep p (.enterTick caller (.ok ())) { p with lifecycle := .running }
  | stop {p : Phase} :
      p.lifecycle ≠ .stopped →
      PhaseStep p (.inner .stop)
        { p with lifecycle := .stopped, stopper := .marked, reported := false }
  | goOn {p : Phase} {e : OperatorEvent} {stopper : StopStage} :
      p.stopper.isBusy = true → stopper.isBusy = true →
      PhaseStep p (.inner e) { p with stopper := stopper }
  | release {p : Phase} :
      p.stopper = .cleared →
      PhaseStep p (.inner .release) { p with plan := none, stopper := .finished }
  | reportStop {p : Phase} {n : Notice} :
      p.stopper = .finished → p.reported = false → n.1 = .operatorStopped →
      PhaseStep p .reportStop { p with reported := true, notices := p.notices ++ [n] }
  | notify {p : Phase} {e : CallEvent} {n : Notice} :
      e ≠ .reportStop → n.1 ≠ .templateLoaded → n.1 ≠ .operatorStopped →
      PhaseStep p e { p with notices := p.notices ++ [n] }
  | other {p : Phase} {e : CallEvent} : e ≠ .reportStop → PhaseStep p e p

theorem PhaseStep.movesTo {p q : Phase} {e : CallEvent} (h : PhaseStep p e q) :
    p.lifecycle.MovesTo q.lifecycle := by
  cases h with
  | load hstate => exact .inr (.inl ⟨hstate, rfl⟩)
  | enterTick hstate => exact .inr (.inr (.inl ⟨hstate, rfl⟩))
  | stop => exact .inr (.inr (.inr rfl))
  | _ => exact .inl rfl

/-! ## Notices -/

/-- Ticks and executions report neither a load nor a stop. -/
theorem IsWorkNotice.type_ne {n : Notice} (h : IsWorkNotice n) :
    n.1 ≠ .templateLoaded ∧ n.1 ≠ .operatorStopped := by
  cases h with
  | @detached rule operation result _ hmem =>
      cases result with
      | ok _ =>
          obtain rfl := List.mem_singleton.1 hmem
          exact ⟨by simp, by simp⟩
      | error f =>
          rw [World.detachedNotices] at hmem
          split at hmem
          · cases hmem
          · obtain rfl := List.mem_singleton.1 hmem
            exact ⟨by simp, by simp⟩
  | failed => exact ⟨by simp [Tick.failureNotice], by simp [Tick.failureNotice]⟩
  | critical => exact ⟨by simp [Tick.criticalNotice], by simp [Tick.criticalNotice]⟩
  | completed => exact ⟨by simp [Tick.completedNotice], by simp [Tick.completedNotice]⟩
  | abandoned => exact ⟨by simp, by simp⟩

/-! ## Calls -/

namespace Operator

variable {o o' : Operator}

/-- What a load that succeeds has done. -/
theorem load_eq_ok {files : FileTree} {n : Notice} (h : o.load files = .ok (n, o')) :
    o.lifecycle = .unloaded ∧ n.1 = .templateLoaded ∧
      ∃ plan, o' = { o with lifecycle := .loaded, plan := some plan } := by
  unfold load at h
  by_cases hstate : o.lifecycle = .unloaded
  · rw [if_pos hstate] at h
    split at h
    · cases h
    · next plan _ =>
      cases h
      exact ⟨hstate, rfl, plan, rfl⟩
  · rw [if_neg hstate] at h
    cases h

theorem load_of_stopped (h : o.lifecycle = .stopped) (files : FileTree) :
    o.load files = .error (.invalidState "load" "stopped") := by
  unfold load
  rw [if_neg (by rw [h]; decide), h]
  rfl

end Operator

/-- What happens to the threads of an operator, as far as it matters for the lifecycle. -/
theorem CallStep.phase_inner {s : OperatorCalls} {e : OperatorEvent} {t : OperatorThreads}
    (h : OperatorStep s.threads e t) :
    PhaseStep s.phase (.inner e)
      { s.phase with
        lifecycle := t.operator.lifecycle
        plan := t.operator.plan
        stopper := t.stopper
        reported := (s.tally.add s.operator e).reported } := by
  unfold StopTally.add
  cases h with
  | stop =>
      cases hstopped : s.operator.isStopped with
      | true =>
          have hmarked := s.operator.markStopped_eq_none hstopped
          have hsame : s.threads.operator.markStopped = (none, s.threads.operator) := hmarked
          simp only [OperatorCalls.operator, hsame]
          exact .other nofun
      | false =>
          have hmarked := s.operator.markStopped_eq_some hstopped
          have hsame : s.threads.operator.markStopped =
            (some s.operator.lifecycle, { s.operator with lifecycle := .stopped }) := hmarked
          simp only [OperatorCalls.operator, hsame]
          have hopen : s.phase.lifecycle ≠ .stopped := by
            intro heq
            have hlifecycle : s.operator.lifecycle = .stopped := heq
            simp [Operator.isStopped, hlifecycle] at hstopped
          exact .stop hopen
  | look hstopper | reach _ hstopper | looked hstopper | wipe hstopper | wiped hstopper =>
      have hbusy : s.phase.stopper.isBusy = true := by
        simp [OperatorCalls.phase, hstopper, StopStage.isBusy]
      exact .goOn hbusy rfl
  | release hstopper => exact .release hstopper
  | _ => exact .other nofun

theorem CallStep.phase {s t : OperatorCalls} {e : CallEvent} (h : CallStep s e t) :
    PhaseStep s.phase e t.phase := by
  cases h with
  | load hload =>
      obtain ⟨hstate, htype, plan, rfl⟩ := Operator.load_eq_ok hload
      exact .load hstate htype
  | enterTick _ _ henter =>
      cases hl : s.operator.lifecycle with
      | unloaded =>
          rw [Operator.enterTick_eq_error (.inl hl)] at henter
          cases henter
          exact .other nofun
      | loaded =>
          rw [Operator.enterTick_eq_ok (.inl hl)] at henter
          cases henter
          exact .enterTick (.inl hl)
      | running =>
          rw [Operator.enterTick_eq_ok (.inr hl)] at henter
          cases henter
          exact .enterTick (.inr hl)
      | stopped =>
          rw [Operator.enterTick_eq_error (.inr hl)] at henter
          cases henter
          exact .other nofun
  | save _ hsave =>
      obtain ⟨t, -, rfl, -⟩ := Operator.save_ok hsave
      exact .notify nofun (by simp [Operator.mergedNotice]) (by simp [Operator.mergedNotice])
  | inner hinner => exact CallStep.phase_inner hinner
  | notify hwork => exact .notify nofun hwork.type_ne.1 hwork.type_ne.2
  | reportStop hstopper hreported => exact .reportStop hstopper hreported rfl
  | _ => exact .other nofun

/-! ## The invariant -/

/-- How often something of a type was reported. -/
def reports (type : EventType) (ns : List Notice) : Nat := ns.countP fun n => n.1 == type

theorem reports_snoc (type : EventType) (ns : List Notice) (n : Notice) :
    reports type (ns ++ [n]) = reports type ns + if n.1 = type then 1 else 0 := by
  simp [reports, List.countP_append, List.countP_cons]

/-- The lifecycle, the plan and the stop fit together, and so do the reports. -/
structure PhaseFits (es : List CallEvent) (p : Phase) : Prop where
  planned : p.lifecycle = .loaded ∨ p.lifecycle = .running → p.plan.isSome = true
  stopped : p.lifecycle = .stopped ↔ p.stopper ≠ .idle
  released : p.stopper = .finished → p.plan = none
  reported : p.reported = true ↔ CallEvent.reportStop ∈ es
  finished : p.reported = true → p.stopper = .finished
  fresh : p.lifecycle = .unloaded → reports .templateLoaded p.notices = 0
  loads : reports .templateLoaded p.notices ≤ 1
  stops : reports .operatorStopped p.notices = if p.reported then 1 else 0

theorem PhaseFits.step {es : List CallEvent} {p q : Phase} {e : CallEvent} (h : PhaseFits es p)
    (hstep : PhaseStep p e q) : PhaseFits (es ++ [e]) q := by
  have hreported : e ≠ .reportStop →
      (p.reported = true ↔ CallEvent.reportStop ∈ es ++ [e]) := by
    intro hne
    have hlast : CallEvent.reportStop ∉ [e] := by
      simpa using Ne.symm hne
    rw [h.reported, List.mem_append, or_iff_left hlast]
  cases hstep with
  | @load files plan n hstate htype =>
      have hidle : p.stopper = .idle := by
        by_contra hne
        rw [h.stopped.2 hne] at hstate
        cases hstate
      have hnone := h.fresh hstate
      refine ⟨fun _ => rfl, by simp [hidle], by simp [hidle], hreported nofun, h.finished, by simp,
        ?_, ?_⟩
      · simp [reports_snoc, htype, hnone]
      · simpa [reports_snoc, htype] using h.stops
  | enterTick hstate =>
      have hidle : p.stopper = .idle := by
        by_contra hne
        rw [h.stopped.2 hne] at hstate
        rcases hstate with hstate | hstate <;> cases hstate
      exact ⟨fun _ => h.planned hstate, by simp [hidle], by simp [hidle], hreported nofun,
        h.finished, by simp, h.loads, h.stops⟩
  | stop hopen =>
      have hidle : p.stopper = .idle := by
        by_contra hne
        exact hopen (h.stopped.2 hne)
      have hunreported : p.reported = false := by
        cases hr : p.reported with
        | false => rfl
        | true =>
            have hfinished := h.finished hr
            rw [hidle] at hfinished
            cases hfinished
      -- nothing has been reported before, so nothing is forgotten
      have hsilent := hreported nofun
      have hstops := h.stops
      rw [hunreported] at hsilent hstops
      exact ⟨by simp, by simp, by simp, hsilent, by simp, by simp, h.loads, hstops⟩
  | goOn hbusy hbusy' =>
      -- the stop is under way before and after
      have hneither : ∀ {stage : StopStage}, stage.isBusy = true →
          stage ≠ .idle ∧ stage ≠ .finished := by
        intro stage hb
        constructor <;> rintro rfl <;> cases hb
      have hstopped := h.stopped.2 (hneither hbusy).1
      refine ⟨h.planned, ?_, fun hf => absurd hf (hneither hbusy').2, hreported nofun, fun hr => ?_,
        h.fresh, h.loads, h.stops⟩
      · exact iff_of_true hstopped (hneither hbusy').1
      · exact absurd (h.finished hr) (hneither hbusy).2
  | release hcleared =>
      have hstopped : p.lifecycle = .stopped := h.stopped.2 (by simp [hcleared])
      exact ⟨by simp [hstopped], iff_of_true hstopped (by simp), fun _ => rfl, hreported nofun,
        fun _ => rfl, h.fresh, h.loads, h.stops⟩
  | reportStop hfinished hunreported htype =>
      have hzero := h.stops
      rw [hunreported] at hzero
      refine ⟨h.planned, h.stopped, h.released, by simp, fun _ => hfinished, fun hstate => ?_, ?_, ?_⟩
      · simpa [reports_snoc, htype] using h.fresh hstate
      · simpa [reports_snoc, htype] using h.loads
      · simpa [reports_snoc, htype] using hzero
  | notify hne hloaded hstopped =>
      refine ⟨h.planned, h.stopped, h.released, hreported hne, h.finished, fun hstate => ?_, ?_, ?_⟩
      · simpa [reports_snoc, hloaded] using h.fresh hstate
      · simpa [reports_snoc, hloaded] using h.loads
      · simpa [reports_snoc, hstopped] using h.stops
  | other hne =>
      exact ⟨h.planned, h.stopped, h.released, hreported hne, h.finished, h.fresh, h.loads, h.stops⟩

/-! ## Runs -/

/-- A new operator, before it is called. -/
structure Operator.IsNew (o : Operator) : Prop where
  unloaded : o.lifecycle = .unloaded
  planless : o.plan = none

/-- An operator that nobody has called yet. -/
def OperatorCalls.begin (o : Operator) : OperatorCalls := { threads := { operator := o } }

theorem phaseFits {o : Operator} {es : List CallEvent} {s : OperatorCalls} (ho : o.IsNew)
    (h : Run CallStep (.begin o) es s) : PhaseFits es s.phase := by
  induction h with
  | nil =>
      have hstate : (OperatorCalls.begin o).phase.lifecycle = .unloaded := ho.unloaded
      have hplan : (OperatorCalls.begin o).phase.plan = none := ho.planless
      constructor <;> simp_all [OperatorCalls.begin, OperatorCalls.phase, reports]
  | snoc _ hstep ih => exact ih.step hstep.phase

/-- What holds of the lifecycle at every moment. -/
structure KeepsLifecycle (es : List CallEvent) (s : OperatorCalls) : Prop where
  /-- The lifecycle only moves on, and a stop is for good. -/
  moves : ∀ e t, CallStep s e t → s.operator.lifecycle.MovesTo t.operator.lifecycle
  /-- There is a plan to run. -/
  planned : s.operator.lifecycle = .loaded ∨ s.operator.lifecycle = .running →
    s.operator.plan.isSome = true
  /-- When the call that has stopped the operator has returned, there is no plan and no template. -/
  emptied : CallEvent.reportStop ∈ es → s.operator.plan = none ∧ s.operator.template? = none
  /-- Then no load succeeds any more, -/
  noLoad : CallEvent.reportStop ∈ es →
    ∀ files, s.operator.load files = .error (.invalidState "load" "stopped")
  /-- no tick is let in, -/
  noTick : CallEvent.reportStop ∈ es →
    s.operator.enterTick = (.error (.invalidState "run a tick" "stopped"), s.operator)
  /-- and a tick that was let in before and has not asked for the plan yet is refused as well. -/
  noPlan : CallEvent.reportStop ∈ es →
    s.operator.currentPlan = .error (.invalidState "run a tick" "without a template")
  /-- One load at most is reported, -/
  loadedOnce : reports .templateLoaded s.notices ≤ 1
  /-- and one stop. -/
  stoppedOnce : reports .operatorStopped s.notices ≤ 1

/-- **The lifecycle of an operator goes one way**, however many calls take turns at it. -/
theorem keepsLifecycle {o : Operator} {es : List CallEvent} {s : OperatorCalls} (ho : o.IsNew)
    (h : Run CallStep (.begin o) es s) : KeepsLifecycle es s := by
  have hfits := phaseFits ho h
  have hover : CallEvent.reportStop ∈ es →
      s.operator.lifecycle = .stopped ∧ s.operator.plan = none := by
    intro hreport
    have hfinished := hfits.finished (hfits.reported.2 hreport)
    exact ⟨hfits.stopped.2 (by simp [hfinished]), hfits.released hfinished⟩
  refine ⟨fun e t hstep => hstep.phase.movesTo, hfits.planned, fun hreport => ?_,
    fun hreport files => ?_, fun hreport => ?_, fun hreport => ?_, hfits.loads, ?_⟩
  · obtain ⟨-, hplan⟩ := hover hreport
    refine ⟨hplan, ?_⟩
    unfold Operator.template?
    rw [hplan]
    rfl
  · exact Operator.load_of_stopped (hover hreport).1 files
  · obtain ⟨hstopped, -⟩ := hover hreport
    rw [Operator.enterTick_eq_error (.inr hstopped), hstopped]
    rfl
  · unfold Operator.currentPlan
    rw [(hover hreport).2]
  · have hstops := hfits.stops
    change reports .operatorStopped s.notices = _ at hstops
    rw [hstops]
    split <;> simp

/-- While one tick is let in, a stop runs; another tick and another load come too late. -/
theorem keepsLifecycle_of_race : ∃ (o : Operator) (es : List CallEvent) (s : OperatorCalls),
    o.IsNew ∧ CallEvent.enterTick 1 (.ok ()) ∈ es ∧ CallEvent.reportStop ∈ es ∧
      reports .templateLoaded s.notices = 1 ∧ reports .operatorStopped s.notices = 1 ∧
      KeepsLifecycle es s := by
  let o : Operator :=
    { store := ⟨⟨"rules", ["rules"]⟩⟩, registry := {}, subDir := "main", name := "demo" }
  let files : FileTree :=
    { files := [(["rules", "main", "demo", "base.yaml"], "")]
      dirs := [["rules"], ["rules", "main"], ["rules", "main", "demo"]] }
  let t : Template := { subDir := "main", name := "demo", fragments := ["base"] }
  have hstore : o.store.load files o.subDir o.name o.fromArtifact = .ok t := by decide +kernel
  have hload := @Operator.load_of_compile o files t ⟨t, []⟩ rfl hstore rfl
  have h1 : Run CallStep (.begin o) [] (.begin o) := .nil
  have h2 := (h1.snoc (.load hload)).snoc (.enterTick 1 rfl rfl)
  have h3 := (h2.snoc (.inner .stop)).snoc (.enterTick 2 rfl rfl)
  have h4 := (h3.snoc (.inner (.look rfl))).snoc (.inner (.looked rfl (by decide)))
  have h5 := (h4.snoc (.takePlan 1 rfl rfl)).snoc (.inner (.wipe rfl))
  have h6 := (h5.snoc (.inner (.wiped rfl (by decide)))).snoc (.inner (.release rfl))
  have h7 := (h6.snoc (.reportStop rfl rfl)).snoc (.loadFailed files rfl)
  refine ⟨o, _, _, ⟨rfl, rfl⟩, ?_, ?_, ?_, ?_, keepsLifecycle ⟨rfl, rfl⟩ h7⟩
  · simp
  · simp
  · rfl
  · rfl

end RuleEngine
