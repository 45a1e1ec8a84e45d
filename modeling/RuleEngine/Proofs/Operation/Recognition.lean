import RuleEngine.Proofs.Lane.Order
import RuleEngine.Proofs.Operator.TickThreads
import RuleEngine.Proofs.Table

set_option autoImplicit false

/-! # Recognitions

The execution of a recognition submits a task to the lane and polls the handle of it. Between any
two of its steps the worker and the other threads at the lane may do what they like, and others may
tell the operation to stop (`RecognizeStep`). Only the submission and the handle of the execution are
its own.

The invariant (`RecognizeFits`) says how far the execution has come and what it has at the lane. The
context is as it was at first until a result is stored, and a result is stored only if the task had
ended before the operation was told to stop (`EndedFirst`).
-/

namespace RuleEngine

/-! ## An execution at the lane -/

/-- What can happen at a lane of recognitions. -/
abbrev TargetEvent := LaneEvent String (Option Json)

/-- What an execution has at the lane. -/
inductive LaneCall
  | none
  /-- A submission with a number, and its task is to be sent. -/
  | issued (job : LaneJob String)
  /-- A submission whose task was sent, and is to be counted. -/
  | accepted (id : Nat)
  | handle (id : Nat)
  /-- A handle that was polled; the stop signal is to be looked at. -/
  | polled (id : Nat) (outcome : Option (Except EngineError (Option Json)))

/-- The number of the submission or of the handle. -/
def LaneCall.id? : LaneCall → Option Nat
  | .none => Option.none
  | .issued job => some job.id
  | .accepted id | .handle id | .polled id _ => some id

/-- The execution of a recognition, its operation, and what they share with others. -/
structure RecognizeThreads where
  lane : LaneThreads String (Option Json)
  context : Context
  /-- The operation was told to stop. -/
  signalled : Bool
  exec : ExecStage := .fresh
  call : LaneCall := .none

/-- What can happen while a recognition is executed. -/
inductive RecognizeEvent
  /-- Somebody tells the operation to stop. -/
  | stop
  /-- The worker or another thread takes a step at the lane. -/
  | others (e : TargetEvent)
  /-- The execution takes a step at the lane. -/
  | own (e : TargetEvent)
  | exec (e : ExecEvent)

/-- The execution has to do with the lane. -/
def ExecEvent.isLane : ExecEvent → Bool
  | .submit _ | .refuse _ | .poll _ => true
  | .begin _ | .command _ | .answer _ | .wake | .write _ _ | .clear _ => false

/-- What one event makes of a recognition and the others. -/
inductive RecognizeStep (c : Compiled) : RecognizeThreads → RecognizeEvent → RecognizeThreads → Prop
  | stop {s : RecognizeThreads} : RecognizeStep c s .stop { s with signalled := true }
  | others {s : RecognizeThreads} {e : TargetEvent} {lane : LaneThreads String (Option Json)} :
      (∀ id, s.call.id? = some id → e.owner? ≠ some id) → LaneStep s.lane e lane →
      RecognizeStep c s (.others e) { s with lane := lane }
  | exec {s : RecognizeThreads} {now : Nat} {e : ExecEvent} {stage : ExecStage} :
      e.isLane = false → ExecStep c s.signalled now s.exec e stage →
      RecognizeStep c s (.exec e) { s with exec := stage, context := e.apply s.context }
  | issue {s : RecognizeThreads} {target key : String} {job : LaneJob String}
      {lane : LaneThreads String (Option Json)} :
      s.exec = .submitting target key → s.call = .none →
      job.label = recognitionLabel target → job.work = target → LaneStep s.lane (.issue job) lane →
      RecognizeStep c s (.own (.issue job)) { s with lane := lane, call := .issued job }
  | send {s : RecognizeThreads} {now : Nat} {job : LaneJob String}
      {lane : LaneThreads String (Option Json)} {stage : ExecStage} :
      s.call = .issued job → LaneStep s.lane (.send job) lane →
      ExecStep c s.signalled now s.exec (.submit job.work) stage →
      RecognizeStep c s (.own (.send job))
        { s with lane := lane, exec := stage, call := .accepted job.id }
  | refuse {s : RecognizeThreads} {now : Nat} {job : LaneJob String}
      {lane : LaneThreads String (Option Json)} {stage : ExecStage} :
      s.call = .issued job → LaneStep s.lane (.refuse job) lane →
      ExecStep c s.signalled now s.exec (.refuse .laneClosed) stage →
      RecognizeStep c s (.own (.refuse job)) { s with lane := lane, exec := stage, call := .none }
  | count {s : RecognizeThreads} {id : Nat} {lane : LaneThreads String (Option Json)} :
      s.call = .accepted id → LaneStep s.lane (.countSubmitted id) lane →
      RecognizeStep c s (.own (.countSubmitted id)) { s with lane := lane, call := .handle id }
  | poll {s : RecognizeThreads} {key : String} {id : Nat}
      {outcome : Option (Except EngineError (Option Json))}
      {lane : LaneThreads String (Option Json)} :
      s.exec = .awaiting key → s.call = .handle id → LaneStep s.lane (.poll id outcome) lane →
      RecognizeStep c s (.own (.poll id outcome))
        { s with lane := lane, call := .polled id outcome }
  | judge {s : RecognizeThreads} {now id : Nat}
      {outcome : Option (Except EngineError (Option Json))} {stage : ExecStage} :
      s.call = .polled id outcome → ExecStep c s.signalled now s.exec (.poll outcome) stage →
      RecognizeStep c s (.exec (.poll outcome)) { s with exec := stage, call := .handle id }
  | discard {s : RecognizeThreads} {id : Nat} {completion : Completion}
      {lane : LaneThreads String (Option Json)} :
      s.exec = .ended completion → s.call = .handle id → LaneStep s.lane (.discard id) lane →
      RecognizeStep c s (.own (.discard id)) { s with lane := lane, call := .none }

def RecognizeThreads.HasReturned (s : RecognizeThreads) : Prop :=
  (∃ completion, s.exec = .ended completion) ∧ s.call = .none

namespace RecognizeEvent

def lane? : RecognizeEvent → Option TargetEvent
  | .others e | .own e => some e
  | .stop | .exec _ => none

/-- What the execution does at the lane. -/
def own? : RecognizeEvent → Option TargetEvent
  | .own e => some e
  | .stop | .others _ | .exec _ => none

/-- The execution goes on. -/
def isOwn : RecognizeEvent → Bool
  | .own _ | .exec _ => true
  | .stop | .others _ => false

end RecognizeEvent

/-- What has happened at the lane, in order. -/
def atLane (es : List RecognizeEvent) : List TargetEvent := es.filterMap RecognizeEvent.lane?

/-- What the execution has done at the lane, in order. -/
def ownAtLane (es : List RecognizeEvent) : List TargetEvent := es.filterMap RecognizeEvent.own?

@[simp] theorem atLane_append (es fs : List RecognizeEvent) :
    atLane (es ++ fs) = atLane es ++ atLane fs := List.filterMap_append

@[simp] theorem ownAtLane_append (es fs : List RecognizeEvent) :
    ownAtLane (es ++ fs) = ownAtLane es ++ ownAtLane fs := List.filterMap_append

theorem atLane_single (e : RecognizeEvent) : atLane [e] = e.lane?.toList := by
  cases h : e.lane? <;> simp [atLane, h]

theorem ownAtLane_single (e : RecognizeEvent) : ownAtLane [e] = e.own?.toList := by
  cases h : e.own? <;> simp [ownAtLane, h]

theorem mem_ownAtLane {es : List RecognizeEvent} {e : TargetEvent} :
    e ∈ ownAtLane es ↔ .own e ∈ es := by
  constructor
  · intro h
    obtain ⟨f, hf, he⟩ := List.mem_filterMap.1 h
    cases f with
    | own => exact Option.some.inj he ▸ hf
    | stop | others | exec => cases he
  · exact fun h => List.mem_filterMap.2 ⟨_, h, rfl⟩

theorem mem_sent_ownAtLane {es : List RecognizeEvent} {job : LaneJob String} :
    job ∈ sent (ownAtLane es) ↔ .own (.send job) ∈ es := by
  rw [← mem_ownAtLane, sent, List.mem_filterMap]
  constructor
  · rintro ⟨e, he, hjob⟩
    exact LaneEvent.sent?_eq_some_iff.1 hjob ▸ he
  · exact fun h => ⟨_, h, rfl⟩

theorem RecognizeStep.lane_cases {c : Compiled} {s t : RecognizeThreads} {e : RecognizeEvent}
    (h : RecognizeStep c s e t) :
    (atLane [e] = [] ∧ t.lane = s.lane) ∨ ∃ f, atLane [e] = [f] ∧ LaneStep s.lane f t.lane := by
  rw [atLane_single]
  cases h with
  | stop | exec | judge => exact .inl ⟨rfl, rfl⟩
  | others _ hlane | issue _ _ _ _ hlane | send _ hlane | refuse _ hlane | count _ hlane
  | poll _ _ hlane | discard _ _ hlane => exact .inr ⟨_, rfl, hlane⟩

/-- What happens at the lane of a recognition is a run of the lane. -/
theorem recognize_lane {c : Compiled} {past : List TargetEvent} {start s : RecognizeThreads}
    {es : List RecognizeEvent} (hpast : Run LaneStep {} past start.lane)
    (h : Run (RecognizeStep c) start es s) : Run LaneStep {} (past ++ atLane es) s.lane := by
  induction h with
  | nil => simpa [atLane] using hpast
  | snoc _ hstep ih =>
      rw [atLane_append, ← List.append_assoc]
      rcases hstep.lane_cases with ⟨hnone, hsame⟩ | ⟨f, hone, hlane⟩
      · rw [hnone, hsame, List.append_nil]
        exact ih
      · rw [hone]
        exact ih.snoc hlane

/-- The operation was told to stop before or in the course of a row of events. -/
def RecognizeThreads.WasTold (start : RecognizeThreads) (es : List RecognizeEvent) : Prop :=
  start.signalled = true ∨ .stop ∈ es

theorem RecognizeThreads.WasTold.append {start : RecognizeThreads} {es : List RecognizeEvent}
    (h : start.WasTold es) (fs : List RecognizeEvent) : start.WasTold (es ++ fs) :=
  h.imp_right fun hmem => List.mem_append_left _ hmem

/-- The stop signal says whether somebody told the operation to stop. -/
theorem recognize_signalled {c : Compiled} {start s : RecognizeThreads} {es : List RecognizeEvent}
    (h : Run (RecognizeStep c) start es s) : s.signalled = true ↔ start.WasTold es := by
  induction h with
  | nil => simp [RecognizeThreads.WasTold]
  | snoc _ hstep ih =>
      cases hstep with
      | stop => simp [RecognizeThreads.WasTold]
      | _ => simpa [RecognizeThreads.WasTold] using ih

/-! ## How far a recognition has come -/

/-- What was found is set as a fact; if nothing was found, the fact is taken out. -/
def Context.setFound (key : String) : Option Json → Context → Context
  | some value, context => context.setFact key value
  | none, context => context.removeFact key

section Stages

variable (past : List TargetEvent) (start : RecognizeThreads) (es : List RecognizeEvent)
  (job : LaneJob String)

/-- The task had ended in a way when the operation was not told to stop yet. -/
def EndedFirst (ending : TaskEnd (Option Json)) : Prop :=
  ∃ front back, es = front ++ back ∧ ¬start.WasTold front ∧
    LaneEvent.finish job ending ∈ past ++ atLane front

/-- The operation was told to stop when the task had not ended yet. -/
def ToldFirst : Prop :=
  ∃ front back, es = front ++ back ∧ start.WasTold front ∧
    ∀ ending, LaneEvent.finish job ending ∉ past ++ atLane front

/-- How the execution ends whose task was accepted, and the context that it leaves. -/
inductive RecognizeEnd (operation key : String) : Completion → Context → Prop
  | stopped :
      start.WasTold es → RecognizeEnd operation key (.failed (.stopped operation)) start.context
  | failed {ending : TaskEnd (Option Json)} {m : String} :
      EndedFirst past start es job ending → ending.outcome = .error m →
      RecognizeEnd operation key
        (.failed (.recognition operation (EngineError.laneTask m).message)) start.context
  | done {found : Option Json} :
      EndedFirst past start es job (.value found) →
      RecognizeEnd operation key .done (start.context.setFound key found)

/-- How far an execution has come whose task was accepted. -/
inductive HandleStage (operation key : String) (s : RecognizeThreads) : Prop
  | counting :
      s.exec = .awaiting key → s.call = .accepted job.id → job.id ∈ s.lane.uncounted →
      s.lane.HasHandle job.id → answers job.id (past ++ atLane es) = [] →
      s.context = start.context → HandleStage operation key s
  /-- No poll has found anything. -/
  | waiting :
      s.exec = .awaiting key → s.call = .handle job.id ∨ s.call = .polled job.id none →
      s.lane.HasHandle job.id → answers job.id (past ++ atLane es) = [] →
      s.context = start.context → HandleStage operation key s
  | answered {ending : TaskEnd (Option Json)} :
      s.exec = .awaiting key →
      s.call = .polled job.id (some (Mailbox.received ending.outcome)) →
      s.lane.HasHandle job.id → LaneEvent.finish job ending ∈ past ++ atLane es →
      s.context = start.context → HandleStage operation key s
  /-- The outcome was judged to be a result. -/
  | found {found : Option Json} :
      s.exec = .ofVerdict key (.of operation false (some (.ok found))) →
      s.call = .handle job.id → s.lane.HasHandle job.id →
      EndedFirst past start es job (.value found) → s.context = start.context →
      HandleStage operation key s
  | ended {completion : Completion} :
      s.exec = .ended completion →
      s.call = .handle job.id ∧ s.lane.HasHandle job.id ∨ s.call = .none →
      RecognizeEnd past start es job operation key completion s.context →
      HandleStage operation key s

/-- How far the execution of a recognition has come. -/
inductive RecognizeFits (operation target key : String) (s : RecognizeThreads) : Prop
  | fresh :
      s.exec = .fresh → s.call = .none → ownAtLane es = [] → s.context = start.context →
      RecognizeFits operation target key s
  /-- The stop came first. -/
  | barred :
      s.exec = .ended (.failed (.stopped operation)) → s.call = .none → ownAtLane es = [] →
      start.WasTold es → s.context = start.context → RecognizeFits operation target key s
  | begun :
      s.exec = .submitting target key → s.call = .none → ownAtLane es = [] →
      s.context = start.context → RecognizeFits operation target key s
  | issued {job : LaneJob String} :
      s.exec = .submitting target key → s.call = .issued job → job.work = target →
      job ∈ s.lane.issued → ownAtLane es = [.issue job] → s.context = start.context →
      RecognizeFits operation target key s
  /-- The lane was closed. -/
  | refused {job : LaneJob String} :
      s.exec = .ended (.ofRefusal operation .laneClosed) → s.call = .none →
      ownAtLane es = [.issue job, .refuse job] → s.context = start.context →
      RecognizeFits operation target key s
  | accepted {job : LaneJob String} :
      job.work = target → sent (ownAtLane es) = [job] →
      HandleStage past start es job operation key s → RecognizeFits operation target key s

end Stages

section Runs

variable {past : List TargetEvent} {start s t : RecognizeThreads} {es : List RecognizeEvent}
  {job : LaneJob String} {ending : TaskEnd (Option Json)} {d : Descriptor}
  {operation target key : String}

theorem EndedFirst.append (h : EndedFirst past start es job ending) (fs : List RecognizeEvent) :
    EndedFirst past start (es ++ fs) job ending := by
  obtain ⟨front, back, rfl, huntold, hfinish⟩ := h
  exact ⟨front, back ++ fs, List.append_assoc .., huntold, hfinish⟩

/-- Either the stop comes first or the end of the task. -/
theorem ToldFirst.not_endedFirst (h : ToldFirst past start es job) :
    ¬EndedFirst past start es job ending := by
  rintro ⟨front, back, hes, huntold, hfinish⟩
  obtain ⟨front', back', hes', htold, hunfinished⟩ := h
  rw [hes] at hes'
  rcases List.append_eq_append_iff.1 hes' with ⟨mid, rfl, -⟩ | ⟨mid, rfl, -⟩
  · -- the end of the task lies before the stop
    refine hunfinished ending ?_
    rw [atLane_append, ← List.append_assoc]
    exact List.mem_append_left _ hfinish
  · exact huntold (htold.append mid)

theorem ToldFirst.told (h : ToldFirst past start es job) : start.WasTold es := by
  obtain ⟨front, back, rfl, htold, -⟩ := h
  exact htold.append back

theorem RecognizeEnd.append {completion : Completion} {context : Context}
    (h : RecognizeEnd past start es job operation key completion context)
    (fs : List RecognizeEvent) :
    RecognizeEnd past start (es ++ fs) job operation key completion context := by
  cases h with
  | stopped htold => exact .stopped (htold.append fs)
  | failed hended herror => exact .failed (hended.append fs) herror
  | done hended => exact .done (hended.append fs)

/-! ### What others do -/

/-- A stop leaves the execution where it is. -/
theorem HandleStage.stop (h : HandleStage past start es job operation key s) :
    HandleStage past start (es ++ [.stop]) job operation key { s with signalled := true } := by
  have hlane : atLane (es ++ [.stop]) = atLane es := by simp [atLane, RecognizeEvent.lane?]
  cases h with
  | counting hexec hcall huncounted hhandle hsilent hcontext =>
      exact .counting hexec hcall huncounted hhandle (by rwa [hlane]) hcontext
  | waiting hexec hcall hhandle hsilent hcontext =>
      exact .waiting hexec hcall hhandle (by rwa [hlane]) hcontext
  | answered hexec hcall hhandle hfinish hcontext =>
      exact .answered hexec hcall hhandle (by rwa [hlane]) hcontext
  | found hexec hcall hhandle hended hcontext =>
      exact .found hexec hcall hhandle (hended.append _) hcontext
  | ended hexec hcall hend => exact .ended hexec hcall (hend.append _)

theorem RecognizeFits.stop (h : RecognizeFits past start es operation target key s) :
    RecognizeFits past start (es ++ [.stop]) operation target key { s with signalled := true } := by
  have hown : ownAtLane (es ++ [.stop]) = ownAtLane es := by
    simp [ownAtLane, RecognizeEvent.own?]
  cases h with
  | fresh hexec hcall hnone hcontext => exact .fresh hexec hcall (by rwa [hown]) hcontext
  | barred hexec hcall hnone htold hcontext =>
      exact .barred hexec hcall (by rwa [hown]) (htold.append _) hcontext
  | begun hexec hcall hnone hcontext => exact .begun hexec hcall (by rwa [hown]) hcontext
  | issued hexec hcall hwork hissued hown' hcontext =>
      exact .issued hexec hcall hwork hissued (by rwa [hown]) hcontext
  | refused hexec hcall hown' hcontext => exact .refused hexec hcall (by rwa [hown]) hcontext
  | accepted hwork hsent hstage => exact .accepted hwork (by rwa [hown]) hstage.stop

variable {e : TargetEvent} {lane : LaneThreads String (Option Json)}

theorem HandleStage.others (h : HandleStage past start es job operation key s)
    (hothers : ∀ id, s.call.id? = some id → e.owner? ≠ some id) (hstep : LaneStep s.lane e lane) :
    HandleStage past start (es ++ [.others e]) job operation key { s with lane := lane } := by
  have hlane : past ++ atLane (es ++ [.others e]) = past ++ atLane es ++ [e] := by
    rw [atLane_append, List.append_assoc]
    rfl
  have hkeeps (hid : s.call.id? = some job.id) : e.answer? job.id = none ∧
      (s.lane.HasHandle job.id → lane.HasHandle job.id) :=
    ⟨LaneEvent.answer?_of_owner (hothers _ hid), hstep.hasHandle (hothers _ hid)⟩
  cases h with
  | counting hexec hcall huncounted hhandle hsilent hcontext =>
      have hid : s.call.id? = some job.id := by rw [hcall]; rfl
      obtain ⟨hanswer, hhas⟩ := hkeeps hid
      refine .counting hexec hcall (hstep.mem_uncounted (hothers _ hid) huncounted) (hhas hhandle)
        ?_ hcontext
      rw [hlane, answers_snoc, hsilent, hanswer]
      rfl
  | waiting hexec hcall hhandle hsilent hcontext =>
      have hid : s.call.id? = some job.id := by
        rcases hcall with hcall | hcall <;> (rw [hcall]; rfl)
      obtain ⟨hanswer, hhas⟩ := hkeeps hid
      refine .waiting hexec hcall (hhas hhandle) ?_ hcontext
      rw [hlane, answers_snoc, hsilent, hanswer]
      rfl
  | answered hexec hcall hhandle hfinish hcontext =>
      have hid : s.call.id? = some job.id := by rw [hcall]; rfl
      refine .answered hexec hcall ((hkeeps hid).2 hhandle) ?_ hcontext
      rw [hlane]
      exact List.mem_append_left _ hfinish
  | found hexec hcall hhandle hended hcontext =>
      have hid : s.call.id? = some job.id := by rw [hcall]; rfl
      exact .found hexec hcall ((hkeeps hid).2 hhandle) (hended.append _) hcontext
  | ended hexec hcall hend =>
      refine .ended hexec (hcall.imp_left fun ⟨hcall, hhandle⟩ => ⟨hcall, ?_⟩) (hend.append _)
      exact (hkeeps (by rw [hcall]; rfl)).2 hhandle

theorem RecognizeFits.others (h : RecognizeFits past start es operation target key s)
    (hothers : ∀ id, s.call.id? = some id → e.owner? ≠ some id) (hstep : LaneStep s.lane e lane) :
    RecognizeFits past start (es ++ [.others e]) operation target key { s with lane := lane } := by
  have hown : ownAtLane (es ++ [.others e]) = ownAtLane es := by
    simp [ownAtLane, RecognizeEvent.own?]
  cases h with
  | fresh hexec hcall hnone hcontext => exact .fresh hexec hcall (by rwa [hown]) hcontext
  | barred hexec hcall hnone htold hcontext =>
      exact .barred hexec hcall (by rwa [hown]) (htold.append _) hcontext
  | begun hexec hcall hnone hcontext => exact .begun hexec hcall (by rwa [hown]) hcontext
  | issued hexec hcall hwork hissued hown' hcontext =>
      have hid := hothers _ (by rw [hcall]; rfl)
      exact .issued hexec hcall hwork (hstep.mem_issued hid hissued) (by rwa [hown]) hcontext
  | refused hexec hcall hown' hcontext => exact .refused hexec hcall (by rwa [hown]) hcontext
  | accepted hwork hsent hstage =>
      exact .accepted hwork (by rwa [hown]) (hstage.others hothers hstep)

/-! ### What the execution does -/

variable {stage : ExecStage}

/-- It looks at its stop signal first, and changes the context last. -/
theorem RecognizeFits.exec {now : Nat} {e : ExecEvent}
    (h : RecognizeFits past start es d.name target key s)
    (hsignalled : s.signalled = true ↔ start.WasTold es) (he : e.isLane = false)
    (hstep : ExecStep ⟨d, .recognize target key⟩ s.signalled now s.exec e stage) :
    RecognizeFits past start (es ++ [.exec e]) d.name target key
      { s with exec := stage, context := e.apply s.context } := by
  have hown : ownAtLane (es ++ [.exec e]) = ownAtLane es := by
    simp [ownAtLane, RecognizeEvent.own?]
  cases h with
  | fresh hexec hcall hnone hcontext =>
      rw [hexec] at hstep
      cases hstep with
      | begin =>
          by_cases htold : s.signalled = true
          · refine .barred ?_ hcall (by rwa [hown]) ((hsignalled.1 htold).append _) hcontext
            simp [Effect.begin, htold, ExecStage.ofBeginning, Compiled.name]
          · refine .begun ?_ hcall (by rwa [hown]) hcontext
            simp [Effect.begin, htold, ExecStage.ofBeginning]
  | barred hexec | refused hexec =>
      rw [hexec] at hstep
      cases hstep
  | begun hexec | issued hexec =>
      rw [hexec] at hstep
      cases hstep <;> cases he
  | accepted hwork hsent hstage =>
      refine .accepted hwork (by rwa [hown]) ?_
      cases hstage with
      | counting hexec | waiting hexec | answered hexec =>
          rw [hexec] at hstep
          cases hstep
          cases he
      | ended hexec =>
          rw [hexec] at hstep
          cases hstep
      | @found found hexec hcall hhandle hended hcontext =>
          rw [hexec] at hstep
          cases found with
          | some value =>
              cases hstep
              refine .ended rfl (.inl ⟨hcall, hhandle⟩) ?_
              rw [hcontext]
              exact .done (hended.append _)
          | none =>
              cases hstep
              refine .ended rfl (.inl ⟨hcall, hhandle⟩) ?_
              rw [hcontext]
              exact .done (hended.append _)

theorem RecognizeFits.issue {target' key' : String}
    (h : RecognizeFits past start es operation target key s)
    (hsubmitting : s.exec = .submitting target' key') (hfree : s.call = .none)
    (hwork : job.work = target') (hstep : LaneStep s.lane (.issue job) lane) :
    RecognizeFits past start (es ++ [.own (.issue job)]) operation target key
      { s with lane := lane, call := .issued job } := by
  cases h with
  | begun hexec _ hnone hcontext =>
      rw [hexec] at hsubmitting
      cases hsubmitting
      refine .issued hexec rfl hwork ?_ ?_ hcontext
      · cases hstep
        exact List.mem_append_right _ (List.mem_singleton_self _)
      · rw [ownAtLane_append, hnone]
        rfl
  | fresh hexec | barred hexec | refused hexec =>
      rw [hexec] at hsubmitting
      cases hsubmitting
  | issued _ hcall =>
      rw [hcall] at hfree
      cases hfree
  | accepted _ _ hstage =>
      cases hstage with
      | counting hexec | waiting hexec | answered hexec | ended hexec =>
          rw [hexec] at hsubmitting
          cases hsubmitting
      | found _ hcall =>
          rw [hcall] at hfree
          cases hfree

/-- A submission with a number is at its stage. -/
theorem RecognizeFits.of_issued (h : RecognizeFits past start es operation target key s)
    (hissued : s.call = .issued job) :
    s.exec = .submitting target key ∧ job.work = target ∧ job ∈ s.lane.issued ∧
      ownAtLane es = [.issue job] ∧ s.context = start.context := by
  cases h with
  | issued hexec hcall hwork hmem hown hcontext =>
      rw [hcall] at hissued
      cases hissued
      exact ⟨hexec, hwork, hmem, hown, hcontext⟩
  | fresh _ hcall | barred _ hcall | begun _ hcall | refused _ hcall =>
      rw [hcall] at hissued
      cases hissued
  | accepted _ _ hstage =>
      cases hstage with
      | counting _ hcall | answered _ hcall | found _ hcall =>
          rw [hcall] at hissued
          cases hissued
      | waiting _ hcall =>
          rcases hcall with hcall | hcall <;> (rw [hcall] at hissued; cases hissued)
      | ended _ hcall =>
          rcases hcall with ⟨hcall, -⟩ | hcall <;> (rw [hcall] at hissued; cases hissued)

/-- A handle is that of the task that was accepted. -/
theorem RecognizeFits.of_handle {id : Nat}
    (h : RecognizeFits past start es operation target key s) (hid : s.call.id? = some id)
    (hnot : ∀ job, s.call ≠ .issued job) :
    ∃ job : LaneJob String, job.id = id ∧ job.work = target ∧ sent (ownAtLane es) = [job] ∧
      s.lane.HasHandle job.id ∧ HandleStage past start es job operation key s := by
  cases h with
  | fresh _ hcall | barred _ hcall | begun _ hcall | refused _ hcall =>
      rw [hcall] at hid
      cases hid
  | issued _ hcall => exact absurd hcall (hnot _)
  | @accepted job hwork hsent hstage =>
      have hhandle : s.call.id? = some job.id ∧ s.lane.HasHandle job.id := by
        cases hstage with
        | counting _ hcall _ hhandle | answered _ hcall hhandle | found _ hcall hhandle =>
            exact ⟨by rw [hcall]; rfl, hhandle⟩
        | waiting _ hcall hhandle =>
            exact ⟨by rcases hcall with hcall | hcall <;> (rw [hcall]; rfl), hhandle⟩
        | ended _ hcall =>
            rcases hcall with ⟨hcall, hhandle⟩ | hcall
            · exact ⟨by rw [hcall]; rfl, hhandle⟩
            · rw [hcall] at hid
              cases hid
      rw [hhandle.1] at hid
      exact ⟨job, Option.some.inj hid, hwork, hsent, hhandle.2, hstage⟩

theorem atLane_own (past : List TargetEvent) (es : List RecognizeEvent) (e : TargetEvent) :
    past ++ atLane (es ++ [.own e]) = past ++ atLane es ++ [e] := by
  rw [atLane_append, List.append_assoc]
  rfl

theorem ownAtLane_own (es : List RecognizeEvent) (e : TargetEvent) :
    ownAtLane (es ++ [.own e]) = ownAtLane es ++ [e] := by
  rw [ownAtLane_append]
  rfl

/-- What the execution has sent was sent. -/
theorem mem_sent_of_own (h : job ∈ sent (ownAtLane es)) : job ∈ sent (past ++ atLane es) := by
  have hmem := mem_sent_ownAtLane.1 h
  refine List.mem_filterMap.2 ⟨.send job, ?_, rfl⟩
  exact List.mem_append_right _ (List.mem_filterMap.2 ⟨_, hmem, rfl⟩)

theorem RecognizeFits.send {now : Nat} (h : RecognizeFits past start es d.name target key s)
    (hlane : Run LaneStep {} (past ++ atLane es) s.lane) (hissued : s.call = .issued job)
    (hstep : LaneStep s.lane (.send job) lane)
    (hexec : ExecStep ⟨d, .recognize target key⟩ s.signalled now s.exec (.submit job.work) stage) :
    RecognizeFits past start (es ++ [.own (.send job)]) d.name target key
      { s with lane := lane, exec := stage, call := .accepted job.id } := by
  obtain ⟨hsubmitting, hwork, hmem, hown, hcontext⟩ := h.of_issued hissued
  rw [hsubmitting] at hexec
  cases hexec
  obtain ⟨hhandle, huncounted⟩ := hstep.hasHandle_of_send
  refine .accepted rfl ?_ (.counting rfl rfl huncounted hhandle ?_ hcontext)
  · rw [ownAtLane_own, sent_snoc, hown]
    rfl
  · rw [atLane_own, answers_snoc, answers_of_issued hlane hmem]
    rfl

theorem RecognizeFits.refuse {now : Nat} (h : RecognizeFits past start es d.name target key s)
    (hissued : s.call = .issued job)
    (hexec : ExecStep ⟨d, .recognize target key⟩ s.signalled now s.exec (.refuse .laneClosed)
      stage) :
    RecognizeFits past start (es ++ [.own (.refuse job)]) d.name target key
      { s with lane := lane, exec := stage, call := .none } := by
  obtain ⟨hsubmitting, -, -, hown, hcontext⟩ := h.of_issued hissued
  rw [hsubmitting] at hexec
  cases hexec
  have hrefused : ownAtLane (es ++ [.own (.refuse job)]) = [.issue job, .refuse job] := by
    rw [ownAtLane_own, hown]
    rfl
  exact .refused rfl rfl hrefused hcontext

theorem RecognizeFits.count {id : Nat} (h : RecognizeFits past start es operation target key s)
    (haccepted : s.call = .accepted id) (hstep : LaneStep s.lane (.countSubmitted id) lane) :
    RecognizeFits past start (es ++ [.own (.countSubmitted id)]) operation target key
      { s with lane := lane, call := .handle id } := by
  obtain ⟨job, rfl, hwork, hsent, -, hstage⟩ :=
    h.of_handle (by rw [haccepted]; rfl) (by rw [haccepted]; nofun)
  refine .accepted hwork (by rw [ownAtLane_own, sent_snoc, hsent]; rfl) ?_
  cases hstage with
  | counting hexec _ _ hhandle hsilent hcontext =>
      refine .waiting hexec (.inl rfl) ?_ ?_ hcontext
      · cases hstep
        exact hhandle
      · rw [atLane_own, answers_snoc, hsilent]
        rfl
  | answered _ hcall | found _ hcall =>
      rw [hcall] at haccepted
      cases haccepted
  | waiting _ hcall =>
      rcases hcall with hcall | hcall <;> (rw [hcall] at haccepted; cases haccepted)
  | ended _ hcall =>
      rcases hcall with ⟨hcall, -⟩ | hcall <;> (rw [hcall] at haccepted; cases haccepted)

theorem RecognizeFits.poll {key' : String} {id : Nat}
    {outcome : Option (Except EngineError (Option Json))}
    (h : RecognizeFits past start es operation target key s)
    (hlane : Run LaneStep {} (past ++ atLane es) s.lane) (hawaiting : s.exec = .awaiting key')
    (hhandle : s.call = .handle id) (hstep : LaneStep s.lane (.poll id outcome) lane) :
    RecognizeFits past start (es ++ [.own (.poll id outcome)]) operation target key
      { s with lane := lane, call := .polled id outcome } := by
  obtain ⟨job, rfl, hwork, hsent, -, hstage⟩ :=
    h.of_handle (by rw [hhandle]; rfl) (by rw [hhandle]; nofun)
  refine .accepted hwork (by rw [ownAtLane_own, sent_snoc, hsent]; rfl) ?_
  cases hstage with
  | waiting hexec _ _ hsilent hcontext =>
      have hjob : job ∈ sent (past ++ atLane es) :=
        mem_sent_of_own (hsent ▸ List.mem_singleton_self job)
      rcases outcome_of_poll hlane hjob hsilent hstep with rfl | ⟨ending, hfinish, rfl⟩
      · refine .waiting hexec (.inr rfl) hstep.hasHandle_of_poll ?_ hcontext
        rw [atLane_own, answers_snoc, hsilent]
        simp [LaneEvent.answer?]
      · refine .answered hexec rfl hstep.hasHandle_of_poll ?_ hcontext
        rw [atLane_own]
        exact List.mem_append_left _ hfinish
  | counting _ hcall | answered _ hcall =>
      rw [hcall] at hhandle
      cases hhandle
  | ended hexec =>
      rw [hexec] at hawaiting
      cases hawaiting
  | @found found hexec =>
      rw [hexec] at hawaiting
      cases found <;> cases hawaiting

/-- A poll has found nothing, or what the worker made of the task. -/
theorem HandleStage.of_polled {id : Nat} {outcome : Option (Except EngineError (Option Json))}
    (h : HandleStage past start es job operation key s) (hpolled : s.call = .polled id outcome) :
    s.exec = .awaiting key ∧ s.context = start.context ∧
      (outcome = none ∧ answers job.id (past ++ atLane es) = [] ∨
        ∃ ending, outcome = some (Mailbox.received ending.outcome) ∧
          .finish job ending ∈ past ++ atLane es) := by
  cases h with
  | waiting hawaiting hcall _ hsilent hcontext =>
      rcases hcall with hcall | hcall
      · rw [hcall] at hpolled
        cases hpolled
      · rw [hcall] at hpolled
        cases hpolled
        exact ⟨hawaiting, hcontext, .inl ⟨rfl, hsilent⟩⟩
  | @answered ending hawaiting hcall _ hfinish hcontext =>
      rw [hcall] at hpolled
      cases hpolled
      exact ⟨hawaiting, hcontext, .inr ⟨ending, rfl, hfinish⟩⟩
  | counting _ hcall | found _ hcall =>
      rw [hcall] at hpolled
      cases hpolled
  | ended _ hcall =>
      rcases hcall with ⟨hcall, -⟩ | hcall
      · rw [hcall] at hpolled
        cases hpolled
      · rw [hcall] at hpolled
        cases hpolled

/-- What the execution makes of what it has found, unless it was told to stop. -/
theorem RecognizeFits.judge {now id : Nat} {outcome : Option (Except EngineError (Option Json))}
    (h : RecognizeFits past start es d.name target key s)
    (hsignalled : s.signalled = true ↔ start.WasTold es) (hpolled : s.call = .polled id outcome)
    (hexec : ExecStep ⟨d, .recognize target key⟩ s.signalled now s.exec (.poll outcome) stage) :
    RecognizeFits past start (es ++ [.exec (.poll outcome)]) d.name target key
      { s with exec := stage, call := .handle id } := by
  have hlane : atLane (es ++ [.exec (.poll outcome)]) = atLane es := by
    simp [atLane, RecognizeEvent.lane?]
  have hown : ownAtLane (es ++ [.exec (.poll outcome)]) = ownAtLane es := by
    simp [ownAtLane, RecognizeEvent.own?]
  obtain ⟨job, rfl, hwork, hsent, hhandle, hstage⟩ :=
    h.of_handle (by rw [hpolled]; rfl) (by rw [hpolled]; nofun)
  obtain ⟨hawaiting, hcontext, hfound⟩ := hstage.of_polled hpolled
  refine .accepted hwork (by rwa [hown]) ?_
  rw [hawaiting] at hexec
  cases hexec
  by_cases htold : s.signalled = true
  · -- whatever was found is dropped
    have hend : RecognizeEnd past start (es ++ [.exec (.poll outcome)]) job d.name key
        (.failed (.stopped d.name)) start.context := .stopped ((hsignalled.1 htold).append _)
    rw [← hcontext] at hend
    refine .ended ?_ (.inl ⟨rfl, hhandle⟩) hend
    simp [Verdict.of, htold, ExecStage.ofVerdict, Compiled.name]
  · have hfirst {ending : TaskEnd (Option Json)} (hmem : .finish job ending ∈ past ++ atLane es) :
        EndedFirst past start (es ++ [.exec (.poll outcome)]) job ending :=
      ⟨es, _, rfl, fun h => htold (hsignalled.2 h), hmem⟩
    rcases hfound with ⟨rfl, hsilent⟩ | ⟨ending, rfl, hfinish⟩
    · refine .waiting ?_ (.inl rfl) hhandle (by rwa [hlane]) hcontext
      simp [Verdict.of, htold, ExecStage.ofVerdict]
    · have hended := hfirst hfinish
      cases ending with
      | value found =>
          refine .found ?_ rfl hhandle hended hcontext
          simp [Verdict.of, htold, TaskEnd.outcome, Mailbox.received, Compiled.name]
      | error m | panic m =>
          have hend : RecognizeEnd past start _ job d.name key _ start.context :=
            .failed hended rfl
          rw [← hcontext] at hend
          refine .ended ?_ (.inl ⟨rfl, hhandle⟩) hend
          simp [Verdict.of, htold, TaskEnd.outcome, Mailbox.received, ExecStage.ofVerdict,
            Compiled.name]

theorem RecognizeFits.discard {id : Nat} {completion : Completion}
    (h : RecognizeFits past start es operation target key s) (hended : s.exec = .ended completion)
    (hhandle : s.call = .handle id) :
    RecognizeFits past start (es ++ [.own (.discard id)]) operation target key
      { s with lane := lane, call := .none } := by
  obtain ⟨job, rfl, hwork, hsent, -, hstage⟩ :=
    h.of_handle (by rw [hhandle]; rfl) (by rw [hhandle]; nofun)
  refine .accepted hwork (by rw [ownAtLane_own, sent_snoc, hsent]; rfl) ?_
  cases hstage with
  | ended hexec _ hend => exact .ended hexec (.inr rfl) (hend.append _)
  | counting hexec | waiting hexec | answered hexec =>
      rw [hexec] at hended
      cases hended
  | @found found hexec =>
      rw [hexec] at hended
      cases found <;> cases hended

/-- **Every execution of a recognition keeps to its stages.** -/
theorem recognizeFits (hpast : Run LaneStep {} past start.lane) (hfresh : start.exec = .fresh)
    (hcall : start.call = .none)
    (h : Run (RecognizeStep ⟨d, .recognize target key⟩) start es s) :
    RecognizeFits past start es d.name target key s := by
  induction h with
  | nil => exact .fresh hfresh hcall rfl rfl
  | snoc hrun hstep ih =>
      have hsignalled := recognize_signalled hrun
      have hlane := recognize_lane hpast hrun
      cases hstep with
      | stop => exact ih.stop
      | others hothers hstep => exact ih.others hothers hstep
      | exec he hexec => exact ih.exec hsignalled he hexec
      | issue hexec hnone _ hwork hstep => exact ih.issue hexec hnone hwork hstep
      | send hissued hstep hexec => exact ih.send hlane hissued hstep hexec
      | refuse hissued _ hexec => exact ih.refuse hissued hexec
      | count haccepted hstep => exact ih.count haccepted hstep
      | poll hexec hhandle hstep => exact ih.poll hlane hexec hhandle hstep
      | judge hpolled hexec => exact ih.judge hsignalled hpolled hexec
      | discard hended hhandle _ => exact ih.discard hended hhandle

end Runs

end RuleEngine
