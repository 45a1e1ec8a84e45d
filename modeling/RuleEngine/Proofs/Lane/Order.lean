import RuleEngine.Proofs.Lane.Handle

set_option autoImplicit false

/-! # A lane runs its tasks one at a time, in order, and loses none

However the threads at a lane take turns, and however tasks and receivers of reports end, the events
are orderly (`IsOrderly`). Submissions are accepted until the lane is closed, and refused from then
on. The worker goes through the accepted tasks in the order in which they were sent, one round after
the other, and every round is the task and then the one report about it. The owner of a handle gets
the outcome of the task, once. The worker can always go on unless it waits at an open lane, and the
steps that it has left are known, so it comes to the end of what was accepted.
-/

namespace RuleEngine

variable {ω α : Type}

/-- The worker can do something, unless it has nothing to do and the lane is open. No ending of a
task or of a receiver of reports changes this. -/
theorem LaneThreads.can_work {s : LaneThreads ω α} (hworker : s.lane.worker ≠ .gone) :
    (s.lane.worker = .idle ∧ s.lane.queue = [] ∧ s.lane.accepting = true) ∨
      ∃ e t, e.isWork = true ∧ LaneStep s e t := by
  cases h : s.lane.worker with
  | idle =>
      cases hqueue : s.lane.queue with
      | nil =>
          cases hopen : s.lane.accepting with
          | true => exact .inl ⟨rfl, rfl, rfl⟩
          | false => exact .inr ⟨_, _, rfl, .exit h hqueue hopen⟩
      | cons job rest => exact .inr ⟨_, _, rfl, .start h hqueue⟩
  | running job => exact .inr ⟨_, _, rfl, .finish (.panic TaskEnd.unknownPanic) h⟩
  | delivered job ending => exact .inr ⟨_, _, rfl, .count h⟩
  | counted job ending => exact .inr ⟨_, _, rfl, .report .returned h⟩
  | gone => exact absurd h hworker

/-- A step of the worker is one of those that it has left. -/
theorem WorkStep.stepsLeft {w w' : LaneWork ω α} {e : LaneEvent ω α} (h : WorkStep w e w')
    (he : e.isWork = true) : w'.stepsLeft + 1 = w.stepsLeft := by
  unfold LaneWork.stepsLeft
  cases h with
  | start hworker hqueue =>
      simp only [hworker, hqueue, List.length_cons, LaneWorker.stepsLeft]
      omega
  | finish _ hworker | count hworker | report _ hworker | exit hworker =>
      simp only [hworker, LaneWorker.stepsLeft]
  | other hquiet =>
      rw [hquiet] at he
      cases he
  | _ => cases he

/-- The worker has nothing to do: it has left, or it waits at an open lane. -/
def LaneThreads.IsAtRest (s : LaneThreads ω α) : Prop :=
  s.lane.worker = .gone ∨
    s.lane.worker = .idle ∧ s.lane.queue = [] ∧ s.lane.accepting = true

/-- The worker can go on by itself until it has nothing to do. -/
theorem LaneThreads.canReach_rest (s : LaneThreads ω α) :
    CanReach LaneStep (fun e => e.isWork = true)
      (fun t => t.IsAtRest ∧ t.lane.accepting = s.lane.accepting ∧ t.waits = s.waits) s := by
  induction hsteps : s.lane.work.stepsLeft using Nat.strongRecOn generalizing s with
  | _ n ih =>
      by_cases hgone : s.lane.worker = .gone
      · exact .here ⟨.inl hgone, rfl, rfl⟩
      · rcases s.can_work hgone with hrest | ⟨e, t, hwork, hstep⟩
        · exact .here ⟨.inr hrest, rfl, rfl⟩
        · have hcall : e.isCall = false := by
            cases e <;> first | rfl | cases hwork
          have hclose : e.isClose = false := by
            cases e <;> first | rfl | cases hwork
          have hwaits : t.waits = s.waits := congrArg Waiting.waits (hstep.calls_eq hcall).2
          have haccepting : t.lane.accepting = s.lane.accepting := by
            have hnext := hstep.work.accepting_eq
            simp only [Lane.work, hclose, Bool.not_false, Bool.and_true] at hnext
            exact hnext
          have hless := hstep.work.stepsLeft hwork
          rw [← hwaits, ← haccepting]
          exact .of_step hstep hwork (ih _ (by omega) t rfl)

/-- The worker of a closed lane can come to its end. -/
theorem LaneThreads.canReach_gone {s : LaneThreads ω α} (hclosed : s.lane.accepting = false) :
    CanReach LaneStep (fun e => e.isWork = true)
      (fun t => t.lane.worker = .gone ∧ t.waits = s.waits) s := by
  obtain ⟨fs, t, hrun, hfs, hrest, haccepting, hwaits⟩ := s.canReach_rest
  refine ⟨fs, t, hrun, hfs, ?_, hwaits⟩
  rcases hrest with hgone | ⟨-, -, hopen⟩
  · exact hgone
  · rw [haccepting, hclosed] at hopen
    cases hopen

/-- What the worker has handed over is what it counts next. -/
theorem WorkStep.count_of_delivered {w w' : LaneWork ω α} {e : LaneEvent ω α} {job : LaneJob ω}
    {ending : TaskEnd α} (h : WorkStep w e w') (hworker : w.worker = .delivered job ending) :
    e = .count job ∨ w'.worker = .delivered job ending := by
  cases h with
  | send | close | other => exact .inr hworker
  | count hcounted =>
      rw [hworker] at hcounted
      cases hcounted
      exact .inl rfl
  | start hother | finish _ hother | report _ hother | exit hother =>
      rw [hworker] at hother
      cases hother

/-- A task that has ended was counted, or is what the worker counts next. -/
theorem counted_or_delivered {es : List (LaneEvent ω α)} {s : LaneThreads ω α}
    (h : Run LaneStep {} es s) {job : LaneJob ω} {ending : TaskEnd α}
    (hmem : .finish job ending ∈ es) :
    .count job ∈ es ∨ s.lane.work.worker = .delivered job ending := by
  induction h with
  | nil => cases hmem
  | @snoc es m t e hrun hstep ih =>
      rcases List.mem_append.1 hmem with hold | hlast
      · rcases ih hold with hcount | hdelivered
        · exact .inl (List.mem_append_left _ hcount)
        · rcases hstep.work.count_of_delivered hdelivered with rfl | hstays
          · exact .inl (List.mem_append_right _ (List.mem_singleton_self _))
          · exact .inr hstays
      · obtain rfl := List.mem_singleton.1 hlast
        cases hstep with
        | finish _ hworker => exact .inr (by rw [Lane.deliver_eq hworker]; rfl)

/-- **An accepted task is run and counted**, by the worker alone, whatever the others do. -/
theorem canReach_counted {es : List (LaneEvent ω α)} {s : LaneThreads ω α}
    (h : Run LaneStep {} es s) {job : LaneJob ω} (hjob : job ∈ sent es) :
    ∃ fs t ending, Run LaneStep s fs t ∧ (∀ e ∈ fs, e.isWork = true) ∧
      .finish job ending ∈ es ++ fs ∧ .count job ∈ es ++ fs := by
  obtain ⟨fs, t, hrun, hfs, hrest, -, -⟩ := s.canReach_rest
  have hwhole : Run LaneStep {} (es ++ fs) t := h.append hrun
  obtain ⟨done, hdone⟩ := runsInOrder hwhole
  have hsent : job ∈ sent (es ++ fs) := by
    rw [sent, List.filterMap_append]
    exact List.mem_append_left _ hjob
  have hempty : t.lane.work.worker.inHand = [] ∧ t.lane.work.queue = [] := by
    rcases hrest with hgone | ⟨hidle, hqueue, -⟩
    · exact ⟨by simp [Lane.work, hgone, LaneWorker.inHand], ((countersFit hwhole).gone hgone).1⟩
    · exact ⟨by simp [Lane.work, hidle, LaneWorker.inHand], hqueue⟩
  rw [hdone.sent, hempty.1, hempty.2, List.append_nil, List.append_nil] at hsent
  obtain ⟨r, hr, rfl⟩ := List.mem_map.1 hsent
  have hfinish := hdone.finish_of_mem hr
  refine ⟨fs, t, r.ending, hrun, hfs, hfinish, ?_⟩
  rcases counted_or_delivered hwhole hfinish with hcount | hdelivered
  · exact hcount
  · have hhand := hempty.1
    rw [hdelivered] at hhand
    cases hhand

/-- A task is accepted before the lane is closed. -/
theorem not_isClose_of_send {front back : List (LaneEvent ω α)} {job : LaneJob ω}
    {s : LaneThreads ω α} (h : Run LaneStep {} (front ++ .send job :: back) s) :
    ∀ e ∈ front, e.isClose = false := by
  intro e he
  obtain ⟨m, m', hfront, hstep⟩ := h.split
  have hopen : m.lane.accepting = true := by
    cases hstep with
    | send _ haccepted => exact (Lane.send_eq_true_iff.mp haccepted).1
  rw [accepting_iff hfront] at hopen
  cases hclose : e.isClose with
  | false => rfl
  | true => exact absurd hopen (by simpa using ⟨e, he, hclose⟩)

/-- A task is refused after the lane was closed. -/
theorem exists_isClose_of_refuse {front back : List (LaneEvent ω α)} {job : LaneJob ω}
    {s : LaneThreads ω α} (h : Run LaneStep {} (front ++ .refuse job :: back) s) :
    ∃ e ∈ front, e.isClose = true := by
  obtain ⟨m, m', hfront, hstep⟩ := h.split
  have hclosed : m.lane.accepting = false := by
    cases hstep with
    | refuse _ hrefused => exact (Lane.send_eq_false_iff.mp hrefused).1
  rw [accepting_iff hfront] at hclosed
  simpa using hclosed

/-- The events at a lane are in order, and nothing that was accepted is lost. -/
structure IsOrderly (es : List (LaneEvent ω α)) (s : LaneThreads ω α) : Prop where
  /-- A task is accepted before the lane is closed. -/
  accepted : ∀ front job back, es = front ++ .send job :: back →
    ∀ e ∈ front, e.isClose = false
  /-- A task is refused after the lane was closed. -/
  refused : ∀ front job back, es = front ++ .refuse job :: back →
    ∃ e ∈ front, e.isClose = true
  /-- A refused task does not run. -/
  never : ∀ job, LaneEvent.refuse job ∈ es →
    ∀ other, other.id = job.id → LaneEvent.start other ∉ es
  /-- The accepted tasks have different numbers. -/
  numbers : ((sent es).map (·.id)).Nodup
  /-- The worker goes through the accepted tasks in their order, one round after the other. -/
  rounds : ∃ done, RunsInOrder es s.lane.work done
  /-- A report has an error exactly if the task that it is about has failed. -/
  reported : ∀ report hook, LaneEvent.report report hook ∈ es →
    (report.error = none ↔
      ∃ job a, job.id = report.id ∧ LaneEvent.finish job (.value a) ∈ es)
  /-- The owner of a handle gets to know nothing before the task ends. -/
  before : ∀ job ∈ sent es, (∀ ending, LaneEvent.finish job ending ∉ es) → answers job.id es = []
  /-- Once the task has ended, the outcome is there unless the handle was given up; the owner gets to
  know it once. -/
  outcome : ∀ job ending, LaneEvent.finish job ending ∈ es →
    answers job.id es = [] ∧
        (LaneEvent.discard job.id ∈ es ∨ s.lane.mailbox? job.id = some (.ready ending.outcome)) ∨
      ∃ later, answers job.id es = Mailbox.received ending.outcome :: later ∧
        ∀ answer ∈ later, Mailbox.IsDropped job.id answer
  /-- What the owner gets to know first is the value, or why the task has failed. -/
  told : ∀ job ending answer later, LaneEvent.finish job ending ∈ es →
    answers job.id es = answer :: later → ending.Tells answer
  /-- The worker leaves a closed lane, and leaves nothing behind. -/
  gone : s.lane.worker = .gone → s.lane.queue = [] ∧ s.lane.accepting = false
  /-- When the worker has left, everything that was accepted has run. -/
  drained : s.lane.worker = .gone →
    ∀ job ∈ sent es, ∃ ending, LaneEvent.finish job ending ∈ es
  /-- As long as the worker has not left, it can go on, unless it waits at an open lane. -/
  progress : s.lane.worker ≠ .gone →
    (s.lane.worker = .idle ∧ s.lane.queue = [] ∧ s.lane.accepting = true) ∨
      ∃ e t, e.isWork = true ∧ LaneStep s e t
  /-- Four steps of the worker for every accepted task, and one for leaving. -/
  steps : es.countP LaneEvent.isWork + s.lane.work.stepsLeft = 4 * (sent es).length + 1
  /-- When the worker has left and all submissions have returned, the counters are right. -/
  totals : s.lane.worker = .gone → s.uncounted = [] →
    s.lane.submitted = (sent es).length ∧ s.lane.completed = (sent es).length ∧
      s.lane.failed = es.countP LaneEvent.isFailure ∧ s.lane.queued = 0

/-- **A lane runs its tasks in order, exactly once, and loses none**, whatever the threads at it
do. -/
theorem isOrderly {es : List (LaneEvent ω α)} {s : LaneThreads ω α} (h : Run LaneStep {} es s) :
    IsOrderly es s := by
  obtain ⟨done, hdone⟩ := runsInOrder h
  have hsubmissions := submissionsFit h
  have hcounters := countersFit h
  have hhandles := handleFits h
  refine ⟨?_, ?_, ?_, hsubmissions.sent_nodup, ⟨done, hdone⟩, ?_, ?_, ?_, ?_, hcounters.gone, ?_,
    LaneThreads.can_work, hcounters.steps, ?_⟩
  · rintro front job back rfl
    exact not_isClose_of_send h
  · rintro front job back rfl
    exact exists_isClose_of_refuse h
  · intro job hjob other hid hstart
    have hrefused : job ∈ RuleEngine.refused es := List.mem_filterMap.mpr ⟨_, hjob, rfl⟩
    exact hsubmissions.refused_sent job hrefused other (hdone.mem_start hstart) hid.symm
  · intro report hook hmem
    obtain ⟨job, ending, hfinish, rfl⟩ := hdone.mem_report hmem
    constructor
    · intro hnone
      obtain ⟨a, rfl⟩ := TaskEnd.error?_eq_none_iff.mp hnone
      exact ⟨job, a, rfl, hfinish⟩
    · rintro ⟨other, a, hid, hother⟩
      obtain ⟨-, rfl⟩ := hdone.finish_unique hsubmissions.sent_nodup hfinish hother hid.symm
      rfl
  · intro job hjob hunfinished
    rcases (hhandles job.id).answers with hnone | ⟨other, ending, _, hmem, hid, -, -⟩
    · exact hnone
    · have hsame : other = job := by
        have hids := List.inj_on_of_nodup_map hsubmissions.sent_nodup
        exact hids (hdone.sent_of_finish hmem) hjob hid
      exact absurd (hsame ▸ hmem) (hunfinished ending)
  · intro job ending hmem
    exact (hhandles job.id).outcome hdone hsubmissions.sent_nodup hmem
  · intro job ending answer later hmem hanswers
    exact (hhandles job.id).tells hdone hsubmissions.sent_nodup hmem hanswers
  · exact fun hworker => hdone.drained hworker (hcounters.gone hworker).1
  · intro hworker hreturned
    have hsubmitted := hsubmissions.counted
    have hcompleted := hcounters.completed
    have hfailed := hcounters.failed
    have hqueue : s.lane.queue = [] := (hcounters.gone hworker).1
    simp only [LaneThreads.submissions, hreturned] at hsubmitted
    simp only [Lane.work, hworker, hqueue, LaneWorker.uncounted, LaneWorker.uncountedFailures]
      at hcompleted hfailed
    simp only [List.length_nil, Nat.add_zero] at hsubmitted hcompleted hfailed
    refine ⟨hsubmitted, hcompleted, hfailed, ?_⟩
    rw [Lane.queued, hsubmitted, hcompleted, Nat.sub_self]

/-- The only accepted task panics, and so does the receiver of the report; another task comes too
late. -/
theorem isOrderly_panics : ∃ (es : List (LaneEvent Nat Nat)) (s : LaneThreads Nat Nat),
    es = [.issue ⟨1, "a", 0⟩, .send ⟨1, "a", 0⟩, .start ⟨1, "a", 0⟩, .close none,
      .issue ⟨2, "b", 0⟩, .refuse ⟨2, "b", 0⟩, .finish ⟨1, "a", 0⟩ (.panic "x"),
      .count ⟨1, "a", 0⟩, .report ⟨1, "a", some "task panicked: x"⟩ (.panicked "y"), .exit,
      .countSubmitted 1] ∧
    s.lane.worker = .gone ∧ s.uncounted = [] ∧ s.lane.failed = 1 ∧ IsOrderly es s := by
  have h1 : Run LaneStep ({} : LaneThreads Nat Nat) [] {} := .nil
  have h2 := (h1.snoc (.issue "a" 0)).snoc (.send (List.mem_singleton_self _) rfl)
  have h3 := (h2.snoc (.start rfl rfl)).snoc .close
  have h4 := (h3.snoc (.issue "b" 0)).snoc (.refuse (List.mem_singleton_self _) rfl)
  have h5 := (h4.snoc (.finish (.panic "x") rfl)).snoc (.count rfl)
  have h6 := (h5.snoc (.report (.panicked "y") rfl)).snoc (.exit rfl rfl rfl)
  have h7 := h6.snoc (.countSubmitted (List.mem_singleton_self _))
  exact ⟨_, _, rfl, rfl, rfl, rfl, isOrderly h7⟩

end RuleEngine
