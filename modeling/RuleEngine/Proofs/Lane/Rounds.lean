import Mathlib.Data.List.Nodup
import RuleEngine.Proofs.Lane.Parts

set_option autoImplicit false

/-! # What a lane has done

Three invariants of the runs of a lane, one for each of its parts. The worker goes through rounds,
each a task from its beginning to the report about it, and the accepted tasks are those of the rounds
in their order, the one in hand, and those of the queue (`RunsInOrder`). Submissions have numbers of
their own (`SubmissionsFit`), and the counters lag behind by what is in hand (`CountersFit`).
-/

namespace RuleEngine

variable {ω α : Type}

/-! ## Rounds of the worker -/

/-- One task from its beginning to the report about it. -/
structure LaneRound (ω α : Type) where
  job : LaneJob ω
  ending : TaskEnd α
  hook : HookEnd

/-- The report is made behind the task, and it has an error if the task failed. -/
def LaneRound.events (r : LaneRound ω α) : List (LaneEvent ω α) :=
  [.start r.job, .finish r.job r.ending, .report (.of r.job r.ending) r.hook]

namespace LaneWorker

def inHand : LaneWorker ω α → List (LaneJob ω)
  | .running job | .delivered job _ | .counted job _ => [job]
  | .idle | .gone => []

/-- What has happened of the round of the task in hand. -/
def opened : LaneWorker ω α → List (LaneEvent ω α)
  | .running job => [.start job]
  | .delivered job ending | .counted job ending => [.start job, .finish job ending]
  | .idle | .gone => []

end LaneWorker

/-- The worker has gone through the rounds `done`, one after the other, and the accepted tasks are
those of the rounds, then the one in hand, then those of the queue. -/
structure RunsInOrder (es : List (LaneEvent ω α)) (w : LaneWork ω α)
    (done : List (LaneRound ω α)) : Prop where
  tasks : taskEvents es = done.flatMap LaneRound.events ++ w.worker.opened
  sent : sent es = done.map (·.job) ++ w.worker.inHand ++ w.queue
  reports : w.reports = done.map fun r => .of r.job r.ending

theorem RunsInOrder.step {es : List (LaneEvent ω α)} {w w' : LaneWork ω α}
    {done : List (LaneRound ω α)} {e : LaneEvent ω α} (h : RunsInOrder es w done)
    (hstep : WorkStep w e w') : ∃ done', RunsInOrder (es ++ [e]) w' done' := by
  obtain ⟨htasks, hsent, hreports⟩ := h
  cases hstep with
  | send =>
      refine ⟨done, ?_, ?_, hreports⟩
      · simp [htasks, LaneEvent.isTask]
      · simp [hsent, LaneEvent.sent?]
  | close =>
      refine ⟨done, ?_, ?_, hreports⟩
      · simp [htasks, LaneEvent.isTask]
      · simp [hsent, LaneEvent.sent?]
  | start hworker hqueue =>
      refine ⟨done, ?_, ?_, hreports⟩
      · simp [htasks, hworker, LaneWorker.opened, LaneEvent.isTask]
      · simp [hsent, hworker, hqueue, LaneWorker.inHand, LaneEvent.sent?]
  | finish _ hworker =>
      refine ⟨done, ?_, ?_, hreports⟩
      · simp [htasks, hworker, LaneWorker.opened, LaneEvent.isTask]
      · simp [hsent, hworker, LaneWorker.inHand, LaneEvent.sent?]
  | count hworker =>
      refine ⟨done, ?_, ?_, hreports⟩
      · simp [htasks, hworker, LaneWorker.opened, LaneEvent.isTask]
      · simp [hsent, hworker, LaneWorker.inHand, LaneEvent.sent?]
  | @report job ending hook hworker =>
      -- the round is complete
      refine ⟨done ++ [⟨job, ending, hook⟩], ?_, ?_, ?_⟩
      · simp [htasks, hworker, LaneWorker.opened, LaneEvent.isTask, LaneRound.events]
      · simp [hsent, hworker, LaneWorker.inHand, LaneEvent.sent?]
      · simp [hreports]
  | exit hworker =>
      refine ⟨done, ?_, ?_, hreports⟩
      · simp [htasks, hworker, LaneWorker.opened, LaneEvent.isTask]
      · simp [hsent, hworker, LaneWorker.inHand, LaneEvent.sent?]
  | other hwork _ hnone =>
      have htask : e.isTask = false := LaneEvent.isTask_eq_false hwork
      refine ⟨done, ?_, ?_, hreports⟩
      · simp [htasks, htask]
      · simp [hsent, hnone]

theorem runsInOrder {es : List (LaneEvent ω α)} {s : LaneThreads ω α}
    (h : Run LaneStep {} es s) : ∃ done, RunsInOrder es s.lane.work done := by
  induction h with
  | nil => exact ⟨[], rfl, rfl, rfl⟩
  | snoc _ hstep ih =>
      obtain ⟨done, hdone⟩ := ih
      exact hdone.step hstep.work

/-! ## Submissions -/

/-- Every submission has a number of its own, its task is at one place, and every accepted task is
counted once. -/
structure SubmissionsFit (es : List (LaneEvent ω α)) (b : Submissions ω) : Prop where
  lt : ∀ job, job ∈ b.issued ∨ job ∈ sent es ∨ job ∈ refused es → job.id < b.next
  sent_nodup : ((sent es).map (·.id)).Nodup
  sent_issued : ∀ job ∈ sent es, ∀ other ∈ b.issued, job.id ≠ other.id
  refused_issued : ∀ job ∈ refused es, ∀ other ∈ b.issued, job.id ≠ other.id
  refused_sent : ∀ job ∈ refused es, ∀ other ∈ sent es, job.id ≠ other.id
  counted : b.submitted + b.uncounted.length = (sent es).length

theorem SubmissionsFit.step {es : List (LaneEvent ω α)} {b b' : Submissions ω} {e : LaneEvent ω α}
    (h : SubmissionsFit es b) (hstep : SubmissionStep b e b') : SubmissionsFit (es ++ [e]) b' := by
  obtain ⟨hlt, hnodup, hsent, hrefused, hapart, hcounted⟩ := h
  cases hstep with
  | issue label work =>
      -- the number is above all others
      have hfresh : ∀ job, job ∈ sent es ∨ job ∈ refused es → job.id ≠ b.next :=
        fun job hjob => Nat.ne_of_lt (hlt job (.inr hjob))
      constructor <;> simp only [sent_snoc, refused_snoc, LaneEvent.sent?, LaneEvent.refused?,
        Option.toList_none, List.append_nil, List.mem_append, List.mem_singleton]
      all_goals grind
  | @send job hjob =>
      -- the task goes from the open submissions to the accepted tasks
      have hnew : ∀ other ∈ sent es, other.id ≠ job.id := fun other hother =>
        hsent other hother job hjob
      have hrest : ∀ other ∈ b.issued.filter fun other => other.id != job.id, other.id ≠ job.id :=
        fun other hother => by simpa using (List.mem_filter.mp hother).2
      constructor <;> simp only [sent_snoc, refused_snoc, LaneEvent.sent?, LaneEvent.refused?,
        Option.toList_some, Option.toList_none, List.append_nil, List.mem_append,
        List.mem_singleton, List.map_append, List.length_append]
      all_goals grind
  | @refuse job hjob =>
      -- the task goes from the open submissions to the refused tasks
      have hnew : ∀ other ∈ sent es, other.id ≠ job.id := fun other hother =>
        hsent other hother job hjob
      have hrest : ∀ other ∈ b.issued.filter fun other => other.id != job.id, other.id ≠ job.id :=
        fun other hother => by simpa using (List.mem_filter.mp hother).2
      constructor <;> simp only [sent_snoc, refused_snoc, LaneEvent.sent?, LaneEvent.refused?,
        Option.toList_some, Option.toList_none, List.append_nil, List.mem_append,
        List.mem_singleton]
      all_goals grind
  | @countSubmitted id hid =>
      have hpos : 0 < b.uncounted.length := List.length_pos_of_mem hid
      have herase : (b.uncounted.erase id).length = b.uncounted.length - 1 :=
        List.length_erase_of_mem hid
      constructor <;> simp only [sent_snoc, refused_snoc, LaneEvent.sent?, LaneEvent.refused?,
        Option.toList_none, List.append_nil]
      all_goals grind
  | other hsent? hrefused? => constructor <;> simpa [hsent?, hrefused?]

theorem submissionsFit {es : List (LaneEvent ω α)} {s : LaneThreads ω α}
    (h : Run LaneStep {} es s) : SubmissionsFit es s.submissions := by
  induction h with
  | nil => constructor <;> simp [sent, refused, LaneThreads.submissions]
  | snoc _ hstep ih => exact ih.step hstep.submissions

/-! ## Counters -/

namespace LaneWorker

/-- The tasks in hand that the counters do not know yet. -/
def uncounted : LaneWorker ω α → Nat
  | .running _ | .delivered _ _ => 1
  | .idle | .counted _ _ | .gone => 0

/-- The failed tasks in hand that the counters do not know yet. -/
def uncountedFailures : LaneWorker ω α → Nat
  | .delivered _ ending => if ending.error?.isSome then 1 else 0
  | .idle | .running _ | .counted _ _ | .gone => 0

/-- The steps that are left of the round of the task in hand, and the leaving. -/
def stepsLeft : LaneWorker ω α → Nat
  | .running _ => 4
  | .delivered _ _ => 3
  | .counted _ _ => 2
  | .idle => 1
  | .gone => 0

end LaneWorker

/-- The steps that are left for the worker: four for every task of the queue, what is to do for the
one in hand, and the leaving. -/
def LaneWork.stepsLeft (w : LaneWork ω α) : Nat := 4 * w.queue.length + w.worker.stepsLeft

/-- What the worker has counted, and what it has still to do. -/
structure CountersFit (es : List (LaneEvent ω α)) (w : LaneWork ω α) : Prop where
  completed : w.completed + w.worker.uncounted + w.queue.length = (sent es).length
  failed : w.failed + w.worker.uncountedFailures = es.countP LaneEvent.isFailure
  steps : es.countP LaneEvent.isWork + w.stepsLeft = 4 * (sent es).length + 1
  gone : w.worker = .gone → w.queue = [] ∧ w.accepting = false

theorem CountersFit.step {es : List (LaneEvent ω α)} {w w' : LaneWork ω α} {e : LaneEvent ω α}
    (h : CountersFit es w) (hstep : WorkStep w e w') : CountersFit (es ++ [e]) w' := by
  obtain ⟨hcompleted, hfailed, hsteps, hgone⟩ := h
  unfold LaneWork.stepsLeft at hsteps
  cases hstep with
  | send hopen =>
      have hstays : w.worker ≠ .gone := fun hworker => by simp [hopen] at hgone; contradiction
      refine ⟨?_, ?_, ?_, fun hworker => absurd hworker hstays⟩
      · simp [LaneEvent.sent?]; omega
      · simpa [LaneEvent.isFailure] using hfailed
      · simp [LaneWork.stepsLeft, LaneEvent.isWork, LaneEvent.sent?]; omega
  | close =>
      refine ⟨?_, ?_, ?_, fun hworker => ⟨(hgone hworker).1, rfl⟩⟩
      · simpa [LaneEvent.sent?] using hcompleted
      · simpa [LaneEvent.isFailure] using hfailed
      · simpa [LaneWork.stepsLeft, LaneEvent.isWork, LaneEvent.sent?] using hsteps
  | start hworker hqueue =>
      simp only [hworker, hqueue, LaneWorker.uncounted, LaneWorker.uncountedFailures,
        LaneWorker.stepsLeft, List.length_cons] at hcompleted hfailed hsteps
      refine ⟨?_, ?_, ?_, by simp⟩
      · simp [LaneWorker.uncounted, LaneEvent.sent?]; omega
      · simpa [LaneWorker.uncountedFailures, LaneEvent.isFailure] using hfailed
      · simp [LaneWork.stepsLeft, LaneWorker.stepsLeft, LaneEvent.isWork, LaneEvent.sent?]; omega
  | finish ending hworker =>
      simp only [hworker, LaneWorker.uncounted, LaneWorker.uncountedFailures,
        LaneWorker.stepsLeft] at hcompleted hfailed hsteps
      refine ⟨?_, ?_, ?_, by simp⟩
      · simpa [LaneWorker.uncounted, LaneEvent.sent?] using hcompleted
      · by_cases hfail : ending.error?.isSome = true <;>
          simpa [LaneWorker.uncountedFailures, LaneEvent.isFailure, hfail] using hfailed
      · simp [LaneWork.stepsLeft, LaneWorker.stepsLeft, LaneEvent.isWork, LaneEvent.sent?]; omega
  | count hworker =>
      simp only [hworker, LaneWorker.uncounted, LaneWorker.uncountedFailures,
        LaneWorker.stepsLeft] at hcompleted hfailed hsteps
      refine ⟨?_, ?_, ?_, by simp⟩
      · simp [LaneWorker.uncounted, LaneEvent.sent?]; omega
      · simpa [LaneWorker.uncountedFailures, LaneEvent.isFailure] using hfailed
      · simp [LaneWork.stepsLeft, LaneWorker.stepsLeft, LaneEvent.isWork, LaneEvent.sent?]; omega
  | report hook hworker =>
      simp only [hworker, LaneWorker.uncounted, LaneWorker.uncountedFailures,
        LaneWorker.stepsLeft] at hcompleted hfailed hsteps
      refine ⟨?_, ?_, ?_, by simp⟩
      · simpa [LaneWorker.uncounted, LaneEvent.sent?] using hcompleted
      · simpa [LaneWorker.uncountedFailures, LaneEvent.isFailure] using hfailed
      · simp [LaneWork.stepsLeft, LaneWorker.stepsLeft, LaneEvent.isWork, LaneEvent.sent?]; omega
  | exit hworker hqueue hclosed =>
      simp only [hworker, LaneWorker.uncounted, LaneWorker.uncountedFailures,
        LaneWorker.stepsLeft] at hcompleted hfailed hsteps
      refine ⟨?_, ?_, ?_, fun _ => ⟨hqueue, hclosed⟩⟩
      · simpa [LaneWorker.uncounted, LaneEvent.sent?] using hcompleted
      · simpa [LaneWorker.uncountedFailures, LaneEvent.isFailure] using hfailed
      · simp [LaneWork.stepsLeft, LaneWorker.stepsLeft, LaneEvent.isWork, LaneEvent.sent?]; omega
  | other hwork _ hnone =>
      have hfailure : e.isFailure = false := LaneEvent.isFailure_eq_false hwork
      refine ⟨?_, ?_, ?_, hgone⟩
      · simpa [hnone] using hcompleted
      · simpa [hfailure] using hfailed
      · simpa [LaneWork.stepsLeft, hwork, hnone] using hsteps

theorem countersFit {es : List (LaneEvent ω α)} {s : LaneThreads ω α}
    (h : Run LaneStep {} es s) : CountersFit es s.lane.work := by
  induction h with
  | nil => constructor <;> simp [sent, Lane.work, LaneWork.stepsLeft, LaneWorker.uncounted,
      LaneWorker.uncountedFailures, LaneWorker.stepsLeft]
  | snoc _ hstep ih => exact ih.step hstep.work

/-! ## What the order means for single tasks -/

theorem TaskEnd.error?_eq_none_iff {ending : TaskEnd α} :
    ending.error? = none ↔ ∃ a, ending = .value a := by
  cases ending <;> simp [error?, outcome]

def LaneWorker.ended : LaneWorker ω α → List (LaneJob ω × TaskEnd α)
  | .delivered job ending | .counted job ending => [(job, ending)]
  | .idle | .running _ | .gone => []

theorem LaneWorker.ended_sublist (w : LaneWorker ω α) :
    (w.ended.map Prod.fst).Sublist w.inHand := by
  cases w <;> simp [ended, inHand]

namespace RunsInOrder

variable {es : List (LaneEvent ω α)} {w : LaneWork ω α} {done : List (LaneRound ω α)}
  {job : LaneJob ω} {ending : TaskEnd α}

theorem mem_start (h : RunsInOrder es w done) (hmem : LaneEvent.start job ∈ es) :
    job ∈ RuleEngine.sent es := by
  have htask : LaneEvent.start job ∈ taskEvents es := List.mem_filter.mpr ⟨hmem, rfl⟩
  rw [h.tasks] at htask
  rw [h.sent]
  rcases List.mem_append.mp htask with hdone | hopened
  · obtain ⟨r, hr, hround⟩ := List.mem_flatMap.mp hdone
    obtain rfl : job = r.job := by simpa [LaneRound.events] using hround
    simp [List.mem_map_of_mem hr]
  · cases hworker : w.worker <;> simp_all [LaneWorker.opened, LaneWorker.inHand]

theorem mem_finish (h : RunsInOrder es w done) (hmem : LaneEvent.finish job ending ∈ es) :
    (job, ending) ∈ done.map (fun r => (r.job, r.ending)) ++ w.worker.ended := by
  have htask : LaneEvent.finish job ending ∈ taskEvents es := List.mem_filter.mpr ⟨hmem, rfl⟩
  rw [h.tasks] at htask
  rcases List.mem_append.mp htask with hdone | hopened
  · obtain ⟨r, hr, hround⟩ := List.mem_flatMap.mp hdone
    obtain ⟨rfl, rfl⟩ : job = r.job ∧ ending = r.ending := by simpa [LaneRound.events] using hround
    exact List.mem_append_left _ (List.mem_map.mpr ⟨r, hr, rfl⟩)
  · refine List.mem_append_right _ ?_
    cases hworker : w.worker <;> simp_all [LaneWorker.opened, LaneWorker.ended]

theorem finish_of_mem (h : RunsInOrder es w done) {r : LaneRound ω α} (hr : r ∈ done) :
    LaneEvent.finish r.job r.ending ∈ es := by
  have hfinish : LaneEvent.finish r.job r.ending ∈ taskEvents es := by
    rw [h.tasks]
    exact List.mem_append_left _ (List.mem_flatMap.mpr ⟨r, hr, by simp [LaneRound.events]⟩)
  exact (List.mem_filter.mp hfinish).1

/-- A worker that has left, and has left nothing behind, has run everything that was accepted. -/
theorem drained (h : RunsInOrder es w done) (hworker : w.worker = .gone) (hqueue : w.queue = []) :
    ∀ job ∈ RuleEngine.sent es, ∃ ending, LaneEvent.finish job ending ∈ es := by
  intro job hjob
  have hsent : RuleEngine.sent es = done.map (·.job) := by
    simpa [hworker, hqueue, LaneWorker.inHand] using h.sent
  rw [hsent] at hjob
  obtain ⟨r, hr, rfl⟩ := List.mem_map.mp hjob
  exact ⟨r.ending, h.finish_of_mem hr⟩

theorem mem_report (h : RunsInOrder es w done) {report : LaneReport} {hook : HookEnd}
    (hmem : LaneEvent.report report hook ∈ es) :
    ∃ job ending, LaneEvent.finish job ending ∈ es ∧ report = .of job ending := by
  have htask : LaneEvent.report report hook ∈ taskEvents es := List.mem_filter.mpr ⟨hmem, rfl⟩
  rw [h.tasks] at htask
  rcases List.mem_append.mp htask with hdone | hopened
  · obtain ⟨r, hr, hround⟩ := List.mem_flatMap.mp hdone
    obtain ⟨rfl, rfl⟩ : report = .of r.job r.ending ∧ hook = r.hook := by
      simpa [LaneRound.events] using hround
    exact ⟨r.job, r.ending, h.finish_of_mem hr, rfl⟩
  · cases hworker : w.worker <;> simp_all [LaneWorker.opened]

/-- The tasks that have ended are among the accepted ones, in their order. -/
theorem ended_sublist (h : RunsInOrder es w done) :
    ((done.map (fun r => (r.job, r.ending)) ++ w.worker.ended).map Prod.fst).Sublist
      (RuleEngine.sent es) := by
  rw [h.sent, List.map_append, List.map_map]
  refine List.Sublist.trans ?_ (List.sublist_append_left _ _)
  exact (List.Sublist.refl _).append w.worker.ended_sublist

theorem sent_of_finish (h : RunsInOrder es w done) (hmem : LaneEvent.finish job ending ∈ es) :
    job ∈ RuleEngine.sent es :=
  h.ended_sublist.subset (List.mem_map_of_mem (f := Prod.fst) (h.mem_finish hmem))

theorem finish_unique (h : RunsInOrder es w done)
    (hnodup : ((RuleEngine.sent es).map (·.id)).Nodup) {other : LaneJob ω} {ended : TaskEnd α}
    (hmem : LaneEvent.finish job ending ∈ es) (hother : LaneEvent.finish other ended ∈ es)
    (hid : job.id = other.id) : job = other ∧ ending = ended := by
  have hids := hnodup.sublist (h.ended_sublist.map (·.id))
  rw [List.map_map] at hids
  have heq := List.inj_on_of_nodup_map hids (h.mem_finish hmem) (h.mem_finish hother) hid
  exact Prod.mk.injEq .. ▸ heq

end RunsInOrder

end RuleEngine
