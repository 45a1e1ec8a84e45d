import RuleEngine.Proofs.Lane.Handle

set_option autoImplicit false

/-! # Whom a handle blames

The owner of a handle polls it and waits at it, whenever and as often as he likes. Whatever he does,
the first call that returns an outcome returns the one of the task. The outcome can be taken only once:
every later call that returns something returns an error of the lane, and the same error is returned
for a task that has failed. So an answer blames the task exactly if the task has failed or an earlier
call has taken the outcome (`AnswersTell`), and a task that has succeeded is blamed by a second poll.

What a call returns is read off the box of the handle at that moment (`LaneStep.tells`).
-/

namespace RuleEngine

variable {ω α : Type}

/-- An answer is the error of a task that has failed. -/
def Blames (answer : Except EngineError α) : Prop := ∃ m, answer = .error (.laneTask m)

theorem blames_received_iff {ending : TaskEnd α} :
    Blames (Mailbox.received ending.outcome) ↔ ending.error?.isSome = true := by
  unfold Blames TaskEnd.error?
  cases ending.outcome <;> simp [Mailbox.received]

/-- A call finds that the outcome was taken. -/
inductive LaneEvent.FindsTaken (id : Nat) : LaneEvent ω α → Prop
  | poll : FindsTaken id
      (.poll id (some (.error (.laneTask ("lane task #" ++ toString id ++ " was dropped")))))
  | wait : FindsTaken id
      (.wait id (.error (.laneTask ("lane task #" ++ toString id ++ " was dropped before completing"))))

theorem LaneEvent.FindsTaken.blames {id : Nat} {e : LaneEvent ω α} {answer : Except EngineError α}
    (h : e.FindsTaken id) (ha : e.answer? id = some answer) : Blames answer := by
  cases h with
  | poll | wait =>
      obtain rfl : _ = answer := Option.some.inj ((if_pos rfl).symm.trans ha)
      exact ⟨_, rfl⟩

/-- What the calls at the handle of a task return. -/
structure AnswersTell (es : List (LaneEvent ω α)) (job : LaneJob ω) : Prop where
  /-- The first outcome is the one of the task. -/
  first : ∀ front e back answer, es = front ++ e :: back → e.answer? job.id = some answer →
    answers job.id front = [] →
    ∃ ending, .finish job ending ∈ front ∧ answer = Mailbox.received ending.outcome
  /-- All that is returned later says that it was taken. -/
  later : ∀ front e back answer, es = front ++ e :: back → e.answer? job.id = some answer →
    answers job.id front ≠ [] → e.FindsTaken job.id
  /-- An answer blames the task exactly if the task has failed or the outcome was taken before. -/
  blames : ∀ front e back answer, es = front ++ e :: back → e.answer? job.id = some answer →
    (Blames answer ↔
      (∃ ending, .finish job ending ∈ front ∧ ending.error?.isSome = true) ∨
        answers job.id front ≠ [])
  /-- A poll finds nothing before the task ends, and afterwards only if the outcome was taken and the
  task was not reported yet. -/
  nothing : ∀ front back, es = front ++ .poll job.id none :: back →
    (∀ ending, .finish job ending ∉ front) ∨
      answers job.id front ≠ [] ∧ ∀ report hook, report.id = job.id → .report report hook ∉ front

section Step

variable {es : List (LaneEvent ω α)} {s t : LaneThreads ω α} {e : LaneEvent ω α} {id : Nat}
  {answer : Except EngineError α}

/-- A call returns the outcome of a task with the number of the handle, or finds that it was taken. -/
theorem LaneStep.tells (h : Run LaneStep {} es s) (hstep : LaneStep s e t)
    (ha : e.answer? id = some answer) :
    (answers id es = [] ∧ ∃ job ending, .finish job ending ∈ es ∧ job.id = id ∧
        answer = Mailbox.received ending.outcome) ∨
      answers id es ≠ [] ∧ e.FindsTaken id := by
  have hfits := (handleFits h id).box
  have hbox := hstep.box id
  generalize s.lane.mailbox? id = before at hfits hbox
  generalize t.lane.mailbox? id = after at hbox
  cases hbox with
  | @poll box =>
      have hanswer : (box.poll id).1 = some answer := (if_pos rfl).symm.trans ha
      cases box with
      | pending => cases hanswer
      | ready outcome =>
          obtain ⟨hnone, job, ending, hfinish, hid, rfl⟩ := hfits
          exact .inl ⟨hnone, job, ending, hfinish, hid, (Option.some.inj hanswer).symm⟩
      | spent => exact .inr ⟨hfits, .poll⟩
  | @wait box answer' hwait =>
      obtain rfl : answer' = answer := Option.some.inj ((if_pos rfl).symm.trans ha)
      cases box with
      | pending => cases hwait
      | ready outcome =>
          obtain ⟨hnone, job, ending, hfinish, hid, rfl⟩ := hfits
          exact .inl ⟨hnone, job, ending, hfinish, hid, (Option.some.inj hwait).symm⟩
      | spent =>
          obtain rfl := Option.some.inj hwait
          exact .inr ⟨hfits, .wait⟩
  | held => exact absurd ((if_pos rfl).symm.trans ha) nofun
  | other hother => exact absurd ha (by rw [LaneEvent.answer?_eq_none hother]; nofun)
  | send | finish | discard => cases ha

theorem not_reported_of_delivered (h : Run LaneStep {} es s) {job : LaneJob ω} {ending : TaskEnd α}
    (hworker : s.lane.worker = .delivered job ending) {report : LaneReport} {hook : HookEnd}
    (hid : report.id = job.id) : .report report hook ∉ es := by
  obtain ⟨done, hdone⟩ := runsInOrder h
  have hsent := hdone.sent
  have htasks := hdone.tasks
  simp only [Lane.work, hworker, LaneWorker.inHand, LaneWorker.opened] at hsent htasks
  intro hmem
  have htask : .report report hook ∈ taskEvents es := List.mem_filter.2 ⟨hmem, rfl⟩
  rw [htasks] at htask
  -- the report belongs to a round, and the task of the round has the number of the task in hand
  obtain ⟨r, hr, hround⟩ : ∃ r ∈ done, LaneEvent.report report hook ∈ r.events := by
    simpa using htask
  obtain ⟨rfl, -⟩ : report = .of r.job r.ending ∧ hook = r.hook := by
    simpa [LaneRound.events] using hround
  have hnodup := (submissionsFit h).sent_nodup
  rw [hsent, List.append_assoc, List.map_append, List.nodup_append] at hnodup
  exact hnodup.2.2 r.job.id (by simpa using ⟨r, hr, rfl⟩) job.id (by simp) hid

/-- A poll that finds nothing finds a task that runs, or one whose outcome was taken just now. -/
theorem LaneStep.tells_nothing (h : Run LaneStep {} es s) (hstep : LaneStep s (.poll id none) t) :
    (∀ job ending, job.id = id → .finish job ending ∉ es) ∨
      answers id es ≠ [] ∧ ∀ report hook, report.id = id → .report report hook ∉ es := by
  generalize he : LaneEvent.poll id none = e at hstep
  have hfits := (handleFits h id).box
  cases hstep with
  | @poll key box hbox =>
      obtain ⟨rfl, hnone⟩ := LaneEvent.poll.inj he
      rw [hbox] at hfits
      rw [Lane.poll_eq hbox] at hnone
      cases box with
      | pending => exact .inl hfits.2
      | ready | spent => cases hnone
  | pollHeld hworker hbox =>
      obtain ⟨rfl, -⟩ := LaneEvent.poll.inj he
      rw [hbox] at hfits
      exact .inr ⟨hfits, fun _ _ => not_reported_of_delivered h hworker⟩
  | _ => cases he

end Step

section Run

variable {es : List (LaneEvent ω α)} {s : LaneThreads ω α} {job : LaneJob ω}

theorem eq_of_finish (h : Run LaneStep {} es s) (hjob : job ∈ sent es) {other : LaneJob ω}
    {ending : TaskEnd α} (hfinish : .finish other ending ∈ es) (hid : other.id = job.id) :
    other = job := by
  obtain ⟨done, hdone⟩ := runsInOrder h
  exact List.inj_on_of_nodup_map (submissionsFit h).sent_nodup (hdone.sent_of_finish hfinish) hjob hid

/-- **A handle returns the outcome of its task once; whatever it returns later blames the task.** -/
theorem answers_tell (h : Run LaneStep {} es s) (hjob : job ∈ sent es) : AnswersTell es job := by
  -- a call in the middle of the run returns what the run up to there says
  have htells : ∀ front e back answer, es = front ++ e :: back → e.answer? job.id = some answer →
      (answers job.id front = [] ∧
        ∃ ending, .finish job ending ∈ front ∧ answer = Mailbox.received ending.outcome) ∨
      answers job.id front ≠ [] ∧ e.FindsTaken job.id := by
    rintro front e back answer rfl ha
    obtain ⟨m, t, hfront, hstep⟩ := h.split
    refine (hstep.tells hfront ha).imp_left fun ⟨hnone, other, ending, hfinish, hid, hanswer⟩ => ?_
    obtain rfl := eq_of_finish h hjob (List.mem_append_left _ hfinish) hid
    exact ⟨hnone, ending, hfinish, hanswer⟩
  refine ⟨?_, ?_, ?_, ?_⟩
  · intro front e back answer hes ha hnone
    rcases htells front e back answer hes ha with ⟨-, hown⟩ | ⟨hne, -⟩
    · exact hown
    · exact absurd hnone hne
  · intro front e back answer hes ha hne
    rcases htells front e back answer hes ha with ⟨hnone, -⟩ | ⟨-, htaken⟩
    · exact absurd hnone hne
    · exact htaken
  · intro front e back answer hes ha
    rcases htells front e back answer hes ha with ⟨hnone, ending, hfinish, rfl⟩ | ⟨hne, htaken⟩
    · rw [blames_received_iff]
      refine ⟨fun hfailed => .inl ⟨ending, hfinish, hfailed⟩, ?_⟩
      rintro (⟨ended, hended, hfailed⟩ | hne)
      · obtain ⟨done, hdone⟩ := runsInOrder h
        have hfront : ∀ {x}, x ∈ front → x ∈ es := fun hx => hes ▸ List.mem_append_left _ hx
        obtain ⟨-, rfl⟩ := hdone.finish_unique (submissionsFit h).sent_nodup (hfront hfinish)
          (hfront hended) rfl
        exact hfailed
      · exact absurd hnone hne
    · exact iff_of_true (htaken.blames ha) (.inr hne)
  · rintro front back rfl
    obtain ⟨m, t, hfront, hstep⟩ := h.split
    exact (hstep.tells_nothing hfront).imp_left fun hrunning ending => hrunning job ending rfl

end Run

/-- A task succeeds. It is polled before it ends, and three times afterwards: the first of these polls
takes the outcome, the second one comes before the worker has let go of the task. -/
theorem answers_tell_of_polls : ∃ (es : List (LaneEvent Nat Nat)) (s : LaneThreads Nat Nat),
    es = [.issue ⟨1, "a", 0⟩, .send ⟨1, "a", 0⟩, .start ⟨1, "a", 0⟩, .poll 1 none,
      .finish ⟨1, "a", 0⟩ (.value 7), .poll 1 (some (.ok 7)), .poll 1 none, .count ⟨1, "a", 0⟩,
      .poll 1 (some (.error (.laneTask "lane task #1 was dropped")))] ∧
    Run LaneStep {} es s ∧ ⟨1, "a", 0⟩ ∈ sent es ∧ AnswersTell es ⟨1, "a", 0⟩ := by
  have h1 : Run LaneStep ({} : LaneThreads Nat Nat) [] {} := .nil
  have h2 := (h1.snoc (.issue "a" 0)).snoc (.send (List.mem_singleton_self _) rfl)
  have h3 := (h2.snoc (.start rfl rfl)).snoc (@LaneStep.poll Nat Nat _ 1 .pending rfl)
  have h4 := (h3.snoc (.finish (.value 7) rfl)).snoc (@LaneStep.poll Nat Nat _ 1 (.ready (.ok 7)) rfl)
  have h5 := (h4.snoc (.pollHeld rfl rfl)).snoc (.count rfl)
  have h6 := h5.snoc (@LaneStep.poll Nat Nat _ 1 .spent rfl)
  have hsent := List.mem_singleton_self (LaneJob.mk 1 "a" 0)
  exact ⟨_, _, rfl, h6, hsent, answers_tell h6 hsent⟩

/-- A second poll blames a task that has succeeded. -/
theorem not_blameless_of_second_poll : ¬ ∀ (es : List (LaneEvent Nat Nat)) (s : LaneThreads Nat Nat)
    (job : LaneJob Nat) (a : Nat), Run LaneStep {} es s → .finish job (.value a) ∈ es →
      ∀ answer ∈ answers job.id es, ¬Blames answer := by
  intro hall
  have h1 : Run LaneStep ({} : LaneThreads Nat Nat) [] {} := .nil
  have h2 := (h1.snoc (.issue "a" 0)).snoc (.send (List.mem_singleton_self _) rfl)
  have h3 := (h2.snoc (.start rfl rfl)).snoc (.finish (.value 7) rfl)
  have h4 := h3.snoc (@LaneStep.poll Nat Nat _ 1 (.ready (.ok 7)) rfl)
  have h5 := h4.snoc (@LaneStep.poll Nat Nat _ 1 .spent rfl)
  refine hall _ _ ⟨1, "a", 0⟩ 7 h5 ?_ (.error (.laneTask "lane task #1 was dropped")) ?_ ⟨_, rfl⟩
  · exact List.mem_append_left _ (List.mem_append_left _ (List.mem_append_right _
      (List.mem_singleton_self _)))
  · exact List.mem_cons_of_mem _ (List.mem_singleton_self _)

end RuleEngine
