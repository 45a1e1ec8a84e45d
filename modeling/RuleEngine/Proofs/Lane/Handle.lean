import RuleEngine.Proofs.Lane.Rounds

set_option autoImplicit false

/-! # What a handle tells

The handle of a task tells its owner nothing until the task ends, then the outcome, and from then on
that the outcome was taken, or again nothing as long as the worker has not let go of the task. The
invariant is about the events, the answers and the box of one handle
(`HandleFits`); events at other handles do not touch it.
-/

namespace RuleEngine

variable {ω α : Type}

/-- What an owner is told about the end of a task. -/
inductive TaskEnd.Tells : TaskEnd α → Except EngineError α → Prop
  | value (a : α) : Tells (.value a) (.ok a)
  | error (m : String) : Tells (.error m) (.error (.laneTask m))
  | panic (m : String) : Tells (.panic m) (.error (.laneTask ("task panicked: " ++ m)))

theorem TaskEnd.tells_received (ending : TaskEnd α) :
    ending.Tells (Mailbox.received ending.outcome) := by
  cases ending <;> constructor

/-- What a handle answers when its outcome was taken. -/
def Mailbox.IsDropped (id : Nat) (answer : Except EngineError α) : Prop :=
  (Mailbox.spent.poll id).1 = some answer ∨ Mailbox.spent.wait? id = some answer

/-- What a handle has told its owner: nothing, or the outcome of the task and then that it was
taken. -/
def AnswersFit (id : Nat) (es : List (LaneEvent ω α)) : Prop :=
  answers id es = [] ∨
    ∃ job ending later, LaneEvent.finish job ending ∈ es ∧ job.id = id ∧
      answers id es = Mailbox.received ending.outcome :: later ∧
      ∀ answer ∈ later, Mailbox.IsDropped id answer

/-- What the box of a handle shows of the events so far. -/
def BoxFits (id : Nat) (es : List (LaneEvent ω α)) : Option (Mailbox α) → Prop
  | none => (∀ job ∈ sent es, job.id ≠ id) ∨ LaneEvent.discard id ∈ es ∨ answers id es ≠ []
  | some .pending =>
    answers id es = [] ∧ ∀ job ending, job.id = id → LaneEvent.finish job ending ∉ es
  | some (.ready outcome) =>
    answers id es = [] ∧
      ∃ job ending, LaneEvent.finish job ending ∈ es ∧ job.id = id ∧ outcome = ending.outcome
  | some .spent => answers id es ≠ []

theorem AnswersFit.of_silent {id : Nat} {es : List (LaneEvent ω α)} {e : LaneEvent ω α}
    (h : AnswersFit id es) (he : e.answer? id = none) : AnswersFit id (es ++ [e]) := by
  rcases h with hnone | ⟨job, ending, later, hfinish, hid, hanswers, hlater⟩
  · left
    simp [hnone, he]
  · right
    refine ⟨job, ending, later, List.mem_append_left [e] hfinish, hid, ?_, hlater⟩
    simp [hanswers, he]

theorem AnswersFit.of_first {id : Nat} {es : List (LaneEvent ω α)} {e : LaneEvent ω α}
    {job : LaneJob ω} {ending : TaskEnd α} (h : answers id es = [])
    (hfinish : LaneEvent.finish job ending ∈ es) (hid : job.id = id)
    (he : e.answer? id = some (Mailbox.received ending.outcome)) : AnswersFit id (es ++ [e]) := by
  right
  refine ⟨job, ending, [], List.mem_append_left [e] hfinish, hid, ?_, by simp⟩
  simp [h, he]

/-- All other answers say that it was taken. -/
theorem AnswersFit.of_later {id : Nat} {es : List (LaneEvent ω α)} {e : LaneEvent ω α}
    {answer : Except EngineError α} (h : AnswersFit id es) (hne : answers id es ≠ [])
    (hdropped : Mailbox.IsDropped id answer) (he : e.answer? id = some answer) :
    AnswersFit id (es ++ [e]) := by
  rcases h with hnone | ⟨job, ending, later, hfinish, hid, hanswers, hlater⟩
  · exact absurd hnone hne
  · right
    refine ⟨job, ending, later ++ [answer], List.mem_append_left [e] hfinish, hid, ?_, ?_⟩
    · simp [hanswers, he]
    · intro a ha
      rcases List.mem_append.mp ha with hold | hlast
      · exact hlater a hold
      · rw [List.mem_singleton.mp hlast]
        exact hdropped

/-- The handle of a task, its answers and its box fit together. -/
structure HandleFits (id : Nat) (es : List (LaneEvent ω α)) (box : Option (Mailbox α)) : Prop where
  sent : box ≠ none → ∃ job ∈ sent es, job.id = id
  answers : AnswersFit id es
  box : BoxFits id es box

theorem HandleFits.send {id : Nat} {es : List (LaneEvent ω α)} {box : Option (Mailbox α)}
    {job : LaneJob ω} (h : HandleFits id es box) (hid : job.id = id)
    (hfinish : ∀ job ending, LaneEvent.finish job ending ∈ es → job ∈ RuleEngine.sent es)
    (hnew : ∀ other ∈ RuleEngine.sent es, other.id ≠ job.id) :
    HandleFits id (es ++ [.send job]) (box.or (some .pending)) := by
  -- the handle did not exist
  have hempty : box = none := by
    by_contra hbox
    obtain ⟨other, hother, hsame⟩ := h.sent hbox
    exact hnew other hother (hsame.trans hid.symm)
  have hunfinished : ∀ other ending, other.id = id → LaneEvent.finish other ending ∉ es :=
    fun other ending hsame hmem => hnew other (hfinish other ending hmem) (hsame.trans hid.symm)
  have hsilent : RuleEngine.answers id es = [] := by
    rcases h.answers with hnone | ⟨other, ending, _, hmem, hsame, -, -⟩
    · exact hnone
    · exact absurd hmem (hunfinished other ending hsame)
  subst hempty
  refine ⟨fun _ => ⟨job, by simp [LaneEvent.sent?], hid⟩, h.answers.of_silent rfl, ?_, ?_⟩
  · simp [hsilent, LaneEvent.answer?]
  · intro other ending hsame hmem
    exact hunfinished other ending hsame (by simpa using hmem)

theorem HandleFits.finish {id : Nat} {es : List (LaneEvent ω α)} {box : Option (Mailbox α)}
    {job : LaneJob ω} {ending : TaskEnd α} (h : HandleFits id es box) (hid : job.id = id) :
    HandleFits id (es ++ [.finish job ending]) (box.map (Mailbox.deliver ending.outcome)) := by
  refine ⟨?_, h.answers.of_silent rfl, ?_⟩
  · intro hbox
    obtain ⟨other, hother, hsame⟩ := h.sent fun hnone => hbox (by rw [hnone]; rfl)
    exact ⟨other, by simpa [LaneEvent.sent?] using hother, hsame⟩
  · have hbox := h.box
    rcases box with _ | _ | outcome | _
    · simpa [BoxFits, LaneEvent.sent?, LaneEvent.answer?] using hbox
    · exact ⟨by simpa [LaneEvent.answer?] using hbox.1, job, ending, by simp, hid, rfl⟩
    · obtain ⟨hsilent, other, ended, hmem, hsame, houtcome⟩ := hbox
      exact ⟨by simpa [LaneEvent.answer?] using hsilent, other, ended,
        List.mem_append_left _ hmem, hsame, houtcome⟩
    · have hne : RuleEngine.answers id es ≠ [] := hbox
      show RuleEngine.answers id _ ≠ []
      simpa [LaneEvent.answer?] using hne

theorem HandleFits.poll {id : Nat} {es : List (LaneEvent ω α)} {box : Mailbox α}
    (h : HandleFits id es (some box)) :
    HandleFits id (es ++ [.poll id (box.poll id).1]) (some (box.poll id).2) := by
  have hsent : ∃ job ∈ RuleEngine.sent (es ++ [.poll id (box.poll id).1]), job.id = id := by
    simpa [LaneEvent.sent?] using h.sent (Option.some_ne_none box)
  have hbox := h.box
  refine ⟨fun _ => hsent, ?_, ?_⟩
  · cases box with
    | pending => exact h.answers.of_silent (by simp [LaneEvent.answer?, Mailbox.poll])
    | ready outcome =>
        obtain ⟨hsilent, job, ending, hmem, hid, houtcome⟩ := hbox
        exact .of_first hsilent hmem hid (by simp [LaneEvent.answer?, Mailbox.poll, houtcome])
    | spent => exact h.answers.of_later hbox (.inl rfl) (by simp [LaneEvent.answer?, Mailbox.poll])
  · cases box with
    | pending => simpa [BoxFits, Mailbox.poll, LaneEvent.answer?] using hbox
    | ready outcome => simp [BoxFits, Mailbox.poll, LaneEvent.answer?]
    | spent => simp [BoxFits, Mailbox.poll, LaneEvent.answer?]

theorem HandleFits.wait {id : Nat} {es : List (LaneEvent ω α)} {box : Mailbox α}
    {answer : Except EngineError α} (h : HandleFits id es (some box))
    (hanswer : box.wait? id = some answer) : HandleFits id (es ++ [.wait id answer]) none := by
  have hanswer? : (LaneEvent.wait (ω := ω) id answer).answer? id = some answer := by
    simp [LaneEvent.answer?]
  have hbox := h.box
  refine ⟨fun hnone => absurd rfl hnone, ?_, ?_⟩
  · cases box with
    | pending => exact absurd hanswer (by simp [Mailbox.wait?])
    | ready outcome =>
        obtain ⟨hsilent, job, ending, hmem, hid, houtcome⟩ := hbox
        obtain rfl : Mailbox.received outcome = answer := by simpa [Mailbox.wait?] using hanswer
        exact .of_first hsilent hmem hid (by rw [hanswer?, houtcome])
    | spent => exact h.answers.of_later hbox (.inr hanswer) hanswer?
  · right; right
    simp [hanswer?]

/-- A poll that finds nothing tells nothing. -/
theorem HandleFits.held {id : Nat} {es : List (LaneEvent ω α)} (h : HandleFits id es (some .spent)) :
    HandleFits id (es ++ [.poll id none]) (some .spent) := by
  have hsilent : (LaneEvent.poll (ω := ω) (α := α) id none).answer? id = none := if_pos rfl
  refine ⟨fun hbox => ?_, h.answers.of_silent hsilent, ?_⟩
  · simpa [LaneEvent.sent?] using h.sent hbox
  · have hne : RuleEngine.answers id es ≠ [] := h.box
    show RuleEngine.answers id _ ≠ []
    simpa [hsilent] using hne

/-- Events at other handles leave a handle as it is. -/
theorem HandleFits.other {id : Nat} {es : List (LaneEvent ω α)} {box : Option (Mailbox α)}
    {e : LaneEvent ω α} (h : HandleFits id es box) (he : e.handle? ≠ some id) :
    HandleFits id (es ++ [e]) box := by
  have hsilent : e.answer? id = none := LaneEvent.answer?_eq_none he
  refine ⟨?_, h.answers.of_silent hsilent, ?_⟩
  · intro hbox
    obtain ⟨job, hjob, hid⟩ := h.sent hbox
    exact ⟨job, by simp [hjob], hid⟩
  · have hbox := h.box
    rcases box with _ | _ | outcome | _
    · rcases hbox with hunsent | hdiscard | hne
      · left
        intro job hjob hid
        rw [sent_snoc] at hjob
        rcases List.mem_append.mp hjob with hold | hlast
        · exact hunsent job hold hid
        · obtain rfl := LaneEvent.sent?_eq_some_iff.mp (Option.mem_toList.mp hlast)
          exact he (by simp [LaneEvent.handle?, hid])
      · right; left
        exact List.mem_append_left [e] hdiscard
      · right; right
        simpa [hsilent] using hne
    · refine ⟨by simp [hsilent, hbox.1], fun job ending hid hmem => ?_⟩
      rcases List.mem_append.mp hmem with hold | hlast
      · exact hbox.2 job ending hid hold
      · obtain rfl := List.mem_singleton.mp hlast
        exact he (by simp [LaneEvent.handle?, hid])
    · obtain ⟨hnone, job, ending, hmem, hid, houtcome⟩ := hbox
      exact ⟨by simp [hnone, hsilent], job, ending, List.mem_append_left [e] hmem, hid, houtcome⟩
    · have hne : RuleEngine.answers id es ≠ [] := hbox
      show RuleEngine.answers id _ ≠ []
      simpa [hsilent] using hne

theorem HandleFits.step {id : Nat} {es : List (LaneEvent ω α)} {box box' : Option (Mailbox α)}
    {e : LaneEvent ω α} (h : HandleFits id es box) (hstep : BoxStep id box e box')
    (hfinish : ∀ job ending, LaneEvent.finish job ending ∈ es → job ∈ RuleEngine.sent es)
    (hnew : ∀ job, e = .send job → ∀ other ∈ RuleEngine.sent es, other.id ≠ job.id) :
    HandleFits id (es ++ [e]) box' := by
  cases hstep with
  | send hid => exact h.send hid hfinish (hnew _ rfl)
  | finish hid => exact h.finish hid
  | poll => exact h.poll
  | held => exact h.held
  | wait hanswer => exact h.wait hanswer
  | discard =>
      exact ⟨fun hnone => absurd rfl hnone, h.answers.of_silent rfl, .inr (.inl (by simp))⟩
  | other he => exact h.other he

theorem handleFits {es : List (LaneEvent ω α)} {s : LaneThreads ω α} (h : Run LaneStep {} es s)
    (id : Nat) : HandleFits id es (s.lane.mailbox? id) := by
  induction h with
  | nil => exact ⟨by simp [Lane.mailbox?], .inl rfl, .inl (by simp [sent])⟩
  | @snoc es m t e hrun hstep ih =>
      obtain ⟨done, hdone⟩ := runsInOrder hrun
      refine ih.step (hstep.box id) (fun job ending hmem => hdone.sent_of_finish hmem) ?_
      -- the number of a task that is sent now was free
      rintro job rfl other hother
      have hissued : job ∈ m.issued := by cases hstep; assumption
      exact (submissionsFit hrun).sent_issued other hother job hissued

/-- Once a task has ended, its outcome is in the box of its handle, or was the first answer. -/
theorem HandleFits.outcome {es : List (LaneEvent ω α)} {w : LaneWork ω α}
    {done : List (LaneRound ω α)} {box : Option (Mailbox α)} {job : LaneJob ω} {ending : TaskEnd α}
    (h : HandleFits job.id es box) (hdone : RunsInOrder es w done)
    (hnodup : ((RuleEngine.sent es).map (·.id)).Nodup) (hmem : LaneEvent.finish job ending ∈ es) :
    RuleEngine.answers job.id es = [] ∧
        (LaneEvent.discard job.id ∈ es ∨ box = some (.ready ending.outcome)) ∨
      ∃ later, RuleEngine.answers job.id es = Mailbox.received ending.outcome :: later ∧
        ∀ answer ∈ later, Mailbox.IsDropped job.id answer := by
  rcases h.answers with hnone | ⟨other, ended, later, hother, hid, hanswers, hlater⟩
  · left
    refine ⟨hnone, ?_⟩
    have hbox := h.box
    rcases box with _ | _ | outcome | _
    · rcases hbox with hunsent | hdiscard | hne
      · exact absurd rfl (hunsent job (hdone.sent_of_finish hmem))
      · exact .inl hdiscard
      · exact absurd hnone hne
    · exact absurd hmem (hbox.2 job ending rfl)
    · obtain ⟨-, other, ended, hother, hid, houtcome⟩ := hbox
      obtain ⟨-, rfl⟩ := hdone.finish_unique hnodup hmem hother hid.symm
      exact .inr (by rw [houtcome])
    · exact absurd hnone hbox
  · right
    obtain ⟨-, rfl⟩ := hdone.finish_unique hnodup hmem hother hid.symm
    exact ⟨later, hanswers, hlater⟩

theorem HandleFits.tells {es : List (LaneEvent ω α)} {w : LaneWork ω α}
    {done : List (LaneRound ω α)} {box : Option (Mailbox α)} {job : LaneJob ω} {ending : TaskEnd α}
    {answer : Except EngineError α} {later : List (Except EngineError α)}
    (h : HandleFits job.id es box) (hdone : RunsInOrder es w done)
    (hnodup : ((RuleEngine.sent es).map (·.id)).Nodup) (hmem : LaneEvent.finish job ending ∈ es)
    (hanswers : RuleEngine.answers job.id es = answer :: later) : ending.Tells answer := by
  rcases h.outcome hdone hnodup hmem with ⟨hnone, -⟩ | ⟨others, hfirst, -⟩
  · rw [hanswers] at hnone
    cases hnone
  · rw [hanswers] at hfirst
    cases hfirst
    exact ending.tells_received

/-! ## Owners -/

def LaneEvent.owner? : LaneEvent ω α → Option Nat
  | .send job | .refuse job => some job.id
  | .countSubmitted id | .poll id _ | .wait id _ | .discard id => some id
  | .issue _ | .start _ | .finish _ _ | .count _ | .report _ _ | .exit | .close _ | .ask _ _
  | .join _ => none

section Owner

variable {s t : LaneThreads ω α} {e : LaneEvent ω α} {es : List (LaneEvent ω α)}
  {id : Nat} {job : LaneJob ω}

theorem LaneEvent.answer?_of_owner (h : e.owner? ≠ some id) : e.answer? id = none := by
  cases e <;> simp_all [owner?, answer?]

/-- The worker does not act for anybody. -/
theorem LaneEvent.owner?_of_isWork (h : e.isWork = true) : e.owner? = none := by
  cases e <;> first | rfl | cases h

def LaneThreads.HasHandle (s : LaneThreads ω α) (id : Nat) : Prop :=
  (s.lane.mailbox? id).isSome = true

theorem LaneThreads.HasHandle.exists (h : s.HasHandle id) :
    ∃ box, s.lane.mailbox? id = some box :=
  Option.isSome_iff_exists.1 h

/-- Others do not take a handle away. -/
theorem LaneStep.hasHandle (h : LaneStep s e t) (he : e.owner? ≠ some id) (hs : s.HasHandle id) :
    t.HasHandle id := by
  unfold LaneThreads.HasHandle at hs ⊢
  have hbox := h.box id
  generalize s.lane.mailbox? id = before at hs hbox
  generalize t.lane.mailbox? id = after at hbox ⊢
  cases hbox with
  | send hid => exact absurd (by simp [LaneEvent.owner?, hid]) he
  | poll | held | wait | discard => exact absurd rfl he
  | finish => simpa using hs
  | other => exact hs

/-- Others do not send or refuse the task of a submission. -/
theorem LaneStep.mem_issued (h : LaneStep s e t) (he : e.owner? ≠ some job.id)
    (hs : job ∈ s.issued) : job ∈ t.issued := by
  have hsub := h.submissions
  change job ∈ t.submissions.issued
  change job ∈ s.submissions.issued at hs
  generalize s.submissions = before at hs hsub
  generalize t.submissions = after at hsub ⊢
  cases hsub with
  | issue => exact List.mem_append_left _ hs
  | @send other | @refuse other =>
      have hne : job.id ≠ other.id := fun heq => he (congrArg some heq.symm)
      exact List.mem_filter.2 ⟨hs, by simpa using hne⟩
  | countSubmitted | other => exact hs

/-- Others do not count the task of a submission. -/
theorem LaneStep.mem_uncounted (h : LaneStep s e t) (he : e.owner? ≠ some id)
    (hs : id ∈ s.uncounted) : id ∈ t.uncounted := by
  have hsub := h.submissions
  change id ∈ t.submissions.uncounted
  change id ∈ s.submissions.uncounted at hs
  generalize s.submissions = before at hs hsub
  generalize t.submissions = after at hsub ⊢
  cases hsub with
  | send => exact List.mem_append_left _ hs
  | @countSubmitted other =>
      have hne : id ≠ other := fun heq => he (congrArg some heq.symm)
      exact (List.mem_erase_of_ne hne).2 hs
  | issue | refuse | other => exact hs

/-- The handle of a task that was sent now is there. -/
theorem LaneStep.hasHandle_of_send (h : LaneStep s (.send job) t) :
    t.HasHandle job.id ∧ job.id ∈ t.uncounted := by
  cases h with
  | send _ haccepted =>
      refine ⟨?_, List.mem_append_right _ (List.mem_singleton_self _)⟩
      unfold LaneThreads.HasHandle
      dsimp only
      rw [Lane.mailbox?_of_send haccepted, if_pos rfl]
      cases s.lane.mailbox? job.id <;> rfl

theorem LaneStep.hasHandle_of_poll {answer : Option (Except EngineError α)}
    (h : LaneStep s (.poll id answer) t) : t.HasHandle id := by
  cases h with
  | poll hbox =>
      unfold LaneThreads.HasHandle
      dsimp only
      rw [Lane.mailbox?_poll hbox, if_pos rfl]
      rfl
  | pollHeld _ hbox => exact Option.isSome_iff_exists.2 ⟨_, hbox⟩

/-- A task that was not sent yet has no answers. -/
theorem answers_of_issued (h : Run LaneStep {} es s) (hjob : job ∈ s.issued) :
    answers job.id es = [] := by
  rcases (handleFits h job.id).answers with hnone | ⟨other, ending, _, hfinish, hid, -, -⟩
  · exact hnone
  · obtain ⟨done, hdone⟩ := runsInOrder h
    exact absurd hid ((submissionsFit h).sent_issued other (hdone.sent_of_finish hfinish) job hjob)

/-- A poll finds nothing, or how the task has ended. -/
theorem outcome_of_poll (h : Run LaneStep {} es s) (hjob : job ∈ sent es)
    (hsilent : answers job.id es = []) {answer : Option (Except EngineError α)}
    (hstep : LaneStep s (.poll job.id answer) t) :
    answer = none ∨
      ∃ ending, .finish job ending ∈ es ∧ answer = some (Mailbox.received ending.outcome) := by
  generalize hkey : job.id = key at hstep
  cases hstep with
  | @poll _ box hbox =>
      subst hkey
      have hfits := (handleFits h job.id).box
      rw [hbox] at hfits
      rw [Lane.poll_eq hbox]
      cases box with
      | pending => exact .inl rfl
      | ready outcome =>
          obtain ⟨-, other, ending, hfinish, hid, rfl⟩ := hfits
          obtain ⟨done, hdone⟩ := runsInOrder h
          have hsame : other = job :=
            List.inj_on_of_nodup_map (submissionsFit h).sent_nodup (hdone.sent_of_finish hfinish)
              hjob hid
          exact .inr ⟨ending, hsame ▸ hfinish, rfl⟩
      | spent => exact absurd hsilent hfits
  | pollHeld => exact .inl rfl

end Owner

end RuleEngine
