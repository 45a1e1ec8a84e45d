import RuleEngine.Proofs.Lane.Threads

set_option autoImplicit false

/-! # The parts of a lane

Most events concern only a part of what `LaneThreads` holds. Here the parts are machines of their
own: the worker with its queue (`WorkStep`), the submissions (`SubmissionStep`), the box of one
handle (`BoxStep`) and the calls that wait (`WaitStep`). An event of the whole is one of every part,
so that what is kept by the steps of a part is kept at the lane.
-/

namespace RuleEngine

variable {ω α : Type}

/-! ## The worker and its queue -/

/-- The part of a lane that the worker has to do with. -/
structure LaneWork (ω α : Type) where
  accepting : Bool := true
  worker : LaneWorker ω α := .idle
  queue : List (LaneJob ω) := []
  completed : Nat := 0
  failed : Nat := 0
  reports : List LaneReport := []

def Lane.work (l : Lane ω α) : LaneWork ω α :=
  ⟨l.accepting, l.worker, l.queue, l.completed, l.failed, l.reports⟩

/-- What an event means for the worker and its queue. -/
inductive WorkStep : LaneWork ω α → LaneEvent ω α → LaneWork ω α → Prop
  | send {w : LaneWork ω α} {job : LaneJob ω} :
      w.accepting = true → WorkStep w (.send job) { w with queue := w.queue ++ [job] }
  | close {w : LaneWork ω α} {caller : Option Nat} :
      WorkStep w (.close caller) { w with accepting := false }
  | start {w : LaneWork ω α} {job : LaneJob ω} {rest : List (LaneJob ω)} :
      w.worker = .idle → w.queue = job :: rest →
      WorkStep w (.start job) { w with worker := .running job, queue := rest }
  | finish {w : LaneWork ω α} {job : LaneJob ω} (ending : TaskEnd α) :
      w.worker = .running job →
      WorkStep w (.finish job ending) { w with worker := .delivered job ending }
  | count {w : LaneWork ω α} {job : LaneJob ω} {ending : TaskEnd α} :
      w.worker = .delivered job ending →
      WorkStep w (.count job)
        { w with
          worker := .counted job ending
          completed := w.completed + 1
          failed := w.failed + if ending.error?.isSome then 1 else 0 }
  | report {w : LaneWork ω α} {job : LaneJob ω} {ending : TaskEnd α} (hook : HookEnd) :
      w.worker = .counted job ending →
      WorkStep w (.report (.of job ending) hook)
        { w with worker := .idle, reports := w.reports ++ [.of job ending] }
  | exit {w : LaneWork ω α} :
      w.worker = .idle → w.queue = [] → w.accepting = false →
      WorkStep w .exit { w with worker := .gone }
  | other {w : LaneWork ω α} {e : LaneEvent ω α} :
      e.isWork = false → e.isClose = false → e.sent? = none → WorkStep w e w

theorem LaneStep.work {s t : LaneThreads ω α} {e : LaneEvent ω α} (h : LaneStep s e t) :
    WorkStep s.lane.work e t.lane.work := by
  cases h with
  | send _ haccepted =>
      obtain ⟨hopen, rfl⟩ := Lane.send_eq_true_iff.mp haccepted
      exact .send hopen
  | refuse _ hrefused =>
      obtain ⟨-, rfl⟩ := Lane.send_eq_false_iff.mp hrefused
      exact .other rfl rfl rfl
  | start hworker hqueue =>
      rw [Lane.start_eq hworker hqueue]
      exact .start hworker hqueue
  | finish ending hworker =>
      rw [Lane.deliver_eq hworker]
      exact .finish ending hworker
  | count hworker =>
      rw [Lane.count_eq hworker]
      exact .count hworker
  | report hook hworker =>
      rw [Lane.report_eq hworker]
      exact .report hook hworker
  | exit hworker hqueue hclosed =>
      rw [Lane.exit_eq hworker hqueue hclosed]
      exact .exit hworker hqueue hclosed
  | close => exact .close
  | closeToWait => exact .close
  | poll hbox =>
      rw [Lane.poll_eq hbox]
      exact .other rfl rfl rfl
  | wait hwait =>
      obtain ⟨_, -, -, rfl⟩ := Lane.wait?_eq_some_iff.mp hwait
      exact .other rfl rfl rfl
  | _ => exact .other rfl rfl rfl

theorem WorkStep.accepting_eq {w w' : LaneWork ω α} {e : LaneEvent ω α} (h : WorkStep w e w') :
    w'.accepting = (w.accepting && !e.isClose) := by
  cases h with
  | other _ hclose => simp [hclose]
  | _ => simp [LaneEvent.isClose]

/-- A lane takes tasks until it is closed. -/
theorem accepting_iff {es : List (LaneEvent ω α)} {s : LaneThreads ω α}
    (h : Run LaneStep {} es s) : s.lane.accepting = !es.any LaneEvent.isClose := by
  induction h with
  | nil => rfl
  | snoc _ hstep ih =>
      have hnext := hstep.work.accepting_eq
      simp only [Lane.work] at hnext
      simp [hnext, ih]

/-! ## The submissions and the calls that wait -/

/-- The part of a lane that submissions have to do with. -/
structure Submissions (ω : Type) where
  next : Nat := 1
  issued : List (LaneJob ω) := []
  submitted : Nat := 0
  uncounted : List Nat := []

def LaneThreads.submissions (s : LaneThreads ω α) : Submissions ω :=
  ⟨s.lane.nextId, s.issued, s.lane.submitted, s.uncounted⟩

/-- What an event means for the submissions. -/
inductive SubmissionStep : Submissions ω → LaneEvent ω α → Submissions ω → Prop
  | issue {b : Submissions ω} (label : String) (work : ω) :
      SubmissionStep b (.issue ⟨b.next, label, work⟩)
        { b with next := b.next + 1, issued := b.issued ++ [⟨b.next, label, work⟩] }
  | send {b : Submissions ω} {job : LaneJob ω} :
      job ∈ b.issued →
      SubmissionStep b (.send job)
        { b with
          issued := b.issued.filter fun other => other.id != job.id
          uncounted := b.uncounted ++ [job.id] }
  | refuse {b : Submissions ω} {job : LaneJob ω} :
      job ∈ b.issued →
      SubmissionStep b (.refuse job)
        { b with issued := b.issued.filter fun other => other.id != job.id }
  | countSubmitted {b : Submissions ω} {id : Nat} :
      id ∈ b.uncounted →
      SubmissionStep b (.countSubmitted id)
        { b with submitted := b.submitted + 1, uncounted := b.uncounted.erase id }
  | other {b : Submissions ω} {e : LaneEvent ω α} :
      e.sent? = none → e.refused? = none → SubmissionStep b e b

/-- The part of a lane that waiting calls have to do with. -/
structure Waiting where
  joinable : Bool := true
  waits : Nat → WaitStage := fun _ => .absent

def LaneThreads.waiting (s : LaneThreads ω α) : Waiting := ⟨s.lane.joinable, s.waits⟩

inductive WaitStep : Waiting → LaneEvent ω α → Waiting → Prop
  | close {w : Waiting} {caller : Nat} :
      w.waits caller = .absent →
      WaitStep w (.close (some caller))
        { w with waits := Function.update w.waits caller .asking }
  | ask {w : Waiting} {caller : Nat} {own : Bool} :
      w.waits caller = .asking →
      WaitStep w (.ask caller own)
        { joinable := false
          waits := Function.update w.waits caller
            (if w.joinable && !own then .joining else .returned) }
  | join {w : Waiting} {caller : Nat} :
      w.waits caller = .joining →
      WaitStep w (.join caller) { w with waits := Function.update w.waits caller .returned }
  | other {w : Waiting} {e : LaneEvent ω α} : e.caller? = none → WaitStep w e w

/-- What the worker and the owners of handles do leaves the calls as they are. -/
theorem LaneStep.calls_eq {s t : LaneThreads ω α} {e : LaneEvent ω α} (h : LaneStep s e t)
    (he : e.isCall = false) : t.submissions = s.submissions ∧ t.waiting = s.waiting := by
  cases h with
  | start hworker hqueue =>
      rw [Lane.start_eq hworker hqueue]
      exact ⟨rfl, rfl⟩
  | finish _ hworker =>
      rw [Lane.deliver_eq hworker]
      exact ⟨rfl, rfl⟩
  | count hworker =>
      rw [Lane.count_eq hworker]
      exact ⟨rfl, rfl⟩
  | report _ hworker =>
      rw [Lane.report_eq hworker]
      exact ⟨rfl, rfl⟩
  | exit hworker hqueue hclosed =>
      rw [Lane.exit_eq hworker hqueue hclosed]
      exact ⟨rfl, rfl⟩
  | poll hbox =>
      rw [Lane.poll_eq hbox]
      exact ⟨rfl, rfl⟩
  | wait hwait =>
      obtain ⟨_, -, -, rfl⟩ := Lane.wait?_eq_some_iff.mp hwait
      exact ⟨rfl, rfl⟩
  | pollHeld | discard => exact ⟨rfl, rfl⟩
  | _ => simp [LaneEvent.isCall] at he

theorem LaneStep.submissions {s t : LaneThreads ω α} {e : LaneEvent ω α} (h : LaneStep s e t) :
    SubmissionStep s.submissions e t.submissions := by
  by_cases hcall : e.isCall = true
  · cases h with
    | issue label work => exact .issue label work
    | send hjob haccepted =>
        obtain ⟨-, rfl⟩ := Lane.send_eq_true_iff.mp haccepted
        exact .send hjob
    | refuse hjob hrefused =>
        obtain ⟨-, rfl⟩ := Lane.send_eq_false_iff.mp hrefused
        exact .refuse hjob
    | countSubmitted hid => exact .countSubmitted hid
    | close | closeToWait | ask | join => exact .other rfl rfl
    | _ => simp [LaneEvent.isCall] at hcall
  · obtain ⟨hsent, hrefused, -⟩ := LaneEvent.eq_none_of_isCall (by simpa using hcall)
    rw [(h.calls_eq (by simpa using hcall)).1]
    exact .other hsent hrefused

theorem LaneStep.waiting {s t : LaneThreads ω α} {e : LaneEvent ω α} (h : LaneStep s e t) :
    WaitStep s.waiting e t.waiting := by
  by_cases hcall : e.isCall = true
  · cases h with
    | send _ haccepted =>
        obtain ⟨-, rfl⟩ := Lane.send_eq_true_iff.mp haccepted
        exact .other rfl
    | refuse _ hrefused =>
        obtain ⟨-, rfl⟩ := Lane.send_eq_false_iff.mp hrefused
        exact .other rfl
    | issue | countSubmitted | close => exact .other rfl
    | closeToWait caller habsent => exact .close habsent
    | ask caller own hasking => exact .ask hasking
    | join caller hjoining => exact .join hjoining
    | _ => simp [LaneEvent.isCall] at hcall
  · obtain ⟨-, -, hcaller⟩ := LaneEvent.eq_none_of_isCall (by simpa using hcall)
    rw [(h.calls_eq (by simpa using hcall)).2]
    exact .other hcaller

/-! ## The box of one handle -/

theorem Mailbox.lookup_cons (e : Nat × Mailbox α) (boxes : List (Nat × Mailbox α)) (id : Nat) :
    (e :: boxes).lookup id = if id = e.1 then some e.2 else boxes.lookup id := by
  rw [List.lookup_cons]
  by_cases hid : id = e.1
  · simp [hid]
  · have hbeq : (id == e.1) = false := by simpa using hid
    simp [hbeq, hid]

/-- Changing what stands under one number changes what is found under it. -/
theorem Mailbox.lookup_map {f : Nat × Mailbox α → Nat × Mailbox α} {g : Mailbox α → Mailbox α}
    {key : Nat} (hf : ∀ e, f e = if e.1 = key then (key, g e.2) else e)
    (boxes : List (Nat × Mailbox α)) (id : Nat) :
    (boxes.map f).lookup id = if id = key then (boxes.lookup id).map g else boxes.lookup id := by
  induction boxes with
  | nil => simp
  | cons e boxes ih =>
      rw [List.map_cons, lookup_cons, ih, hf, lookup_cons]
      by_cases hkey : e.1 = key <;> by_cases hid : id = key <;> by_cases he : id = e.1 <;>
        simp_all

theorem Mailbox.lookup_filter (boxes : List (Nat × Mailbox α)) (key id : Nat) :
    (boxes.filter fun e => e.1 != key).lookup id = if id = key then none else boxes.lookup id := by
  induction boxes with
  | nil => simp
  | cons e boxes ih =>
      by_cases hkey : e.1 = key
      · have hdrop : (e.1 != key) = false := by simpa using hkey
        rw [List.filter_cons_of_neg (by simp [hdrop]), ih, lookup_cons, hkey]
        by_cases hid : id = key <;> simp [hid]
      · have hkeep : (e.1 != key) = true := by simpa using hkey
        rw [List.filter_cons_of_pos (by simp [hkeep]), lookup_cons, ih, lookup_cons]
        by_cases he : id = e.1
        · simp [he, hkey]
        · simp [he]

namespace Lane

variable {l l' : Lane ω α} {job : LaneJob ω} {key : Nat} {box : Mailbox α}

theorem mailbox?_of_send (h : l.send job = (true, l')) (id : Nat) :
    l'.mailbox? id = if id = job.id then (l.mailbox? id).or (some .pending) else l.mailbox? id := by
  obtain ⟨-, rfl⟩ := send_eq_true_iff.mp h
  unfold mailbox?
  rw [List.lookup_append, Mailbox.lookup_cons]
  by_cases hid : id = job.id <;> simp [hid]

theorem mailbox?_deliver {ending : TaskEnd α} (hworker : l.worker = .running job) (id : Nat) :
    (l.deliver ending).mailbox? id =
      if id = job.id then (l.mailbox? id).map (Mailbox.deliver ending.outcome)
      else l.mailbox? id := by
  rw [deliver_eq hworker]
  refine Mailbox.lookup_map ?_ l.mailboxes id
  rintro ⟨i, box⟩
  by_cases hi : i = job.id <;> simp [hi]

theorem mailbox?_poll (hbox : l.mailbox? key = some box) (id : Nat) :
    (l.poll key).2.mailbox? id = if id = key then some (box.poll key).2 else l.mailbox? id := by
  rw [poll_eq hbox]
  have hmap := Mailbox.lookup_map (g := fun _ => (box.poll key).2)
    (f := fun e => if e.1 = key then (key, (box.poll key).2) else e) (fun _ => rfl) l.mailboxes id
  unfold mailbox? at hbox ⊢
  rw [hmap]
  by_cases hid : id = key
  · simp [hid, hbox]
  · simp [hid]

theorem mailbox?_discard (l : Lane ω α) (key id : Nat) :
    (l.discard key).mailbox? id = if id = key then none else l.mailbox? id :=
  Mailbox.lookup_filter l.mailboxes key id

end Lane

inductive BoxStep (id : Nat) :
    Option (Mailbox α) → LaneEvent ω α → Option (Mailbox α) → Prop
  | send {box : Option (Mailbox α)} {job : LaneJob ω} :
      job.id = id → BoxStep id box (.send job) (box.or (some .pending))
  | finish {box : Option (Mailbox α)} {job : LaneJob ω} {ending : TaskEnd α} :
      job.id = id →
      BoxStep id box (.finish job ending) (box.map (Mailbox.deliver ending.outcome))
  | poll {box : Mailbox α} : BoxStep id (some box) (.poll id (box.poll id).1) (some (box.poll id).2)
  | held : BoxStep id (some .spent) (.poll id none) (some .spent)
  | wait {box : Mailbox α} {answer : Except EngineError α} :
      box.wait? id = some answer → BoxStep id (some box) (.wait id answer) none
  | discard {box : Mailbox α} : BoxStep id (some box) (.discard id) none
  | other {box : Option (Mailbox α)} {e : LaneEvent ω α} :
      e.handle? ≠ some id → BoxStep id box e box

theorem LaneStep.box {s t : LaneThreads ω α} {e : LaneEvent ω α} (h : LaneStep s e t) (id : Nat) :
    BoxStep id (s.lane.mailbox? id) e (t.lane.mailbox? id) := by
  have hnone : (none : Option Nat) ≠ some id := (Option.some_ne_none id).symm
  cases h with
  | @send job _ _ haccepted =>
      rw [Lane.mailbox?_of_send haccepted]
      by_cases hid : id = job.id
      · rw [if_pos hid]
        exact .send hid.symm
      · rw [if_neg hid]
        exact .other (by simpa [LaneEvent.handle?, eq_comm] using hid)
  | refuse _ hrefused =>
      obtain ⟨-, rfl⟩ := Lane.send_eq_false_iff.mp hrefused
      exact .other hnone
  | start hworker hqueue =>
      rw [Lane.start_eq hworker hqueue]
      exact .other hnone
  | @finish job ending hworker =>
      rw [Lane.mailbox?_deliver hworker]
      by_cases hid : id = job.id
      · rw [if_pos hid]
        exact .finish hid.symm
      · rw [if_neg hid]
        exact .other (by simpa [LaneEvent.handle?, eq_comm] using hid)
  | count hworker =>
      rw [Lane.count_eq hworker]
      exact .other hnone
  | report _ hworker =>
      rw [Lane.report_eq hworker]
      exact .other hnone
  | exit hworker hqueue hclosed =>
      rw [Lane.exit_eq hworker hqueue hclosed]
      exact .other hnone
  | @poll key box hbox =>
      rw [Lane.mailbox?_poll hbox]
      by_cases hid : id = key
      · subst hid
        rw [if_pos rfl, hbox, Lane.poll_eq hbox]
        exact .poll
      · rw [if_neg hid]
        exact .other (by simpa [LaneEvent.handle?, eq_comm] using hid)
  | @pollHeld job _ _ hbox =>
      by_cases hid : id = job.id
      · rw [hid, hbox]
        exact .held
      · exact .other (by simpa [LaneEvent.handle?, eq_comm] using hid)
  | @wait key answer _ hwait =>
      obtain ⟨box, hbox, hanswer, rfl⟩ := Lane.wait?_eq_some_iff.mp hwait
      rw [Lane.mailbox?_discard]
      by_cases hid : id = key
      · subst hid
        rw [if_pos rfl, hbox]
        exact .wait hanswer
      · rw [if_neg hid]
        exact .other (by simpa [LaneEvent.handle?, eq_comm] using hid)
  | @discard key box hbox =>
      rw [Lane.mailbox?_discard]
      by_cases hid : id = key
      · subst hid
        rw [if_pos rfl, hbox]
        exact .discard
      · rw [if_neg hid]
        exact .other (by simpa [LaneEvent.handle?, eq_comm] using hid)
  | _ => exact .other hnone

end RuleEngine
