import Mathlib.Logic.Function.Basic
import RuleEngine.Lane.Basic
import RuleEngine.Proofs.Interleaving

set_option autoImplicit false

/-! # Threads at a lane

A lane is used by any number of threads. Some submit tasks, some shut the lane down, some hold
handles of tasks; the worker is one more thread, and a task or the receiver of a report may do on
the worker's thread whatever the others do. All of them take turns in the steps of `Lane`. What a
thread has begun and not brought to an end stands beside the lane in `LaneThreads`, and `LaneStep`
says which event is possible when, and what becomes of it.
-/

namespace RuleEngine

/-- How far a call has come that shuts the lane down and waits. -/
inductive WaitStage
  | absent
  /-- The lane takes no more tasks; the call has not asked for the worker. -/
  | asking
  /-- The call has got the worker, and waits for its end. -/
  | joining
  | returned
deriving DecidableEq, Inhabited

/-- How the receiver of a report comes to its end. -/
inductive HookEnd
  | returned
  | panicked (message : String)
deriving DecidableEq, Inhabited

/-- What can happen at a lane. -/
inductive LaneEvent (ω α : Type)
  /-- A submission takes a number. -/
  | issue (job : LaneJob ω)
  /-- A submission has the sender, and sends its task. -/
  | send (job : LaneJob ω)
  /-- A submission finds no sender, and returns with the error of a closed lane. -/
  | refuse (job : LaneJob ω)
  /-- A submission counts its task, and returns with the handle. -/
  | countSubmitted (id : Nat)
  /-- The worker begins a task. -/
  | start (job : LaneJob ω)
  /-- The task in hand ends, and its handle gets the outcome. -/
  | finish (job : LaneJob ω) (ending : TaskEnd α)
  /-- The worker counts the task in hand. -/
  | count (job : LaneJob ω)
  /-- The worker calls the receiver of reports. -/
  | report (report : LaneReport) (hook : HookEnd)
  /-- The worker leaves. -/
  | exit
  /-- A shutdown takes the sender. It belongs to a waiting call, or to one that returns now, as the one
  that is made when the lane is given up. -/
  | close (caller : Option Nat)
  /-- A waiting call asks for the worker, on the worker's own thread or on another one. -/
  | ask (caller : Nat) (own : Bool)
  /-- A waiting call sees the end of the worker, and returns. -/
  | join (caller : Nat)
  /-- The owner of a handle looks for the outcome. -/
  | poll (id : Nat) (answer : Option (Except EngineError α))
  /-- The owner of a handle has waited for the outcome, and the handle is used up. -/
  | wait (id : Nat) (answer : Except EngineError α)
  /-- The owner of a handle gives it up. -/
  | discard (id : Nat)

/-- A lane and the calls that are under way at it. -/
structure LaneThreads (ω α : Type) where
  lane : Lane ω α := {}
  /-- The tasks of submissions that have a number and were not at the sender yet. -/
  issued : List (LaneJob ω) := []
  /-- The numbers of the tasks that were sent and not counted yet. -/
  uncounted : List Nat := []
  /-- The calls that shut the lane down and wait. -/
  waits : Nat → WaitStage := fun _ => .absent

/-- What one event makes of the threads at a lane. -/
inductive LaneStep {ω α : Type} : LaneThreads ω α → LaneEvent ω α → LaneThreads ω α → Prop
  | issue {s : LaneThreads ω α} (label : String) (work : ω) :
      LaneStep s (.issue ⟨s.lane.issueId.1, label, work⟩)
        { s with
          lane := s.lane.issueId.2
          issued := s.issued ++ [⟨s.lane.issueId.1, label, work⟩] }
  | send {s : LaneThreads ω α} {job : LaneJob ω} {lane : Lane ω α} :
      job ∈ s.issued → s.lane.send job = (true, lane) →
      LaneStep s (.send job)
        { s with
          lane := lane
          issued := s.issued.filter fun other => other.id != job.id
          uncounted := s.uncounted ++ [job.id] }
  | refuse {s : LaneThreads ω α} {job : LaneJob ω} {lane : Lane ω α} :
      job ∈ s.issued → s.lane.send job = (false, lane) →
      LaneStep s (.refuse job)
        { s with
          lane := lane
          issued := s.issued.filter fun other => other.id != job.id }
  | countSubmitted {s : LaneThreads ω α} {id : Nat} :
      id ∈ s.uncounted →
      LaneStep s (.countSubmitted id)
        { s with lane := s.lane.countSubmitted, uncounted := s.uncounted.erase id }
  | start {s : LaneThreads ω α} {job : LaneJob ω} {rest : List (LaneJob ω)} :
      s.lane.worker = .idle → s.lane.queue = job :: rest →
      LaneStep s (.start job) { s with lane := s.lane.start }
  | finish {s : LaneThreads ω α} {job : LaneJob ω} (ending : TaskEnd α) :
      s.lane.worker = .running job →
      LaneStep s (.finish job ending) { s with lane := s.lane.deliver ending }
  | count {s : LaneThreads ω α} {job : LaneJob ω} {ending : TaskEnd α} :
      s.lane.worker = .delivered job ending →
      LaneStep s (.count job) { s with lane := s.lane.count }
  | report {s : LaneThreads ω α} {job : LaneJob ω} {ending : TaskEnd α} (hook : HookEnd) :
      s.lane.worker = .counted job ending →
      LaneStep s (.report (.of job ending) hook) { s with lane := s.lane.report }
  | exit {s : LaneThreads ω α} :
      s.lane.worker = .idle → s.lane.queue = [] → s.lane.accepting = false →
      LaneStep s .exit { s with lane := s.lane.exit }
  | close {s : LaneThreads ω α} :
      LaneStep s (.close none) { s with lane := s.lane.close }
  | closeToWait {s : LaneThreads ω α} (caller : Nat) :
      s.waits caller = .absent →
      LaneStep s (.close (some caller))
        { s with lane := s.lane.close, waits := Function.update s.waits caller .asking }
  | ask {s : LaneThreads ω α} (caller : Nat) (own : Bool) :
      s.waits caller = .asking →
      LaneStep s (.ask caller own)
        { s with
          lane := s.lane.takeWorker.2
          waits := Function.update s.waits caller
            (if s.lane.takeWorker.1 && !own then .joining else .returned) }
  | join {s : LaneThreads ω α} (caller : Nat) :
      s.waits caller = .joining → s.lane.worker = .gone →
      LaneStep s (.join caller) { s with waits := Function.update s.waits caller .returned }
  | poll {s : LaneThreads ω α} {id : Nat} {box : Mailbox α} :
      s.lane.mailbox? id = some box →
      LaneStep s (.poll id (s.lane.poll id).1) { s with lane := (s.lane.poll id).2 }
  /-- The outcome was taken, and the worker has not let go of the task yet: there is nothing to see. -/
  | pollHeld {s : LaneThreads ω α} {job : LaneJob ω} {ending : TaskEnd α} :
      s.lane.worker = .delivered job ending → s.lane.mailbox? job.id = some .spent →
      LaneStep s (.poll job.id none) s
  | wait {s : LaneThreads ω α} {id : Nat} {answer : Except EngineError α} {lane : Lane ω α} :
      s.lane.wait? id = some (answer, lane) →
      LaneStep s (.wait id answer) { s with lane := lane }
  | discard {s : LaneThreads ω α} {id : Nat} {box : Mailbox α} :
      s.lane.mailbox? id = some box →
      LaneStep s (.discard id) { s with lane := s.lane.discard id }

variable {ω α : Type}

/-! ## What a row of events tells -/

namespace LaneEvent

/-- The task that was accepted. -/
def sent? : LaneEvent ω α → Option (LaneJob ω)
  | .send job => some job
  | _ => none

def refused? : LaneEvent ω α → Option (LaneJob ω)
  | .refuse job => some job
  | _ => none

/-- The lane takes no more tasks from now on. -/
def isClose : LaneEvent ω α → Bool
  | .close _ => true
  | _ => false

/-- A task begins or ends, or it is reported. -/
def isTask : LaneEvent ω α → Bool
  | .start _ | .finish _ _ | .report _ _ => true
  | _ => false

/-- A task ends with an error or a panic. -/
def isFailure : LaneEvent ω α → Bool
  | .finish _ ending => ending.error?.isSome
  | _ => false

/-- The worker does something. -/
def isWork : LaneEvent ω α → Bool
  | .start _ | .finish _ _ | .count _ | .report _ _ | .exit => true
  | _ => false

/-- A submission or a shutdown goes on. -/
def isCall : LaneEvent ω α → Bool
  | .issue _ | .send _ | .refuse _ | .countSubmitted _ | .close _ | .ask _ _ | .join _ => true
  | _ => false

/-- What the owner of a handle gets to know. -/
def answer? (id : Nat) : LaneEvent ω α → Option (Except EngineError α)
  | .poll i answer => if i = id then answer else none
  | .wait i answer => if i = id then some answer else none
  | _ => none

/-- The number of the handle that the event is about. -/
def handle? : LaneEvent ω α → Option Nat
  | .send job | .finish job _ => some job.id
  | .poll id _ | .wait id _ | .discard id => some id
  | _ => none

/-- The number of the waiting call that goes on. -/
def caller? : LaneEvent ω α → Option Nat
  | .close caller => caller
  | .ask caller _ | .join caller => some caller
  | _ => none

/-- The number of the waiting call that asks for the worker, and whether it runs on the worker's own
thread. -/
def asked? : LaneEvent ω α → Option (Nat × Bool)
  | .ask caller own => some (caller, own)
  | _ => none

theorem sent?_eq_some_iff {e : LaneEvent ω α} {job : LaneJob ω} :
    e.sent? = some job ↔ e = .send job := by
  cases e <;> simp [sent?]

theorem eq_none_of_isCall {e : LaneEvent ω α} (h : e.isCall = false) :
    e.sent? = none ∧ e.refused? = none ∧ e.caller? = none := by
  cases e <;> simp_all [isCall, sent?, refused?, caller?]

theorem isTask_eq_false {e : LaneEvent ω α} (h : e.isWork = false) : e.isTask = false := by
  cases e <;> simp_all [isWork, isTask]

theorem isFailure_eq_false {e : LaneEvent ω α} (h : e.isWork = false) : e.isFailure = false := by
  cases e <;> simp_all [isWork, isFailure]

theorem asked?_eq_none {e : LaneEvent ω α} (h : e.caller? = none) : e.asked? = none := by
  cases e <;> simp_all [caller?, asked?]

theorem answer?_eq_none {id : Nat} {e : LaneEvent ω α} (h : e.handle? ≠ some id) :
    e.answer? id = none := by
  cases e <;> simp_all [handle?, answer?]

end LaneEvent

/-- The accepted tasks, in the order in which they were sent. -/
def sent (es : List (LaneEvent ω α)) : List (LaneJob ω) := es.filterMap LaneEvent.sent?

def refused (es : List (LaneEvent ω α)) : List (LaneJob ω) := es.filterMap LaneEvent.refused?

/-- The beginnings, ends and reports of tasks. -/
def taskEvents (es : List (LaneEvent ω α)) : List (LaneEvent ω α) := es.filter LaneEvent.isTask

/-- What the owner of a handle got to know. -/
def answers (id : Nat) (es : List (LaneEvent ω α)) : List (Except EngineError α) :=
  es.filterMap (LaneEvent.answer? id)

/-- The waiting calls, in the order in which they asked for the worker. -/
def asked (es : List (LaneEvent ω α)) : List (Nat × Bool) := es.filterMap LaneEvent.asked?

@[simp] theorem sent_snoc (es : List (LaneEvent ω α)) (e : LaneEvent ω α) :
    sent (es ++ [e]) = sent es ++ e.sent?.toList := by
  cases e <;> simp [sent, LaneEvent.sent?]

@[simp] theorem refused_snoc (es : List (LaneEvent ω α)) (e : LaneEvent ω α) :
    refused (es ++ [e]) = refused es ++ e.refused?.toList := by
  cases e <;> simp [refused, LaneEvent.refused?]

@[simp] theorem taskEvents_snoc (es : List (LaneEvent ω α)) (e : LaneEvent ω α) :
    taskEvents (es ++ [e]) = taskEvents es ++ if e.isTask then [e] else [] := by
  by_cases he : e.isTask = true <;> simp [taskEvents, he]

@[simp] theorem answers_snoc (id : Nat) (es : List (LaneEvent ω α)) (e : LaneEvent ω α) :
    answers id (es ++ [e]) = answers id es ++ (e.answer? id).toList := by
  cases h : e.answer? id <;> simp [answers, h]

@[simp] theorem asked_snoc (es : List (LaneEvent ω α)) (e : LaneEvent ω α) :
    asked (es ++ [e]) = asked es ++ e.asked?.toList := by
  cases e <;> simp [asked, LaneEvent.asked?]

/-! ## The steps of the lane, where they are possible -/

namespace Lane

variable {l l' : Lane ω α} {job : LaneJob ω} {rest : List (LaneJob ω)} {ending : TaskEnd α}
  {id : Nat} {box : Mailbox α} {answer : Except EngineError α}

theorem send_eq_true_iff : l.send job = (true, l') ↔
    l.accepting = true ∧
      l' = { l with
        queue := l.queue ++ [job], mailboxes := l.mailboxes ++ [(job.id, .pending)] } := by
  cases h : l.accepting <;> simp [send, h, eq_comm]

theorem send_eq_false_iff : l.send job = (false, l') ↔ l.accepting = false ∧ l' = l := by
  cases h : l.accepting <;> simp [send, h, eq_comm]

theorem start_eq (hworker : l.worker = .idle) (hqueue : l.queue = job :: rest) :
    l.start = { l with queue := rest, worker := .running job } := by
  simp [start, hworker, hqueue]

theorem deliver_eq (hworker : l.worker = .running job) :
    l.deliver ending = { l with
      worker := .delivered job ending, mailboxes := fill job.id ending.outcome l.mailboxes } := by
  simp [deliver, hworker]

theorem count_eq (hworker : l.worker = .delivered job ending) :
    l.count = { l with
      worker := .counted job ending, completed := l.completed + 1
      failed := l.failed + if ending.error?.isSome then 1 else 0 } := by
  simp [count, hworker]

theorem report_eq (hworker : l.worker = .counted job ending) :
    l.report = { l with worker := .idle, reports := l.reports ++ [.of job ending] } := by
  simp [report, hworker]

theorem exit_eq (hworker : l.worker = .idle) (hqueue : l.queue = [])
    (hclosed : l.accepting = false) : l.exit = { l with worker := .gone } := by
  simp [exit, hworker, hqueue, hclosed]

theorem poll_eq (hbox : l.mailbox? id = some box) :
    l.poll id = ((box.poll id).1, { l with
      mailboxes := l.mailboxes.map fun e => if e.1 = id then (id, (box.poll id).2) else e }) := by
  simp [poll, hbox]

theorem wait?_eq_some_iff : l.wait? id = some (answer, l') ↔
    ∃ box, l.mailbox? id = some box ∧ box.wait? id = some answer ∧ l' = l.discard id := by
  cases h : l.mailbox? id with
  | none => simp [wait?, h]
  | some box => cases hanswer : box.wait? id <;> simp [wait?, h, hanswer, eq_comm]

end Lane

/-! ## Calls that nothing interrupts -/

namespace LaneThreads

variable (s : LaneThreads ω α)

/-- A submission to an open lane. -/
theorem submit_run_open (label : String) (work : ω) (hopen : s.lane.accepting = true) :
    ∃ id t, s.lane.submit label work = (.ok id, t.lane) ∧
      Run LaneStep s [.issue ⟨id, label, work⟩, .send ⟨id, label, work⟩, .countSubmitted id] t := by
  have hissue := LaneStep.issue (s := s) label work
  have hsend : s.lane.issueId.2.send ⟨s.lane.nextId, label, work⟩ = (true, _) :=
    Lane.send_eq_true_iff.mpr ⟨hopen, rfl⟩
  refine ⟨s.lane.nextId, _, ?_, ((Run.nil.snoc hissue).snoc (.send ?_ hsend)).snoc
    (.countSubmitted ?_)⟩
  · simp [Lane.submit, Lane.send, Lane.issueId, hopen]
  · simp [Lane.issueId]
  · simp

/-- A submission to a closed lane. -/
theorem submit_run_closed (label : String) (work : ω) (hclosed : s.lane.accepting = false) :
    ∃ t, s.lane.submit label work = (.error .laneClosed, t.lane) ∧
      Run LaneStep s [.issue ⟨s.lane.nextId, label, work⟩, .refuse ⟨s.lane.nextId, label, work⟩]
        t := by
  have hissue := LaneStep.issue (s := s) label work
  have hsend : s.lane.issueId.2.send ⟨s.lane.nextId, label, work⟩ = (false, _) :=
    Lane.send_eq_false_iff.mpr ⟨hclosed, rfl⟩
  refine ⟨_, ?_, (Run.nil.snoc hissue).snoc (.refuse ?_ hsend)⟩
  · simp [Lane.submit, Lane.send, Lane.issueId, hclosed]
  · simp [Lane.issueId]

/-- What the worker does from the end of a task to the next one. -/
theorem finish_run {job : LaneJob ω} (ending : TaskEnd α) (hook : HookEnd)
    (hworker : s.lane.worker = .running job) :
    ∃ t, s.lane.finish ending = t.lane ∧
      Run LaneStep s [.finish job ending, .count job, .report (.of job ending) hook] t := by
  have hdelivered : (s.lane.deliver ending).worker = .delivered job ending := by
    rw [Lane.deliver_eq hworker]
  have hcounted : (s.lane.deliver ending).count.worker = .counted job ending := by
    rw [Lane.count_eq hdelivered]
  exact ⟨_, rfl, ((Run.nil.snoc (.finish ending hworker)).snoc (.count hdelivered)).snoc
    (.report hook hcounted)⟩

/-- A call that shuts the lane down on the worker's own thread. -/
theorem shutdown_run {caller : Nat} (own : Bool) (habsent : s.waits caller = .absent) :
    ∃ t, s.lane.close.takeWorker.2 = t.lane ∧
      Run LaneStep s [.close (some caller), .ask caller own] t :=
  ⟨_, rfl, (Run.nil.snoc (.closeToWait caller habsent)).snoc
    (.ask caller own (Function.update_self ..))⟩

end LaneThreads

end RuleEngine
