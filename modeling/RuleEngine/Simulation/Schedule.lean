import RuleEngine.Simulation.World

set_option autoImplicit false

/-! # The passing of time

Everything that waits has a moment at which it goes on. The clock moves from one such moment to the
next; of several things that go on at one moment the activities come first, in the order in which
they began to wait. Nothing that goes on begins anything new, so the number of activities and lane
tasks bounds the number of steps. -/

namespace RuleEngine

namespace World

/-! ## The lane -/

/-- The recognizer answers the lane task that is being run. -/
def endTask (w : World) (target : String) : World :=
  let r := Reaction.find w.devices.recognizer target
  let w := w.react r
  let before := w.lane.reports.length
  let lane := w.lane.finish r.taskEnd
  ({ w with lane := lane } : World).emitAll ((lane.reports.drop before).flatMap (·.notices))

/-- The lane begins at most `steps` tasks, as long as the recognizer answers at once. -/
def runLaneFor (w : World) : Nat → World
  | 0 => w
  | steps + 1 =>
    match w.lane.worker, w.lane.queue with
    | .idle, job :: _ =>
      let r := Reaction.find w.devices.recognizer job.work
      let w := { w with lane := w.lane.start, laneWake := w.clock + r.delay.nanos }
      if r.delay = .zero then (w.endTask job.work).runLaneFor steps else w
    | _, _ => w

/-- The lane goes on as far as it can at once. -/
def runLane (w : World) : World := w.runLaneFor w.lane.queue.length

/-- The target of the lane task that is being run. -/
def runningTarget? (w : World) : Option String :=
  match w.lane.worker with
  | .running job => some job.work
  | _ => none

/-! ## Going on -/

/-- How often an execution that awaits a lane task looks at its stop signal. -/
def pollInterval : Nat := 20000000

/-- The next moment, not before now, at which the stop signal is looked at. -/
def nextPoll (now since : Nat) : Nat :=
  since + pollInterval * max 1 ((now - since + pollInterval - 1) / pollInterval)

/-- The moment at which an activity goes on; `none` if it waits for another one. -/
def wake? (w : World) (a : Activity) : Option Nat :=
  match a.pause with
  | .reacting t _ => some t
  | .sleeping t => if w.isSignalled a.execution then some w.clock else some t
  | .awaiting task _ since =>
    match w.lane.mailbox? task with
    | some .pending =>
      if w.isSignalled a.execution then some (nextPoll w.clock since) else none
    | _ => some w.clock

/-- An execution goes on with the outcome of its lane task. -/
def resume (w : World) (e : Execution) (task : Nat) (key : String) : World :=
  let (outcome, lane) := w.lane.poll task
  let w := { w with lane := lane }
  match Verdict.of e.operation (w.isSignalled e) outcome with
  | .wait => w
  | .finish c => w.conclude e c
  | .store v => (w.setFact key v).conclude e .done
  | .clear => ({ w with context := w.context.removeFact key } : World).conclude e .done

/-- An activity goes on, and its execution ends. -/
def goOn (w : World) (a : Activity) : World :=
  let e := a.execution
  let w := { w with activities := w.activities.filter fun b => b.execution.ticket != e.ticket }
  match a.pause with
  | .reacting _ r => (w.react r).conclude e (r.ending.completion e.operation)
  | .sleeping _ => w.conclude e (.ofSleep e.operation (w.isSignalled e))
  | .awaiting task key _ => w.resume e task key

/-- What goes on next. -/
inductive Actor
  | activity (a : Activity)
  | lane (target : String)

/-- The earlier of two moments; the first one if they are equal. -/
def earlier (x y : Option (Nat × Actor)) : Option (Nat × Actor) :=
  match x, y with
  | none, y => y
  | x, none => x
  | some (t, a), some (u, b) => if u < t then some (u, b) else some (t, a)

/-- What goes on next, and when. -/
def next? (w : World) : Option (Nat × Actor) :=
  let lane := w.runningTarget?.map fun target => (w.laneWake, Actor.lane target)
  earlier
    (w.activities.foldl (fun best a =>
      earlier best ((w.wake? a).map fun t => (t, Actor.activity a))) none)
    lane

/-- Move the clock to a moment; it never moves back. -/
def moveTo (w : World) (t : Nat) : World := { w with clock := max w.clock t }

/-- Let something go on. -/
def act (w : World) : Actor → World
  | .activity a => w.goOn a
  | .lane target => (w.endTask target).runLane

/-- No more things than this can go on before all is done. -/
def pending (w : World) : Nat :=
  w.activities.length + w.lane.queue.length + w.runningTarget?.toList.length

/-- Let things go on, at most `steps` of them and none after a moment, until a condition holds. -/
def runFor (w : World) (limit : Option Nat) (done : World → Bool) : Nat → World
  | 0 => w
  | steps + 1 =>
    if done w then w
    else
      match w.next? with
      | none => w
      | some (t, a) =>
        if limit.any fun l => l < t then w
        else ((w.moveTo t).act a).runFor limit done steps

/-- Let everything go on that can at this moment. -/
def settle (w : World) : World := w.runFor (some w.clock) (fun _ => false) w.pending

/-- Let things go on until a condition holds. -/
def runUntil (w : World) (done : World → Bool) : World := w.runFor none done w.pending

end World

end RuleEngine
