import RuleEngine.Simulation.Schedule

set_option autoImplicit false

/-! # Executions in a simulated world

An execution begins its effect at once. If it has to wait, it goes on when its moment has come, and
whoever waits for its result lets time pass until then. -/

namespace RuleEngine

namespace World

/-- Let an activity begin to wait. -/
def pauseWith (w : World) (e : Execution) (p : Pause) : World :=
  { w with activities := w.activities ++ [⟨e, p⟩] }

/-- Give a command to the controller. It is noted before the controller reacts. -/
def giveCommand (w : World) (e : Execution) (c : Command) : World :=
  let issued : IssuedCommand := ⟨c, e.caller != .waiting⟩
  let w := { w with commands := w.commands ++ [issued] }
  let r := Reaction.find w.devices.controller c.key
  if r.delay = .zero then (w.react r).conclude e (r.ending.completion e.operation)
  else w.pauseWith e (.reacting (w.clock + r.delay.nanos) r)

def submitTask (w : World) (e : Execution) (target key : String) : World :=
  match w.lane.submit (recognitionLabel target) target with
  | (.error err, lane) => ({ w with lane := lane } : World).conclude e (.ofRefusal e.operation err)
  | (.ok task, lane) =>
    ((({ w with lane := lane } : World).pauseWith e (.awaiting task key w.clock)).runLane).settle

def begin (w : World) (e : Execution) (effect : Effect) : World :=
  match effect.begin e.operation (w.isSignalled e) w.clock with
  | .finish c => w.conclude e c
  | .command c => w.giveCommand e c
  | .sleep t => if t = w.clock then w.conclude e .done else w.pauseWith e (.sleeping t)
  | .write key value => (w.setFact key value).conclude e .done
  | .submit target key => w.submitTask e target key

/-- Begin to execute the operation of a dispatch; the ticket under which its result is found. -/
def launch (w : World) (dispatch : Nat) (c : Compiled) (caller : Caller) : Nat × World :=
  let e : Execution := ⟨w.nextTicket, dispatch, c.name, caller⟩
  (e.ticket, ({ w with nextTicket := w.nextTicket + 1 } : World).begin e c.effect)

def hasEnded (ticket : Nat) (w : World) : Bool := (w.endings.lookup ticket).isSome

def join (w : World) (ticket : Nat) : Completion × World :=
  let w := w.runUntil (hasEnded ticket)
  ((w.endings.lookup ticket).getD .done,
    { w with endings := w.endings.filter fun e => e.1 != ticket })

def execute (w : World) (dispatch : Nat) (c : Compiled) : Completion × World :=
  let (ticket, w) := w.launch dispatch c .waiting
  w.join ticket

end World

end RuleEngine
