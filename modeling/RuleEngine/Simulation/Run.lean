import RuleEngine.Operator.Host
import RuleEngine.Simulation.Stopped

set_option autoImplicit false

/-! # Running an operator

The calls on an operator and its surroundings in a simulated world. -/

namespace RuleEngine

namespace World

/-! ## Ticks -/

/-- A world is a host of its operator. -/
def host : Host World where
  operator := World.operator
  setOperator o w := { w with operator := o }
  context := World.context
  setContext c w := { w with context := c }
  execute _ dispatch c w := w.execute dispatch c
  launch rule dispatch c w := (w.launch dispatch c (.detached rule)).2
  emit n w := w.emit n
  operator_setOperator _ _ := rfl
  context_setOperator _ _ := rfl
  operator_setContext _ _ := rfl
  context_setContext _ _ := rfl
  isStopped_execute _ dispatch c _ h := isStopped_execute dispatch c h
  isStopped_launch rule dispatch c _ h := isStopped_launch dispatch c (.detached rule) h
  isStopped_emit _ _ h := h

def tick (w : World) : Except EngineError TickReport × World := host.tick w

/-! ## Other calls -/

def load (w : World) : Except EngineError Unit × World :=
  match w.operator.load w.files with
  | .error e => (.error e, w)
  | .ok (n, o) => (.ok (), ({ w with operator := o } : World).emit n)

/-- Merge the fragments and replace the artifact. -/
def save (w : World) : Except EngineError FilePath × World :=
  match w.operator.save w.files with
  | (.error e, files) => (.error e, { w with files := files })
  | (.ok (n, path), files) => (.ok path, ({ w with files := files } : World).emit n)

def stop (w : World) : World := w.stopOperator.settle

/-- A detached execution is still going on. -/
def hasDetached (w : World) : Bool := w.activities.any fun a => a.execution.caller != .waiting

def joinDetached (w : World) : World := w.runUntil fun w => !w.hasDetached

/-- The lane has nothing left to do. -/
def laneIsIdle (w : World) : Bool := w.runningTarget?.isNone && w.lane.queue.isEmpty

/-- Shut the lane down and wait for its tasks. -/
def shutdownLane (w : World) : World :=
  ({ w with lane := w.lane.close.takeWorker.2 } : World).runUntil laneIsIdle

/-- Nobody uses the operator any more. -/
def release (w : World) : World :=
  let (notices, o) := w.operator.release
  (({ w with operator := o } : World).emitAll notices).settle

end World

end RuleEngine
