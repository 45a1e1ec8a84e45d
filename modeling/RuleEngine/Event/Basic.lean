import RuleEngine.Decode.Source

set_option autoImplicit false

/-! # Events

What the engine reports. An event belongs to a session and carries JSON data. -/

namespace RuleEngine

/-- What an event reports. -/
inductive EventType
  | templateLoaded
  | templateMerged
  | tickCompleted
  | actionCompleted
  | actionFailed
  | criticalFailure
  | laneTaskFailed
  | operatorStopped
deriving DecidableEq, Inhabited

namespace EventType

def all : List EventType :=
  [.templateLoaded, .templateMerged, .tickCompleted, .actionCompleted, .actionFailed,
   .criticalFailure, .laneTaskFailed, .operatorStopped]

def name : EventType → String
  | .templateLoaded => "template_loaded"
  | .templateMerged => "template_merged"
  | .tickCompleted => "tick_completed"
  | .actionCompleted => "action_completed"
  | .actionFailed => "action_failed"
  | .criticalFailure => "critical_failure"
  | .laneTaskFailed => "lane_task_failed"
  | .operatorStopped => "operator_stopped"

/-- The name of a type in summaries. -/
def title : EventType → String
  | .templateLoaded => "TemplateLoaded"
  | .templateMerged => "TemplateMerged"
  | .tickCompleted => "TickCompleted"
  | .actionCompleted => "ActionCompleted"
  | .actionFailed => "ActionFailed"
  | .criticalFailure => "CriticalFailure"
  | .laneTaskFailed => "LaneTaskFailed"
  | .operatorStopped => "OperatorStopped"

def isFailure : EventType → Bool
  | .actionFailed | .criticalFailure | .laneTaskFailed => true
  | _ => false

def decode {ν : Type} [DataSource ν] (x : ν) : Except DecodeError EventType :=
  (DataSource.variant x (all.map name)).map fun s =>
    (all.find? fun t => t.name == s).getD .templateLoaded

end EventType

/-- What there is to report, before it belongs to a session. -/
abbrev Notice := EventType × Json

/-- A report of the engine. -/
structure Event where
  session : String
  type : EventType
  data : Json
deriving DecidableEq, Inhabited

namespace Event

/-- The text that says most about the event: its error, else its operation, else its template. -/
def detail (e : Event) : String :=
  let value := (e.data.field? "error").orElse fun _ =>
    (e.data.field? "operation").orElse fun _ => e.data.field? "template"
  (value.bind Json.text?).getD ""

/-- A short text for notifications. -/
def summary (e : Event) : String :=
  if e.detail.isEmpty then e.type.title else e.type.title ++ ": " ++ e.detail

end Event

end RuleEngine
