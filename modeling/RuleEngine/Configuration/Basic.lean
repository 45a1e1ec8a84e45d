import RuleEngine.Decode.Source
import RuleEngine.Error
import RuleEngine.Text.Class

set_option autoImplicit false

/-! # Configuration

The settings that a run starts from, each with a default. Everything that a source leaves out has
its default. -/

namespace RuleEngine

/-- Where templates are, and which one is active. -/
structure TemplateSettings where
  root : String := "config/templates"
  subDir : String := "default"
  template : String := "main"
  /-- Load the merged artifact in place of the fragments. -/
  readFromMerged : Bool := false
deriving DecidableEq, Inhabited

/-- The pace of a session. -/
structure SessionSettings where
  tickIntervalMs : Nat := 200
  /-- No bound if there is none. -/
  maxTicks : Option Nat := none
deriving DecidableEq, Inhabited

/-- The worker of the lane. -/
structure LaneSettings where
  threadName : String := "gpu-lane"
deriving DecidableEq, Inhabited

/-- The queue of events. -/
structure EventSettings where
  queueCapacity : Nat := 4096
  drainIntervalMs : Nat := 250
deriving DecidableEq, Inhabited

/-- How log lines are written. -/
inductive LogFormat
  | pretty
  | json
deriving DecidableEq, Inhabited

/-- Logs and metrics. -/
structure ObservabilitySettings where
  logFormat : LogFormat := .pretty
  /-- No metrics if there is none. -/
  metricsAddr : Option String := none
deriving DecidableEq, Inhabited

/-- All settings. -/
structure Configuration where
  templates : TemplateSettings := {}
  session : SessionSettings := {}
  lane : LaneSettings := {}
  events : EventSettings := {}
  observability : ObservabilitySettings := {}
deriving DecidableEq, Inhabited

variable {ν : Type} [DataSource ν]

/-! ## Decoding -/

def TemplateSettings.recordType : Decode.RecordType ν TemplateSettings where
  name := "TemplatesConfig"
  fields :=
    [.of "root" false (DataSource.text · "path string") fun s c => { c with root := s },
     .of "sub_dir" false Decode.text fun s c => { c with subDir := s },
     .of "template" false Decode.text fun s c => { c with template := s },
     .of "read_from_merged" false DataSource.bool fun b c => { c with readFromMerged := b }]
  closed := false
  blank := {}

def SessionSettings.recordType : Decode.RecordType ν SessionSettings where
  name := "SessionConfig"
  fields :=
    [.of "tick_interval_ms" false (Decode.nat .u64) fun n c => { c with tickIntervalMs := n },
     .of "max_ticks" false (Decode.option (Decode.nat .u64)) fun n c => { c with maxTicks := n }]
  closed := false
  blank := {}

def LaneSettings.recordType : Decode.RecordType ν LaneSettings where
  name := "LaneConfig"
  fields := [.of "thread_name" false Decode.text fun s c => { c with threadName := s }]
  closed := false
  blank := {}

def EventSettings.recordType : Decode.RecordType ν EventSettings where
  name := "EventsConfig"
  fields :=
    [.of "queue_capacity" false (Decode.nat .usize) fun n c => { c with queueCapacity := n },
     .of "drain_interval_ms" false (Decode.nat .u64) fun n c => { c with drainIntervalMs := n }]
  closed := false
  blank := {}

def LogFormat.names : List (String × LogFormat) := [("pretty", .pretty), ("json", .json)]

/-- Read a log format off a piece of data. -/
def LogFormat.decode (x : ν) : Except DecodeError LogFormat :=
  (DataSource.variant x (names.map (·.1))).map fun s => (Table.get? names s).getD .pretty

def LogFormat.name : LogFormat → String
  | .pretty => "pretty"
  | .json => "json"

def ObservabilitySettings.recordType : Decode.RecordType ν ObservabilitySettings where
  name := "ObservabilityConfig"
  fields :=
    [.of "log_format" false LogFormat.decode fun f c => { c with logFormat := f },
     .of "metrics_addr" false (Decode.option Decode.text) fun s c => { c with metricsAddr := s }]
  closed := false
  blank := {}

namespace Configuration

def recordType : Decode.RecordType ν Configuration where
  name := "EngineConfig"
  fields :=
    [.of "templates" false TemplateSettings.recordType.decode fun s c => { c with templates := s },
     .of "session" false SessionSettings.recordType.decode fun s c => { c with session := s },
     .of "lane" false LaneSettings.recordType.decode fun s c => { c with lane := s },
     .of "events" false EventSettings.recordType.decode fun s c => { c with events := s },
     .of "observability" false ObservabilitySettings.recordType.decode
       fun s c => { c with observability := s }]
  closed := false
  blank := {}

/-- Read a configuration off a piece of data. -/
def decode (x : ν) : Except DecodeError Configuration := recordType.decode x

/-! ## Checks and output -/

/-- What is wrong with a configuration that the engine cannot run with. -/
def problem? (c : Configuration) : Option String :=
  if c.session.tickIntervalMs = 0 then some "session.tick_interval_ms must be greater than 0"
  else if c.events.queueCapacity = 0 then some "events.queue_capacity must be greater than 0"
  else if c.events.drainIntervalMs = 0 then some "events.drain_interval_ms must be greater than 0"
  else if Text.isBlankText c.templates.template then some "templates.template must not be empty"
  else if Text.isBlankText c.templates.subDir then some "templates.sub_dir must not be empty"
  else none

/-- Refuse a configuration that the engine cannot run with. -/
def validate (c : Configuration) : Except EngineError Unit :=
  match c.problem? with
  | some problem => .error (.configuration problem)
  | none => .ok ()

def optionalText : Option String → Json
  | none => .null
  | some s => .str s

def natural (n : Nat) : Json := .num (.int n)

def toJson (c : Configuration) : Json :=
  .obj
    [("templates", .obj
      [("root", .str c.templates.root), ("sub_dir", .str c.templates.subDir),
       ("template", .str c.templates.template),
       ("read_from_merged", .bool c.templates.readFromMerged)]),
     ("session", .obj
      [("tick_interval_ms", natural c.session.tickIntervalMs),
       ("max_ticks", (c.session.maxTicks.map natural).getD .null)]),
     ("lane", .obj [("thread_name", .str c.lane.threadName)]),
     ("events", .obj
      [("queue_capacity", natural c.events.queueCapacity),
       ("drain_interval_ms", natural c.events.drainIntervalMs)]),
     ("observability", .obj
      [("log_format", .str c.observability.logFormat.name),
       ("metrics_addr", optionalText c.observability.metricsAddr)])]

end Configuration

end RuleEngine
