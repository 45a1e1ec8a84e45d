import RuleEngine.CommandLine.Arguments
import RuleEngine.CommandLine.Help
import RuleEngine.CommandLine.Run
import RuleEngine.Condition.Basic
import RuleEngine.Condition.Grammar
import RuleEngine.Condition.Text
import RuleEngine.Condition.Token
import RuleEngine.Condition.Tree
import RuleEngine.Configuration.Basic
import RuleEngine.Configuration.Environment
import RuleEngine.Configuration.Format
import RuleEngine.Configuration.Layer
import RuleEngine.Configuration.Load
import RuleEngine.Configuration.Value
import RuleEngine.Configuration.Yaml
import RuleEngine.Context
import RuleEngine.Decimal.Layout
import RuleEngine.Decimal.Numeral
import RuleEngine.Decimal.Shortest
import RuleEngine.Decode.Error
import RuleEngine.Decode.Source
import RuleEngine.Double
import RuleEngine.Duration
import RuleEngine.Error
import RuleEngine.Event.Basic
import RuleEngine.Event.Json
import RuleEngine.Event.Notifier
import RuleEngine.Event.Queue
import RuleEngine.Event.Sink
import RuleEngine.Files.Path
import RuleEngine.Files.Staging
import RuleEngine.Files.Tree
import RuleEngine.Json.Basic
import RuleEngine.Json.Reader
import RuleEngine.Json.Source
import RuleEngine.Json.Text
import RuleEngine.Lane.Basic
import RuleEngine.Lane.Gate
import RuleEngine.Main
import RuleEngine.Metrics.Address
import RuleEngine.Operation.Binding
import RuleEngine.Operation.Builtin
import RuleEngine.Operation.Descriptor
import RuleEngine.Operation.Execution
import RuleEngine.Operation.Field
import RuleEngine.Operation.Params
import RuleEngine.Operation.Registry
import RuleEngine.Operation.Stop
import RuleEngine.Operator.Basic
import RuleEngine.Operator.Host
import RuleEngine.Operator.Plan
import RuleEngine.Operator.Tick
import RuleEngine.Proofs.Condition.Canonical
import RuleEngine.Proofs.Condition.Composition
import RuleEngine.Proofs.Condition.Derivation
import RuleEngine.Proofs.Condition.IntegerComparison
import RuleEngine.Proofs.Condition.ReferencedKeys
import RuleEngine.Proofs.Condition.Spacing
import RuleEngine.Proofs.Condition.Unambiguous
import RuleEngine.Proofs.Condition.WellFormed
import RuleEngine.Proofs.Condition.Writing
import RuleEngine.Proofs.Decimal.Numeral
import RuleEngine.Proofs.Decimal.Shortest
import RuleEngine.Proofs.Decode.Record
import RuleEngine.Proofs.Decode.Source
import RuleEngine.Proofs.Double.Duration
import RuleEngine.Proofs.Double.Integer
import RuleEngine.Proofs.Double.Rounding
import RuleEngine.Proofs.Event.Conservation
import RuleEngine.Proofs.Event.Notifier
import RuleEngine.Proofs.Event.Queue
import RuleEngine.Proofs.Event.Routing
import RuleEngine.Proofs.Event.Threads
import RuleEngine.Proofs.Files.Component
import RuleEngine.Proofs.Files.Entry
import RuleEngine.Proofs.Files.Staging
import RuleEngine.Proofs.Files.Tree
import RuleEngine.Proofs.Interleaving
import RuleEngine.Proofs.Json.Sorted
import RuleEngine.Proofs.Lane.Answers
import RuleEngine.Proofs.Lane.Handle
import RuleEngine.Proofs.Lane.Order
import RuleEngine.Proofs.Lane.Parts
import RuleEngine.Proofs.Lane.Rounds
import RuleEngine.Proofs.Lane.Shutdown
import RuleEngine.Proofs.Lane.Threads
import RuleEngine.Proofs.Operation.Acceptance
import RuleEngine.Proofs.Operation.Builtin
import RuleEngine.Proofs.Operation.Codec
import RuleEngine.Proofs.Operation.Recognition
import RuleEngine.Proofs.Operation.RecognitionResult
import RuleEngine.Proofs.Operation.Validation
import RuleEngine.Proofs.Operation.Wait
import RuleEngine.Proofs.Operator.AsyncAccounts
import RuleEngine.Proofs.Operator.AsyncFates
import RuleEngine.Proofs.Operator.Calls
import RuleEngine.Proofs.Operator.Coverage
import RuleEngine.Proofs.Operator.Frame
import RuleEngine.Proofs.Operator.Interruption
import RuleEngine.Proofs.Operator.Lifecycle
import RuleEngine.Proofs.Operator.Load
import RuleEngine.Proofs.Operator.Plan
import RuleEngine.Proofs.Operator.Program
import RuleEngine.Proofs.Operator.Save
import RuleEngine.Proofs.Operator.Stop
import RuleEngine.Proofs.Operator.Threads
import RuleEngine.Proofs.Operator.Tick
import RuleEngine.Proofs.Operator.TickAccounts
import RuleEngine.Proofs.Operator.TickCalls
import RuleEngine.Proofs.Operator.TickDispatches
import RuleEngine.Proofs.Operator.TickFrame
import RuleEngine.Proofs.Operator.TickHistory
import RuleEngine.Proofs.Operator.TickOrigins
import RuleEngine.Proofs.Operator.TickProgress
import RuleEngine.Proofs.Operator.TickRow
import RuleEngine.Proofs.Operator.TickThreads
import RuleEngine.Proofs.Operator.TickWrites
import RuleEngine.Proofs.Rule.Selection
import RuleEngine.Proofs.Session.Cleanup
import RuleEngine.Proofs.Session.ExternalStop
import RuleEngine.Proofs.Session.Operator
import RuleEngine.Proofs.Session.Progress
import RuleEngine.Proofs.Session.Return
import RuleEngine.Proofs.Session.Threads
import RuleEngine.Proofs.Session.Totals
import RuleEngine.Proofs.Settings.Failure
import RuleEngine.Proofs.Settings.Persistence
import RuleEngine.Proofs.Table
import RuleEngine.Proofs.Template.Codec
import RuleEngine.Proofs.Template.Confinement
import RuleEngine.Proofs.Template.Conflict
import RuleEngine.Proofs.Template.Extension
import RuleEngine.Proofs.Template.Fault
import RuleEngine.Proofs.Template.Listing
import RuleEngine.Proofs.Template.Merge
import RuleEngine.Proofs.Template.Order
import RuleEngine.Proofs.Template.Permutation
import RuleEngine.Proofs.Template.RoundTrip
import RuleEngine.Proofs.Template.Store
import RuleEngine.Proofs.Text.Class
import RuleEngine.Proofs.Yaml.Shows
import RuleEngine.Rule.Basic
import RuleEngine.Rule.Selection
import RuleEngine.Session.Loop
import RuleEngine.Session.Run
import RuleEngine.Settings.Property
import RuleEngine.Settings.Store
import RuleEngine.Simulation.Device
import RuleEngine.Simulation.Disk
import RuleEngine.Simulation.Execution
import RuleEngine.Simulation.Run
import RuleEngine.Simulation.Scenario
import RuleEngine.Simulation.Schedule
import RuleEngine.Simulation.Settings
import RuleEngine.Simulation.Stopped
import RuleEngine.Simulation.World
import RuleEngine.Table
import RuleEngine.Template.Basic
import RuleEngine.Template.Merge
import RuleEngine.Template.Order
import RuleEngine.Template.Store
import RuleEngine.Text.Alphanumeric
import RuleEngine.Text.Class
import RuleEngine.Text.Printable
import RuleEngine.Text.Quoted
import RuleEngine.Toml.Reader
import RuleEngine.Toml.Scalar
import RuleEngine.Toml.Tree
import RuleEngine.Yaml.Node
import RuleEngine.Yaml.Quoting
import RuleEngine.Yaml.Scalar
import RuleEngine.Yaml.Source
import RuleEngine.Yaml.Text
import RuleEngine.Yaml.Token.Basic
import RuleEngine.Yaml.Token.Scalar
import RuleEngine.Yaml.Token.Stream
import RuleEngine.Yaml.Token.Tag
import RuleEngine.Yaml.Value
