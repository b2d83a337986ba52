import PluginHost.Command.Arguments
import PluginHost.Command.Basic
import PluginHost.Config.Basic
import PluginHost.Config.Parser
import PluginHost.Config.Schema
import PluginHost.Document.Basic
import PluginHost.Document.Format
import PluginHost.Document.Json
import PluginHost.Document.Read
import PluginHost.Document.Schema
import PluginHost.Document.Toml.Basic
import PluginHost.Document.Toml.Parser
import PluginHost.Document.Toml.Scalar
import PluginHost.Document.Toml.Text
import PluginHost.Document.Yaml.Basic
import PluginHost.Document.Yaml.Cursor
import PluginHost.Document.Yaml.Parser
import PluginHost.Document.Yaml.Text
import PluginHost.Document.Yaml.Token
import PluginHost.Document.Yaml.Value
import PluginHost.Files.Artifact
import PluginHost.Files.Fault
import PluginHost.Files.Listing
import PluginHost.Files.Path
import PluginHost.Files.Tree
import PluginHost.Graph.Basic
import PluginHost.Graph.Counting
import PluginHost.Graph.Cycle
import PluginHost.Graph.Order
import PluginHost.Graph.Spread
import PluginHost.Host.Basic
import PluginHost.Host.Lookup
import PluginHost.Host.Manager
import PluginHost.Host.Report
import PluginHost.Main
import PluginHost.Manifest.Basic
import PluginHost.Manifest.Dependency
import PluginHost.Manifest.Fault
import PluginHost.Manifest.Parser
import PluginHost.Manifest.Schema
import PluginHost.Manifest.Validation
import PluginHost.Number.Binary64
import PluginHost.Number.Digit
import PluginHost.Number.Literal
import PluginHost.Number.Shortest
import PluginHost.Ordered.Ascending
import PluginHost.Ordered.IdMap
import PluginHost.Ordered.Keyed
import PluginHost.Plugin.Behaviour
import PluginHost.Plugin.Builtin
import PluginHost.Plugin.Container
import PluginHost.Plugin.Error
import PluginHost.Plugin.Loader
import PluginHost.Plugin.Registry
import PluginHost.Plugin.State
import PluginHost.Proofs.Command.DryRun
import PluginHost.Proofs.Document.Json
import PluginHost.Proofs.Files.Artifact
import PluginHost.Proofs.Files.Path
import PluginHost.Proofs.Files.Tree
import PluginHost.Proofs.Graph.Alike
import PluginHost.Proofs.Graph.Counting
import PluginHost.Proofs.Graph.Cycle
import PluginHost.Proofs.Graph.Dependents
import PluginHost.Proofs.Graph.Effective
import PluginHost.Proofs.Graph.History
import PluginHost.Proofs.Graph.Order
import PluginHost.Proofs.Graph.Path
import PluginHost.Proofs.Graph.Placement
import PluginHost.Proofs.Graph.Removal
import PluginHost.Proofs.Graph.Spread
import PluginHost.Proofs.Graph.Walk
import PluginHost.Proofs.Graph.WellFormed
import PluginHost.Proofs.Host.Completion
import PluginHost.Proofs.Host.Dependencies
import PluginHost.Proofs.Host.Dependents
import PluginHost.Proofs.Host.Discovery
import PluginHost.Proofs.Host.ErrorOrder
import PluginHost.Proofs.Host.Intake
import PluginHost.Proofs.Host.Lifecycle
import PluginHost.Proofs.Host.Loading
import PluginHost.Proofs.Host.Pipeline
import PluginHost.Proofs.Host.Progress
import PluginHost.Proofs.Host.Propagation
import PluginHost.Proofs.Host.Refusal
import PluginHost.Proofs.Host.Run
import PluginHost.Proofs.Host.Starting
import PluginHost.Proofs.Host.Stopping
import PluginHost.Proofs.Host.Turn
import PluginHost.Proofs.Manifest.RoundTrip
import PluginHost.Proofs.Manifest.Validation
import PluginHost.Proofs.Ordered.Ascending
import PluginHost.Proofs.Ordered.IdMap
import PluginHost.Proofs.Ordered.Precedes
import PluginHost.Proofs.Ordered.Repeats
import PluginHost.Proofs.Plugin.Activation
import PluginHost.Proofs.Plugin.Artifact
import PluginHost.Proofs.Plugin.Library
import PluginHost.Proofs.Plugin.Loading
import PluginHost.Proofs.Plugin.Routing
import PluginHost.Proofs.Resolution.Addition
import PluginHost.Proofs.Resolution.Causes
import PluginHost.Proofs.Resolution.Cycles
import PluginHost.Proofs.Resolution.Exact
import PluginHost.Proofs.Resolution.Exclusion
import PluginHost.Proofs.Resolution.Explanation
import PluginHost.Proofs.Resolution.Latest
import PluginHost.Proofs.Resolution.Optional
import PluginHost.Proofs.Resolution.Precedence
import PluginHost.Proofs.Resolution.Resolvable
import PluginHost.Proofs.Resolution.Restriction
import PluginHost.Proofs.Resolution.Rounds
import PluginHost.Proofs.Resolution.Strict
import PluginHost.Proofs.Resolution.Survey
import PluginHost.Resolution.Basic
import PluginHost.Text.Blank
import PluginHost.Text.Hidden
import PluginHost.Text.Lower
import PluginHost.Text.Quoted
import PluginHost.Text.Split
import PluginHost.Version.Basic
import PluginHost.Version.Fault
import PluginHost.Version.Parser
import PluginHost.Version.Range
import PluginHost.Version.Requirement
import PluginHost.Version.Requirement.Parser
