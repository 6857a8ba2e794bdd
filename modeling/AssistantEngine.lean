import AssistantEngine.Artifact.Record
import AssistantEngine.Artifact.Store
import AssistantEngine.Assistant.Handoff
import AssistantEngine.Assistant.Runtime
import AssistantEngine.Assistant.Spec
import AssistantEngine.Catalog
import AssistantEngine.Chat.Anthropic
import AssistantEngine.Chat.Hosted
import AssistantEngine.Chat.Message
import AssistantEngine.Chat.Model
import AssistantEngine.Chat.OpenAi
import AssistantEngine.Chat.Request
import AssistantEngine.Checkpoint.Location
import AssistantEngine.Checkpoint.Shelf
import AssistantEngine.Checkpoint.Table
import AssistantEngine.CommandLine.Conversation
import AssistantEngine.CommandLine.Launch
import AssistantEngine.CommandLine.Options
import AssistantEngine.CommandLine.Overview
import AssistantEngine.CommandLine.Run
import AssistantEngine.Concurrency.Activity
import AssistantEngine.Engine.Basic
import AssistantEngine.Engine.Checkpoints
import AssistantEngine.Engine.Compiler
import AssistantEngine.Engine.Connection
import AssistantEngine.Engine.Description
import AssistantEngine.Engine.Plugins
import AssistantEngine.Engine.Scenario
import AssistantEngine.Engine.Stage
import AssistantEngine.Engine.Turn
import AssistantEngine.Engine.World
import AssistantEngine.Fault
import AssistantEngine.Graph.Assembly
import AssistantEngine.Graph.Compiled
import AssistantEngine.Graph.Snapshot
import AssistantEngine.Http.Address
import AssistantEngine.Http.Exchange
import AssistantEngine.Http.Host
import AssistantEngine.Json.Basic
import AssistantEngine.Json.Member
import AssistantEngine.Json.Numeral
import AssistantEngine.Json.Parser
import AssistantEngine.Json.Printer
import AssistantEngine.Json.Renaming
import AssistantEngine.Json.Shape
import AssistantEngine.Json.Written
import AssistantEngine.Main
import AssistantEngine.Number.Binary64
import AssistantEngine.Number.Numeral
import AssistantEngine.Number.Power
import AssistantEngine.Number.Shortest
import AssistantEngine.Plugin.Configuration
import AssistantEngine.Plugin.ContextProtocol
import AssistantEngine.Plugin.Manifest
import AssistantEngine.Plugin.Registry
import AssistantEngine.Plugin.Runtime
import AssistantEngine.Plugin.Server
import AssistantEngine.Plugin.Tool
import AssistantEngine.Plugin.Transport
import AssistantEngine.Proofs.Artifact.Normalization
import AssistantEngine.Proofs.Artifact.Retention
import AssistantEngine.Proofs.Assistant.Advertisement
import AssistantEngine.Proofs.Assistant.HandoffNames
import AssistantEngine.Proofs.Assistant.HandoffSearch
import AssistantEngine.Proofs.Assistant.Handoffs
import AssistantEngine.Proofs.Catalog
import AssistantEngine.Proofs.Chat.Gathering
import AssistantEngine.Proofs.Chat.RoundTrips
import AssistantEngine.Proofs.Chat.Turns
import AssistantEngine.Proofs.Checkpoint.Archive
import AssistantEngine.Proofs.Checkpoint.Rows
import AssistantEngine.Proofs.Checkpoint.Texts
import AssistantEngine.Proofs.Concurrency.Conduct
import AssistantEngine.Proofs.Concurrency.Custody
import AssistantEngine.Proofs.Concurrency.Limits
import AssistantEngine.Proofs.Concurrency.Parallel
import AssistantEngine.Proofs.Concurrency.Runs
import AssistantEngine.Proofs.Concurrency.Spares
import AssistantEngine.Proofs.Concurrency.Together
import AssistantEngine.Proofs.Engine.Account
import AssistantEngine.Proofs.Engine.Assembly
import AssistantEngine.Proofs.Engine.Compilation
import AssistantEngine.Proofs.Engine.Completion
import AssistantEngine.Proofs.Engine.Contact
import AssistantEngine.Proofs.Engine.Custody
import AssistantEngine.Proofs.Engine.Estate
import AssistantEngine.Proofs.Engine.Fallback
import AssistantEngine.Proofs.Engine.Furnishing
import AssistantEngine.Proofs.Engine.Handshake
import AssistantEngine.Proofs.Engine.Histories
import AssistantEngine.Proofs.Engine.Invocation
import AssistantEngine.Proofs.Engine.InvocationRuns
import AssistantEngine.Proofs.Engine.Isolation
import AssistantEngine.Proofs.Engine.LinkedTools
import AssistantEngine.Proofs.Engine.Listings
import AssistantEngine.Proofs.Engine.Namesakes
import AssistantEngine.Proofs.Engine.Overlap
import AssistantEngine.Proofs.Engine.Provenance
import AssistantEngine.Proofs.Engine.Rebuilding
import AssistantEngine.Proofs.Engine.Reloading
import AssistantEngine.Proofs.Engine.Rounds
import AssistantEngine.Proofs.Engine.Routing
import AssistantEngine.Proofs.Engine.ScopeCustody
import AssistantEngine.Proofs.Engine.SharedOnce
import AssistantEngine.Proofs.Engine.SharedRuntimes
import AssistantEngine.Proofs.Engine.Shutdown
import AssistantEngine.Proofs.Engine.Snapshots
import AssistantEngine.Proofs.Engine.ToolCalls
import AssistantEngine.Proofs.Engine.Transcript
import AssistantEngine.Proofs.Engine.Transfer
import AssistantEngine.Proofs.Engine.Turn
import AssistantEngine.Proofs.Engine.Verdict
import AssistantEngine.Proofs.Graph.Destinations
import AssistantEngine.Proofs.Graph.Lifting
import AssistantEngine.Proofs.Graph.Resolution
import AssistantEngine.Proofs.Json.Numerals
import AssistantEngine.Proofs.Json.Quotations
import AssistantEngine.Proofs.Json.Texts
import AssistantEngine.Proofs.Plugin.Counterparts
import AssistantEngine.Proofs.Plugin.Disclosure
import AssistantEngine.Proofs.Plugin.Discovery
import AssistantEngine.Proofs.Plugin.FieldTypes
import AssistantEngine.Proofs.Plugin.Launching
import AssistantEngine.Proofs.Plugin.Layout
import AssistantEngine.Proofs.Plugin.Overrides
import AssistantEngine.Proofs.Plugin.Redaction
import AssistantEngine.Proofs.Plugin.Repetition
import AssistantEngine.Proofs.Plugin.Validation
import AssistantEngine.Proofs.Plugin.Variables
import AssistantEngine.Proofs.Plugin.Visibility
import AssistantEngine.Proofs.Reading.Records
import AssistantEngine.Proofs.Reading.Respelling
import AssistantEngine.Proofs.RuntimeCache.Announcements
import AssistantEngine.Proofs.RuntimeCache.Answer
import AssistantEngine.Proofs.RuntimeCache.Builds
import AssistantEngine.Proofs.RuntimeCache.Concord
import AssistantEngine.Proofs.RuntimeCache.Custody
import AssistantEngine.Proofs.RuntimeCache.Freshness
import AssistantEngine.Proofs.RuntimeCache.History
import AssistantEngine.Proofs.RuntimeCache.Independence
import AssistantEngine.Proofs.RuntimeCache.Installations
import AssistantEngine.Proofs.RuntimeCache.Ledger
import AssistantEngine.Proofs.RuntimeCache.Move
import AssistantEngine.Proofs.RuntimeCache.Operation
import AssistantEngine.Proofs.RuntimeCache.Outlook
import AssistantEngine.Proofs.RuntimeCache.Reach
import AssistantEngine.Proofs.RuntimeCache.Refusal
import AssistantEngine.Proofs.RuntimeCache.Release
import AssistantEngine.Proofs.RuntimeCache.Resemblance
import AssistantEngine.Proofs.RuntimeCache.Step
import AssistantEngine.Proofs.RuntimeCache.Stewardship
import AssistantEngine.Proofs.RuntimeCache.Timers
import AssistantEngine.Proofs.RuntimeCache.Vacancy
import AssistantEngine.Proofs.RuntimeCache.Window
import AssistantEngine.Proofs.RuntimeCache.Work
import AssistantEngine.Proofs.Scopes
import AssistantEngine.Proofs.Settings.Respelling
import AssistantEngine.Proofs.Settings.Substitution
import AssistantEngine.Proofs.Settings.Values
import AssistantEngine.Proofs.Storage.FileTrees
import AssistantEngine.Proofs.Storage.Paths
import AssistantEngine.Proofs.Workflow.Directories
import AssistantEngine.Proofs.Yaml.Quotation
import AssistantEngine.Proofs.Yaml.Respelling
import AssistantEngine.Proofs.Yaml.Tokens
import AssistantEngine.Reading.Datum
import AssistantEngine.Reading.Field
import AssistantEngine.Reading.Scalar
import AssistantEngine.RuntimeCache.Change
import AssistantEngine.RuntimeCache.Client
import AssistantEngine.RuntimeCache.Entry
import AssistantEngine.RuntimeCache.Run
import AssistantEngine.RuntimeCache.Schedule
import AssistantEngine.RuntimeCache.State
import AssistantEngine.Scope
import AssistantEngine.Settings.Basic
import AssistantEngine.Settings.Environment
import AssistantEngine.Storage.FileTree
import AssistantEngine.Storage.Path
import AssistantEngine.Text.Blank
import AssistantEngine.Text.Calendar
import AssistantEngine.Text.Debug
import AssistantEngine.Text.Duration
import AssistantEngine.Text.Extending
import AssistantEngine.Text.Hexadecimal
import AssistantEngine.Text.LowerCase
import AssistantEngine.Text.Moment
import AssistantEngine.Text.Printable
import AssistantEngine.Text.Punycode
import AssistantEngine.Text.Search
import AssistantEngine.Workflow.Destinations
import AssistantEngine.Workflow.Source
import AssistantEngine.Workflow.Spec
import AssistantEngine.Yaml.Cursor
import AssistantEngine.Yaml.Node
import AssistantEngine.Yaml.Resolution
import AssistantEngine.Yaml.Scalar
import AssistantEngine.Yaml.Token
