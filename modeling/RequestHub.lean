import RequestHub.Application
import RequestHub.Backoff
import RequestHub.Calendar
import RequestHub.Catalog
import RequestHub.CommandLine
import RequestHub.Compile
import RequestHub.Configuration.Failure
import RequestHub.Console
import RequestHub.Context
import RequestHub.Decimal.Binary64
import RequestHub.Decimal.Power
import RequestHub.Decimal.Reading
import RequestHub.Decimal.Shortest
import RequestHub.Decoder
import RequestHub.Definition.Aggregate
import RequestHub.Definition.Hub
import RequestHub.Definition.Schemas
import RequestHub.Description
import RequestHub.Duration
import RequestHub.Envelope
import RequestHub.Failure
import RequestHub.Files
import RequestHub.Health
import RequestHub.Home
import RequestHub.Http.Address
import RequestHub.Http.Headers
import RequestHub.Http.Method
import RequestHub.Http.Status
import RequestHub.Http.Uri
import RequestHub.Http.Url
import RequestHub.Hub
import RequestHub.Json.Basic
import RequestHub.Json.Fault
import RequestHub.Json.Lookup
import RequestHub.Json.Printer
import RequestHub.Json.Reader
import RequestHub.KeyValue.Store
import RequestHub.KeyValue.Target
import RequestHub.Listener
import RequestHub.Log.Entry
import RequestHub.Log.Filter
import RequestHub.Log.Pattern
import RequestHub.Log.Task
import RequestHub.Log.Template
import RequestHub.Main
import RequestHub.Metrics
import RequestHub.Names
import RequestHub.Plugin
import RequestHub.Plugin.BuiltIn
import RequestHub.Plugin.PassThrough
import RequestHub.Plugin.TraceStart
import RequestHub.Query
import RequestHub.Registry
import RequestHub.Remote.Client
import RequestHub.Remote.Delivery
import RequestHub.Remote.Forward
import RequestHub.Request
import RequestHub.Response
import RequestHub.Route
import RequestHub.Server
import RequestHub.Service
import RequestHub.Session
import RequestHub.Settings
import RequestHub.Settings.Check
import RequestHub.Settings.Loader
import RequestHub.Settings.Variable
import RequestHub.Settings.VariableFile
import RequestHub.Shutdown
import RequestHub.Telemetry
import RequestHub.Text.Base64
import RequestHub.Text.Blank
import RequestHub.Text.Case
import RequestHub.Text.CaseTable
import RequestHub.Text.HiddenTable
import RequestHub.Text.Percent
import RequestHub.Text.Punycode
import RequestHub.Text.Quoted
import RequestHub.Text.Record
import RequestHub.Text.Split
import RequestHub.Text.Utf8
import RequestHub.Text.WordTable
import RequestHub.Toml.Document
import RequestHub.Toml.Quoted
import RequestHub.Toml.Scalar
import RequestHub.Toml.Scan
import RequestHub.Toml.Statement
import RequestHub.Toml.Value
import RequestHub.Trace
import RequestHub.Trial.Answer
import RequestHub.Trial.Layer
import RequestHub.Trial.Plan
import RequestHub.Trial.Plugin
import RequestHub.Trial.Shutdown
import RequestHub.Uuid
import RequestHub.View
import RequestHub.Work
import RequestHub.Workflow
import RequestHub.Yaml.Node
import RequestHub.Yaml.Scalar
import RequestHub.Yaml.Token
import RequestHub.Proofs.Dispatch.Stage
import RequestHub.Proofs.Dispatch.Course
import RequestHub.Proofs.Dispatch.Refinement
import RequestHub.Proofs.Dispatch.Handling
import RequestHub.Proofs.Listener.Decision
import RequestHub.Proofs.Compile.Services
import RequestHub.Proofs.Hub.Installed
import RequestHub.Proofs.Compile.Support
import RequestHub.Proofs.Hub.Table
import RequestHub.Proofs.Route.Key
import RequestHub.Proofs.Route.Transparency
import RequestHub.Proofs.Workflow.Arrangement
import RequestHub.Proofs.Workflow.Execution
import RequestHub.Proofs.Context.Family
import RequestHub.Proofs.Context.Ending
import RequestHub.Proofs.KeyValue.Contents
import RequestHub.Proofs.KeyValue.Serving
import RequestHub.Proofs.KeyValue.Sequence
import RequestHub.Proofs.Deadline.Routine
import RequestHub.Proofs.Deadline.Cutting
import RequestHub.Proofs.Deadline.Limit
import RequestHub.Proofs.Listener.Concealment
import RequestHub.Proofs.Listener.Interleaving
import RequestHub.Proofs.Dispatch.Answered
import RequestHub.Proofs.Dispatch.Relay
import RequestHub.Proofs.Listener.Framing
import RequestHub.Proofs.Names
import RequestHub.Proofs.Text.Utf8
import RequestHub.Proofs.Text.Base64
import RequestHub.Proofs.Json.Taking
import RequestHub.Proofs.Json.Strings
import RequestHub.Proofs.Json.Numbers
import RequestHub.Proofs.Json.Collections
import RequestHub.Proofs.Decoder.Reading
import RequestHub.Proofs.Decoder.Records
import RequestHub.Proofs.Envelope.Reading
import RequestHub.Proofs.Envelope.Fields
import RequestHub.Proofs.Envelope.Hop
import RequestHub.Proofs.Envelope.Shown
import RequestHub.Proofs.Backoff.Growth
import RequestHub.Proofs.Backoff.Attempts
import RequestHub.Proofs.Backoff.Progress
import RequestHub.Proofs.Compile.Composition
import RequestHub.Proofs.Dispatch.Reflection
import RequestHub.Proofs.Text.Digits
import RequestHub.Proofs.Trace.Header
import RequestHub.Proofs.Trace.Lineage
import RequestHub.Proofs.Trace.Continuity
import RequestHub.Proofs.Remote.Delays
import RequestHub.Proofs.Remote.Forwarding
import RequestHub.Proofs.Remote.Replacement
import RequestHub.Proofs.Json.Spelling
import RequestHub.Proofs.Text.Percent
import RequestHub.Proofs.KeyValue.Naming
import RequestHub.Proofs.KeyValue.Addressing
import RequestHub.Proofs.Compile.Folding
import RequestHub.Proofs.Compile.Instantiation
import RequestHub.Proofs.Text.Pattern
import RequestHub.Proofs.Text.Trimming
import RequestHub.Proofs.Settings.Naming
import RequestHub.Proofs.Settings.Overriding
import RequestHub.Proofs.Query.Parameters
import RequestHub.Proofs.Log.Placeholders
import RequestHub.Proofs.Log.Rendering
import RequestHub.Proofs.Json.Locality
import RequestHub.Proofs.Json.Breaking
import RequestHub.Proofs.Json.Rereading
import RequestHub.Proofs.Json.Bounds
import RequestHub.Proofs.KeyValue.WritingBack
import RequestHub.Proofs.Text.Joining
import RequestHub.Proofs.Catalog.Keeping
import RequestHub.Proofs.Catalog.Loading
import RequestHub.Proofs.Listener.Instants
import RequestHub.Proofs.Json.Progress
import RequestHub.Proofs.Json.Mirroring
import RequestHub.Proofs.Decoder.Meaning
import RequestHub.Proofs.Decoder.Sections
import RequestHub.Proofs.Settings.Layering
import RequestHub.Proofs.Shutdown.Draining
import RequestHub.Proofs.Http.Address
import RequestHub.Proofs.Files.Paths
import RequestHub.Proofs.Files.Additions
import RequestHub.Proofs.Home.Reading
import RequestHub.Proofs.Hub.Loading
import RequestHub.Proofs.Application.Serving
