import Observability.Collector
import Observability.CommandLine
import Observability.Config.Basic
import Observability.Config.Decode
import Observability.Config.Fault
import Observability.Config.Parser
import Observability.Config.Problem
import Observability.Context
import Observability.Correlation
import Observability.Decimal.Binary64
import Observability.Decimal.Format
import Observability.Decimal.Shortest
import Observability.Filter
import Observability.Http
import Observability.Http.Uri
import Observability.Json.Basic
import Observability.Json.Parser
import Observability.Json.Printer
import Observability.KeyValue
import Observability.Lifecycle.Channel
import Observability.Lifecycle.Shutdown
import Observability.Log.Backend
import Observability.Log.Call
import Observability.Log.EventSink
import Observability.Log.Fanout
import Observability.Log.JsonSink
import Observability.Log.Logger
import Observability.Log.RecordingSink
import Observability.Log.Sink
import Observability.Log.Writer
import Observability.Main
import Observability.Observation
import Observability.Proofs.Config.Problems
import Observability.Proofs.Config.RoundTrip
import Observability.Proofs.Decimal.Range
import Observability.Proofs.Http.HeaderText
import Observability.Proofs.Json.DoubleText
import Observability.Proofs.Json.NumberText
import Observability.Proofs.Json.RoundTrip
import Observability.Proofs.Json.StringText
import Observability.Proofs.Keeps
import Observability.Proofs.Lifecycle.Channels
import Observability.Proofs.Lifecycle.Flush
import Observability.Proofs.Lifecycle.FlushRun
import Observability.Proofs.Lifecycle.Signalling
import Observability.Proofs.Lifecycle.Wakeups
import Observability.Proofs.Lineage.Basic
import Observability.Proofs.Lineage.Identifiers
import Observability.Proofs.Lineage.Parents
import Observability.Proofs.Lineage.Persistence
import Observability.Proofs.Lineage.Spans
import Observability.Proofs.Log.Correspondence
import Observability.Proofs.Log.Derivation
import Observability.Proofs.Log.DirectCall
import Observability.Proofs.Log.Flattening
import Observability.Proofs.Log.Framing
import Observability.Proofs.Log.Gate
import Observability.Proofs.Log.LineMembers
import Observability.Proofs.Log.ReadBack
import Observability.Proofs.Span.Attributes
import Observability.Proofs.Span.History
import Observability.Proofs.Span.Outcome
import Observability.Proofs.Span.Reports
import Observability.Proofs.Span.Settings
import Observability.Proofs.Span.Silence
import Observability.Proofs.Startup.Agreement
import Observability.Proofs.Text.Bytes
import Observability.Proofs.Text.DecimalDigits
import Observability.Proofs.Text.Scan
import Observability.Proofs.Toml.Integer
import Observability.Proofs.Toml.Lexical
import Observability.Proofs.Toml.Lines
import Observability.Proofs.Toml.Setting
import Observability.Proofs.Tracing.Call
import Observability.Proofs.Tracing.ChannelBlind
import Observability.Proofs.Tracing.Dispatch
import Observability.Proofs.Tracing.Stamping
import Observability.Proofs.Tracing.Switch
import Observability.Proofs.Tracing.Wrapped
import Observability.Proofs.Transport.Arrival
import Observability.Proofs.Transport.Conservation
import Observability.Proofs.Transport.Correlation
import Observability.Proofs.Transport.Journey
import Observability.Proofs.Transport.Layers
import Observability.Proofs.Transport.Metrics
import Observability.Proofs.Work.Handling
import Observability.Proofs.Work.Relay
import Observability.Proofs.Work.Reporting
import Observability.Service
import Observability.Severity
import Observability.Shape
import Observability.SocketAddress
import Observability.Span.Attribute
import Observability.Span.Call
import Observability.Span.Exported
import Observability.Span.Handle
import Observability.Span.Kind
import Observability.Span.Options
import Observability.Span.Status
import Observability.Startup.Error
import Observability.Startup.Logger
import Observability.Startup.Metrics
import Observability.Startup.Subscriber
import Observability.Startup.Tracing
import Observability.Text.Alphanumeric
import Observability.Text.Blank
import Observability.Text.Digit
import Observability.Text.Quoted
import Observability.Text.Unprintable
import Observability.Toml.Basic
import Observability.Toml.Document
import Observability.Toml.Quoted
import Observability.Toml.Scalar
import Observability.Toml.Table
import Observability.Toml.Value
import Observability.Tracing.Facility
import Observability.Tracing.Provider
import Observability.Tracing.ProviderError
import Observability.Tracing.Registry
import Observability.Tracing.ScriptedTransport
import Observability.Tracing.Tracer
import Observability.Transport
import Observability.UniqueId
import Observability.Work
import Observability.Proofs.Toml.Bare
import Observability.Proofs.Config.Fields
import Observability.Proofs.Config.Independence
import Observability.Proofs.Config.Rules
