import RequestSpans.BuildError
import RequestSpans.Client.Interceptor
import RequestSpans.Client.Tags
import RequestSpans.Config.Basic
import RequestSpans.Config.Decode
import RequestSpans.Decimal.Double
import RequestSpans.Decorator
import RequestSpans.Draft
import RequestSpans.Http.Header
import RequestSpans.Http.Message
import RequestSpans.Http.Target
import RequestSpans.Http.Uri
import RequestSpans.Instrumentation
import RequestSpans.Journal
import RequestSpans.Json
import RequestSpans.Json.Printer
import RequestSpans.Latency
import RequestSpans.LocalSpan
import RequestSpans.Pattern.Basic
import RequestSpans.Pattern.Bracket
import RequestSpans.Pattern.CharSet
import RequestSpans.Pattern.Flags
import RequestSpans.Pattern.Parser
import RequestSpans.Pattern.Primitive
import RequestSpans.Pattern.Ranges
import RequestSpans.Pattern.Unicode.Category
import RequestSpans.Pattern.Unicode.Folding
import RequestSpans.Pattern.Unicode.Property
import RequestSpans.Pattern.Unicode.Script
import RequestSpans.Proofs.Client.Call
import RequestSpans.Proofs.Growth
import RequestSpans.Proofs.Ledger
import RequestSpans.Proofs.Schedule
import RequestSpans.Proofs.Server.Boundary
import RequestSpans.Proofs.Server.Continuation
import RequestSpans.Proofs.Server.Coordinator
import RequestSpans.Proofs.Server.Operation
import RequestSpans.Proofs.Server.Sharing
import RequestSpans.Proofs.Server.Stack
import RequestSpans.Request
import RequestSpans.Scenario.Script
import RequestSpans.Scenario.Session
import RequestSpans.Scenario.Setup
import RequestSpans.Scenario.Single
import RequestSpans.Scenario.Step
import RequestSpans.Server.Boundary
import RequestSpans.Server.Coordinator
import RequestSpans.Server.Handler
import RequestSpans.Server.Tags
import RequestSpans.Service
import RequestSpans.Skip
import RequestSpans.Span
import RequestSpans.Task
import RequestSpans.Telemetry
import RequestSpans.Terminal
import RequestSpans.Text.Case
import RequestSpans.Text.Numeral
import RequestSpans.Text.Quoted
import RequestSpans.Text.Split
import RequestSpans.Trace.Context
import RequestSpans.Trace.Propagation
import RequestSpans.Trace.State
import RequestSpans.UrlScope
import RequestSpans.Proofs.Trace.State
import RequestSpans.Proofs.Trace.Propagation
import RequestSpans.Proofs.Server.Parent
import RequestSpans.Proofs.Hops
import RequestSpans.Proofs.Server.Suspension
import RequestSpans.Proofs.Server.HandlerChain
import RequestSpans.Proofs.Comparison.Service
import RequestSpans.Proofs.Scopes
import RequestSpans.Proofs.Panics.Run
import RequestSpans.Proofs.Members.Run
import RequestSpans.Proofs.Client.Ways
import RequestSpans.Proofs.Server.Decision
import RequestSpans.Proofs.Server.Passage
import RequestSpans.Proofs.Server.ActiveContext
import RequestSpans.Proofs.Server.ContinuationStack
import RequestSpans.Proofs.Server.Nesting
import RequestSpans.Proofs.Readiness
import RequestSpans.Proofs.Untraced
import RequestSpans.Proofs.Skip
import RequestSpans.Proofs.Skip.Refeeding
import RequestSpans.Proofs.Skip.Endpoints
import RequestSpans.Proofs.Unwinding
import RequestSpans.Proofs.UrlScope.Segments
import RequestSpans.Proofs.Terminal
import RequestSpans.Proofs.Client.Exchange
import RequestSpans.Proofs.Client.Injection
import RequestSpans.Proofs.Client.Layers
import RequestSpans.Proofs.Outcome
import RequestSpans.Proofs.Server.Missing
import RequestSpans.Proofs.Http.Header
import RequestSpans.Proofs.Config
import RequestSpans.Proofs.Http.Target
import RequestSpans.Proofs.Http.Forwarded
