import RequestSpans.Server.Boundary
import RequestSpans.Server.Coordinator
import RequestSpans.Task

set_option autoImplicit false

namespace RequestSpans

-- What the innermost service does with a request; a panic is its `none`. The
-- flag says whether the instance was made ready for the call.
abbrev Serve := Bool → Request → Telemetry → Option Work × Telemetry

inductive Service where
  | innermost (ready : Bool) (serve : Serve)
  | traceServer (boundary : ServerBoundary) (below : Service)
  | traceHandler (coordinator : HandlerCoordinator) (handler : Handler) (below : Service)
  | traceClient (interceptor : ClientInterceptor) (below : Service)
  | traceLocally (below : Service)

abbrev Called := Service × Option Task × Telemetry

namespace Service

def clone : Service → Service
  | .innermost _ serve => .innermost false serve
  | .traceServer boundary below => .traceServer boundary below.clone
  | .traceHandler coordinator handler below => .traceHandler coordinator handler below.clone
  | .traceClient interceptor below => .traceClient interceptor below.clone
  | .traceLocally below => .traceLocally below.clone

def makeReady : Service → Service
  | .innermost _ serve => .innermost true serve
  | .traceServer boundary below => .traceServer boundary below.makeReady
  | .traceHandler coordinator handler below => .traceHandler coordinator handler below.makeReady
  | .traceClient interceptor below => .traceClient interceptor below.makeReady
  | .traceLocally below => .traceLocally below.makeReady

def serverTerminal (boundary : ServerBoundary) (request : Request) : Terminal where
  fire
    | .success response, t => boundary.complete request response t
    | .failure fault, t => boundary.fail request fault t
    | .cancelled, t => boundary.cancel request t
  holds := request.marks.spans

def handlerTerminal (coordinator : HandlerCoordinator) (handler : Handler) (request : Request) :
    Terminal where
  fire
    | .success response, t =>
      (coordinator.afterCompletion request (some response) handler none t).2
    | .failure fault, t => (coordinator.afterCompletion request none handler (some fault) t).2
    | .cancelled, t => (coordinator.afterCompletion request none handler none t).2
  holds := request.marks.spans

def guardTask (context : Context) (terminal : Terminal) (opened : List SpanContext)
    (task? : Option Task) (t : Telemetry) : Option Task × Telemetry :=
  match task? with
  | some task => (some (.propagate context terminal task), t)
  | none => (none, opened.foldl Telemetry.release t)

def callServer (boundary : ServerBoundary) (request : Request)
    (call : Request → Telemetry → Option Task × Telemetry) (t : Telemetry) :
    Option Task × Telemetry :=
  match boundary.enter request t with
  | (.started span, request, t) =>
    let (task?, t) := t.within (.of span) fun t => call request t
    guardTask (.of span) (serverTerminal boundary request) [span] task? t
  | (_, request, t) => call request t

def callHandler (coordinator : HandlerCoordinator) (handler : Handler) (request : Request)
    (call : Request → Telemetry → Option Task × Telemetry) (t : Telemetry) :
    Option Task × Telemetry :=
  let (prepared, t) := coordinator.preHandle request handler t
  let context := prepared.marks.active?.getD t.current
  let (task?, t) := t.within context fun t => call prepared t
  let opened := prepared.marks.spans.filter fun span => !request.marks.spans.contains span
  guardTask context (handlerTerminal coordinator handler prepared) opened task? t

def callClient (interceptor : ClientInterceptor) (request : Request)
    (call : Request → Telemetry → Option Task × Telemetry) (t : Telemetry) :
    Option Task × Telemetry :=
  let (request, outbound, t) := interceptor.start request t
  let (task?, t) := t.within (outbound.context t) fun t => call request t
  match task? with
  | some task => (some (outbound.instrument task), t)
  | none => (none, outbound.drop t)

def callLocalized (request : Request) (call : Request → Telemetry → Option Task × Telemetry)
    (t : Telemetry) : Option Task × Telemetry :=
  let (span, t) := LocalSpan.openFor .debug "http-server" request t
  let (span, t) := span.enter t
  let (task?, t) := call request t
  let t := span.exit t
  match task? with
  | some task => (some (.localized span task), t)
  | none => (none, span.close t)

def dispatch : Service → Request → Telemetry → Option Task × Telemetry
  | .innermost ready serve, request, t =>
    let (work?, t) := serve ready request t
    (work?.map Task.ofWork, t)
  | .traceServer boundary below, request, t => callServer boundary request below.dispatch t
  | .traceHandler coordinator handler below, request, t =>
    callHandler coordinator handler request below.dispatch t
  | .traceClient interceptor below, request, t => callClient interceptor request below.dispatch t
  | .traceLocally below, request, t => callLocalized request below.dispatch t

-- The instance that is left after a call: a call uses up readiness, and the
-- layers that hand over their ready instance keep a copy instead.
def afterCall : Service → Service
  | .innermost _ serve => .innermost false serve
  | .traceServer boundary below => .traceServer boundary below.clone
  | .traceHandler coordinator handler below => .traceHandler coordinator handler below.clone
  | .traceClient interceptor below => .traceClient interceptor below.afterCall
  | .traceLocally below => .traceLocally below.afterCall

def call (service : Service) (request : Request) (t : Telemetry) : Called :=
  let (task?, t) := service.dispatch request t
  (service.afterCall, task?, t)

end Service

end RequestSpans
