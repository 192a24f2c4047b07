import RequestSpans.Pattern.Budget
import RequestSpans.Scenario.Script
import RequestSpans.Scenario.Setup
import RequestSpans.Scenario.Step

set_option autoImplicit false

namespace RequestSpans.Scenario

abbrev Bindings (α : Type) := List (String × α)

namespace Bindings

variable {α : Type}

def get? (bindings : Bindings α) (name : String) : Option α :=
  (bindings.find? fun entry => entry.1 = name).map (·.2)

def erase (bindings : Bindings α) (name : String) : Bindings α :=
  bindings.filter fun entry => entry.1 ≠ name

def put (bindings : Bindings α) (name : String) (value : α) : Bindings α :=
  (name, value) :: bindings.erase name

end Bindings

-- A service and where it takes its readiness from, which its copies share.
structure Instance where
  service : Service
  queue : Nat

structure Session where
  tracing : Tracing
  telemetry : Telemetry
  requests : Bindings Request
  contexts : Bindings Context
  calls : Bindings ClientCall
  tasks : Bindings Task
  guards : Bindings TerminalGuard
  services : Bindings Instance
  queues : List (List Readiness)

namespace Session

def start (tracing : Tracing) (telemetry : Telemetry) : Session :=
  ⟨tracing, telemetry, [], [], [], [], [], [], []⟩

def bindRequest (s : Session) (name : String) (request : Request) : Session :=
  { s with requests := s.requests.put name request }

def bindContext (s : Session) (name : String) (context : Context) : Session :=
  { s with contexts := s.contexts.put name context }

def letGo {α : Type} (s : Session) (old? : Option α) (drop : α → Telemetry → Telemetry) :
    Session :=
  match old? with
  | some old => { s with telemetry := drop old s.telemetry }
  | none => s

def bindTask (s : Session) (name : String) (task : Task) : Session :=
  { s with tasks := s.tasks.put name task }.letGo (s.tasks.get? name) Task.drop

def bindCall (s : Session) (name : String) (call : ClientCall) : Session :=
  { s with calls := s.calls.put name call }.letGo (s.calls.get? name) ClientCall.drop

def bindGuard (s : Session) (name : String) (guard : TerminalGuard) : Session :=
  { s with guards := s.guards.put name guard }.letGo (s.guards.get? name) TerminalGuard.drop

def context (s : Session) : ContextRef → Context
  | .empty => .empty
  | .named name => (s.contexts.get? name).getD .empty
  | .current => s.telemetry.current
  | .ofRequest name => ((s.requests.get? name).bind (·.marks.active?)).getD .empty

def inspect (s : Session) (request : Request) : Inspection :=
  { untraced := request.marks.untraced, span? := request.marks.wrapper?,
    finished? := request.marks.wrapper?.map s.telemetry.isFinished,
    active? := request.marks.active? }

def onRequest (s : Session) (name : String) (step : Request → Telemetry → Request × Telemetry) :
    Result × Session :=
  match s.requests.get? name with
  | none => (.nothing, s)
  | some request =>
    let (request, t) := step request s.telemetry
    let s := { s with telemetry := t }.bindRequest name request
    (.inspected (s.inspect request), s)

def checked {α : Type} (s : Session) (message : Except DraftError α)
    (step : α → Result × Session) : Result × Session :=
  match message with
  | .ok value => step value
  | .error error => (.refused error, s)

def script (draft : WorkDraft) : Except DraftError WorkScript := do
  let outbound? ← draft.outbound?.mapM RequestDraft.check
  let reply ← draft.reply.check
  .ok ⟨draft.label, draft.pending, reply, draft.panics, outbound?⟩

def work (s : Session) (draft : WorkDraft) : Except DraftError Work :=
  (script draft).map fun script => script.work s.tracing.interceptor

def bare (status : Status) : Response := ⟨status, .empty, ""⟩

def layer (s : Session) (choice : LayerChoice) (below : Service) : Service :=
  match choice with
  | .server => .traceServer s.tracing.boundary below
  | .client => .traceClient s.tracing.interceptor below
  | .localSpan => .traceLocally below
  | .handler handler coordinator =>
    .traceHandler (s.tracing.coordinator coordinator) handler below

def runLocal (request : Request) (level : LogLevel) (component : String)
    (code? : Option Nat) (eventLevel : LogLevel) (latency : String) (t : Telemetry) :
    Result × Telemetry :=
  let (span, t) := LocalSpan.openFor level component request t
  match code?.map ReplyDraft.checkStatus with
  | none => (.text "request", span.close t)
  | some (.error error) => (.refused error, span.close t)
  | some (.ok status) =>
    let (span, t) := span.enter t
    (.text "request", span.close (span.exit (span.onResponse eventLevel latency status t)))

def actOn (request : Request) (actions : List SpanAction) (t : Telemetry) : Result × Telemetry :=
  match request.marks.wrapper? with
  | none => (.nothing, t)
  | some span =>
    let t := t.act span actions
    (.acted (t.isRecording span) span, t)

def finish (request : Request) (t : Telemetry) : Result × Telemetry :=
  match request.marks.wrapper? with
  | none => (.nothing, t)
  | some span =>
    let (closed, t) := t.finish span
    (.flag closed, t)

def withRequest (s : Session) (name : String) (step : Request → Telemetry → Result × Telemetry) :
    Result × Session :=
  match s.requests.get? name with
  | none => (.nothing, s)
  | some request =>
    let (result, t) := step request s.telemetry
    (result, { s with telemetry := t })

def poll (s : Session) (name : String) : Result × Session :=
  match s.tasks.get? name with
  | none => (.nothing, s)
  | some task =>
    let (polled, t) := task.poll s.telemetry
    let s := { s with telemetry := t, tasks := s.tasks.erase name }
    match polled with
    | .pending rest => (.pending, s.bindTask name rest)
    | .ready outcome => (.polled outcome, s)
    | .panicked => (.panicked, s)

def signalGuard (s : Session) (name : String) (signal : Signal) : Result × Session :=
  match s.guards.get? name with
  | none => (.nothing, s)
  | some guard =>
    let (first, guard, t) := guard.signal signal s.telemetry
    (.flag first, { s with telemetry := t, guards := s.guards.put name guard })

def makeService (s : Session) (name : String) (stack : List LayerChoice) (keep? : Option String)
    (callPanics : Bool) (readiness : List Readiness) (script : WorkScript) : Session :=
  let inner : ServiceScript := ⟨script, keep?, callPanics⟩
  let service := stack.foldr s.layer (.innermost false (inner.serve s.tracing.interceptor))
  { s with
    services := s.services.put name ⟨service, s.queues.length⟩
    queues := s.queues ++ [readiness] }

def pollReady (s : Session) (name : String) : Result × Session :=
  match s.services.get? name with
  | none => (.nothing, s)
  | some entry =>
    let queue := (s.queues[entry.queue]?).getD []
    let verdict := queue.headD .ready
    let service := if verdict = .ready then entry.service.makeReady else entry.service
    (.readiness verdict,
      { s with
        services := s.services.put name ⟨service, entry.queue⟩
        queues := s.queues.set entry.queue queue.tail })

def callService (s : Session) (service name : String) (request : Request) : Result × Session :=
  match s.services.get? service with
  | none => (.nothing, s)
  | some entry =>
    let (after, task?, t) := entry.service.call request s.telemetry
    let s := { s with
      telemetry := t
      services := s.services.put service ⟨after, entry.queue⟩ }
    match task? with
    | some task => (.nothing, s.bindTask name task)
    | none => (.panicked, s)

def execute (s : Session) (request : Request) (reply? : Option Outcome) : Result × Session :=
  let (outcome?, t) := s.tracing.interceptor.execute request
    (fun request t => (reply?, noteSent request t)) s.telemetry
  let s := { s with telemetry := t }
  match outcome? with
  | some outcome => (.replied outcome, s)
  | none => (.panicked, s)

def performOnRequest (s : Session) : Action → Option (Result × Session)
  | .request name draft =>
    some (s.checked draft.check fun request =>
      (.nothing, s.bindRequest name { request with body := "" }))
  | .clone name copy =>
    some (match s.requests.get? name with
      | some request => (.nothing, s.bindRequest copy request)
      | none => (.nothing, s))
  | .inspect name => some (s.onRequest name fun request t => (request, t))
  | .isTraced name =>
    some (s.withRequest name fun request t =>
      let (traced, t) := s.tracing.boundary.isTraced request t
      (.flag traced, t))
  | .enter name =>
    some (match s.requests.get? name with
      | none => (.nothing, s)
      | some request =>
        let (admission, request, t) := s.tracing.boundary.enter request s.telemetry
        let s := { s with telemetry := t }.bindRequest name request
        (.admitted admission (s.inspect request), s))
  | .preHandle name handler coordinator =>
    some (s.onRequest name fun request t =>
      (s.tracing.coordinator coordinator).preHandle request handler t)
  | .asyncStarted name handler coordinator =>
    some (s.onRequest name fun request t =>
      (s.tracing.coordinator coordinator).asyncStarted request handler t)
  | .afterCompletion name handler coordinator status? fault? =>
    some (s.checked (status?.mapM ReplyDraft.checkStatus) fun status? =>
      s.onRequest name fun request t =>
        (s.tracing.coordinator coordinator).afterCompletion request (status?.map bare) handler
          fault? t)
  | .complete name status =>
    some (s.checked (ReplyDraft.checkStatus status) fun status =>
      s.onRequest name fun request t =>
        (request, s.tracing.boundary.complete request (bare status) t))
  | .fail name fault =>
    some (s.onRequest name fun request t => (request, s.tracing.boundary.fail request fault t))
  | .cancel name =>
    some (s.onRequest name fun request t => (request, s.tracing.boundary.cancel request t))
  | .finish name => some (s.withRequest name finish)
  | .act name actions => some (s.withRequest name fun request t => actOn request actions t)
  | .localSpan name level component code? eventLevel unit nanoseconds =>
    some (s.withRequest name fun request t =>
      runLocal request level component code? eventLevel (Latency.render unit nanoseconds) t)
  | _ => none

def performOnContext (s : Session) : Action → Option (Result × Session)
  | .startSpan name title kind parent links =>
    let links := links.filterMap fun link => (s.context link).span?
    let (span, t) := s.tracing.instrumentation.startSpan title kind (s.context parent) links
      s.telemetry
    some (.spanContext (some span), { s with telemetry := t }.bindContext name (.of span))
  | .inject context headers =>
    some (s.checked (Draft.headers headers) fun headers =>
      (.headers (s.tracing.instrumentation.inject (s.context context) headers s.telemetry), s))
  | .extract name headers =>
    some (s.checked (Draft.headers headers) fun headers =>
      let context := s.tracing.instrumentation.extract headers s.telemetry
      (.spanContext context.span?, s.bindContext name context))
  | .endSpan context =>
    some (match (s.context context).span? with
      | some span => (.nothing, { s with telemetry := s.telemetry.endSpan span })
      | none => (.nothing, s))
  | .attach context =>
    let t := s.telemetry.attach (s.context context)
    some (.spanName t.current.span?, { s with telemetry := t })
  | .detach =>
    let t := s.telemetry.detach
    some (.spanName t.current.span?, { s with telemetry := t })
  | .describe => some (.text s.tracing.instrumentation.debug, s)
  | .describeClient => some (.text s.tracing.interceptor.debug, s)
  | _ => none

def performOnCall (s : Session) : Action → Option (Result × Session)
  | .startCall name draft =>
    some (s.checked draft.check fun request =>
      let (request, call, t) := s.tracing.interceptor.start request s.telemetry
      (.started request call.isTraced (call.context t),
        { s with telemetry := t }.bindCall name call))
  | .completeCall name reply =>
    some (s.checked reply.check fun outcome =>
      match s.calls.get? name with
      | none => (.nothing, s)
      | some call =>
        let (outcome, t) := call.complete outcome s.telemetry
        (.replied outcome, { s with telemetry := t, calls := s.calls.erase name }))
  | .dropCall name =>
    some (match s.calls.get? name with
      | none => (.nothing, s)
      | some call =>
        (.nothing, { s with telemetry := call.drop s.telemetry, calls := s.calls.erase name }))
  | .instrument name task draft =>
    some (s.checked (s.work draft) fun work =>
      match s.calls.get? name with
      | none => (.nothing, s)
      | some call =>
        (.nothing,
          { s with calls := s.calls.erase name }.bindTask task (call.instrument (.ofWork work))))
  | .execute draft reply panics =>
    some (s.checked draft.check fun request =>
      s.checked reply.check fun outcome =>
        s.execute request (if panics then none else some outcome))
  | .exchange name draft work panics =>
    some (s.checked draft.check fun request =>
      s.checked (s.work work) fun work =>
        (.nothing,
          s.bindTask name (.lazyCall s.tracing.interceptor request fun request t =>
            (if panics then none else some work, noteSent request t))))
  | _ => none

def performOnTask (s : Session) : Action → Option (Result × Session)
  | .propagate name context draft =>
    some (s.checked (s.work draft) fun work =>
      (.nothing,
        s.bindTask name (.propagate (s.context context) (recorder name) (.ofWork work))))
  | .scopeTask name context task =>
    some (match s.tasks.get? task with
      | none => (.nothing, s)
      | some inner =>
        (.nothing,
          { s with tasks := s.tasks.erase task }.bindTask name (.scoped (s.context context) inner)))
  | .scopeWork name context draft =>
    some (s.checked (s.work draft) fun work =>
      (.nothing, s.bindTask name (.scoped (s.context context) (.ofWork work))))
  | .poll name => some (s.poll name)
  | .drop name =>
    some (match s.tasks.get? name with
      | none => (.nothing, s)
      | some task =>
        (.nothing, { s with telemetry := task.drop s.telemetry, tasks := s.tasks.erase name }))
  | .newGuard name context =>
    some (.nothing, s.bindGuard name (.new (s.context context) (recorder name)))
  | .completeGuard name reply =>
    some (s.checked reply.check fun outcome => s.signalGuard name (.ofOutcome outcome))
  | .cancelGuard name => some (s.signalGuard name .cancelled)
  | .inspectGuard name =>
    some (match s.guards.get? name with
      | none => (.nothing, s)
      | some guard => (.guardState guard.isArmed guard.context, s))
  | .dropGuard name =>
    some (match s.guards.get? name with
      | none => (.nothing, s)
      | some guard =>
        (.nothing, { s with telemetry := guard.drop s.telemetry, guards := s.guards.erase name }))
  | _ => none

def performOnService (s : Session) : Action → Result × Session
  | .service name stack inner =>
    s.checked (script inner.work) fun script =>
      (.nothing, s.makeService name stack inner.keep? inner.callPanics inner.readiness script)
  | .cloneService name copy =>
    match s.services.get? name with
    | none => (.nothing, s)
    | some entry =>
      (.nothing,
        { s with services := s.services.put copy ⟨entry.service.clone, entry.queue⟩ })
  | .ready name => s.pollReady name
  | .call service name (.draft draft) =>
    s.checked draft.check fun request => s.callService service name request
  | .call service name (.named request) =>
    match s.requests.get? request with
    | none => (.nothing, s)
    | some request => s.callService service name request
  | _ => (.nothing, s)

def perform (s : Session) (action : Action) : Result × Session :=
  ((((s.performOnRequest action).or (s.performOnContext action)).or
    (s.performOnCall action)).or (s.performOnTask action)).getD (s.performOnService action)

def holds (s : Session) : List SpanContext :=
  (s.requests.flatMap fun entry => entry.2.marks.spans)
    ++ (s.contexts.flatMap fun entry => entry.2.span?.toList)
    ++ (s.calls.flatMap fun entry => entry.2.holds)
    ++ (s.tasks.flatMap fun entry => entry.2.holds)
    ++ (s.guards.flatMap fun entry => entry.2.holds)
    ++ (s.telemetry.ambient.flatMap fun context => context.span?.toList)

def withHolds (s : Session) : Session :=
  { s with telemetry := { s.telemetry with held := [] }.hold s.holds }

def bindKept (s : Session) (entries : List Entry) : Session :=
  entries.foldl (fun s entry =>
    match entry with
    | .received request _ _ _ (some name) => s.bindRequest name { request with body := "" }
    | _ => s) s

def performApart (s : Session) (action : Action) : Result × Session :=
  let ambient := s.telemetry.ambient
  let (result, s) := { s with telemetry := { s.telemetry with ambient := [] } }.perform action
  (result, { s with telemetry := { s.telemetry with ambient := ambient } })

-- Runs one step and answers with its result and what it added to the journal.
-- Spans that nobody holds any more end with the step.
def run (s : Session) (step : Step) : Result × List Entry × Session :=
  let before := s.telemetry.journal.length
  let s := s.withHolds
  let (result, s) := if step.onFreshThread then s.performApart step.action
    else s.perform step.action
  let s := (s.bindKept (s.telemetry.journal.drop before)).withHolds
  let s := { s with telemetry := s.telemetry.releaseUnheld }
  (result, s.telemetry.journal.drop before, s)

def runAll (s : Session) : List Step → List (Result × List Entry)
  | [] => []
  | step :: rest =>
    let (result, entries, s) := s.run step
    (result, entries) :: s.runAll rest

end Session

def Settings.run [Pattern.Engine] (settings : Settings) (steps : List Step) :
    Except SetupError (List (Result × List Entry)) :=
  settings.tracing.map fun tracing => (Session.start tracing settings.telemetry).runAll steps

end RequestSpans.Scenario
