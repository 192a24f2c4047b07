import RequestSpans.Proofs.Comparison.Service

set_option autoImplicit false

namespace RequestSpans

def Operation.admission? (operation : Operation) (request : Request) (t : Telemetry) : Option Admission :=
  match operation with
  | .enter boundary => some (boundary.enter request t).1
  | _ => none

def Service.opensLocally : Service → Bool
  | .innermost _ _ => false
  | .traceServer _ below => below.opensLocally
  | .traceHandler _ _ below => below.opensLocally
  | .traceClient _ below => below.opensLocally
  | .traceLocally _ => true

def Entry.isReport : Entry → Bool
  | .logged record => record.message = "no server span on request; install the server tracing layer in front of handlers"
  | _ => false

def unreported (entries : List Entry) : List Entry := entries.filter fun entry => !entry.isReport

theorem unreported_append (first second : List Entry) : unreported (first ++ second) = unreported first ++ unreported second :=
  List.filter_append _ _

namespace Telemetry

-- A thread has an ambient context of its own. Between turns nothing is inside of
-- local spans, and a turn lets go of no span that there was before it.
def onThread (t : Telemetry) (ambient : List Context) : Telemetry := { t with ambient, entered := [], held := [] }

def reserve (t : Telemetry) (spans traces : Nat) : Telemetry :=
  { t with traces, spans := t.spans ++ List.replicate (spans - t.spans.length) default }

end Telemetry

namespace Members

inductive Member where
  | asked (request : Request)
  | calling (call : ClientCall)
  | running (task : Task)
  | done

inductive Move where
  | operate (operation : Operation)
  | dispatch (service : Service)
  | start (interceptor : ClientInterceptor)
  | execute (interceptor : ClientInterceptor) (send : Request → Telemetry → Option Outcome × Telemetry)
  | exchange (interceptor : ClientInterceptor) (send : Request → Telemetry → Option Work × Telemetry)
  | complete (outcome : Outcome)
  | instrument (work : Work)
  | scope (context : Context)
  | propagate (context : Context) (terminal : Terminal)
  | poll
  | drop

inductive Reply where
  | idle
  | operated (admission? : Option Admission) (request : Request)
  | called (accepted : Bool)
  | sent (request : Request) (traced : Bool)
  | replied (outcome : Outcome)
  | deferred
  | pending
  | panicked
  | dropped

structure Step where
  reply : Reply
  member : Member
  telemetry : Telemetry

abbrev Answer := Reply × List Entry

namespace Step

def ofOperation (admission? : Option Admission) (left : Request × Telemetry) : Step :=
  ⟨.operated admission? left.1, .asked left.1, left.2⟩

def ofStart (started : Request × ClientCall × Telemetry) : Step :=
  ⟨.sent started.1 started.2.1.isTraced, .calling started.2.1, started.2.2⟩

def ofDispatch : Option Task × Telemetry → Step
  | (some task, t) => ⟨.called true, .running task, t⟩
  | (none, t) => ⟨.called false, .done, t⟩

def ofExecution : Option Outcome × Telemetry → Step
  | (some outcome, t) => ⟨.replied outcome, .done, t⟩
  | (none, t) => ⟨.panicked, .done, t⟩

def ofPoll : Polled × Telemetry → Step
  | (.pending rest, t) => ⟨.pending, .running rest, t⟩
  | (.ready outcome, t) => ⟨.replied outcome, .done, t⟩
  | (.panicked, t) => ⟨.panicked, .done, t⟩

def answer (step : Step) (t : Telemetry) : Answer :=
  (step.reply, unreported (step.telemetry.journal.drop t.journal.length))

end Step

namespace Member

def stepAsked (request : Request) (move : Move) (t : Telemetry) : Step :=
  match move with
  | .operate operation => .ofOperation (operation.admission? request t) (operation.apply request t)
  | .dispatch service => .ofDispatch (service.dispatch request t)
  | .start interceptor => .ofStart (interceptor.start request t)
  | .execute interceptor send => .ofExecution (interceptor.execute request send t)
  | .exchange interceptor send => ⟨.deferred, .running (.lazyCall interceptor request send), t⟩
  | _ => ⟨.idle, .asked request, t⟩

def stepCalling (call : ClientCall) (move : Move) (t : Telemetry) : Step :=
  match move with
  | .complete outcome =>
      let (outcome, t) := call.complete outcome t
      ⟨.replied outcome, .done, t⟩
  | .instrument work => ⟨.deferred, .running (call.instrument (.ofWork work)), t⟩
  | .drop => ⟨.dropped, .done, call.drop t⟩
  | _ => ⟨.idle, .calling call, t⟩

def stepRunning (task : Task) (move : Move) (t : Telemetry) : Step :=
  match move with
  | .scope context => ⟨.deferred, .running (.scoped context task), t⟩
  | .propagate context terminal => ⟨.deferred, .running (.propagate context terminal task), t⟩
  | .poll => .ofPoll (task.poll t)
  | .drop => ⟨.dropped, .done, task.drop t⟩
  | _ => ⟨.idle, .running task, t⟩

def step (member : Member) (move : Move) (t : Telemetry) : Step :=
  match member with
  | .asked request => stepAsked request move t
  | .calling call => stepCalling call move t
  | .running task => stepRunning task move t
  | .done => ⟨.idle, .done, t⟩

-- Whether a move opens a span below the ambient context, or runs code in it: a
-- request is entered and traced, a service is called that has no span of its own
-- to call it in, a traced call is started, or a task is polled that has no context
-- of its own yet.
def opens : Member → Move → Bool
  | .asked request, .operate (.enter boundary) => !request.entered && boundary.traces request
  | .asked request, .dispatch service => service.exposes request
  | .asked _, .start interceptor => interceptor.enabled
  | .asked _, .execute _ _ => true
  | .running task, .poll => task.exposed
  | _, _ => false

-- A request that no boundary has looked at is not traced, and a handler complains
-- about the first of them. Inside of a local span that would be noted there, so a
-- service with local spans is to enter its requests before it shows them to
-- handlers.
def meets : Member → Move → Bool
  | .asked request, .dispatch service => request.entered || !service.handlesFirst || !service.opensLocally
  | _, _ => true

end Member

structure Turn where
  member : Nat
  move : Move
  ambient : List Context

structure Moment where
  turn : Turn
  member : Member
  spans : Nat
  traces : Nat
  answer : Answer

-- `owners` says for each span in whose turn it was started.
structure Pool where
  members : List Member
  telemetry : Telemetry
  owners : List Nat

def drawn (owners : List Nat) (k : Nat) (t : Telemetry) : List Nat :=
  owners ++ List.replicate (t.spans.length - owners.length) k

namespace Pool

def gather (family : List Request) (t : Telemetry) : Pool :=
  ⟨family.map Member.asked, t, List.replicate t.spans.length family.length⟩

def after (pool : Pool) (turn : Turn) (member : Member) : Pool :=
  let step := member.step turn.move (pool.telemetry.onThread turn.ambient)
  ⟨pool.members.set turn.member step.member, step.telemetry, drawn pool.owners turn.member step.telemetry⟩

def moment (pool : Pool) (turn : Turn) (member : Member) : Moment :=
  let t := pool.telemetry.onThread turn.ambient
  ⟨turn, member, t.spans.length, t.traces, (member.step turn.move t).answer t⟩

def run : Pool → List Turn → List Moment × Pool
  | pool, [] => ([], pool)
  | pool, turn :: rest =>
    match pool.members[turn.member]? with
    | none => pool.run rest
    | some member =>
      let (moments, later) := (pool.after turn member).run rest
      (pool.moment turn member :: moments, later)

def moments (pool : Pool) (turns : List Turn) (k : Nat) : List Moment :=
  (pool.run turns).1.filter fun moment => moment.turn.member = k

end Pool

-- The moments of a member once more, with nobody else around, on threads with
-- these ambient contexts. Its spans and traces get the numbers that they had.
def Member.alone : Member → Telemetry → List (Moment × List Context) → List Answer × Telemetry
  | _, t, [] => ([], t)
  | member, t, (moment, ambient) :: rest =>
    let t := (t.reserve moment.spans moment.traces).onThread ambient
    let step := member.step moment.turn.move t
    let (answers, later) := alone step.member step.telemetry rest
    (step.answer t :: answers, later)

structure AsAlone (k : Nat) (moments : List Moment) (later : Pool) (alone : List Answer × Telemetry) : Prop where
  answers : alone.1 = moments.map Moment.answer
  spans : ∀ index : Nat, later.owners[index]? = some k → later.telemetry.spans[index]? = alone.2.spans[index]?

end Members

end RequestSpans
