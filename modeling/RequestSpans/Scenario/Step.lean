import RequestSpans.Draft
import RequestSpans.Latency
import RequestSpans.Server.Boundary

set_option autoImplicit false

namespace RequestSpans.Scenario

inductive ContextRef where
  | empty
  | named (name : String)
  | current
  | ofRequest (request : String)
deriving Repr, DecidableEq, Inhabited

structure WorkDraft where
  label : String
  pending : Nat
  reply : ReplyDraft
  panics : Bool
  outbound? : Option RequestDraft
deriving Repr, DecidableEq, Inhabited

inductive Readiness where
  | pending
  | ready
  | failed (fault : Fault)
deriving Repr, DecidableEq, Inhabited

structure ServiceDraft where
  work : WorkDraft
  readiness : List Readiness
  keep? : Option String
  callPanics : Bool
deriving Repr, DecidableEq, Inhabited

inductive LayerChoice where
  | server
  | client
  | localSpan
  | handler (handler : Handler) (coordinator : String)
deriving Repr, DecidableEq, Inhabited

inductive CallSource where
  | draft (request : RequestDraft)
  | named (request : String)
deriving Repr, DecidableEq, Inhabited

inductive Action where
  | request (name : String) (draft : RequestDraft)
  | clone (request name : String)
  | inspect (request : String)
  | isTraced (request : String)
  | enter (request : String)
  | preHandle (request : String) (handler : Handler) (coordinator : String)
  | asyncStarted (request : String) (handler : Handler) (coordinator : String)
  | afterCompletion (request : String) (handler : Handler) (coordinator : String)
      (status? : Option Nat) (fault? : Option Fault)
  | complete (request : String) (status : Nat)
  | fail (request : String) (fault : Fault)
  | cancel (request : String)
  | finish (request : String)
  | act (request : String) (actions : List SpanAction)
  | localSpan (request : String) (level : LogLevel) (component : String) (status? : Option Nat)
      (eventLevel : LogLevel) (unit : LatencyUnit) (nanoseconds : Nat)
  | startSpan (name title : String) (kind : SpanKind) (parent : ContextRef)
      (links : List ContextRef)
  | inject (context : ContextRef) (headers : List (String × String))
  | extract (name : String) (headers : List (String × String))
  | endSpan (context : ContextRef)
  | attach (context : ContextRef)
  | detach
  | describe
  | describeClient
  | startCall (name : String) (request : RequestDraft)
  | completeCall (call : String) (reply : ReplyDraft)
  | dropCall (call : String)
  | instrument (call name : String) (work : WorkDraft)
  | execute (request : RequestDraft) (reply : ReplyDraft) (panics : Bool)
  | exchange (name : String) (request : RequestDraft) (work : WorkDraft) (panics : Bool)
  | propagate (name : String) (context : ContextRef) (work : WorkDraft)
  | scopeTask (name : String) (context : ContextRef) (task : String)
  | scopeWork (name : String) (context : ContextRef) (work : WorkDraft)
  | poll (task : String)
  | drop (task : String)
  | newGuard (name : String) (context : ContextRef)
  | completeGuard (guard : String) (reply : ReplyDraft)
  | cancelGuard (guard : String)
  | inspectGuard (guard : String)
  | dropGuard (guard : String)
  | service (name : String) (stack : List LayerChoice) (inner : ServiceDraft)
  | cloneService (service name : String)
  | ready (service : String)
  | call (service name : String) (source : CallSource)
deriving Repr

structure Step where
  action : Action
  onFreshThread : Bool
deriving Repr

structure Inspection where
  untraced : Bool
  span? : Option SpanContext
  finished? : Option Bool
  active? : Option Context
deriving Repr, DecidableEq, Inhabited

inductive Result where
  | nothing
  | flag (value : Bool)
  | text (value : String)
  | refused (error : DraftError)
  | panicked
  | pending
  | polled (outcome : Outcome)
  | replied (outcome : Outcome)
  | inspected (inspection : Inspection)
  | admitted (admission : Admission) (inspection : Inspection)
  | acted (recording : Bool) (span : SpanContext)
  | spanContext (span? : Option SpanContext)
  | spanName (span? : Option SpanContext)
  | headers (headers : Headers)
  | started (request : Request) (traced : Bool) (context : Context)
  | guardState (armed : Bool) (context : Context)
  | readiness (readiness : Readiness)

end RequestSpans.Scenario
