import RequestSpans.Http.Message
import RequestSpans.Trace.Context

set_option autoImplicit false

namespace RequestSpans

inductive Scalar where
  | text (value : String)
  | flag (value : Bool)
  | int (value : Int)
deriving Repr, DecidableEq, Inhabited

abbrev Attribute := String × Scalar

structure SpanEvent where
  name : String
  attributes : List Attribute
deriving Repr, DecidableEq, Inhabited

inductive SpanKind where
  | client
  | server
  | producer
  | consumer
  | internal
deriving Repr, DecidableEq, Inhabited

def SpanKind.tag : SpanKind → String
  | .client => "client"
  | .server => "server"
  | .producer => "producer"
  | .consumer => "consumer"
  | .internal => "internal"

inductive SpanStatus where
  | unset
  | error (description : String)
  | ok
deriving Repr, DecidableEq, Inhabited

def SpanStatus.below : SpanStatus → SpanStatus → Bool
  | .unset, .unset => false
  | .unset, _ => true
  | .error a, .error b => decide (a < b)
  | .error _, .ok => true
  | _, _ => false

-- `finished` is set by the stage that closed the span, `ended` once the span
-- itself is over.
structure Span where
  name : String
  kind : SpanKind
  context : SpanContext
  parent? : Option SpanContext
  attributes : List Attribute
  droppedAttributes : Nat
  events : List SpanEvent
  droppedEvents : Nat
  links : List SpanContext
  status : SpanStatus
  finished : Bool
  ended : Bool
deriving Repr, DecidableEq, Inhabited

namespace Span

def limit : Nat := 128

def addAttribute (span : Span) (tag : Attribute) : Span :=
  if span.attributes.length < limit then
    { span with attributes := span.attributes ++ [tag] }
  else { span with droppedAttributes := span.droppedAttributes + 1 }

def addEvent (span : Span) (event : SpanEvent) : Span :=
  if span.events.length < limit then
    let kept := { event with attributes := event.attributes.take limit }
    { span with events := span.events ++ [kept] }
  else { span with droppedEvents := span.droppedEvents + 1 }

def setStatus (span : Span) (status : SpanStatus) : Span :=
  if span.status.below status then { span with status := status } else span

def rename (span : Span) (name : String) : Span := { span with name := name }

def isRecording (span : Span) : Bool := span.context.sampled && !span.ended

end Span

-- What may be done to a span that someone else owns: everything but ending it.
inductive SpanAction where
  | tag (tag : Attribute)
  | tags (tags : List Attribute)
  | event (event : SpanEvent)
  | status (status : SpanStatus)
  | rename (name : String)
  | recordError (fault : Fault)
deriving Repr, DecidableEq, Inhabited

namespace SpanAction

def faultEvent (fault : Fault) : SpanEvent :=
  let stack := if fault.causes.isEmpty then []
    else [("stack", Scalar.text ("\ncaused by: ".intercalate fault.causes))]
  ⟨"error",
    [("event", .text "error"), ("error.object", .text fault.debug),
      ("message", .text fault.message)] ++ stack⟩

def apply (span : Span) : SpanAction → Span
  | .tag pair => span.addAttribute pair
  | .tags pairs => pairs.foldl Span.addAttribute span
  | .event entry => span.addEvent entry
  | .status level => span.setStatus level
  | .rename name => span.rename name
  | .recordError fault =>
    ((span.addAttribute ("error", .flag true)).setStatus (.error fault.message)).addEvent
      (faultEvent fault)

end SpanAction

end RequestSpans
