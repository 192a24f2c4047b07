import RequestSpans.Decorator

set_option autoImplicit false

namespace RequestSpans

inductive LogLevel where
  | trace
  | debug
  | info
  | warn
  | error
deriving Repr, DecidableEq, Inhabited

def LogLevel.name : LogLevel → String
  | .trace => "trace"
  | .debug => "debug"
  | .info => "info"
  | .warn => "warn"
  | .error => "error"

structure LogRecord where
  level : LogLevel
  message : String
  fields : List (String × String)
deriving Repr, DecidableEq, Inhabited

inductive Signal where
  | success (response : Response)
  | failure (fault : Fault)
  | cancelled
deriving DecidableEq

def Signal.ofOutcome : Outcome → Signal
  | .ok response => .success response
  | .error fault => .failure fault

structure Sight where
  span : SpanContext
  current : Context
  recording : Bool
deriving Repr, DecidableEq, Inhabited

inductive Entry where
  | started (span : Span)
  | round (hook : Hook) (span? : Option SpanContext)
  | called (decorator : String) (observed : Bool) (hook : Hook) (sight? : Option Sight)
  | logged (record : LogRecord)
  | finishing (span : SpanContext) (first : Bool)
  | ended (span : Span)
  | localOpened (level : LogLevel) (fields : List (String × String))
  | localRecorded (field value : String)
  | localClosed
  | polled (label : String) (current : Context)
  | sent (request : Request) (current : Context)
  | received (request : Request) (finished? : Option Bool) (ready : Bool) (current : Context)
    (keep? : Option String)
  | terminated (name : String) (signal : Signal) (current : Context)
deriving DecidableEq

def Entry.exported? : Entry → Option Span
  | .ended span => if span.context.sampled then some span else none
  | _ => none

end RequestSpans
