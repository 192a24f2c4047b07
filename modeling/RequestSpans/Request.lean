import RequestSpans.Http.Message
import RequestSpans.Http.Uri
import RequestSpans.Server.Handler

set_option autoImplicit false

namespace RequestSpans

-- `wrapper?` is the server span of the request, `active?` the context that
-- local child spans belong under, `continuations` the spans opened for handlers
-- after the server span had finished.
structure Marks where
  untraced : Bool
  asyncPending : Bool
  wrapper? : Option SpanContext
  active? : Option Context
  continuations : List (Handler × SpanContext)
deriving Repr, DecidableEq, Inhabited

namespace Marks

def none : Marks := ⟨false, false, .none, .none, []⟩

def continuation? (marks : Marks) (handler : Handler) : Option SpanContext :=
  (marks.continuations.find? fun entry => entry.1 = handler).map (·.2)

def putContinuation (table : List (Handler × SpanContext)) (handler : Handler)
    (span : SpanContext) : List (Handler × SpanContext) :=
  match table with
  | [] => [(handler, span)]
  | (owner, held) :: rest =>
    if owner = handler then (owner, span) :: rest
    else (owner, held) :: putContinuation rest handler span

def spans (marks : Marks) : List SpanContext :=
  marks.wrapper?.toList ++ (marks.active?.bind (·.span?)).toList ++ marks.continuations.map (·.2)

end Marks

structure Request where
  method : String
  uri : Uri
  version : Version
  headers : Headers
  body : String
  marks : Marks
deriving Repr, DecidableEq, Inhabited

end RequestSpans
