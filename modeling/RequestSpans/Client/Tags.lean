import RequestSpans.Decorator
import RequestSpans.Http.Target

set_option autoImplicit false

namespace RequestSpans.ClientTags

def peerPort? (uri : Uri) (port? : Option Nat) : Option Nat :=
  port?.or
    (match uri.scheme with
      | some "https" => some 443
      | some "http" => some 80
      | _ => none)

def peerActions (request : Request) : List SpanAction :=
  match Target.authority? request.uri request.headers with
  | none => []
  | some (host, port?) =>
    SpanAction.tag ("peer.hostname", .text host)
      :: ((peerPort? request.uri port?).map fun port =>
        SpanAction.tag ("peer.port", .int port)).toList

def onRequest (component : String) (request : Request) : List SpanAction :=
  .tags
    [("component", .text component), ("http.method", .text request.method),
      ("http.url", .text (Target.absoluteUrl request.uri request.headers))]
    :: peerActions request

def decorator (component : String) : Decorator where
  name := "tracing_otel_web::client::decorator::StandardClientTags"
  observed := false
  react
    | .request request => .act (onRequest component request)
    | .response _ response => .act [.tag ("http.status_code", .int response.status.code)]
    | .error _ fault => .act [.recordError fault]
    | .cancel _ => .act [.event ⟨"cancelled", [("event", .text "cancelled")]⟩]
    | _ => .none

end RequestSpans.ClientTags
