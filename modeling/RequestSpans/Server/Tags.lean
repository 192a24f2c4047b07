import RequestSpans.Decorator
import RequestSpans.Http.Target

set_option autoImplicit false

namespace RequestSpans

namespace ServerTags

def onRequest (component : String) (request : Request) : List SpanAction :=
  [.tags
    [("component", .text component), ("http.method", .text request.method),
      ("http.url", .text (Target.absoluteUrl request.uri request.headers)),
      ("http.flavor", .text request.version.flavor)]]

def onResponse (response : Response) : List SpanAction :=
  [.tag ("http.status_code", .int response.status.code)]

def decorator (component : String) : Decorator where
  name := "server tags"
  observed := false
  react
    | .request request => .act (onRequest component request)
    | .response _ response => .act (onResponse response)
    | .error _ fault => .act [.recordError fault]
    | _ => .none

end ServerTags

namespace HandlerLogs

def entry (event : String) (handler : Handler) : SpanAction :=
  .event ⟨event, ("event", .text event) :: handler.logFields⟩

def decorator : Decorator where
  name := "handler logs"
  observed := false
  react
    | .preHandle _ handler => .act [entry "preHandle" handler]
    | .afterCompletion _ handler _ _ => .act [entry "afterCompletion" handler]
    | .asyncStarted _ handler => .act [entry "afterConcurrentHandlingStarted" handler]
    | _ => .none

end HandlerLogs

namespace HandlerOperationName

def decorator : Decorator where
  name := "handler operation name"
  observed := false
  react
    | .preHandle _ handler => .act [.rename handler.operationName]
    | _ => .none

end HandlerOperationName

end RequestSpans
