import RequestSpans.Skip
import RequestSpans.UrlScope

set_option autoImplicit false

namespace RequestSpans

structure SideConfig where
  enabled : Bool
  component : String
deriving Repr, DecidableEq, Inhabited

structure TracingConfig where
  enabled : Bool
  skipPatterns : List String
  ignoreDefaultSkipPatterns : Bool
  urlPatterns : List String
  server : SideConfig
  client : SideConfig
deriving Repr, DecidableEq, Inhabited

namespace TracingConfig

def defaultServer : SideConfig := ⟨true, "http-server"⟩

def defaultClient : SideConfig := ⟨true, "http-client"⟩

def default : TracingConfig :=
  { enabled := true, skipPatterns := [], ignoreDefaultSkipPatterns := false,
    urlPatterns := ["/*"], server := defaultServer, client := defaultClient }

def serverEnabled (config : TracingConfig) : Bool := config.enabled && config.server.enabled

def clientEnabled (config : TracingConfig) : Bool := config.enabled && config.client.enabled

def skipMatcher [Pattern.Engine] (config : TracingConfig) (discovered : List (Option PathPattern)) :
    Except BuildError SkipMatcher :=
  (Skip.configured config.skipPatterns).bind fun configured =>
    let defaults := if config.ignoreDefaultSkipPatterns then [] else [Skip.defaults]
    SkipMatcher.ofSources ([configured] ++ defaults ++ discovered)

def urlScope (config : TracingConfig) : Except BuildError UrlScope :=
  UrlScope.parse config.urlPatterns

end TracingConfig

end RequestSpans
