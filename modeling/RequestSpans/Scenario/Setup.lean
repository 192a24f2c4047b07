import RequestSpans.Client.Interceptor
import RequestSpans.Config.Decode
import RequestSpans.Server.Boundary
import RequestSpans.Server.Coordinator

set_option autoImplicit false

namespace RequestSpans.Scenario

inductive SetupError where
  | config (message? : Option String)
  | pattern
  | build (error : BuildError)

inductive SkipSource where
  | configured (patterns : List String)
  | unconfigured
  | defaults
  | endpoints (base : String) (ids : List String)
  | pattern (text : String)
  | matcher (text : String)

namespace SkipSource

def build [Pattern.Engine] : SkipSource → Except SetupError (Option PathPattern)
  | .configured patterns => (Skip.configured patterns).mapError .build
  | .unconfigured => .ok none
  | .defaults => .ok Skip.defaults
  | .endpoints base ids => .ok (Skip.endpoints base ids)
  | .pattern text =>
    match PathPattern.read? text with
    | some read => .ok (some read)
    | none => .error .pattern
  | .matcher text =>
    ((SkipMatcher.ofPattern text).map fun matcher => matcher.pattern?).mapError .build

end SkipSource

inductive ConfigSource where
  | document (text : String)
  | value (value : Json)

def ConfigSource.build : ConfigSource → Except SetupError TracingConfig
  | .document text =>
    match TracingConfig.ofDocument? text with
    | some config => .ok config
    | none => .error (.config none)
  | .value json => (TracingConfig.decode json).mapError fun error => .config (some error.message)

structure Probe where
  name : String
  actions : List (String × List SpanAction)
  panics : List (String × PanicPayload)
deriving Repr, DecidableEq, Inhabited

namespace Probe

def react (probe : Probe) (hook : Hook) : Reaction :=
  let actions := (probe.actions.find? fun entry => entry.1 = hook.name).map (·.2)
  let panic := (probe.panics.find? fun entry => entry.1 = hook.name).map (·.2)
  ⟨actions.getD [], panic⟩

def decorator (probe : Probe) : Decorator := ⟨probe.name, true, probe.react⟩

end Probe

inductive DecoratorChoice where
  | probe (probe : Probe)
  | idle
  | tags (component? : Option String)
  | logs
  | operationName

namespace DecoratorChoice

def idleDecorator : Decorator := ⟨"idle", false, fun _ => .none⟩

def decorator (tags : Option String → Decorator) : DecoratorChoice → Decorator
  | .probe spec => spec.decorator
  | .idle => idleDecorator
  | .tags component? => tags component?
  | .logs => HandlerLogs.decorator
  | .operationName => HandlerOperationName.decorator

def serverTags (component? : Option String) : Decorator :=
  ServerTags.decorator (component?.getD "http-server")

def clientTags (component? : Option String) : Decorator :=
  ClientTags.decorator (component?.getD "http-client")

end DecoratorChoice

def choose (chain : DecoratorChain) (tags : Option String → Decorator)
    (replaced? : Option (List DecoratorChoice)) (extra : List DecoratorChoice) :
    DecoratorChain :=
  let base := match replaced? with
    | some choices => ⟨choices.map (·.decorator tags)⟩
    | none => chain
  extra.foldl (fun chain choice => chain.push (choice.decorator tags)) base

structure ServerSettings where
  config? : Option ConfigSource
  discovered : List SkipSource
  enabled? : Option Bool
  skip? : Option String
  urlPatterns? : Option (List String)
  decorators? : Option (List DecoratorChoice)
  extra : List DecoratorChoice

namespace ServerSettings

def base [Pattern.Engine] (settings : ServerSettings) (inst : Instrumentation) :
    Except SetupError ServerBoundary :=
  match settings.config? with
  | none => .ok (.standard inst)
  | some source => do
    let config ← source.build
    let discovered ← settings.discovered.mapM SkipSource.build
    (ServerBoundary.ofConfig inst config discovered).mapError .build

def build [Pattern.Engine] (settings : ServerSettings) (inst : Instrumentation) :
    Except SetupError ServerBoundary := do
  let boundary ← settings.base inst
  let skip ← match settings.skip? with
    | some pattern => (SkipMatcher.ofPattern pattern).mapError .build
    | none => .ok boundary.skip
  let scope ← match settings.urlPatterns? with
    | some patterns => (UrlScope.parse patterns).mapError .build
    | none => .ok boundary.scope
  .ok { boundary with
    enabled := settings.enabled?.getD boundary.enabled
    skip := skip
    scope := scope
    decorators := choose boundary.decorators DecoratorChoice.serverTags settings.decorators?
      settings.extra }

end ServerSettings

structure ClientSettings where
  config? : Option ConfigSource
  enabled? : Option Bool
  decorators? : Option (List DecoratorChoice)
  extra : List DecoratorChoice

namespace ClientSettings

def build (settings : ClientSettings) (inst : Instrumentation) :
    Except SetupError ClientInterceptor := do
  let interceptor : ClientInterceptor ← match settings.config? with
    | none => .ok (.standard inst)
    | some source => source.build.map (.ofConfig inst)
  .ok { interceptor with
    enabled := settings.enabled?.getD interceptor.enabled
    decorators := choose interceptor.decorators DecoratorChoice.clientTags settings.decorators?
      settings.extra }

end ClientSettings

structure HandlerSettings where
  decorators? : Option (List DecoratorChoice)
  extra : List DecoratorChoice

namespace HandlerSettings

def chain (settings : HandlerSettings) : DecoratorChain :=
  choose HandlerCoordinator.standardDecorators DecoratorChoice.serverTags settings.decorators?
    settings.extra

end HandlerSettings

inductive PropagatorChoice where
  | own
  | installed
  | missing
deriving Repr, DecidableEq, Inhabited

namespace PropagatorChoice

def instrumentation : PropagatorChoice → Instrumentation
  | .own => ⟨some .traceContext⟩
  | .installed | .missing => ⟨none⟩

def installation : PropagatorChoice → Propagator
  | .installed => .traceContext
  | .own | .missing => .silent

end PropagatorChoice

structure Tracing where
  instrumentation : Instrumentation
  boundary : ServerBoundary
  interceptor : ClientInterceptor
  handlers : DecoratorChain

def Tracing.coordinator (tracing : Tracing) (name : String) : HandlerCoordinator :=
  ⟨name, tracing.instrumentation, tracing.handlers⟩

structure Settings where
  propagator : PropagatorChoice
  bridged : Bool
  server : ServerSettings
  client : ClientSettings
  handlers : HandlerSettings

namespace Settings

def tracing [Pattern.Engine] (settings : Settings) : Except SetupError Tracing := do
  let inst := settings.propagator.instrumentation
  let boundary ← settings.server.build inst
  let interceptor ← settings.client.build inst
  .ok ⟨inst, boundary, interceptor, settings.handlers.chain⟩

def telemetry (settings : Settings) : Telemetry :=
  .start settings.propagator.installation settings.bridged

end Settings

end RequestSpans.Scenario
