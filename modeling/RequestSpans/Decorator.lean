import RequestSpans.Request

set_option autoImplicit false

namespace RequestSpans

inductive Hook where
  | request (request : Request)
  | response (request : Request) (response : Response)
  | error (request : Request) (fault : Fault)
  | cancel (request : Request)
  | preHandle (request : Request) (handler : Handler)
  | afterCompletion (request : Request) (handler : Handler) (response? : Option Response)
      (fault? : Option Fault)
  | asyncStarted (request : Request) (handler : Handler)
  | named (name : String)
deriving DecidableEq

namespace Hook

def name : Hook → String
  | .request _ => "on_request"
  | .response _ _ => "on_response"
  | .error _ _ => "on_error"
  | .cancel _ => "on_cancel"
  | .preHandle _ _ => "on_pre_handle"
  | .afterCompletion _ _ _ _ => "on_after_completion"
  | .asyncStarted _ _ => "on_async_started"
  | .named text => text

def request? : Hook → Option Request
  | .request r | .response r _ | .error r _ | .cancel r => some r
  | .preHandle r _ | .afterCompletion r _ _ _ | .asyncStarted r _ => some r
  | .named _ => none

end Hook

inductive PanicPayload where
  | text (message : String)
  | other
deriving Repr, DecidableEq, Inhabited

def PanicPayload.message : PanicPayload → String
  | .text message => message
  | .other => "non-string panic payload"

structure Reaction where
  actions : List SpanAction
  panic? : Option PanicPayload
deriving Repr, DecidableEq, Inhabited

namespace Reaction

def none : Reaction := ⟨[], .none⟩

def act (actions : List SpanAction) : Reaction := ⟨actions, .none⟩

end Reaction

-- Reactions follow from the arguments of a hook. Decorators that keep a state of
-- their own from one round to the next are left out, here and in all that is said
-- of any decorators.
structure Decorator where
  name : String
  observed : Bool
  react : Hook → Reaction

structure DecoratorChain where
  decorators : List Decorator

namespace DecoratorChain

def empty : DecoratorChain := ⟨[]⟩

def push (chain : DecoratorChain) (decorator : Decorator) : DecoratorChain :=
  ⟨chain.decorators ++ [decorator]⟩

def size (chain : DecoratorChain) : Nat := chain.decorators.length

def names (chain : DecoratorChain) : List String := chain.decorators.map (·.name)

end DecoratorChain

end RequestSpans
