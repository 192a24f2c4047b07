import RequestSpans.Http.Header
import RequestSpans.Trace.Context

set_option autoImplicit false

namespace RequestSpans

inductive Propagator where
  | silent
  | traceContext
deriving Repr, DecidableEq, Inhabited

namespace Propagator

def renderParent (context : SpanContext) : String :=
  "00-" ++ context.traceHex ++ "-" ++ context.spanHex ++ "-"
    ++ String.ofList (Text.hex 2 (if context.sampled then 1 else 0))

def identifier? (bits : Nat) (text : List Char) : Option Nat :=
  if text.any (fun c => 'A' ≤ c && c ≤ 'Z') then none
  else (Text.unsigned? 16 (Nat.pow 2 bits - 1) text).filter (· ≠ 0)

def parent? (value : String) (state : TraceState) : Option SpanContext :=
  match Text.splitTerminated '-' (Text.trimWhile Text.isBlank value.toList) with
  | version :: trace :: span :: flags :: others => do
    let version ← Text.unsigned? 16 0xfe version
    let trace ← identifier? 128 trace
    let span ← identifier? 64 span
    let flags ← Text.unsigned? 16 0xff flags
    if version = 0 ∧ (others ≠ [] ∨ flags > 2) then none
    else some ⟨trace, span, flags % 2 = 1, true, state⟩
  | _ => none

def state (headers : Headers) : TraceState :=
  ((headers.text? "tracestate").bind TraceState.parse?).getD .empty

def inject (propagator : Propagator) (context : Context) (headers : Headers) : Headers :=
  match propagator, context.span? with
  | .traceContext, some span =>
    if span.isValid then
      (headers.set "traceparent" (renderParent span)).set "tracestate" span.state.render
    else headers
  | _, _ => headers

def extract (propagator : Propagator) (current : Context) (headers : Headers) : Context :=
  match propagator with
  | .silent => current
  | .traceContext =>
    match (headers.text? "traceparent").bind fun value => parent? value (state headers) with
    | some span => .of span
    | none => current

end Propagator

end RequestSpans
