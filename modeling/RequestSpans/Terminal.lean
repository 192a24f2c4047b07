import RequestSpans.Telemetry

set_option autoImplicit false

namespace RequestSpans

-- Consumes the signal of one unit of work. `holds` are the spans it keeps alive
-- until then.
structure Terminal where
  fire : Signal → Telemetry → Telemetry
  holds : List SpanContext

structure TerminalGuard where
  context : Context
  handler? : Option Terminal

namespace TerminalGuard

def new (context : Context) (handler : Terminal) : TerminalGuard := ⟨context, some handler⟩

def isArmed (guard : TerminalGuard) : Bool := guard.handler?.isSome

def signal (guard : TerminalGuard) (signal : Signal) (t : Telemetry) :
    Bool × TerminalGuard × Telemetry :=
  match guard.handler? with
  | none => (false, guard, t)
  | some handler =>
    let ((), t) := t.within guard.context fun t => ((), handler.fire signal t)
    (true, { guard with handler? := none }, t)

def complete (guard : TerminalGuard) (outcome : Outcome) (t : Telemetry) :
    Bool × TerminalGuard × Telemetry :=
  guard.signal (.ofOutcome outcome) t

def cancel (guard : TerminalGuard) (t : Telemetry) : Bool × TerminalGuard × Telemetry :=
  guard.signal .cancelled t

def drop (guard : TerminalGuard) (t : Telemetry) : Telemetry :=
  match guard.cancel t with
  | (true, _, t) => t.log .debug "traced future dropped before completion" []
  | (false, _, t) => t

def holds (guard : TerminalGuard) : List SpanContext :=
  guard.context.span?.toList ++ (guard.handler?.map (·.holds)).getD []

end TerminalGuard

end RequestSpans
