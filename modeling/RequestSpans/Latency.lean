import RequestSpans.Decimal.Double

set_option autoImplicit false

namespace RequestSpans

inductive LatencyUnit where
  | seconds
  | milliseconds
  | microseconds
  | nanoseconds
deriving Repr, DecidableEq, Inhabited

namespace Latency

def seconds (nanoseconds : Nat) : Decimal.Double :=
  let whole := Decimal.Double.ofRatio ⟨nanoseconds / 1000000000, 1⟩
  let fraction := Decimal.Double.ofRatio ⟨nanoseconds % 1000000000, 1000000000⟩
  .ofRatio (whole.toRatio.add fraction.toRatio)

def layout : Decimal.Layout := ⟨fun _ => true, false⟩

def render (unit : LatencyUnit) (nanoseconds : Nat) : String :=
  match unit with
  | .seconds => layout.render (seconds nanoseconds) ++ " s"
  | .milliseconds => toString (nanoseconds / 1000000) ++ " ms"
  | .microseconds => toString (nanoseconds / 1000) ++ " μs"
  | .nanoseconds => toString nanoseconds ++ " ns"

end Latency

end RequestSpans
