import RequestSpans.Pattern.Parser

set_option autoImplicit false

namespace RequestSpans.Pattern

def states : Pattern → Nat
  | .empty | .assert _ => 0
  | .one _ => 1
  | .cat a b | .alt a b => a.states + b.states
  | .repeated a least (some most) => a.states * max least most
  | .repeated a least none => a.states * max least 1
  | .captured a => a.states

-- A rough engine to run with. Ten megabytes hold so many states of 32 bytes, and
-- no pattern gets by with fewer than one for each character.
instance budget : Engine := ⟨fun pattern => pattern.states ≤ 10 * 1024 * 1024 / 32⟩

end RequestSpans.Pattern
