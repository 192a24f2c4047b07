import Mathlib.Data.List.Forall2
import RequestSpans.Proofs.Comparison.Client
import RequestSpans.Proofs.Panics.Hushed
import RequestSpans.Scenario.Session

set_option autoImplicit false

namespace RequestSpans.Scenario

namespace Tracing

def hushed (tracing : Tracing) : Tracing :=
  { tracing with
    boundary := { tracing.boundary with decorators := tracing.boundary.decorators.hushed }
    interceptor := { tracing.interceptor with decorators := tracing.interceptor.decorators.hushed }
    handlers := tracing.handlers.hushed }

def crew (tracing : Tracing) : List Decorator :=
  tracing.boundary.decorators.decorators ++ tracing.interceptor.decorators.decorators ++
    tracing.handlers.decorators

end Tracing

section Hushing

theorem names_hushed (chain : DecoratorChain) : chain.hushed.names = chain.names := by
  rw [DecoratorChain.names, DecoratorChain.hushed, List.map_map]
  rfl

theorem debug_hushed (interceptor : ClientInterceptor) :
    ({ interceptor with decorators := interceptor.decorators.hushed } : ClientInterceptor).debug = interceptor.debug := by
  unfold ClientInterceptor.debug
  dsimp only
  rw [names_hushed]

variable (tracing : Tracing)

theorem boundaries_hushed : (hushing tracing.crew).boundaries tracing.boundary tracing.hushed.boundary :=
  ⟨_, rfl, rfl, fun _ member => List.mem_append_left _ (List.mem_append_left _ member)⟩

theorem interceptors_hushed : (hushing tracing.crew).interceptors tracing.interceptor tracing.hushed.interceptor :=
  ⟨_, rfl, rfl, fun _ member => List.mem_append_left _ (List.mem_append_right _ member)⟩

theorem coordinators_hushed (name : String) :
    (hushing tracing.crew).coordinators (tracing.coordinator name) (tracing.hushed.coordinator name) :=
  ⟨_, rfl, rfl, fun _ member => List.mem_append_right _ member⟩

end Hushing

namespace Bindings

variable {α : Type} {R S : α → α → Prop} {first second : Bindings α}

def Alike (R : α → α → Prop) (first second : Bindings α) : Prop :=
  List.Forall₂ (fun entry other => entry.1 = other.1 ∧ R entry.2 other.2) first second

theorem alike_weaken (alike : Alike R first second) (weaken : ∀ a b, R a b → S a b) : Alike S first second :=
  List.Forall₂.imp (fun _ _ same => ⟨same.1, weaken _ _ same.2⟩) alike

theorem alike_get (alike : Alike R first second) (name : String) : Option.Rel R (first.get? name) (second.get? name) := by
  induction alike with
  | nil => exact .none
  | @cons entry other rest rest' same _ ih =>
      obtain ⟨key, value⟩ := entry
      obtain ⟨key', value'⟩ := other
      obtain ⟨rfl, related⟩ := same
      by_cases found : key = name
      · simp only [get?, List.find?_cons, found, decide_true, Option.map_some]
        exact .some related
      · simp only [get?, List.find?_cons, found, decide_false]
        exact ih

theorem alike_erase (alike : Alike R first second) (name : String) : Alike R (first.erase name) (second.erase name) := by
  induction alike with
  | nil => exact .nil
  | @cons entry other rest rest' same _ ih =>
      obtain ⟨key, value⟩ := entry
      obtain ⟨key', value'⟩ := other
      obtain ⟨rfl, related⟩ := same
      by_cases found : key = name
      · simp only [erase, List.filter_cons, found, ne_eq, not_true_eq_false, decide_false]
        exact ih
      · simp only [erase, List.filter_cons, found, ne_eq, not_false_eq_true, decide_true, if_true]
        exact .cons ⟨rfl, related⟩ ih

theorem alike_put (alike : Alike R first second) (name : String) {a b : α} (related : R a b) :
    Alike R (first.put name a) (second.put name b) := .cons ⟨rfl, related⟩ (alike_erase alike name)

theorem alike_spans (spans : α → List SpanContext) (alike : Alike R first second)
    (same : ∀ a b, R a b → spans a = spans b) :
    first.flatMap (fun entry => spans entry.2) = second.flatMap fun entry => spans entry.2 := by
  induction alike with
  | nil => rfl
  | cons related _ ih => rw [List.flatMap_cons, List.flatMap_cons, ih, same _ _ related.2]

end Bindings

end RequestSpans.Scenario
