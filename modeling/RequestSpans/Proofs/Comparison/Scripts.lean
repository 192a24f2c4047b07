import RequestSpans.Proofs.Comparison.Service
import RequestSpans.Scenario.Script

set_option autoImplicit false

namespace RequestSpans.Pairing

open Scenario

variable {P : Pairing} {w : P.World} {t u : Telemetry} {mine : List Stake}

theorem moves_sent (request : Request) (rel : P.rel w t u) (here : t.current = u.current) :
    P.Moves w t u (noteSent request t) (noteSent request u) := by
  rw [noteSent, noteSent, ← here]
  exact moves_record (.sent request t.current) rel (by simp)

theorem sends_work {a b : Work} (works : P.Works [] a b) (panics : Bool) :
    P.Sends mine (fun request t => (if panics then none else some a, noteSent request t))
      fun request t => (if panics then none else some b, noteSent request t) := by
  intro w t u request rel _ _ here
  refine ⟨[], ?_, moves_sent request rel here, covers_none⟩
  cases panics with
  | true => exact .none
  | false => exact .some works

theorem replies_noted (reply? : Option Outcome) :
    P.Replies mine (fun request t => (reply?, noteSent request t)) fun request t => (reply?, noteSent request t) :=
  fun _ _ _ request rel _ _ here => ⟨rfl, moves_sent request rel here⟩

theorem guards_recorder (context : Context) (name : String) :
    P.Guards [] (.new context (recorder name)) (.new context (recorder name)) := by
  refine .armed context _ _ ⟨rfl, fun w t u signal rel _ here there => ?_⟩
  have current : t.current = u.current := here.trans there.symm
  change P.Moves w t u (t.record (.terminated name signal t.current)) (u.record (.terminated name signal u.current))
  rw [← current]
  exact moves_record (.terminated name signal t.current) rel (by simp)

section Scripts

variable {i j : ClientInterceptor} (alike : P.interceptors i j)

include alike

theorem works_script (script : WorkScript) (secures : ∀ ⦃w t⦄ request, script.outbound? = some request → P.Secures w t request) :
    P.Works mine (script.work i) (script.work j) := by
  intro w t u polls rel covered here
  have polled := moves_record (.polled script.label t.current) rel (by simp)
  have called : P.Moves w t u (script.callOut i (t.record (.polled script.label t.current)))
      (script.callOut j (u.record (.polled script.label t.current))) := by
    unfold WorkScript.callOut
    cases outbound : script.outbound? with
    | none => exact polled
    | some request =>
        have replies : P.Replies mine (fun _ t => (some WorkScript.accepted, t)) fun _ t => (some WorkScript.accepted, t) :=
          fun _ _ _ _ rel _ _ _ => ⟨rfl, moves_self rel⟩
        exact moves_trans polled (moves_execute alike replies polled.rel (covers_moves polled covered)
          (secures request outbound) here).2
  change (script.poll i polls t).1 = (script.poll j polls u).1 ∧ P.Moves w t u (script.poll i polls t).2 (script.poll j polls u).2
  unfold WorkScript.poll
  dsimp only
  rw [← here]
  by_cases waiting : polls < script.pending
  · simp only [waiting, if_true]
    exact ⟨trivial, polled⟩
  · simp only [waiting, if_false]
    by_cases panics : script.panics = true
    · simp only [panics, if_true]
      exact ⟨trivial, called⟩
    · simp only [panics]
      exact ⟨rfl, called⟩

theorem serves_script (script : ServiceScript)
    (secures : ∀ ⦃w t⦄ request, script.work.outbound? = some request → P.Secures w t request)
    (holds : ∀ ⦃w t u⦄ (spans : List SpanContext), P.rel w t u → P.Moves w t u (t.hold spans) (u.hold spans)) :
    P.Serves mine (script.serve i) (script.serve j) := by
  intro w t u ready request rel _ secure here
  have finished : request.marks.wrapper?.map t.isFinished = request.marks.wrapper?.map u.isFinished := by
    cases marked : request.marks.wrapper? with
    | none => rfl
    | some server => exact congrArg some (P.finished rel (secures_wrapper secure marked))
  have received := moves_record (.received request (request.marks.wrapper?.map t.isFinished) ready t.current script.keep?)
    rel (by simp)
  have held := holds request.marks.spans received.rel
  unfold ServiceScript.serve
  dsimp only
  rw [← finished, ← here]
  refine ⟨[], ?_, ?_, covers_none⟩
  · by_cases panics : script.callPanics = true
    · simp only [panics, if_true]
      exact .none
    · simp only [panics]
      exact .some (works_script alike script.work secures)
  · by_cases kept : script.keep?.isSome = true
    · simp only [kept, if_true, apply_ite Prod.snd, ite_self]
      exact moves_trans received held
    · simp only [kept, apply_ite Prod.snd, ite_self]
      exact received

end Scripts

end RequestSpans.Pairing
