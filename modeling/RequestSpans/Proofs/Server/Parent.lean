import RequestSpans.Proofs.Server.Boundary
import RequestSpans.Proofs.Trace.Propagation

set_option autoImplicit false

namespace RequestSpans.ServerBoundary

theorem parent_remote (boundary : ServerBoundary) (request : Request) (t : Telemetry) :
    (boundary.parent request t).span? =
      ((boundary.instrumentation.propagator t).remote? request.headers).or t.current.span? := by
  rw [parent, Instrumentation.extract, Propagator.extract_remote]
  cases (boundary.instrumentation.propagator t).remote? request.headers <;> rfl

theorem open_span_places (boundary : ServerBoundary) (request : Request) (t : Telemetry) :
    (boundary.openSpan request t).2.2.Places (boundary.serverSpan request t) .server (boundary.parent request t).span? :=
  t.start_places _ request.method .server (boundary.parent request t) [("span.kind", .text SpanKind.server.tag)] []
    (boundary.decorators.grows_round _ _ _)

def enteredBelow (boundary : ServerBoundary) (request : Request) (t : Telemetry) : Option (Option SpanContext) :=
  match boundary.enter request t with
  | (.started span, _, after) => (after.span? span).map (·.parent?)
  | _ => none

theorem entered_below_parent (boundary : ServerBoundary) (request : Request) (t : Telemetry)
    (fresh : request.marks = .none) (traced : boundary.traces request = true) :
    boundary.enteredBelow request t = some (boundary.parent request t).span? := by
  obtain ⟨record, known, _, _, parent⟩ := boundary.open_span_places request t
  rw [enteredBelow, boundary.enter_traced request t (by rw [fresh]; rfl) (by rw [fresh]; rfl) traced]
  simp only [known, Option.map_some, parent]

-- A server span has the same parent in every ambient context exactly if the
-- headers name one. Otherwise it goes below the current span, and begins a trace
-- only where there is none.
theorem parent_independent_iff_remote (boundary : ServerBoundary) (request : Request) (t : Telemetry)
    (fresh : request.marks = .none) (traced : boundary.traces request = true) :
    let remote? := (boundary.instrumentation.propagator t).remote? request.headers
    (∀ ambient : Context, boundary.enteredBelow request (t.attach ambient) = some (remote?.or ambient.span?)) ∧
      ((∀ a b : Context, boundary.enteredBelow request (t.attach a) = boundary.enteredBelow request (t.attach b)) ↔
        remote?.isSome = true) := by
  intro remote?
  have below : ∀ ambient : Context, boundary.enteredBelow request (t.attach ambient) = some (remote?.or ambient.span?) := by
    intro ambient
    rw [boundary.entered_below_parent request _ fresh traced, parent_remote]
    rfl
  refine ⟨below, ?_, ?_⟩
  · intro same
    have differ := same .empty (.of ⟨1, 1, true, false, .empty⟩)
    rw [below, below, Option.some.injEq] at differ
    cases named : remote? with
    | some span => rfl
    | none => simp [named, Context.empty, Context.of] at differ
  · intro named a b
    obtain ⟨span, found⟩ := Option.isSome_iff_exists.mp named
    rw [below, below, found]
    rfl

def listeningBoundary : ServerBoundary := { plainBoundary with instrumentation := ⟨some .traceContext⟩ }

def forwarded : Request :=
  { order with headers := .ofTexts [("traceparent", "00-0af7651916cd43dd8448eb211c80319c-b7ad6b7169203331-00")] }

theorem parent_independent_iff_remote_forwarded :
    let t := Telemetry.start .silent false
    listeningBoundary.enteredBelow forwarded (t.attach .empty) =
      listeningBoundary.enteredBelow forwarded (t.attach (.of ⟨7, 7, true, false, .empty⟩)) :=
  (parent_independent_iff_remote listeningBoundary forwarded (.start .silent false) rfl rfl).2.mpr (by decide +kernel) _ _

-- Without headers, a request that is entered below a running job becomes part of
-- the trace of that job.
theorem ambient_span_becomes_parent :
    let job : SpanContext := ⟨7, 7, true, false, .empty⟩
    let t := Telemetry.start .traceContext false
    listeningBoundary.enteredBelow order (t.attach .empty) = some none ∧
      listeningBoundary.enteredBelow order (t.attach (.of job)) = some (some job) ∧
      (listeningBoundary.serverSpan order (t.attach (.of job))).trace = job.trace := by
  exact ⟨rfl, rfl, rfl⟩

end RequestSpans.ServerBoundary
