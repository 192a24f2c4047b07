import RequestSpans.Proofs.Client.Call
import RequestSpans.Proofs.Server.Parent

set_option autoImplicit false

namespace RequestSpans

namespace ClientInterceptor

theorem start_headers (interceptor : ClientInterceptor) (request : Request) (t : Telemetry)
    (enabled : interceptor.enabled = true) :
    (interceptor.start request t).1.headers =
      (interceptor.instrumentation.propagator t).inject (.of (t.nextContext t.current)) request.headers := by
  simp only [start, enabled, Bool.not_true, Bool.false_eq_true, if_false]
  rfl

theorem start_call_places (interceptor : ClientInterceptor) (request : Request) (t : Telemetry)
    (enabled : interceptor.enabled = true) :
    (interceptor.start request t).2.2.Places (t.nextContext t.current) .client t.current.span? := by
  simp only [start, enabled, Bool.not_true, Bool.false_eq_true, if_false]
  exact t.start_places _ request.method .client t.current [("span.kind", .text SpanKind.client.tag)] []
    (interceptor.decorators.grows_round _ _ _)

end ClientInterceptor

structure SpanContext.SameTrace (origin span : SpanContext) : Prop where
  trace : span.trace = origin.trace
  sampled : span.sampled = origin.sampled
  state : origin.state.Inbound → span.state = origin.state

theorem SpanContext.same_trace_trans {origin between span : SpanContext} (early : origin.SameTrace between)
    (late : between.SameTrace span) : origin.SameTrace span := by
  refine ⟨late.trace.trans early.trace, late.sampled.trans early.sampled, ?_⟩
  intro inbound
  have kept := early.state inbound
  rw [← kept]
  exact late.state (kept ▸ inbound)

-- A tracer by which a span is sampled as the one above it is, and has its vendor
-- members; what begins a trace is up to the tracer.
def Sampler.Inherits (sampler : Sampler) : Prop :=
  ∀ above trace, sampler (some above) trace = ⟨above.sampled, above.state⟩

theorem Sampler.parent_based_inherits : Sampler.parentBased.Inherits := fun _ _ => rfl

-- What the spans below a context go back to, if that has a span; otherwise to one
-- that begins a trace.
def Context.Roots (above : Context) (origin : SpanContext) : Prop := ∀ span, above.span? = some span → origin = span

theorem Telemetry.next_below (t : Telemetry) (inherits : t.sampler.Inherits) (span : SpanContext) :
    t.nextContext (.of span) = ⟨span.trace, t.spans.length + 1, span.sampled, false, span.state⟩ := by
  simp only [nextContext, nextTrace, Context.of, inherits span span.trace]

theorem Context.next_same_trace (above : Context) (t : Telemetry) (inherits : t.sampler.Inherits) :
    ∃ origin, above.Roots origin ∧ origin.SameTrace (t.nextContext above) := by
  obtain ⟨span?⟩ := above
  cases span? with
  | none => exact ⟨t.nextContext .empty, fun _ absent => (Option.some_ne_none _ absent.symm).elim, rfl, rfl, fun _ => rfl⟩
  | some span =>
      refine ⟨span, fun _ same => Option.some.inj same, ?_⟩
      rw [show (⟨some span⟩ : Context) = .of span from rfl, t.next_below inherits]
      exact ⟨rfl, rfl, fun _ => rfl⟩

structure Hop where
  interceptor : ClientInterceptor
  outbound : Request
  sender : Telemetry
  boundary : ServerBoundary
  inbound : Request
  receiver : Telemetry
  sends : interceptor.instrumentation.propagator sender = .traceContext
  reads : boundary.instrumentation.propagator receiver = .traceContext
  fresh : inbound.marks = .none
  traced : boundary.traces inbound = true
  -- Identities are drawn by counting; header fields have room for so many.
  numbered : sender.traces + 1 < Nat.pow 2 128 ∧ sender.spans.length + 1 < Nat.pow 2 64

namespace Hop

def call (hop : Hop) (above : Context) : Request × ClientCall × Telemetry :=
  hop.interceptor.start hop.outbound (hop.sender.attach above)

def arrival (hop : Hop) (above : Context) : Request :=
  { hop.inbound with headers := (hop.call above).1.headers }

def entry (hop : Hop) (above : Context) : Admission × Request × Telemetry :=
  hop.boundary.enter (hop.arrival above) hop.receiver

structure Steady (hop : Hop) : Prop where
  enabled : hop.interceptor.enabled = true
  sender : hop.sender.sampler.Inherits
  receiver : hop.receiver.sampler.Inherits

structure Links (hop : Hop) (above : Context) (client server : SpanContext) : Prop where
  called : (hop.call above).2.1.active?.map (·.span) = some client
  below : (hop.call above).2.2.Places client .client above.span?
  entered : (hop.entry above).1 = .started server
  follows : (hop.entry above).2.2.Places server .server (some { client with remote := true, state := server.state })

inductive Chain : Context → List Hop → List (SpanContext × SpanContext) → Prop
  | nil (above : Context) : Chain above [] []
  | cons {above : Context} {hop : Hop} {client server : SpanContext} {hops : List Hop}
      {spans : List (SpanContext × SpanContext)} (links : hop.Links above client server)
      (chain : Chain (.of server) hops spans) : Chain above (hop :: hops) ((client, server) :: spans)

-- A context that can be told in header fields has a span with the number of a
-- trace, if it has one.
def Tellable (above : Context) : Prop := ∀ span, above.span? = some span → 0 < span.trace ∧ span.trace < Nat.pow 2 128

theorem tellable_next (above : Context) (t : Telemetry) (tellable : Tellable above)
    (numbered : t.traces + 1 < Nat.pow 2 128 ∧ t.spans.length + 1 < Nat.pow 2 64) : (t.nextContext above).Valid := by
  obtain ⟨span?⟩ := above
  cases span? with
  | none => exact ⟨⟨Nat.succ_pos _, numbered.1⟩, ⟨Nat.succ_pos _, numbered.2⟩⟩
  | some span => exact ⟨tellable span rfl, ⟨Nat.succ_pos _, numbered.2⟩⟩

section Step

variable (hop : Hop) (above : Context)

def clientSpan : SpanContext := (hop.sender.attach above).nextContext above

def carried : SpanContext :=
  { hop.clientSpan above with remote := true, state := Propagator.state (hop.arrival above).headers }

def serverSpan : SpanContext := hop.receiver.nextContext (.of (hop.carried above))

theorem client_span_valid (tellable : Tellable above) : (hop.clientSpan above).Valid :=
  tellable_next above (hop.sender.attach above) tellable hop.numbered

section Enabled

variable (enabled : hop.interceptor.enabled = true)
include enabled

theorem arrival_headers : (hop.arrival above).headers =
    Propagator.inject .traceContext (.of (hop.clientSpan above)) hop.outbound.headers := by
  have sent := hop.interceptor.start_headers hop.outbound (hop.sender.attach above) enabled
  rw [show hop.interceptor.instrumentation.propagator (hop.sender.attach above) = .traceContext from hop.sends] at sent
  exact sent

theorem parent_carried (tellable : Tellable above) :
    hop.boundary.parent (hop.arrival above) hop.receiver = .of (hop.carried above) := by
  have read := Propagator.remote_inject (hop.clientSpan above) hop.outbound.headers (hop.client_span_valid above tellable)
  rw [← hop.arrival_headers above enabled] at read
  rw [ServerBoundary.parent, Instrumentation.extract, hop.reads, Propagator.extract_remote, read]
  rfl

theorem server_span_read (tellable : Tellable above) :
    hop.boundary.serverSpan (hop.arrival above) hop.receiver = hop.serverSpan above := by
  rw [ServerBoundary.serverSpan, hop.parent_carried above enabled tellable, serverSpan]

theorem entry_starts (tellable : Tellable above) :
    hop.entry above = (.started (hop.serverSpan above), (hop.arrival above).withServer (hop.serverSpan above),
      (hop.boundary.openSpan (hop.arrival above) hop.receiver).2.2) := by
  rw [← hop.server_span_read above enabled tellable]
  exact hop.boundary.enter_traced (hop.arrival above) hop.receiver (congrArg Marks.wrapper? hop.fresh)
    (congrArg Marks.untraced hop.fresh) hop.traced

end Enabled

variable (steady : hop.Steady) (tellable : Tellable above)
include steady tellable

theorem hop_links : hop.Links above (hop.clientSpan above) (hop.serverSpan above) := by
  have entered := hop.entry_starts above steady.enabled tellable
  have placed := hop.boundary.open_span_places (hop.arrival above) hop.receiver
  rw [hop.server_span_read above steady.enabled tellable, hop.parent_carried above steady.enabled tellable] at placed
  have state : (hop.serverSpan above).state = (hop.carried above).state := by
    rw [serverSpan, hop.receiver.next_below steady.receiver]
  obtain ⟨active, opened, starts⟩ := hop.interceptor.start_starts hop.outbound (hop.sender.attach above) steady.enabled
  refine ⟨?_, hop.interceptor.start_call_places hop.outbound (hop.sender.attach above) steady.enabled, ?_, ?_⟩
  · rw [Hop.call, starts.started]
    exact congrArg some starts.span
  · rw [entered]
  · rw [entered, state]
    exact placed

theorem hop_same_trace : (hop.clientSpan above).SameTrace (hop.serverSpan above) := by
  rw [serverSpan, hop.receiver.next_below steady.receiver]
  refine ⟨rfl, rfl, fun inbound => ?_⟩
  have kept := Propagator.state_inject (hop.clientSpan above) hop.outbound.headers
    (hop.client_span_valid above tellable).is_valid inbound
  rw [← hop.arrival_headers above steady.enabled] at kept
  exact kept

end Step

def OneTrace (above : Context) (hops : List Hop) : Prop :=
  ∃ spans origin, Chain above hops spans ∧ above.Roots origin ∧
    ∀ pair ∈ spans, origin.SameTrace pair.1 ∧ origin.SameTrace pair.2

-- All spans on the way go back to the one that the first call is made below, or
-- to the first call if there is none.
theorem hops_make_one_trace (above : Context) (hops : List Hop) (steady : ∀ hop ∈ hops, hop.Steady)
    (tellable : Tellable above) : OneTrace above hops := by
  induction hops generalizing above with
  | nil =>
      obtain ⟨origin, roots, _⟩ := above.next_same_trace (.start .silent false) Sampler.parent_based_inherits
      exact ⟨[], origin, .nil above, roots, by simp⟩
  | cons hop rest ih =>
      have first := steady hop List.mem_cons_self
      obtain ⟨origin, roots, sent⟩ := above.next_same_trace (hop.sender.attach above) first.sender
      have served := SpanContext.same_trace_trans sent (hop.hop_same_trace above first tellable)
      have valid := hop.client_span_valid above tellable
      have next : Tellable (.of (hop.serverSpan above)) := by
        intro span same
        obtain rfl := Option.some.inj same
        exact valid.trace
      obtain ⟨spans, root, chain, below, shared⟩ :=
        ih (.of (hop.serverSpan above)) (fun hop member => steady hop (List.mem_cons_of_mem _ member)) next
      obtain rfl := below (hop.serverSpan above) rfl
      refine ⟨(hop.clientSpan above, hop.serverSpan above) :: spans, origin,
        .cons (hop.hop_links above first tellable) chain, roots, ?_⟩
      intro pair member
      rcases List.mem_cons.mp member with rfl | further
      · exact ⟨sent, served⟩
      · obtain ⟨client, server⟩ := shared pair further
        exact ⟨SpanContext.same_trace_trans served client, SpanContext.same_trace_trans served server⟩

def relayed : Hop :=
  { interceptor := .standard ⟨some .traceContext⟩
    outbound := { ClientInterceptor.reservation with headers := .ofTexts [("traceparent", "00-1-1-00"), ("tracestate", "tenant=z"),
      ("traceparent", "00-0af7651916cd43dd8448eb211c80319c-b7ad6b7169203331-01")] }
    sender := .start .silent false
    boundary := ServerBoundary.listeningBoundary
    inbound := order
    receiver := .start .silent false
    sends := rfl
    reads := rfl
    fresh := rfl
    traced := rfl
    numbered := by decide }

theorem hops_make_one_trace_job :
    let job : SpanContext := ⟨7, 7, false, true, ⟨[("tenant", "a")]⟩⟩
    ∃ spans, Chain (.of job) [relayed, relayed] spans ∧
      ∀ pair ∈ spans, pair.2.trace = 7 ∧ pair.2.sampled = false ∧ pair.2.state = job.state := by
  intro job
  have inbound : job.state.Inbound := ⟨.ofTexts [("tracestate", "tenant=a")], by decide +kernel⟩
  have steady : ∀ hop ∈ [relayed, relayed], hop.Steady := by
    intro hop member
    obtain rfl : hop = relayed := by simpa using member
    exact ⟨rfl, Sampler.parent_based_inherits, Sampler.parent_based_inherits⟩
  obtain ⟨spans, origin, chain, roots, shared⟩ := hops_make_one_trace (.of job) [relayed, relayed] steady fun span same => by
    obtain rfl := Option.some.inj same
    exact ⟨by decide, by decide⟩
  obtain rfl := roots job rfl
  refine ⟨spans, chain, fun pair member => ?_⟩
  have server := (shared pair member).2
  exact ⟨server.trace, server.sampled, server.state inbound⟩

def reached (hop : Hop) (above : Context) : Option (Option SpanContext) :=
  match hop.entry above with
  | (.started server, _, t) => (t.span? server).map (·.parent?)
  | _ => none

theorem links_reached (hop : Hop) (above : Context) (client server : SpanContext) (links : hop.Links above client server) :
    ∃ state, hop.reached above = some (some { client with remote := true, state := state }) := by
  obtain ⟨record, known, _, _, parent⟩ := links.follows
  refine ⟨server.state, ?_⟩
  have entered : hop.entry above = (.started server, (hop.entry above).2) := Prod.ext links.entered rfl
  rw [reached, entered]
  simp only [known, Option.map_some, parent]

theorem one_trace_first (above : Context) (hop : Hop) (rest : List Hop) (one : OneTrace above (hop :: rest)) :
    ∃ client server, hop.Links above client server ∧ server.sampled = client.sampled := by
  obtain ⟨_, origin, chain, _, shared⟩ := one
  cases chain with
  | cons links _ =>
      obtain ⟨sent, served⟩ := shared _ List.mem_cons_self
      exact ⟨_, _, links, served.sampled.trans sent.sampled.symm⟩

def untracedCall : Hop :=
  { relayed with interceptor := ⟨⟨some .traceContext⟩, ⟨[]⟩, false⟩, sends := rfl }

def unsampledServer : Hop := { relayed with receiver := .start .silent false fun _ _ => ⟨false, .empty⟩, reads := rfl }

-- A call that is not traced leaves the headers of others on its request, and so
-- does one below a span without an identity. Where tracers do not go by the
-- parent, one end may sample what the other does not.
theorem hops_apart : ¬ OneTrace .empty [untracedCall] ∧ ¬ OneTrace (.of ⟨0, 0, true, true, .empty⟩) [relayed] ∧
    ¬ OneTrace .empty [unsampledServer] := by
  refine ⟨fun one => ?_, fun one => ?_, fun one => ?_⟩
  · obtain ⟨client, _, links, _⟩ := one_trace_first _ _ _ one
    exact Option.some_ne_none client links.called.symm
  · obtain ⟨client, _, links, _⟩ := one_trace_first _ _ _ one
    obtain rfl : (⟨0, 1, true, false, .empty⟩ : SpanContext) = client := Option.some.inj links.called
    obtain ⟨state, reached⟩ := links_reached _ _ _ _ links
    have read : relayed.reached (.of ⟨0, 0, true, true, .empty⟩) = some (some ⟨1, 1, false, true, ⟨[("tenant", "z")]⟩⟩) := by
      decide +kernel
    rw [read] at reached
    simp at reached
  · obtain ⟨client, server, links, sampled⟩ := one_trace_first _ _ _ one
    obtain rfl : (⟨1, 1, true, false, .empty⟩ : SpanContext) = client := Option.some.inj links.called
    have entered := links.entered
    rw [unsampledServer.entry_starts .empty rfl nofun] at entered
    obtain rfl : unsampledServer.serverSpan .empty = server := Admission.started.inj entered
    exact Bool.false_ne_true sampled

end Hop

end RequestSpans
