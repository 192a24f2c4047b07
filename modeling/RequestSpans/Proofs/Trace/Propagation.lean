import RequestSpans.Proofs.Trace.State

set_option autoImplicit false

namespace RequestSpans

structure SpanContext.Valid (span : SpanContext) : Prop where
  trace : 0 < span.trace ∧ span.trace < Nat.pow 2 128
  span : 0 < span.span ∧ span.span < Nat.pow 2 64

theorem SpanContext.Valid.is_valid {span : SpanContext} (valid : span.Valid) : span.isValid = true := by
  simp [SpanContext.isValid, Nat.ne_of_gt valid.trace.1, Nat.ne_of_gt valid.span.1]

def TraceState.Inbound (state : TraceState) : Prop := ∃ headers, state = Propagator.state headers

theorem TraceState.inbound_well_formed (state : TraceState) (inbound : state.Inbound) : state.WellFormed := by
  obtain ⟨source, same⟩ := inbound
  rw [same, Propagator.state]
  cases read : (source.text? "tracestate").bind TraceState.parse? with
  | none => simp [TraceState.WellFormed, TraceState.empty]
  | some found =>
      obtain ⟨text, present, parsed⟩ := Option.bind_eq_some_iff.mp read
      exact TraceState.parse_well_formed text found (source.found_text "tracestate" text present) parsed

namespace Propagator

def remote? (propagator : Propagator) (headers : Headers) : Option SpanContext :=
  match propagator with
  | .silent => none
  | .traceContext => (headers.text? "traceparent").bind fun value => parent? value (state headers)

theorem extract_remote (propagator : Propagator) (current : Context) (headers : Headers) :
    propagator.extract current headers = ((propagator.remote? headers).map .of).getD current := by
  cases propagator with
  | silent => rfl
  | traceContext =>
      simp only [extract, remote?]
      split
      · rename_i span found
        rw [found]
        rfl
      · rename_i found
        rw [found]
        rfl

def parentParts (span : SpanContext) : List (List Char) :=
  [Text.hex 2 0, Text.hex 32 span.trace, Text.hex 16 span.span, Text.hex 2 (if span.sampled then 1 else 0)]

theorem render_parent_parts (span : SpanContext) : (renderParent span).toList = Text.join '-' (parentParts span) := by
  have version : Text.hex 2 0 = ['0', '0'] := by decide
  simp [renderParent, SpanContext.traceHex, SpanContext.spanHex, parentParts, Text.join, version]

theorem parent_parts_hex (span : SpanContext) (part : List Char) (known : part ∈ parentParts span) :
    ∃ width n, part = Text.hex width n := by
  simp only [parentParts, List.mem_cons, List.not_mem_nil, or_false] at known
  rcases known with version | trace | number | flags
  · exact ⟨_, _, version⟩
  · exact ⟨_, _, trace⟩
  · exact ⟨_, _, number⟩
  · exact ⟨_, _, flags⟩

theorem render_parent_all (p : Char → Bool) (digits : ∀ d < 16, p (Text.hexDigit d) = true) (hyphen : p '-' = true)
    (span : SpanContext) (c : Char) (member : c ∈ (renderParent span).toList) : p c = true := by
  rw [render_parent_parts] at member
  rcases Text.of_mem_join '-' _ c member with rfl | ⟨part, known, inside⟩
  · exact hyphen
  · obtain ⟨width, n, same⟩ := parent_parts_hex span part known
    exact Text.hex_all p digits width n c (same ▸ inside)

theorem render_parent_text (span : SpanContext) : Headers.isText (renderParent span) = true := by
  rw [Headers.is_text_iff]
  intro c member
  have plain := render_parent_all (fun c => c = '\t' || (' ' ≤ c && c ≤ '~')) (by decide) (by decide) span c member
  simpa [Headers.Plain] using plain

theorem identifier_hex (bits width n : Nat) (wide : 0 < width) (same : Nat.pow 16 width = Nat.pow 2 bits)
    (positive : 0 < n) (fits : n < Nat.pow 2 bits) : identifier? bits (Text.hex width n) = some n := by
  have lower : (Text.hex width n).any (fun c => 'A' ≤ c && c ≤ 'Z') = false := by
    rw [List.any_eq_false]
    intro c member capital
    have small := Text.hex_all (fun c => !('A' ≤ c && c ≤ 'Z')) (by decide) width n c member
    rw [capital] at small
    contradiction
  have number : Text.unsigned? 16 (Nat.pow 2 bits - 1) (Text.hex width n) = some n :=
    Text.unsigned_hex _ width n wide (by rw [same]; exact fits) (Nat.le_sub_one_of_lt fits)
  simp only [identifier?, lower, number, Bool.false_eq_true, if_false, Option.filter_some, Nat.ne_of_gt positive,
    ne_eq, not_false_eq_true, decide_true, if_true]

theorem parent_render (span : SpanContext) (state : TraceState) (valid : span.Valid) :
    parent? (renderParent span) state = some ⟨span.trace, span.span, span.sampled, true, state⟩ := by
  have trimmed : Text.trimWhile Text.isBlank (renderParent span).toList = (renderParent span).toList := by
    refine Text.trim_while_none _ _ fun c member => ?_
    simpa only [Bool.not_eq_true'] using render_parent_all (fun c => !Text.isBlank c) (by decide) (by decide) span c member
  have clean : ∀ part ∈ parentParts span, '-' ∉ part := by
    intro part known member
    obtain ⟨width, n, same⟩ := parent_parts_hex span part known
    exact absurd (Text.hex_all (fun c => c != '-') (by decide) width n '-' (same ▸ member)) (by decide)
  have closed : (parentParts span).getLast? ≠ some [] := by
    have filled : ∀ n, Text.hex 2 n ≠ [] := fun n => List.append_ne_nil_of_right_ne_nil _ (List.cons_ne_nil _ _)
    simpa only [parentParts, List.getLast?_cons_cons, List.getLast?_singleton, ne_eq, Option.some.injEq] using filled _
  have parts : Text.splitTerminated '-' (renderParent span).toList = parentParts span := by
    rw [render_parent_parts, Text.split_terminated_join '-' _ clean closed]
  have version : Text.unsigned? 16 0xfe (Text.hex 2 0) = some 0 := by decide
  have trace := identifier_hex 128 32 span.trace (by decide) (by decide) valid.trace.1 valid.trace.2
  have number := identifier_hex 64 16 span.span (by decide) (by decide) valid.span.1 valid.span.2
  have flags : Text.unsigned? 16 0xff (Text.hex 2 (if span.sampled then 1 else 0)) = some (if span.sampled then 1 else 0) := by
    cases span.sampled <;> decide
  rw [parent?, trimmed, parts]
  simp only [parentParts, version, trace, number, flags, Option.bind_eq_bind, Option.bind_some]
  cases span.sampled <;> simp

section Carried

variable (span : SpanContext) (headers : Headers)

theorem inject_valid (valid : span.isValid = true) : inject .traceContext (.of span) headers =
    (headers.set "traceparent" (renderParent span)).set "tracestate" span.state.render := by
  simp only [inject, Context.of, valid, if_true]

theorem parent_text_inject (valid : span.isValid = true) :
    (inject .traceContext (.of span) headers).text? "traceparent" = some (renderParent span) := by
  have kept := Headers.values_set_other (headers.set "traceparent" (renderParent span)) "tracestate" span.state.render
    "traceparent" (by decide)
  have written := Headers.values_set_same headers "traceparent" (renderParent span) (by decide)
    (Headers.text_is_value _ (render_parent_text span))
  rw [inject_valid span headers valid]
  simp only [Headers.text?, Headers.get?, kept, written, List.head?_cons, Option.bind_some, Headers.read_octets, render_parent_text,
    if_true]

theorem remote_inject (valid : span.Valid) :
    remote? .traceContext (inject .traceContext (.of span) headers) =
      some { span with remote := true, state := state (inject .traceContext (.of span) headers) } := by
  rw [remote?, parent_text_inject span headers valid.is_valid, Option.bind_some, parent_render span _ valid]

theorem state_inject (valid : span.isValid = true) (inbound : span.state.Inbound) :
    state (inject .traceContext (.of span) headers) = span.state := by
  have formed := span.state.inbound_well_formed inbound
  have plain := TraceState.render_text span.state formed
  have written := Headers.values_set_same (headers.set "traceparent" (renderParent span)) "tracestate" span.state.render
    (by decide) (Headers.text_is_value _ plain)
  rw [inject_valid span headers valid]
  simp only [state, Headers.text?, Headers.get?, written, List.head?_cons, Headers.read_octets, plain, if_true,
    Option.bind_some, TraceState.parse_render span.state formed, Option.getD_some]

end Carried

end Propagator

end RequestSpans
