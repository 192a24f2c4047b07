import RequestSpans.Proofs.Server.Continuation
import RequestSpans.Service

/-!
Readiness of stacks. Whoever calls a stack has found it ready before; the innermost service is then
called on an instance that was itself found ready since its last call, whichever layers hand their
instance over and keep a copy. Innermost instances are numbered here, so that it can be said of each
of them what happened to it.
-/
set_option autoImplicit false

namespace RequestSpans

inductive Turn where
  | foundReady
  | called
deriving Repr, DecidableEq

def Turn.ReadyAfter (past : List Turn) : Prop := past.getLast? = some .foundReady

theorem not_ready_unused : ¬Turn.ReadyAfter [] := by simp [Turn.ReadyAfter]

theorem ready_found (past : List Turn) : Turn.ReadyAfter (past ++ [.foundReady]) := by simp [Turn.ReadyAfter]

theorem not_ready_called (past : List Turn) : ¬Turn.ReadyAfter (past ++ [.called]) := by simp [Turn.ReadyAfter]

-- The numbers of innermost instances given so far, and what happened to which.
structure Registry where
  next : Nat
  log : List (Nat × Turn)

namespace Registry

def note (r : Registry) (id : Nat) (turn : Turn) : Registry := { r with log := r.log ++ [(id, turn)] }

def turnsOf (id : Nat) (log : List (Nat × Turn)) : List Turn := (log.filter fun entry => entry.1 = id).map (·.2)

def turns (r : Registry) (id : Nat) : List Turn := turnsOf id r.log

def Obeyed (r : Registry) : Prop :=
  ∀ early id late, r.log = early ++ (id, .called) :: late → Turn.ReadyAfter (turnsOf id early)

section Logs

variable (r after : Registry) (id : Nat) (turn : Turn) (noted : after.log = r.log ++ [(id, turn)])

include noted

theorem turns_self : after.turns id = r.turns id ++ [turn] := by simp [turns, turnsOf, noted]

theorem turns_other (other : Nat) (different : other ≠ id) : after.turns other = r.turns other := by
  simp [turns, turnsOf, noted, different.symm]

theorem obeyed_more (obeyed : r.Obeyed) (called : turn = .called → Turn.ReadyAfter (r.turns id)) : after.Obeyed := by
  intro early other late split
  rw [noted] at split
  rcases List.eq_nil_or_concat late with rfl | ⟨rest, last, rfl⟩
  · obtain ⟨same, entry⟩ := List.append_inj' split rfl
    obtain ⟨rfl, rfl⟩ := Prod.mk.inj (List.cons.inj entry).1
    exact same ▸ called rfl
  · rw [List.concat_eq_append, ← List.cons_append, ← List.append_assoc] at split
    exact obeyed early other rest (List.append_inj' split rfl).1

end Logs

theorem turns_unborn (r : Registry) (id : Nat) (born : ∀ entry ∈ r.log, entry.1 < r.next) (unborn : r.next ≤ id) :
    r.turns id = [] := by
  simp only [turns, turnsOf, List.map_eq_nil_iff, List.filter_eq_nil_iff, decide_eq_true_eq]
  intro entry member same
  exact Nat.not_lt.mpr unborn (same ▸ born entry member)

end Registry

def Service.serving (serve : Serve) : Service → Service
  | .innermost ready _ => .innermost ready serve
  | .traceServer boundary below => .traceServer boundary (below.serving serve)
  | .traceHandler coordinator handler below => .traceHandler coordinator handler (below.serving serve)
  | .traceClient interceptor below => .traceClient interceptor (below.serving serve)
  | .traceLocally below => .traceLocally (below.serving serve)

-- The instances in a stack: a layer either hands a call to the instance below it
-- and keeps a copy of that, or has it made in place.
inductive Tower where
  | innermost (id : Nat)
  | handingOver (below : Tower)
  | inPlace (below : Tower)

namespace Tower

def id : Tower → Nat
  | .innermost id => id
  | .handingOver below => below.id
  | .inPlace below => below.id

def clone : Tower → Registry → Tower × Registry
  | .innermost _, r => (.innermost r.next, { r with next := r.next + 1 })
  | .handingOver below, r =>
    let (copy, r) := below.clone r
    (.handingOver copy, r)
  | .inPlace below, r =>
    let (copy, r) := below.clone r
    (.inPlace copy, r)

def call : Tower → Registry → Tower × Registry
  | .innermost id, r => (.innermost id, r.note id .called)
  | .handingOver below, r =>
    let (kept, r) := below.clone r
    let (_, r) := below.call r
    (.handingOver kept, r)
  | .inPlace below, r =>
    let (left, r) := below.call r
    (.inPlace left, r)

def ofService : Service → Nat → Tower
  | .innermost _ _, id => .innermost id
  | .traceServer _ below, id => .handingOver (ofService below id)
  | .traceHandler _ _ below, id => .handingOver (ofService below id)
  | .traceClient _ below, id => .inPlace (ofService below id)
  | .traceLocally below, id => .inPlace (ofService below id)

theorem of_service_serving (service : Service) (serve : Serve) (id : Nat) :
    ofService (service.serving serve) id = ofService service id := by
  induction service with
  | innermost ready own => rfl
  | traceServer boundary below ih => exact congrArg handingOver ih
  | traceHandler coordinator handler below ih => exact congrArg handingOver ih
  | traceClient interceptor below ih => exact congrArg inPlace ih
  | traceLocally below ih => exact congrArg inPlace ih

theorem of_service_id (service : Service) (id : Nat) : (ofService service id).id = id := by
  induction service with
  | innermost ready serve => rfl
  | traceServer boundary below ih => exact ih
  | traceHandler coordinator handler below ih => exact ih
  | traceClient interceptor below ih => exact ih
  | traceLocally below ih => exact ih

theorem clone_numbered (tower : Tower) (r : Registry) :
    (tower.clone r).1.id = r.next ∧ (tower.clone r).2 = { r with next := r.next + 1 } := by
  induction tower with
  | innermost id => exact ⟨rfl, rfl⟩
  | handingOver below ih => exact ih
  | inPlace below ih => exact ih

structure CallsOwn (tower left : Tower) (r after : Registry) : Prop where
  log : after.log = r.log ++ [(tower.id, .called)]
  grows : r.next ≤ after.next
  left : left.id = tower.id ∨ r.next ≤ left.id ∧ left.id < after.next

theorem call_own (tower : Tower) (r : Registry) : tower.CallsOwn (tower.call r).1 r (tower.call r).2 := by
  induction tower generalizing r with
  | innermost id => exact ⟨rfl, Nat.le_refl _, .inl rfl⟩
  | handingOver below ih =>
      obtain ⟨numbered, spent⟩ := below.clone_numbered r
      have inner := ih (below.clone r).2
      have log : (below.clone r).2.log = r.log := by rw [spent]
      have next : (below.clone r).2.next = r.next + 1 := by rw [spent]
      have grows := inner.grows
      rw [next] at grows
      refine ⟨inner.log.trans (by rw [log]; rfl), Nat.le_of_succ_le grows, .inr ⟨Nat.le_of_eq numbered.symm, ?_⟩⟩
      exact numbered ▸ grows
  | inPlace below ih =>
      obtain ⟨log, grows, left⟩ := ih r
      exact ⟨log, grows, left⟩

end Tower

namespace Service

def isReady : Service → Bool
  | .innermost ready _ => ready
  | .traceServer _ below => below.isReady
  | .traceHandler _ _ below => below.isReady
  | .traceClient _ below => below.isReady
  | .traceLocally below => below.isReady

inductive Shaped : Tower → Service → Prop
  | innermost (id : Nat) (ready : Bool) (serve : Serve) : Shaped (.innermost id) (.innermost ready serve)
  | traceServer (boundary : ServerBoundary) (tower : Tower) (below : Service) (inner : Shaped tower below) :
      Shaped (.handingOver tower) (.traceServer boundary below)
  | traceHandler (coordinator : HandlerCoordinator) (handler : Handler) (tower : Tower) (below : Service)
      (inner : Shaped tower below) : Shaped (.handingOver tower) (.traceHandler coordinator handler below)
  | traceClient (interceptor : ClientInterceptor) (tower : Tower) (below : Service) (inner : Shaped tower below) :
      Shaped (.inPlace tower) (.traceClient interceptor below)
  | traceLocally (tower : Tower) (below : Service) (inner : Shaped tower below) :
      Shaped (.inPlace tower) (.traceLocally below)

section Shapes

variable (tower : Tower) (service : Service) (r : Registry)

theorem shaped_of_service (id : Nat) : Shaped (.ofService service id) service := by
  induction service with
  | innermost ready serve => exact .innermost id ready serve
  | traceServer boundary below ih => exact .traceServer boundary _ below ih
  | traceHandler coordinator handler below ih => exact .traceHandler coordinator handler _ below ih
  | traceClient interceptor below ih => exact .traceClient interceptor _ below ih
  | traceLocally below ih => exact .traceLocally _ below ih

theorem shaped_ready (shaped : Shaped tower service) : Shaped tower service.makeReady := by
  induction shaped with
  | innermost id ready serve => exact .innermost id true serve
  | traceServer boundary tower below _ ih => exact .traceServer boundary tower _ ih
  | traceHandler coordinator handler tower below _ ih => exact .traceHandler coordinator handler tower _ ih
  | traceClient interceptor tower below _ ih => exact .traceClient interceptor tower _ ih
  | traceLocally tower below _ ih => exact .traceLocally tower _ ih

theorem shaped_clone (shaped : Shaped tower service) : Shaped (tower.clone r).1 service.clone := by
  induction shaped with
  | innermost id ready serve => exact .innermost r.next false serve
  | traceServer boundary tower below _ ih => exact .traceServer boundary _ _ ih
  | traceHandler coordinator handler tower below _ ih => exact .traceHandler coordinator handler _ _ ih
  | traceClient interceptor tower below _ ih => exact .traceClient interceptor _ _ ih
  | traceLocally tower below _ ih => exact .traceLocally _ _ ih

theorem shaped_call (shaped : Shaped tower service) : Shaped (tower.call r).1 service.afterCall := by
  induction shaped with
  | innermost id ready serve => exact .innermost id false serve
  | traceServer boundary tower below inner _ => exact .traceServer boundary _ _ (shaped_clone tower below r inner)
  | traceHandler coordinator handler tower below inner _ =>
      exact .traceHandler coordinator handler _ _ (shaped_clone tower below r inner)
  | traceClient interceptor tower below _ ih => exact .traceClient interceptor _ _ ih
  | traceLocally tower below _ ih => exact .traceLocally _ _ ih

end Shapes

section Flags

variable (service : Service)

@[simp] theorem ready_clone : service.clone.isReady = false := by
  induction service with
  | innermost ready serve => rfl
  | traceServer boundary below ih => exact ih
  | traceHandler coordinator handler below ih => exact ih
  | traceClient interceptor below ih => exact ih
  | traceLocally below ih => exact ih

@[simp] theorem ready_make_ready : service.makeReady.isReady = true := by
  induction service with
  | innermost ready serve => rfl
  | traceServer boundary below ih => exact ih
  | traceHandler coordinator handler below ih => exact ih
  | traceClient interceptor below ih => exact ih
  | traceLocally below ih => exact ih

@[simp] theorem ready_after_call : service.afterCall.isReady = false := by
  induction service with
  | innermost ready serve => rfl
  | traceServer boundary below _ => exact below.ready_clone
  | traceHandler coordinator handler below _ => exact below.ready_clone
  | traceClient interceptor below ih => exact ih
  | traceLocally below ih => exact ih

variable (serve : Serve)

@[simp] theorem ready_serving : (service.serving serve).isReady = service.isReady := by
  induction service with
  | innermost ready own => rfl
  | traceServer boundary below ih => exact ih
  | traceHandler coordinator handler below ih => exact ih
  | traceClient interceptor below ih => exact ih
  | traceLocally below ih => exact ih

@[simp] theorem serving_clone : (service.serving serve).clone = service.clone.serving serve := by
  induction service with
  | innermost ready own => rfl
  | traceServer boundary below ih => simp [serving, clone, ih]
  | traceHandler coordinator handler below ih => simp [serving, clone, ih]
  | traceClient interceptor below ih => simp [serving, clone, ih]
  | traceLocally below ih => simp [serving, clone, ih]

@[simp] theorem serving_ready : (service.serving serve).makeReady = service.makeReady.serving serve := by
  induction service with
  | innermost ready own => rfl
  | traceServer boundary below ih => simp [serving, makeReady, ih]
  | traceHandler coordinator handler below ih => simp [serving, makeReady, ih]
  | traceClient interceptor below ih => simp [serving, makeReady, ih]
  | traceLocally below ih => simp [serving, makeReady, ih]

@[simp] theorem serving_after_call : (service.serving serve).afterCall = service.afterCall.serving serve := by
  induction service with
  | innermost ready own => rfl
  | traceServer boundary below _ => simp [serving, afterCall]
  | traceHandler coordinator handler below _ => simp [serving, afterCall]
  | traceClient interceptor below ih => simp [serving, afterCall, ih]
  | traceLocally below ih => simp [serving, afterCall, ih]

-- A stack whose innermost instance is taken to be ready does not depend on what
-- that would do otherwise.
theorem dispatch_ready (own : Serve) (same : serve true = own true) (ready : service.isReady = true) (request : Request)
    (t : Telemetry) : (service.serving serve).dispatch request t = (service.serving own).dispatch request t := by
  induction service generalizing request t with
  | innermost flag _ =>
      obtain rfl : flag = true := ready
      simp only [serving, dispatch, same]
  | traceServer boundary below ih => simp only [serving, dispatch, funext fun now => funext (ih ready now)]
  | traceHandler coordinator handler below ih => simp only [serving, dispatch, funext fun now => funext (ih ready now)]
  | traceClient interceptor below ih => simp only [serving, dispatch, funext fun now => funext (ih ready now)]
  | traceLocally below ih => simp only [serving, dispatch, funext fun now => funext (ih ready now)]

end Flags

end Service

structure Held where
  service : Service
  tower : Tower
  past : List Turn

structure Fleet where
  held : List Held
  registry : Registry
  tasks : List (Option Task)
  telemetry : Telemetry

-- Polling for readiness answers as the innermost service wants. Whatever else
-- happens in between, to the tasks of earlier calls too, is arbitrary.
inductive Use where
  | pollReady (index : Nat) (ready : Bool)
  | call (index : Nat) (request : Request)
  | clone (index : Nat)
  | elsewhere (step : List (Option Task) → Telemetry → List (Option Task) × Telemetry)

-- What is known of an instance: it is taken to be ready as the innermost one in
-- it is, and whoever holds it has found it ready only if that is.
structure Told (r : Registry) (one : Held) : Prop where
  shaped : Service.Shaped one.tower one.service
  known : one.tower.id < r.next
  told : one.service.isReady = true ↔ Turn.ReadyAfter (r.turns one.tower.id)
  granted : Turn.ReadyAfter one.past → Turn.ReadyAfter (r.turns one.tower.id)

namespace Fleet

def start (service : Service) (t : Telemetry) : Fleet :=
  ⟨[⟨service.clone, .ofService service.clone 0, []⟩], ⟨1, []⟩, [], t⟩

def pollReady (fleet : Fleet) (index : Nat) (one : Held) : Fleet :=
  { fleet with
    held := fleet.held.set index ⟨one.service.makeReady, one.tower, one.past ++ [.foundReady]⟩
    registry := fleet.registry.note one.tower.id .foundReady }

def call (fleet : Fleet) (index : Nat) (one : Held) (request : Request) : Fleet :=
  let (service, task?, t) := one.service.call request fleet.telemetry
  let (tower, registry) := one.tower.call fleet.registry
  ⟨fleet.held.set index ⟨service, tower, one.past ++ [.called]⟩, registry, fleet.tasks ++ [task?], t⟩

def clone (fleet : Fleet) (one : Held) : Fleet :=
  let (tower, registry) := one.tower.clone fleet.registry
  { fleet with held := fleet.held ++ [⟨one.service.clone, tower, []⟩], registry := registry }

end Fleet

namespace Use

def apply (use : Use) (fleet : Fleet) : Fleet :=
  match use with
  | .pollReady index ready =>
    match fleet.held[index]? with
    | some one => if ready then fleet.pollReady index one else fleet
    | none => fleet
  | .call index request =>
    match fleet.held[index]? with
    | some one => fleet.call index one request
    | none => fleet
  | .clone index =>
    match fleet.held[index]? with
    | some one => fleet.clone one
    | none => fleet
  | .elsewhere step =>
    let (tasks, t) := step fleet.tasks fleet.telemetry
    { fleet with tasks := tasks, telemetry := t }

def Proper (use : Use) (fleet : Fleet) : Prop :=
  match use with
  | .call index _ => ∀ one, fleet.held[index]? = some one → Turn.ReadyAfter one.past
  | _ => True

def run (uses : List Use) (fleet : Fleet) : Fleet := uses.foldl (fun fleet use => use.apply fleet) fleet

def AllProper : List Use → Fleet → Prop
  | [], _ => True
  | use :: rest, fleet => use.Proper fleet ∧ AllProper rest (use.apply fleet)

end Use

theorem told_frame (r after : Registry) (one : Held) (told : Told r one) (grows : r.next ≤ after.next)
    (same : after.turns one.tower.id = r.turns one.tower.id) : Told after one := by
  refine ⟨told.shaped, Nat.lt_of_lt_of_le told.known grows, ?_, ?_⟩
  · rw [same]
    exact told.told
  · rw [same]
    exact told.granted

structure Fleet.Sound (fleet : Fleet) : Prop where
  each : ∀ (index : Nat) (one : Held), fleet.held[index]? = some one → Told fleet.registry one
  apart : ∀ (i j : Nat) (a b : Held), fleet.held[i]? = some a → fleet.held[j]? = some b → a.tower.id = b.tower.id → i = j
  born : ∀ entry ∈ fleet.registry.log, entry.1 < fleet.registry.next
  obeyed : fleet.registry.Obeyed

theorem clone_held (fleet : Fleet) (one : Held) (j : Nat) (other : Held)
    (known : (fleet.clone one).held[j]? = some other) :
    fleet.held[j]? = some other ∨
      j = fleet.held.length ∧ other = ⟨one.service.clone, (one.tower.clone fleet.registry).1, []⟩ := by
  simp only [Fleet.clone, List.getElem?_append, List.getElem?_singleton] at known
  split at known
  · exact .inl known
  · split at known
    · exact .inr ⟨by omega, (Option.some.inj known).symm⟩
    · contradiction

section Steps

variable {fleet : Fleet} (sound : fleet.Sound) (index : Nat) (one : Held) (found : fleet.held[index]? = some one)

include sound found

theorem sound_turn (next : Held) (registry : Registry) (turn : Turn) (tasks : List (Option Task)) (t : Telemetry)
    (noted : registry.log = fleet.registry.log ++ [(one.tower.id, turn)]) (grows : fleet.registry.next ≤ registry.next)
    (own : next.tower.id = one.tower.id ∨ fleet.registry.next ≤ next.tower.id)
    (called : turn = .called → Turn.ReadyAfter one.past) (told : Told registry next) :
    (Fleet.mk (fleet.held.set index next) registry tasks t).Sound := by
  have here := sound.each index one found
  have inside : index < fleet.held.length := (List.getElem?_eq_some_iff.mp found).1
  have others : ∀ (j : Nat) (other : Held), j ≠ index → (fleet.held.set index next)[j]? = some other →
      fleet.held[j]? = some other ∧ other.tower.id ≠ one.tower.id := by
    intro j other different known
    rw [List.getElem?_set_ne different.symm] at known
    exact ⟨known, fun same => different (sound.apart j index other one known found same)⟩
  have self : ∀ other, (fleet.held.set index next)[index]? = some other → other = next := by
    intro other known
    rw [List.getElem?_set_self inside] at known
    exact (Option.some.inj known).symm
  have foreign : ∀ (j : Nat) (other : Held), j ≠ index → (fleet.held.set index next)[j]? = some other →
      other.tower.id ≠ next.tower.id := by
    intro j other different known
    obtain ⟨old, unlike⟩ := others j other different known
    rcases own with same | fresh
    · exact same ▸ unlike
    · exact Nat.ne_of_lt (Nat.lt_of_lt_of_le (sound.each j other old).known fresh)
  refine ⟨fun j other known => ?_, fun i j a b first second same => ?_, fun entry member => ?_, ?_⟩
  · by_cases same : j = index
    · subst same
      exact self other known ▸ told
    · obtain ⟨old, unlike⟩ := others j other same known
      exact told_frame fleet.registry registry other (sound.each j other old) grows
        (fleet.registry.turns_other registry _ turn noted _ unlike)
  · by_cases left : i = index <;> by_cases right : j = index
    · exact left.trans right.symm
    · subst left
      exact absurd (self a first ▸ same).symm (foreign j b right second)
    · subst right
      exact absurd (self b second ▸ same) (foreign i a left first)
    · exact sound.apart i j a b (others i a left first).1 (others j b right second).1 same
  · rw [show (Fleet.mk (fleet.held.set index next) registry tasks t).registry.log = _ from noted] at member
    rcases List.mem_append.mp member with old | new
    · exact Nat.lt_of_lt_of_le (sound.born entry old) grows
    · rw [List.mem_singleton.mp new]
      exact Nat.lt_of_lt_of_le here.known grows
  · exact fleet.registry.obeyed_more registry _ turn noted sound.obeyed fun call => here.granted (called call)

theorem sound_poll_ready : (fleet.pollReady index one).Sound := by
  have here := sound.each index one found
  have turns := fleet.registry.turns_self (fleet.registry.note one.tower.id .foundReady) _ _ rfl
  refine sound_turn sound index one found _ _ .foundReady _ _ rfl (Nat.le_refl _) (.inl rfl) (fun call => by contradiction) ?_
  refine ⟨Service.shaped_ready _ _ here.shaped, here.known, ?_, ?_⟩
  · rw [turns, Service.ready_make_ready]
    exact iff_of_true rfl (ready_found _)
  · rw [turns]
    exact fun _ => ready_found _

theorem sound_call (request : Request) (ready : Turn.ReadyAfter one.past) : (fleet.call index one request).Sound := by
  have here := sound.each index one found
  have calls := one.tower.call_own fleet.registry
  have spent : ¬Turn.ReadyAfter ((one.tower.call fleet.registry).2.turns (one.tower.call fleet.registry).1.id) := by
    rcases calls.left with same | ⟨fresh, _⟩
    · rw [same, fleet.registry.turns_self _ _ _ calls.log]
      exact not_ready_called _
    · have different := Nat.ne_of_gt (Nat.lt_of_lt_of_le here.known fresh)
      rw [fleet.registry.turns_other _ _ _ calls.log _ different, fleet.registry.turns_unborn _ sound.born fresh]
      exact not_ready_unused
  refine sound_turn sound index one found _ _ .called _ _ calls.log calls.grows (calls.left.imp id (·.1)) (fun _ => ready) ?_
  refine ⟨Service.shaped_call _ _ _ here.shaped, ?_, ?_, fun used => absurd used (not_ready_called _)⟩
  · rcases calls.left with same | ⟨_, bound⟩
    · exact same ▸ Nat.lt_of_lt_of_le here.known calls.grows
    · exact bound
  · change (one.service.afterCall.isReady = true) ↔ _
    rw [Service.ready_after_call]
    exact iff_of_false Bool.false_ne_true spent

theorem clone_told :
    Told (one.tower.clone fleet.registry).2 ⟨one.service.clone, (one.tower.clone fleet.registry).1, []⟩ := by
  have here := sound.each index one found
  obtain ⟨numbered, spent⟩ := one.tower.clone_numbered fleet.registry
  have unused : ¬Turn.ReadyAfter ((one.tower.clone fleet.registry).2.turns (one.tower.clone fleet.registry).1.id) := by
    rw [numbered, Registry.turns, spent]
    change ¬Turn.ReadyAfter (fleet.registry.turns _)
    rw [fleet.registry.turns_unborn _ sound.born (Nat.le_refl _)]
    exact not_ready_unused
  refine ⟨Service.shaped_clone _ _ _ here.shaped, ?_, ?_, fun granted => absurd granted not_ready_unused⟩
  · change (one.tower.clone fleet.registry).1.id < _
    rw [numbered, spent]
    exact Nat.lt_succ_self _
  · rw [Service.ready_clone]
    exact iff_of_false Bool.false_ne_true unused

theorem sound_clone : (fleet.clone one).Sound := by
  obtain ⟨numbered, spent⟩ := one.tower.clone_numbered fleet.registry
  have log : (one.tower.clone fleet.registry).2.log = fleet.registry.log := by rw [spent]
  have next : (one.tower.clone fleet.registry).2.next = fleet.registry.next + 1 := by rw [spent]
  have fresh : ∀ (j : Nat) (other : Held), fleet.held[j]? = some other →
      other.tower.id ≠ (one.tower.clone fleet.registry).1.id := by
    intro j other known
    rw [numbered]
    exact Nat.ne_of_lt (sound.each j other known).known
  refine ⟨fun j other known => ?_, fun i j a b first second same => ?_, fun entry member => ?_, ?_⟩
  · rcases clone_held fleet one j other known with old | ⟨_, rfl⟩
    · exact told_frame fleet.registry _ other (sound.each j other old) (Nat.le.intro next.symm) (by
        change Registry.turnsOf _ (one.tower.clone fleet.registry).2.log = _
        rw [log]
        rfl)
    · exact clone_told sound index one found
  · rcases clone_held fleet one i a first with left | ⟨left, rfl⟩ <;>
      rcases clone_held fleet one j b second with right | ⟨right, rfl⟩
    · exact sound.apart i j a b left right same
    · exact absurd same (fresh i a left)
    · exact absurd same.symm (fresh j b right)
    · exact left.trans right.symm
  · change entry ∈ (one.tower.clone fleet.registry).2.log at member
    change entry.1 < (one.tower.clone fleet.registry).2.next
    rw [log] at member
    rw [next]
    exact Nat.lt_succ_of_lt (sound.born entry member)
  · intro early id late split
    change (one.tower.clone fleet.registry).2.log = _ at split
    exact sound.obeyed early id late (log.symm.trans split)

end Steps

theorem sound_step (fleet : Fleet) (sound : fleet.Sound) (use : Use) (proper : use.Proper fleet) :
    (use.apply fleet).Sound := by
  cases use with
  | pollReady index ready =>
      simp only [Use.apply]
      cases found : fleet.held[index]? with
      | none => exact sound
      | some one =>
          cases ready with
          | true => exact sound_poll_ready sound index one found
          | false => exact sound
  | call index request =>
      simp only [Use.apply]
      cases found : fleet.held[index]? with
      | none => exact sound
      | some one => exact sound_call sound index one found request (proper one found)
  | clone index =>
      simp only [Use.apply]
      cases found : fleet.held[index]? with
      | none => exact sound
      | some one => exact sound_clone sound index one found
  | elsewhere step => exact ⟨sound.each, sound.apart, sound.born, sound.obeyed⟩

theorem sound_start (service : Service) (t : Telemetry) : (Fleet.start service t).Sound := by
  have only : ∀ (index : Nat) (one : Held), (Fleet.start service t).held[index]? = some one →
      index = 0 ∧ one = ⟨service.clone, .ofService service.clone 0, []⟩ := by
    intro index one found
    obtain ⟨inside, rfl⟩ := List.getElem?_eq_some_iff.mp found
    obtain rfl : index = 0 := Nat.lt_one_iff.mp inside
    exact ⟨rfl, rfl⟩
  refine ⟨fun index one found => ?_, fun i j a b first second _ => ?_, by simp [Fleet.start], by simp [Fleet.start, Registry.Obeyed]⟩
  · obtain ⟨_, rfl⟩ := only index one found
    refine ⟨service.clone.shaped_of_service 0, ?_, ?_, fun granted => absurd granted not_ready_unused⟩
    · rw [Tower.of_service_id]
      exact Nat.zero_lt_one
    · rw [Service.ready_clone]
      exact iff_of_false Bool.false_ne_true not_ready_unused
  · exact (only i a first).1.trans (only j b second).1.symm

def Held.serving (serve : Serve) (one : Held) : Held := { one with service := one.service.serving serve }

def Fleet.serving (serve : Serve) (fleet : Fleet) : Fleet := { fleet with held := fleet.held.map (Held.serving serve) }

theorem start_serving (service : Service) (serve : Serve) (t : Telemetry) :
    Fleet.start (service.serving serve) t = (Fleet.start service t).serving serve := by
  simp [Fleet.start, Fleet.serving, Held.serving, Tower.of_service_serving]

section Serving

variable {own other : Serve} (same : other true = own true)

include same

-- Calls go to instances that are taken to be ready, so they come out the same.
theorem call_serving (fleet : Fleet) (index : Nat) (one : Held) (request : Request) (ready : one.service.isReady = true) :
    ∃ next : Fleet, (fleet.serving own).call index (one.serving own) request = next.serving own ∧
      (fleet.serving other).call index (one.serving other) request = next.serving other := by
  have alike := one.service.dispatch_ready other own same ready request fleet.telemetry
  refine ⟨⟨fleet.held.set index ⟨one.service.afterCall, (one.tower.call fleet.registry).1, one.past ++ [.called]⟩,
    (one.tower.call fleet.registry).2, fleet.tasks ++ [((one.service.serving own).dispatch request fleet.telemetry).1],
    ((one.service.serving own).dispatch request fleet.telemetry).2⟩, ?_, ?_⟩
  · simp [Fleet.call, Fleet.serving, Held.serving, Service.call, List.map_set]
  · simp [Fleet.call, Fleet.serving, Held.serving, Service.call, List.map_set, alike]

theorem step_serving (fleet : Fleet) (sound : (fleet.serving own).Sound) (use : Use)
    (proper : use.Proper (fleet.serving own)) :
    ∃ next : Fleet, use.apply (fleet.serving own) = next.serving own ∧ use.apply (fleet.serving other) = next.serving other := by
  have known : ∀ (serve : Serve) (index : Nat), (fleet.serving serve).held[index]? = (fleet.held[index]?).map (Held.serving serve) :=
    fun serve index => List.getElem?_map
  cases use with
  | pollReady index ready =>
      simp only [Use.apply, known]
      cases fleet.held[index]? with
      | none => exact ⟨fleet, rfl, rfl⟩
      | some one =>
          cases ready with
          | true =>
              refine ⟨fleet.pollReady index one, ?_, ?_⟩ <;>
                simp [Fleet.pollReady, Fleet.serving, Held.serving, List.map_set]
          | false => exact ⟨fleet, rfl, rfl⟩
  | call index request =>
      simp only [Use.apply, known]
      cases found : fleet.held[index]? with
      | none => exact ⟨fleet, rfl, rfl⟩
      | some one =>
          have here : (fleet.serving own).held[index]? = some (one.serving own) := by rw [known, found]; rfl
          have told := sound.each index _ here
          have ready : (one.service.serving own).isReady = true := told.told.mpr (told.granted (proper _ here))
          exact call_serving same fleet index one request (one.service.ready_serving own ▸ ready)
  | clone index =>
      simp only [Use.apply, known]
      cases fleet.held[index]? with
      | none => exact ⟨fleet, rfl, rfl⟩
      | some one => exact ⟨fleet.clone one, by simp [Fleet.clone, Fleet.serving, Held.serving],
          by simp [Fleet.clone, Fleet.serving, Held.serving]⟩
  | elsewhere step =>
      exact ⟨{ fleet with
        tasks := (step fleet.tasks fleet.telemetry).1, telemetry := (step fleet.tasks fleet.telemetry).2 }, rfl, rfl⟩

theorem run_serving (uses : List Use) (fleet : Fleet) (sound : (fleet.serving own).Sound)
    (proper : Use.AllProper uses (fleet.serving own)) :
    ∃ last : Fleet, (last.serving own).Sound ∧ Use.run uses (fleet.serving own) = last.serving own ∧
      Use.run uses (fleet.serving other) = last.serving other := by
  induction uses generalizing fleet with
  | nil => exact ⟨fleet, sound, rfl, rfl⟩
  | cons use rest ih =>
      obtain ⟨next, left, right⟩ := step_serving same fleet sound use proper.1
      have later := sound_step _ sound use proper.1
      have others := proper.2
      rw [left] at later others
      obtain ⟨last, kept, first, second⟩ := ih next later others
      refine ⟨last, kept, ?_, ?_⟩
      · rw [← first, ← left]
        rfl
      · rw [← second, ← right]
        rfl

end Serving

-- A stack is used from the first instance on, and with it the copies that are
-- made of it. However the innermost service acts where it is called without
-- having been found ready, nobody gets to see it.
theorem innermost_called_ready (service : Service) (serve : Serve) (uses : List Use) (t : Telemetry)
    (proper : Use.AllProper uses (.start (service.serving serve) t)) :
    let fleet := Use.run uses (.start (service.serving serve) t)
    fleet.registry.Obeyed ∧
      (∀ one ∈ fleet.held, one.service.isReady = true ↔ Turn.ReadyAfter (fleet.registry.turns one.tower.id)) ∧
      ∀ other : Serve, other true = serve true →
        let changed := Use.run uses (.start (service.serving other) t)
        changed.tasks = fleet.tasks ∧ changed.telemetry = fleet.telemetry := by
  intro fleet
  have start := start_serving service serve t ▸ sound_start (service.serving serve) t
  have first := start_serving service serve t ▸ proper
  have ran : ∀ other : Serve, other true = serve true → _ := fun other same =>
    run_serving same uses (.start service t) start first
  obtain ⟨last, sound, reached, _⟩ := ran serve rfl
  rw [← start_serving] at reached
  refine ⟨?_, ?_, fun other same => ?_⟩
  · exact (show fleet = _ from reached) ▸ sound.obeyed
  · intro one member
    obtain ⟨index, found⟩ := List.mem_iff_getElem?.mp member
    rw [show fleet = _ from reached] at found ⊢
    exact (sound.each index one found).told
  · obtain ⟨final, _, mine, theirs⟩ := ran other same
    rw [← start_serving] at mine theirs
    rw [show fleet = _ from mine, theirs]
    exact ⟨rfl, rfl⟩

def strict : Serve := fun ready _ t => (if ready then some ⟨fun _ t => (.pending, t)⟩ else none, t)

def lenient : Serve := fun _ _ t => (some ⟨fun _ t => (.pending, t)⟩, t)

def layered : Service :=
  .traceServer plainBoundary (.traceClient ⟨⟨none⟩, .empty, true⟩
    (.traceHandler plainCoordinator orders (.innermost false strict)))

theorem innermost_called_ready_strict :
    let uses := [.pollReady 0 true, .clone 0, .call 0 order, .pollReady 1 false, .pollReady 0 true, .pollReady 1 true,
      .call 1 order, .call 0 order]
    let fleet := Use.run uses (.start (layered.serving strict) (.start .silent false))
    Use.AllProper uses (.start (layered.serving strict) (.start .silent false)) ∧ lenient true = strict true ∧
      fleet.registry.Obeyed ∧
      fleet.registry.log.filter (fun entry => entry.2 = .called) = [(0, .called), (1, .called), (2, .called)] ∧
      (Use.run uses (.start (layered.serving lenient) (.start .silent false))).tasks = fleet.tasks := by
  intro uses fleet
  have proper : Use.AllProper uses (.start (layered.serving strict) (.start .silent false)) := by
    refine ⟨trivial, trivial, ?_, trivial, trivial, trivial, ?_, ?_, trivial⟩ <;>
      · rintro one ⟨⟩
        rfl
  obtain ⟨obeyed, _, unseen⟩ := innermost_called_ready layered strict uses (.start .silent false) proper
  exact ⟨proper, rfl, obeyed, rfl, (unseen lenient rfl).1⟩

end RequestSpans
