import SozuGateway.Builder.Relevance
import SozuGateway.Controller.Status

/-!
# Watch events and rebuilds

How an event of the cluster reaches a build: `crates/controller/src/main.rs` (the watchers,
`notify_slice_event`, the run loop, `reconcile` up to the publication of the referenced
Services) and `crates/controller/src/changes.rs` (`settle`).

* `Caches`, `desired` — what a reconcile reads, and the build of it.
* `SliceEvent`, `noticeOf` — an event of the EndpointSlice watcher, and the notice it sends.
* `Step` — the watchers, the two channels and the loop, one step at a time.
* `DropsSafely` — no relevant slice is dropped while no rebuild is due.
* `no_endpoint_change_lost` — where slices are dropped safely, a quiet loop has built what
  is cached; `endpoint_change_lost_relabelled` is a run that ends otherwise.
-/

set_option autoImplicit false

namespace SozuGateway

namespace Controller

open Lib Builder

/-! ## Caches -/

namespace GatewayScope

def isDefault (scope : GatewayScope) : Bool := scope.gatewayScope.isNone

/-- Leave the Gateways of other instances out, and the Ingresses unless this one is the
default instance. -/
def filterInputs (scope : GatewayScope) (inputs : Inputs) : Inputs :=
  { inputs with
    ingresses := if scope.isDefault then inputs.ingresses else []
    gateways := inputs.gateways.filter fun gateway =>
      scope.ownsGateway (gateway.metadata.namespace_.getD "default")
        (gateway.metadata.name.getD "") }

end GatewayScope

structure IngressClass where
  metadata : ObjectMeta

/-- What the watchers hold. -/
structure Caches where
  ingressClasses : List IngressClass
  inputs : Inputs

/-- Our IngressClass is the cluster's default one. -/
def classIsDefault (ingressClasses : List IngressClass) (className : String) : Bool :=
  ingressClasses.any fun ic =>
    ic.metadata.name = some className &&
      (ic.metadata.annotations.bind fun a =>
        a["ingressclass.kubernetes.io/is-default-class"]?) = some "true"

/-! ## Events -/

/-- An event of the EndpointSlice watcher. -/
inductive SliceEvent where
  | apply (slice : EndpointSlice)
  | delete (slice : EndpointSlice)
  | init
  | initApply (slice : EndpointSlice)
  /-- The end of a relist, with the slices it collected. -/
  | initDone (slices : List EndpointSlice)

/-- Two slices of one namespace and name. -/
def sameObject (slice other : EndpointSlice) : Bool :=
  slice.metadata.namespace_ = other.metadata.namespace_ && slice.metadata.name = other.metadata.name

namespace SliceEvent

/-- The cache after an event; a relist shows nothing before it is done. -/
def cached (slices : List EndpointSlice) : SliceEvent → List EndpointSlice
  | apply slice => slice :: slices.filter fun other => !sameObject slice other
  | delete slice => slices.filter fun other => !sameObject slice other
  | init | initApply _ => slices
  | initDone relisted => relisted

/-- The slices an event brings into the cache or takes out of it. -/
def touched (slices : List EndpointSlice) : SliceEvent → List EndpointSlice
  | apply slice => slice :: slices.filter fun other => sameObject slice other
  | delete slice => slices.filter fun other => sameObject slice other
  | init | initApply _ => []
  | initDone relisted => relisted ++ slices

end SliceEvent

/-- The two channels a watcher notifies the loop on. -/
inductive Notice where
  | changes
  | endpoints
  deriving DecidableEq, Repr

/-- Should an EndpointSlice wake the loop? -/
def slicePings (referenced : BTreeSet String) (slice : EndpointSlice) : Bool :=
  referenced.isEmpty || feeds referenced slice

/-- The channel a relevant slice is announced on. -/
def sliceNotice (referenced : BTreeSet String) : Notice :=
  if referenced.isEmpty then .changes else .endpoints

/-- `notify_slice_event`: the notice an event sends, if any. -/
def noticeOf (referenced : BTreeSet String) : SliceEvent → Option Notice
  | .apply slice | .delete slice =>
      if slicePings referenced slice then some (sliceNotice referenced) else none
  | .initDone _ => some (sliceNotice referenced)
  | .init | .initApply _ => none

/-! ## The loop -/

/-- Where the loop is. -/
inductive Phase where
  /-- Awaiting a notice. -/
  | waiting
  /-- An ordinary notice received: awaiting the debounce, or an endpoint notice. -/
  | debouncing
  /-- About to drain the channels. -/
  | received
  /-- Draining a channel, with so many notices still to take out. -/
  | draining (notice : Notice) (left : ℕ)
  /-- About to read the caches. -/
  | settled
  /-- Building what it read. -/
  | building
  deriving DecidableEq, Repr

/-- An event already in the cache and not yet announced. -/
structure PendingSlice where
  event : SliceEvent
  touched : List EndpointSlice
  /-- The loop has not read the caches since. -/
  unread : Bool

/-- The watchers, the channels and the loop. -/
structure State where
  caches : Caches
  sliceEvent : Option PendingSlice
  /-- The other watchers between a change of their cache and its notice. -/
  others : ℕ
  changes : ℕ
  endpoints : ℕ
  /-- The Services the last build referenced. -/
  referenced : BTreeSet String
  phase : Phase
  /-- The caches as the loop last read them. -/
  read : Option Caches
  /-- The last build. -/
  last : Option BuildOutput

namespace State

/-- `try_send`: refused when the channel is full. -/
def send (s : State) : Notice → State
  | .changes => { s with changes := if s.changes < 64 then s.changes + 1 else s.changes }
  | .endpoints => { s with endpoints := if s.endpoints < 1 then s.endpoints + 1 else s.endpoints }

/-- Take one notice out of a channel; taking from an empty one changes nothing. -/
def take (s : State) : Notice → State
  | .changes => { s with changes := s.changes - 1 }
  | .endpoints => { s with endpoints := s.endpoints - 1 }

end State

inductive Action where
  | sliceUpdate (event : SliceEvent)
  | sliceNotify
  | otherUpdate
  | otherNotify
  | receive (notice : Notice)
  | debounce
  | drain
  | snapshot
  | publish

section Loop

variable [External] [CharTable] (scope : GatewayScope) (cfg : BuildConfig)

/-- The configuration of a build; whether our class is the default one is read from the
caches. -/
def config (caches : Caches) : BuildConfig :=
  { cfg with classIsDefault := classIsDefault caches.ingressClasses cfg.className }

/-- The build of what is cached. -/
def desired (caches : Caches) : Option BuildOutput :=
  build (config cfg caches) (scope.filterInputs caches.inputs)

/-- One step of a watcher or of the loop.  Which order a cache lists its slices in is left
open. -/
inductive Step : State → Action → State → Prop where
  | sliceUpdate (s : State) (event : SliceEvent) (slices : List EndpointSlice)
      (hidle : s.sliceEvent = none)
      (hslices : slices.Perm (event.cached s.caches.inputs.endpointslices)) :
      Step s (.sliceUpdate event) { s with
        caches := { s.caches with inputs := { s.caches.inputs with endpointslices := slices } }
        sliceEvent := some ⟨event, event.touched s.caches.inputs.endpointslices, true⟩ }
  | sliceNotify (s : State) (pending : PendingSlice) (hpending : s.sliceEvent = some pending) :
      Step s .sliceNotify
        (match noticeOf s.referenced pending.event with
        | some notice => { s with sliceEvent := none }.send notice
        | none => { s with sliceEvent := none })
  | otherUpdate (s : State) (caches : Caches)
      (hslices : caches.inputs.endpointslices = s.caches.inputs.endpointslices) :
      Step s .otherUpdate { s with caches := caches, others := s.others + 1 }
  | otherNotify (s : State) (hothers : 0 < s.others) :
      Step s .otherNotify ({ s with others := s.others - 1 }.send .changes)
  | receiveChange (s : State) (hphase : s.phase = .waiting) (hqueued : 0 < s.changes) :
      Step s (.receive .changes) { s.take .changes with phase := .debouncing }
  | receiveEndpoint (s : State) (hphase : s.phase = .waiting ∨ s.phase = .debouncing)
      (hqueued : 0 < s.endpoints) :
      Step s (.receive .endpoints) { s.take .endpoints with phase := .received }
  | debounce (s : State) (hphase : s.phase = .debouncing) :
      Step s .debounce { s with phase := .received }
  | drainStart (s : State) (hphase : s.phase = .received) :
      Step s .drain { s with phase := .draining .changes s.changes }
  | drainOne (s : State) (notice : Notice) (left : ℕ)
      (hphase : s.phase = .draining notice (left + 1)) :
      Step s .drain { s.take notice with phase := .draining notice left }
  | drainNext (s : State) (hphase : s.phase = .draining .changes 0) :
      Step s .drain { s with phase := .draining .endpoints s.endpoints }
  | drainEnd (s : State) (hphase : s.phase = .draining .endpoints 0) :
      Step s .drain { s with phase := .settled }
  | snapshot (s : State) (hphase : s.phase = .settled) :
      Step s .snapshot { s with
        phase := .building
        read := some s.caches
        sliceEvent := s.sliceEvent.map fun pending => { pending with unread := false } }
  | publish (s : State) (read : Caches) (out : BuildOutput) (hphase : s.phase = .building)
      (hread : s.read = some read) (hout : desired scope cfg read = some out) :
      Step s .publish { s with
        phase := .waiting
        referenced := out.referencedServices
        last := some out }

/-- The loop before its first build. -/
structure Starts (s : State) : Prop where
  phase : s.phase = .settled
  referenced : s.referenced = ∅
  last : s.last = none

/-- A run whose every step satisfies `P`. -/
inductive Run (P : State → Action → Prop) : State → State → Prop where
  | refl (s : State) : Run P s s
  | step {s t u : State} {action : Action} (hrun : Run P s t) (hP : P t action)
      (hstep : Step scope cfg t action u) : Run P s u

/-- The loop waits, no notice is queued and no watcher is about to send one. -/
structure Quiet (s : State) : Prop where
  phase : s.phase = .waiting
  changes : s.changes = 0
  endpoints : s.endpoints = 0
  sliceEvent : s.sliceEvent = none
  others : s.others = 0

/-! ## What may be dropped -/

/-- A notice is queued, or about to be. -/
def Due (s : State) : Prop := 0 < s.changes ∨ 0 < s.endpoints ∨ 0 < s.others

/-- The loop is going to read the caches, or is due to. -/
def WillRead (s : State) : Prop :=
  match s.phase with
  | .waiting | .building => Due s
  | .debouncing | .received | .draining _ _ | .settled => True

/-- The Services the build of the last caches read refers to. -/
def relevant (s : State) : BTreeSet String :=
  ((s.read.bind (desired scope cfg)).map BuildOutput.referencedServices).getD ∅

/-- An event that is dropped leaves the caches to be read again, or was read already, or
touches no slice of a Service the build of the last caches read refers to. -/
def DropsSafely (s : State) (action : Action) : Prop :=
  action = .sliceNotify → ∀ pending, s.sliceEvent = some pending →
    noticeOf s.referenced pending.event = none →
      WillRead s ∨ pending.unread = false ∨
        ∀ slice ∈ pending.touched, feeds (relevant scope cfg s) slice = false

/-! ## What the loop has read -/

omit [External] [CharTable] in
/-- An event leaves the slices of a Service alone unless it touches one of them. -/
theorem filter_cached {event : SliceEvent} {slices : List EndpointSlice} {key : ObjectKey}
    (h : ∀ slice ∈ event.touched slices, sliceService slice ≠ some key) :
    (event.cached slices).filter (fun slice => sliceService slice = some key) =
      slices.filter fun slice => sliceService slice = some key := by
  have hkept : ∀ slice, (∀ other ∈ slices.filter fun other => sameObject slice other,
      sliceService other ≠ some key) →
        (slices.filter fun other => !sameObject slice other).filter
          (fun slice => sliceService slice = some key) =
            slices.filter fun slice => sliceService slice = some key := by
    intro slice hslice
    rw [List.filter_filter]
    refine List.filter_congr fun other hother => ?_
    by_cases hkey : sliceService other = some key
    · have hother : sameObject slice other = false := by
        by_contra hsame
        exact hslice other (List.mem_filter.2 ⟨hother, by simpa using hsame⟩) hkey
      simp [hkey, hother]
    · simp [hkey]
  cases event with
  | apply slice =>
      have hslice := h slice List.mem_cons_self
      rw [SliceEvent.cached, List.filter_cons_of_neg (by simpa using hslice)]
      exact hkept slice fun other hother => h other (List.mem_cons_of_mem _ hother)
  | delete slice => exact hkept slice h
  | init => rfl
  | initApply slice => rfl
  | initDone relisted =>
      have hnone : ∀ l : List EndpointSlice, (∀ slice ∈ l, slice ∈ relisted ++ slices) →
          l.filter (fun slice => sliceService slice = some key) = [] := by
        intro l hl
        exact List.filter_eq_nil_iff.2 fun slice hslice => by
          simpa using h slice (hl slice hslice)
      rw [SliceEvent.cached, hnone relisted fun _ h => List.mem_append_left _ h,
        hnone slices fun _ h => List.mem_append_right _ h]

/-- The cached slices of a Service. -/
def fed (caches : Caches) (key : ObjectKey) : List EndpointSlice :=
  caches.inputs.endpointslices.filter fun slice => sliceService slice = some key

/-- A pending event touches a slice of the Service, and the loop has not read it. -/
def Unread (s : State) (key : ObjectKey) : Prop :=
  ∃ pending, s.sliceEvent = some pending ∧ pending.unread = true ∧
    ∃ slice ∈ pending.touched, sliceService slice = some key

/-- What is cached is what was read, but for slices of other Services and for a pending
event. -/
structure Agrees (s : State) (read : Caches) (referenced : BTreeSet String) : Prop where
  ingressClasses : s.caches.ingressClasses = read.ingressClasses
  inputs : s.caches.inputs =
    { read.inputs with endpointslices := s.caches.inputs.endpointslices }
  slices : ∀ ns service, slashed ns service ∈ referenced →
    Unread s (objectKey ns service) ∨
      (fed s.caches (objectKey ns service)).Perm (fed read (objectKey ns service))

/-- What was read still holds, or is due to be read again. -/
def Fresh (s : State) (read : Caches) (referenced : BTreeSet String) : Prop :=
  Due s ∨ Agrees s read referenced

omit [External] [CharTable] in
theorem due_send (s : State) (notice : Notice) : Due (s.send notice) := by
  cases notice with
  | changes =>
      refine .inl ?_
      show 0 < if s.changes < 64 then s.changes + 1 else s.changes
      split <;> omega
  | endpoints =>
      refine .inr (.inl ?_)
      show 0 < if s.endpoints < 1 then s.endpoints + 1 else s.endpoints
      split <;> omega

omit [External] [CharTable] in
/-- A change of the slices is pending, whatever it touches. -/
theorem Fresh.sliceUpdate {s : State} {read : Caches} {referenced : BTreeSet String}
    (h : Fresh s read referenced) {event : SliceEvent} {slices : List EndpointSlice}
    (hidle : s.sliceEvent = none)
    (hslices : slices.Perm (event.cached s.caches.inputs.endpointslices)) :
    Fresh { s with
      caches := { s.caches with inputs := { s.caches.inputs with endpointslices := slices } }
      sliceEvent := some ⟨event, event.touched s.caches.inputs.endpointslices, true⟩ }
      read referenced := by
  refine h.imp id fun hagrees => ⟨hagrees.ingressClasses, ?_, ?_⟩
  · show ({ s.caches.inputs with endpointslices := slices } : Inputs) = _
    rw [hagrees.inputs]
  · intro ns service hmem
    by_cases htouched : ∃ slice ∈ event.touched s.caches.inputs.endpointslices,
        sliceService slice = some (objectKey ns service)
    · exact .inl ⟨_, rfl, rfl, htouched⟩
    · refine .inr ?_
      have hperm : (fed s.caches (objectKey ns service)).Perm
          (fed read (objectKey ns service)) := by
        refine (hagrees.slices ns service hmem).resolve_left ?_
        rintro ⟨pending, hpending, -⟩
        rw [hidle] at hpending
        cases hpending
      refine List.Perm.trans ?_ hperm
      show (slices.filter _).Perm (s.caches.inputs.endpointslices.filter _)
      have hkept := filter_cached fun slice hslice hkey => htouched ⟨slice, hslice, hkey⟩
      rw [← hkept]
      exact hslices.filter _

omit [External] [CharTable] in
/-- An event that sends no notice is dropped safely where it touches no referenced Service. -/
theorem Fresh.drop {s : State} {read : Caches} {referenced : BTreeSet String}
    (h : Fresh s read referenced) {pending : PendingSlice} (hpending : s.sliceEvent = some pending)
    (hsafe : Due s ∨ pending.unread = false ∨
      ∀ slice ∈ pending.touched, feeds referenced slice = false) :
    Fresh { s with sliceEvent := none } read referenced := by
  rcases h with hdue | hagrees
  · exact .inl hdue
  rcases hsafe with hdue | hsafe
  · exact .inl hdue
  refine .inr ⟨hagrees.ingressClasses, hagrees.inputs, fun ns service hmem => .inr ?_⟩
  refine (hagrees.slices ns service hmem).resolve_left ?_
  rintro ⟨other, hother, hunread, slice, hslice, hkey⟩
  obtain rfl : pending = other := Option.some.inj (hpending.symm.trans hother)
  rcases hsafe with hread | hnone
  · rw [hunread] at hread
    cases hread
  · have hfeeds := hnone slice hslice
    simp only [feeds, sliceServiceKey, hkey, Option.map_some, Option.any_some,
      decide_eq_false_iff_not] at hfeeds
    exact hfeeds hmem

omit [External] [CharTable] in
/-- The frame of freshness: it is about the caches, the pending event and the notices. -/
theorem Fresh.frame {s t : State} {read : Caches} {referenced : BTreeSet String}
    (h : Fresh s read referenced) (hcaches : t.caches = s.caches)
    (hevent : t.sliceEvent = s.sliceEvent) (hdue : Due s → Due t) : Fresh t read referenced := by
  refine h.imp hdue fun hagrees => ⟨?_, ?_, fun ns service hmem => ?_⟩
  · rw [hcaches]
    exact hagrees.ingressClasses
  · rw [hcaches]
    exact hagrees.inputs
  · rw [hcaches, Unread, hevent]
    exact hagrees.slices ns service hmem

/-! ## The invariant -/

/-- While the loop waits or builds, what it last read is fresh for the build of it. -/
structure Inv (s : State) : Prop where
  last : s.phase = .waiting → ∃ read out, s.read = some read ∧ desired scope cfg read = some out ∧
    s.last = some out
  fresh : s.phase = .waiting ∨ s.phase = .building → ∀ read out, s.read = some read →
    desired scope cfg read = some out → Fresh s read out.referencedServices

variable {scope cfg}

/-- Nothing is asked of the loop between a notice and the next reading. -/
theorem Inv.of_phase {s : State} (h : s.phase ≠ .waiting ∧ s.phase ≠ .building) :
    Inv scope cfg s :=
  ⟨fun hw => absurd hw h.1, fun hp => absurd hp (not_or.2 h)⟩

theorem Starts.inv {s : State} (h : Starts s) : Inv scope cfg s := by
  refine .of_phase ⟨?_, ?_⟩ <;> rw [h.phase] <;> exact Phase.noConfusion

/-- A watcher's step keeps the invariant where it keeps what was read fresh. -/
theorem Inv.of_fresh {s t : State} (h : Inv scope cfg s) (hphase : t.phase = s.phase)
    (hread : t.read = s.read) (hlast : t.last = s.last)
    (hfresh : ∀ read out, s.phase = .waiting ∨ s.phase = .building → s.read = some read →
      desired scope cfg read = some out → Fresh s read out.referencedServices →
        Fresh t read out.referencedServices) : Inv scope cfg t where
  last := by
    rw [hphase, hread, hlast]
    exact h.last
  fresh := by
    rw [hphase, hread]
    intro hp read out hr hout
    exact hfresh read out hp hr hout (h.fresh hp read out hr hout)

/-- A dropped event is safe for the build of what was read. -/
theorem DropsSafely.drop {s : State} (hsafe : DropsSafely scope cfg s .sliceNotify)
    {pending : PendingSlice} (hpending : s.sliceEvent = some pending)
    (hnone : noticeOf s.referenced pending.event = none) {read : Caches} {out : BuildOutput}
    (hphase : s.phase = .waiting ∨ s.phase = .building) (hread : s.read = some read)
    (hout : desired scope cfg read = some out) :
    Due s ∨ pending.unread = false ∨
      ∀ slice ∈ pending.touched, feeds out.referencedServices slice = false := by
  have hrelevant : relevant scope cfg s = out.referencedServices := by
    rw [relevant, hread, Option.bind_some, hout]
    rfl
  have hdue : WillRead s → Due s := by
    intro hwill
    unfold WillRead at hwill
    rcases hphase with hp | hp <;> rw [hp] at hwill <;> exact hwill
  have h := hsafe rfl pending hpending hnone
  rw [hrelevant] at h
  exact h.imp hdue id

theorem Inv.sliceNotify {s : State} (h : Inv scope cfg s)
    (hsafe : DropsSafely scope cfg s .sliceNotify) {pending : PendingSlice}
    (hpending : s.sliceEvent = some pending) :
    Inv scope cfg
      (match noticeOf s.referenced pending.event with
      | some notice => { s with sliceEvent := none }.send notice
      | none => { s with sliceEvent := none }) := by
  cases hnotice : noticeOf s.referenced pending.event with
  | some notice =>
      refine h.of_fresh ?_ ?_ ?_ fun _ _ _ _ _ _ => .inl (due_send _ notice) <;>
        cases notice <;> rfl
  | none =>
      exact h.of_fresh rfl rfl rfl fun read out hp hr hout hf =>
        hf.drop hpending (hsafe.drop hpending hnotice hp hr hout)

/-- **One step keeps the invariant**, when it drops no relevant event. -/
theorem Inv.step {s t : State} {action : Action} (h : Inv scope cfg s)
    (hsafe : DropsSafely scope cfg s action) (hstep : Step scope cfg s action t) :
    Inv scope cfg t := by
  cases hstep with
  | sliceUpdate event slices hidle hslices =>
      exact h.of_fresh rfl rfl rfl fun _ _ _ _ _ hf => hf.sliceUpdate hidle hslices
  | sliceNotify pending hpending => exact h.sliceNotify hsafe hpending
  | otherUpdate caches hslices =>
      exact h.of_fresh rfl rfl rfl fun _ _ _ _ _ _ => .inl (.inr (.inr (Nat.succ_pos _)))
  | otherNotify hothers =>
      exact h.of_fresh rfl rfl rfl fun _ _ _ _ _ _ => .inl (due_send _ .changes)
  | receiveChange hphase hqueued => exact .of_phase ⟨Phase.noConfusion, Phase.noConfusion⟩
  | receiveEndpoint hphase hqueued => exact .of_phase ⟨Phase.noConfusion, Phase.noConfusion⟩
  | debounce hphase => exact .of_phase ⟨Phase.noConfusion, Phase.noConfusion⟩
  | drainStart hphase => exact .of_phase ⟨Phase.noConfusion, Phase.noConfusion⟩
  | drainOne notice left hphase => exact .of_phase ⟨Phase.noConfusion, Phase.noConfusion⟩
  | drainNext hphase => exact .of_phase ⟨Phase.noConfusion, Phase.noConfusion⟩
  | drainEnd hphase => exact .of_phase ⟨Phase.noConfusion, Phase.noConfusion⟩
  | snapshot hphase =>
      refine ⟨fun hw => absurd hw Phase.noConfusion, ?_⟩
      rintro - read out hread -
      obtain rfl := Option.some.inj hread
      exact .inr ⟨rfl, rfl, fun _ _ _ => .inr (List.Perm.refl _)⟩
  | publish read out hphase hread hout =>
      refine ⟨fun _ => ⟨read, out, hread, hout, rfl⟩, ?_⟩
      intro _ other out' hother hout'
      exact (h.fresh (.inr hphase) other out' hother hout').frame rfl rfl id

/-- A run that drops no relevant event keeps the invariant. -/
theorem Run.inv {s t : State} (hrun : Run scope cfg (DropsSafely scope cfg) s t)
    (h : Inv scope cfg s) : Inv scope cfg t := by
  induction hrun with
  | refl => exact h
  | step _ hsafe hstep ih => exact ih.step hsafe hstep

/-- A quiet loop whose last reading is fresh has built what is cached. -/
theorem Inv.desired_eq {s : State} (h : Inv scope cfg s) (hquiet : Quiet s) :
    desired scope cfg s.caches = s.last := by
  obtain ⟨read, out, hread, hout, hlast⟩ := h.last hquiet.phase
  have hfresh := h.fresh (.inl hquiet.phase) read out hread hout
  have hagrees : Agrees s read out.referencedServices := by
    refine hfresh.resolve_left ?_
    rintro (hdue | hdue | hdue)
    · rw [hquiet.changes] at hdue
      exact absurd hdue (Nat.lt_irrefl 0)
    · rw [hquiet.endpoints] at hdue
      exact absurd hdue (Nat.lt_irrefl 0)
    · rw [hquiet.others] at hdue
      exact absurd hdue (Nat.lt_irrefl 0)
  have hconfig : config cfg s.caches = config cfg read := by
    rw [config, config, hagrees.ingressClasses]
  have hinputs : scope.filterInputs s.caches.inputs =
      { scope.filterInputs read.inputs with
        endpointslices := s.caches.inputs.endpointslices } :=
    (congrArg scope.filterInputs hagrees.inputs).trans rfl
  rw [hlast, desired, hconfig, hinputs]
  have hbuild : build (config cfg read) (scope.filterInputs read.inputs) = some out := hout
  refine build_agree hbuild fun ns service hmem => ?_
  refine (hagrees.slices ns service hmem).resolve_left ?_
  rintro ⟨pending, hpending, -⟩
  rw [hquiet.sliceEvent] at hpending
  cases hpending

variable (scope cfg)

/-- **No endpoint change is lost where slices are dropped safely.**  In every run that drops
no relevant event, a quiet loop has built what is cached. -/
theorem no_endpoint_change_lost {s t : State} (hstart : Starts s)
    (hrun : Run scope cfg (DropsSafely scope cfg) s t) (hquiet : Quiet t) :
    (desired scope cfg t.caches).map BuildOutput.ir = t.last.map BuildOutput.ir := by
  rw [(hrun.inv hstart.inv).desired_eq hquiet]

end Loop

/-! A slice of the referenced Service `default/web` is given to another Service. -/

/-- The loop before its first build, over some objects. -/
def startOf (inputs : Inputs) : State where
  caches := ⟨[], inputs⟩
  sliceEvent := none
  others := 0
  changes := 0
  endpoints := 0
  referenced := ∅
  phase := .settled
  read := none
  last := none

theorem starts_startOf (inputs : Inputs) : Starts (startOf inputs) := ⟨rfl, rfl, rfl⟩

/-- The loop after its first build. -/
def firstBuild (inputs : Inputs) (out : BuildOutput) : State :=
  { startOf inputs with
    referenced := out.referencedServices
    phase := .waiting
    read := some ⟨[], inputs⟩
    last := some out }

/-- The first build, which drops nothing. -/
theorem run_firstBuild [External] [CharTable] {inputs : Inputs} {out : BuildOutput}
    {P : State → Action → Prop} (hP : ∀ s, P s .snapshot ∧ P s .publish)
    (hout : desired {} {} ⟨[], inputs⟩ = some out) :
    Run {} {} P (startOf inputs) (firstBuild inputs out) :=
  .step (.step (.refl _) (hP _).1 (.snapshot _ rfl)) (hP _).2 (.publish _ _ _ rfl rfl hout)

/-- The cache holds other slices. -/
def State.holding (t : State) (slices : List EndpointSlice) : State :=
  { t with caches := { t.caches with inputs := { t.caches.inputs with endpointslices := slices } } }

/-- An event has entered the cache and is yet to be announced. -/
def State.updated (t : State) (event : SliceEvent) (slices : List EndpointSlice) : State :=
  { t.holding slices with
    sliceEvent := some ⟨event, event.touched t.caches.inputs.endpointslices, true⟩ }

/-- The loop has read the caches and built them. -/
def State.rebuilt (t : State) (out : BuildOutput) : State :=
  { t with referenced := out.referencedServices, read := some t.caches, last := some out }

section Events

variable [External] [CharTable] {scope : GatewayScope} {cfg : BuildConfig}
  {P : State → Action → Prop} {s t : State} {event : SliceEvent} {slices : List EndpointSlice}

/-- An event that is dropped over a quiet loop leaves it quiet, and the caches changed. -/
theorem run_dropped (hrun : Run scope cfg P s t) (hquiet : Quiet t)
    (hslices : slices.Perm (event.cached t.caches.inputs.endpointslices))
    (hdropped : noticeOf t.referenced event = none) (hupdate : P t (.sliceUpdate event))
    (hnotify : P (t.updated event slices) .sliceNotify) :
    Run scope cfg P s (t.holding slices) ∧ Quiet (t.holding slices) := by
  have hupdated : Run scope cfg P s (t.updated event slices) :=
    hrun.step hupdate (.sliceUpdate t event slices hquiet.sliceEvent hslices)
  have hnotified := hupdated.step hnotify (.sliceNotify _ _ rfl)
  have hnone : noticeOf (t.updated event slices).referenced event = none := hdropped
  simp only [hnone] at hnotified
  obtain ⟨caches, sliceEvent, others, changes, endpoints, referenced, phase, read, last⟩ := t
  obtain rfl : sliceEvent = none := hquiet.sliceEvent
  exact ⟨hnotified, hquiet.phase, hquiet.changes, hquiet.endpoints, rfl, hquiet.others⟩

/-- An event that is noticed over a quiet loop is built. -/
theorem run_noticed {out : BuildOutput} (hrun : Run scope cfg P s t) (hquiet : Quiet t)
    (hslices : slices.Perm (event.cached t.caches.inputs.endpointslices))
    (hnoticed : noticeOf t.referenced event = some .endpoints)
    (hout : desired scope cfg (t.holding slices).caches = some out)
    (hothers : ∀ u action, action ≠ .sliceNotify → P u action)
    (hnotify : P (t.updated event slices) .sliceNotify) :
    Run scope cfg P s ((t.holding slices).rebuilt out) ∧
      Quiet ((t.holding slices).rebuilt out) := by
  have hupdated : Run scope cfg P s (t.updated event slices) :=
    hrun.step (hothers _ _ Action.noConfusion)
      (.sliceUpdate t event slices hquiet.sliceEvent hslices)
  have hnotified := hupdated.step hnotify (.sliceNotify _ _ rfl)
  have hsome : noticeOf (t.updated event slices).referenced event = some .endpoints := hnoticed
  simp only [hsome] at hnotified
  obtain ⟨caches, sliceEvent, others, changes, endpoints, referenced, phase, read, last⟩ := t
  obtain ⟨rfl, rfl, rfl, rfl, rfl⟩ := hquiet
  -- one notice is queued: the loop takes it, drains two empty channels and builds
  have hreceived := hnotified.step (hothers _ _ Action.noConfusion)
    (.receiveEndpoint _ (.inl rfl) Nat.one_pos)
  have hdrained := ((hreceived.step (hothers _ _ Action.noConfusion) (.drainStart _ rfl)).step
    (hothers _ _ Action.noConfusion) (.drainNext _ rfl)).step
      (hothers _ _ Action.noConfusion) (.drainEnd _ rfl)
  have hread := hdrained.step (hothers _ _ Action.noConfusion) (.snapshot _ rfl)
  exact ⟨hread.step (hothers _ _ Action.noConfusion) (.publish _ _ _ rfl rfl hout),
    rfl, rfl, rfl, rfl, rfl⟩

end Events

/-- A second slice of the Service of `webInputs`. -/
def secondSlice : EndpointSlice := readySlice "web-2" "web" "10.0.0.2"

/-- A slice of a Service that no route refers to. -/
def unrelatedSlice : EndpointSlice := readySlice "other-1" "other" "10.0.0.3"

/-- The objects with the second slice. -/
def secondInputs : Inputs :=
  { webInputs with endpointslices := secondSlice :: webInputs.endpointslices }

attribute [local instance] External.plain Sozu.asciiTable in
/-- The first build makes the watcher announce the second slice. -/
theorem desired_webInputs_second :
    ((desired {} {} ⟨[], webInputs⟩).any fun out => decide
      (noticeOf out.referencedServices (.apply secondSlice) = some .endpoints)) = true := by
  decide +kernel

attribute [local instance] External.plain Sozu.asciiTable in
/-- The second build serves both slices, and makes the watcher drop the unrelated one. -/
theorem desired_secondInputs :
    ((desired {} {} ⟨[], secondInputs⟩).any fun out => decide
      (out.ir.backends.map Backend.address =
          [.v4 ⟨10, 0, 0, 1⟩ 8080, .v4 ⟨10, 0, 0, 2⟩ 8080] ∧
        noticeOf out.referencedServices (.apply unrelatedSlice) = none ∧
        feeds out.referencedServices unrelatedSlice = false)) = true := by
  decide +kernel

attribute [local instance] External.plain Sozu.asciiTable in
/-- A slice of the referenced Service is announced and built; then a slice of another is
dropped, so that the loop never reads it, and what was built is still what is cached. -/
theorem no_endpoint_change_lost_webInputs :
    ∃ t : State, Run {} {} (DropsSafely {} {}) (startOf webInputs) t ∧ Quiet t ∧
      t.read.map (fun read => read.inputs.endpointslices) =
        some (secondSlice :: webInputs.endpointslices) ∧
      t.caches.inputs.endpointslices = unrelatedSlice :: secondSlice :: webInputs.endpointslices ∧
      t.last.map (fun out => out.ir.backends.map Backend.address) =
        some [.v4 ⟨10, 0, 0, 1⟩ 8080, .v4 ⟨10, 0, 0, 2⟩ 8080] ∧
      (desired {} {} t.caches).map BuildOutput.ir = t.last.map BuildOutput.ir := by
  obtain ⟨out, hout, hfirst⟩ := (Option.any_eq_true _ _).1 desired_webInputs_second
  obtain ⟨out', hout', hsecond⟩ := (Option.any_eq_true _ _).1 desired_secondInputs
  obtain ⟨haddresses, hdropped, hfeeds⟩ := of_decide_eq_true hsecond
  have hothers : ∀ u action, action ≠ .sliceNotify → DropsSafely {} {} u action :=
    fun _ _ hne heq => absurd heq hne
  have hbuilt : Run {} {} (DropsSafely {} {}) (startOf webInputs) (firstBuild webInputs out) :=
    run_firstBuild (fun _ => ⟨hothers _ _ Action.noConfusion, hothers _ _ Action.noConfusion⟩) hout
  have hcached : (secondSlice :: webInputs.endpointslices).Perm
      ((SliceEvent.apply secondSlice).cached webInputs.endpointslices) := by
    simp [SliceEvent.cached, webInputs, sameObject, secondSlice, readySlice]
  have hnoticed := of_decide_eq_true hfirst
  obtain ⟨hrun, hquiet⟩ := run_noticed hbuilt ⟨rfl, rfl, rfl, rfl, rfl⟩ hcached hnoticed hout'
    hothers (fun _ pending hpending hnone => by
      obtain rfl := Option.some.inj hpending
      exact absurd (hnoticed.symm.trans hnone) (by simp))
  have hcached' : (unrelatedSlice :: secondSlice :: webInputs.endpointslices).Perm
      ((SliceEvent.apply unrelatedSlice).cached (secondSlice :: webInputs.endpointslices)) := by
    simp [SliceEvent.cached, webInputs, sameObject, secondSlice, unrelatedSlice, readySlice]
  have htouched :
      (SliceEvent.apply unrelatedSlice).touched (secondSlice :: webInputs.endpointslices) =
      [unrelatedSlice] := by
    simp [SliceEvent.touched, webInputs, sameObject, secondSlice, unrelatedSlice, readySlice]
  obtain ⟨hrun, hquiet⟩ :=
    run_dropped hrun hquiet hcached' hdropped (hothers _ _ Action.noConfusion)
    (fun _ pending hpending _ => by
      obtain rfl := Option.some.inj hpending
      refine .inr (.inr fun slice hslice => ?_)
      obtain rfl : slice = unrelatedSlice := by
        have hmem : slice ∈ (SliceEvent.apply unrelatedSlice).touched
          (secondSlice :: webInputs.endpointslices) := hslice
        rw [htouched] at hmem
        exact List.mem_singleton.1 hmem
      have hrelevant : relevant {} {} (State.updated (((firstBuild webInputs out).holding
          (secondSlice :: webInputs.endpointslices)).rebuilt out') (.apply unrelatedSlice)
            (unrelatedSlice :: secondSlice :: webInputs.endpointslices)) =
          out'.referencedServices := by
        show ((desired {} {} ⟨[], secondInputs⟩).map BuildOutput.referencedServices).getD ∅ = _
        rw [hout']
        rfl
      rw [hrelevant]
      exact hfeeds)
  exact ⟨_, hrun, hquiet, rfl, rfl, congrArg some haddresses,
    no_endpoint_change_lost {} {} (starts_startOf _) hrun hquiet⟩

/-- The slice of `webInputs`, given to the Service `default/other`. -/
def relabelled : EndpointSlice := readySlice "web-1" "other" "10.0.0.1"

theorem cached_relabelled :
    (SliceEvent.apply relabelled).cached webInputs.endpointslices = [relabelled] := by
  simp [SliceEvent.cached, webInputs, sameObject, relabelled, readySlice]

/-- The objects with the slice given away. -/
def relabelledInputs : Inputs := { webInputs with endpointslices := [relabelled] }

attribute [local instance] External.plain Sozu.asciiTable in
/-- The first build serves a backend, and makes the watcher drop the slice. -/
theorem desired_webInputs :
    ((desired {} {} ⟨[], webInputs⟩).any fun out => decide
      (slicePings out.referencedServices relabelled = false ∧ out.ir.backends ≠ [])) = true := by
  decide +kernel

attribute [local instance] External.plain Sozu.asciiTable in
/-- What is cached afterwards has no backend. -/
theorem desired_relabelledInputs :
    ((desired {} {} ⟨[], relabelledInputs⟩).any fun out => decide (out.ir.backends = [])) =
      true := by
  decide +kernel

attribute [local instance] External.plain Sozu.asciiTable in
/-- **A slice taken from a referenced Service wakes nobody.**  The watcher only looks at the
Service the slice feeds now. -/
theorem endpoint_change_lost_relabelled :
    ∃ s t : State, Starts s ∧ Run {} {} (fun _ _ => True) s t ∧ Quiet t ∧
      (desired {} {} t.caches).map BuildOutput.ir ≠ t.last.map BuildOutput.ir := by
  obtain ⟨out, hout, hserves⟩ := (Option.any_eq_true _ _).1 desired_webInputs
  obtain ⟨hdropped, hbackends⟩ := of_decide_eq_true hserves
  obtain ⟨after, hafter, hempty⟩ := (Option.any_eq_true _ _).1 desired_relabelledInputs
  have hbuilt : Run {} {} (fun _ _ => True) (startOf webInputs) (firstBuild webInputs out) :=
    run_firstBuild (fun _ => ⟨trivial, trivial⟩) hout
  have hnotice : noticeOf (firstBuild webInputs out).referenced (.apply relabelled) = none := by
    show (if slicePings out.referencedServices relabelled then _ else none) = none
    rw [hdropped]
    rfl
  have hslices : [relabelled].Perm ((SliceEvent.apply relabelled).cached
      (firstBuild webInputs out).caches.inputs.endpointslices) := by
    show [relabelled].Perm ((SliceEvent.apply relabelled).cached webInputs.endpointslices)
    rw [cached_relabelled]
  obtain ⟨hrun, hquiet⟩ :=
    run_dropped hbuilt ⟨rfl, rfl, rfl, rfl, rfl⟩ hslices hnotice trivial trivial
  refine ⟨_, _, starts_startOf _, hrun, hquiet, ?_⟩
  intro heq
  have hir : (desired {} {} ⟨[], relabelledInputs⟩).map BuildOutput.ir = some out.ir := heq
  rw [hafter] at hir
  have hsame := congrArg Ir.backends (Option.some.inj hir)
  exact hbackends (hsame.symm.trans (of_decide_eq_true hempty))

end Controller

end SozuGateway
