import SozuGateway.Translator.Dispatch

/-!
# The routing state of an IR

`routing_state`: the requests of the routing graph folded into an empty
`ConfigState`, in canonical order.

* `Built` — the adds an IR makes; `mem_routingRequests` says that the fold
  dispatches these and no others.
* `Routes` — what an accepted fold leaves, and `routingState_ok` proves it: a
  well-formed state holding objects of the IR, its listeners configured and
  active, one frontend per layer-4 address, every payload admitted.
-/

set_option autoImplicit false

namespace SozuGateway

namespace Translator

open Lib Sozu

variable (lib : Library)

/-! ## The fold -/

/-- Dispatch the requests in order; the first refusal names its request. -/
def foldRequests (s : ConfigState) : List Request → Except TranslatorError ConfigState
  | [] => .ok s
  | r :: rs =>
      match lib.dispatch s r with
      | .ok s' => foldRequests s' rs
      | .error e => .error (.dispatch e r)

variable {lib}

theorem foldRequests_ok_iff {s s' : ConfigState} {rs : List Request} :
    foldRequests lib s rs = .ok s' ↔ dispatchAll lib s rs = .ok s' := by
  induction rs generalizing s with
  | nil =>
    rw [foldRequests, dispatchAll_nil, Except.ok.injEq, Except.ok.injEq]
  | cons r rs ih =>
    rw [foldRequests, dispatchAll_cons]
    cases lib.dispatch s r with
    | error e => simp [Except.bind]
    | ok s₁ => exact ih

/-! ## The empty state -/

theorem empty_wellFormed : WellFormed lib {} where
  cluster_keyed := by simp
  front_keyed := by rintro (_ | _) <;> simp [ConfigState.fronts]
  tcpListener_keyed := by simp
  udpListener_keyed := by simp
  backend_keyed := by simp [ConfigState.backendsOf]
  tcp_keyed := by simp [ConfigState.tcpOf]
  udp_keyed := by simp [ConfigState.udpOf]
  backend_nodup := by simp [ConfigState.backendsOf]
  tcp_nodup := by simp [ConfigState.tcpOf]
  udp_nodup := by simp [ConfigState.udpOf]

theorem empty_get (k : Slot) : ({} : ConfigState).get k = none := by
  cases k
  case front https key => cases https <;> simp [ConfigState.get, ConfigState.fronts]
  case listener proxy address => cases proxy <;> simp [ConfigState.get]
  all_goals simp [ConfigState.get, ConfigState.backendsOf, ConfigState.tcpOf, ConfigState.udpOf]

theorem empty_applied : Applied lib {} (writesOf lib []) {} :=
  .refl empty_wellFormed fun _ _ _ h => by simp [empty_get] at h

/-! ## The addresses an add claims -/

/-- The listener an add configures. -/
def listenerAddress (r : Request) : Option (L4Protocol × SocketAddress) :=
  match r.requestType with
  | some (.addTcpListener l) => some (.tcp, l.address)
  | some (.addUdpListener l) => some (.udp, l.address)
  | _ => none

/-- The address a layer-4 frontend's add claims. -/
def frontAddress (r : Request) : Option (L4Protocol × SocketAddress) :=
  match r.requestType with
  | some (.addTcpFrontend f) => some (.tcp, f.address)
  | some (.addUdpFrontend f) => some (.udp, f.address)
  | _ => none

@[simp] theorem listenerAddress_l4ListenerAdd (f : L4Frontend) :
    listenerAddress (l4ListenerAdd f) = some (f.protocol, f.listener.toWire) := by
  unfold l4ListenerAdd
  cases f.protocol <;> rfl

@[simp] theorem frontAddress_l4FrontendRequest (f : L4Frontend) :
    frontAddress (l4FrontendRequest f) = some (f.protocol, f.listener.toWire) := by
  unfold l4FrontendRequest
  cases f.protocol <;> rfl

theorem tcpListener_toAddr_toWire (addr : SocketAddr) :
    tcpListener addr.toWire.toAddr = tcpListener addr := by
  simp [tcpListener]

theorem udpListener_toAddr_toWire (addr : SocketAddr) :
    udpListener addr.toWire.toAddr = udpListener addr := by
  simp [udpListener]

section Keys

variable [CharTable]

/-! ## The routing graph -/

variable (lib)

/-- The requests of the routing graph. -/
def routingRequests (ir : Ir) : List Request :=
  clusterRequests ir ++ ir.backends.map backendRequest ++ httpFrontendRequests lib ir ++
    l4ListenerAdds ir.l4Frontends ++ (uniqueL4Frontends ir.l4Frontends).map l4FrontendRequest

/-- Fold the IR's routing graph into a `ConfigState`. -/
def routingState (ir : Ir) : Except TranslatorError ConfigState := do
  checkL4Conflicts (uniqueL4Frontends ir.l4Frontends)
  foldRequests lib {} (canonicalize lib (routingRequests lib ir))

variable {lib}

theorem routingState_ok_iff {ir : Ir} {s : ConfigState} : routingState lib ir = .ok s ↔
    checkL4Conflicts (uniqueL4Frontends ir.l4Frontends) = .ok () ∧
      dispatchAll lib {} (canonicalize lib (routingRequests lib ir)) = .ok s := by
  unfold routingState
  cases hcheck : checkL4Conflicts (uniqueL4Frontends ir.l4Frontends) with
  | error e => simp [bind, Except.bind]
  | ok u =>
    rw [← foldRequests_ok_iff]
    simp [bind, Except.bind]

/-! ## The adds of an IR -/

/-- The adds an IR makes. -/
inductive Built (lib : Library) (ir : Ir) : RequestType → Prop
  | cluster {c : Cluster} : c ∈ ir.clusters →
      Built lib ir (.addCluster (clusterPayload c (c.id ∈ udpClusters ir)))
  | backend {b : Backend} : b ∈ ir.backends → Built lib ir (.addBackend (backendPayload b))
  | front {p : Bool × RequestHttpFrontend} : p ∈ httpFrontendPayloads lib ir →
      Built lib ir (.addFrontend (frontendVerb p.1 p.2) p.2)
  | tcpListener {f : L4Frontend} : f ∈ l4Listeners ir.l4Frontends → f.protocol = .tcp →
      Built lib ir (.addTcpListener (tcpListener f.listener))
  | udpListener {f : L4Frontend} : f ∈ l4Listeners ir.l4Frontends → f.protocol = .udp →
      Built lib ir (.addUdpListener (udpListener f.listener))
  | tcp {f : L4Frontend} : f ∈ ir.l4Frontends → f.protocol = .tcp →
      Built lib ir (.addTcpFrontend ⟨f.clusterId, f.listener.toWire, none, []⟩)
  | udp {f : L4Frontend} : f ∈ ir.l4Frontends → f.protocol = .udp →
      Built lib ir (.addUdpFrontend ⟨f.clusterId, f.listener.toWire⟩)

/-- **The fold dispatches the adds of the IR.** -/
theorem mem_routingRequests {ir : Ir} {r : Request} :
    r ∈ routingRequests lib ir ↔ ∃ t, r = RequestType.into t ∧ Built lib ir t := by
  simp only [routingRequests, List.mem_append]
  constructor
  · rintro ((((h | h) | h) | h) | h)
    · obtain ⟨c, hc, rfl⟩ := List.mem_map.1 h
      exact ⟨_, rfl, .cluster hc⟩
    · obtain ⟨b, hb, rfl⟩ := List.mem_map.1 h
      exact ⟨_, rfl, .backend hb⟩
    · obtain ⟨p, hp, rfl⟩ := List.mem_map.1 h
      exact ⟨_, rfl, .front hp⟩
    · obtain ⟨f, hf, rfl⟩ := List.mem_map.1 h
      unfold l4ListenerAdd
      cases hproto : f.protocol with
      | tcp => exact ⟨_, rfl, .tcpListener hf hproto⟩
      | udp => exact ⟨_, rfl, .udpListener hf hproto⟩
    · obtain ⟨f, hf, rfl⟩ := List.mem_map.1 h
      rw [mem_uniqueL4Frontends] at hf
      unfold l4FrontendRequest
      cases hproto : f.protocol with
      | tcp => exact ⟨_, rfl, .tcp hf hproto⟩
      | udp => exact ⟨_, rfl, .udp hf hproto⟩
  · rintro ⟨t, rfl, ht⟩
    cases ht with
    | cluster hc => exact .inl (.inl (.inl (.inl (List.mem_map.2 ⟨_, hc, rfl⟩))))
    | backend hb => exact .inl (.inl (.inl (.inr (List.mem_map.2 ⟨_, hb, rfl⟩))))
    | front hp => exact .inl (.inl (.inr (List.mem_map.2 ⟨_, hp, rfl⟩)))
    | tcpListener hf hproto =>
      exact .inl (.inr (List.mem_map.2 ⟨_, hf, by simp [l4ListenerAdd, hproto, tcpListenerAdd]⟩))
    | udpListener hf hproto =>
      exact .inl (.inr (List.mem_map.2 ⟨_, hf, by simp [l4ListenerAdd, hproto, udpListenerAdd]⟩))
    | tcp hf hproto =>
      refine .inr (List.mem_map.2 ⟨_, mem_uniqueL4Frontends.2 hf, ?_⟩)
      simp [l4FrontendRequest, hproto]
    | udp hf hproto =>
      refine .inr (List.mem_map.2 ⟨_, mem_uniqueL4Frontends.2 hf, ?_⟩)
      simp [l4FrontendRequest, hproto]

theorem Built.standardPayload {ir : Ir} {t : RequestType} (h : Built lib ir t) :
    StandardPayload t := by
  cases h with
  | tcpListener => exact (tcpListener_toAddr_toWire _).symm
  | udpListener => exact (udpListener_toAddr_toWire _).symm
  | _ => trivial

theorem Built.raw {ir : Ir} {t : RequestType} (h : Built lib ir t) : t.Raw := by
  cases h with
  | tcp => exact ⟨rfl, rfl⟩
  | _ => trivial

/-- Each add of an IR sets an object. -/
theorem Built.sets {ir : Ir} {t : RequestType} (h : Built lib ir t) : ∃ o, t.sets = some o := by
  cases h with
  | _ => exact ⟨_, rfl⟩

theorem Built.eq_write {ir : Ir} {t : RequestType} (h : Built lib ir t) {w : Write Slot Obj}
    (hw : writeOf lib t = some w) : ∃ o, t.sets = some o ∧ w = ⟨o.slot lib, some o⟩ := by
  obtain ⟨o, ho⟩ := h.sets
  rw [writeOf_of_sets lib ho] at hw
  exact ⟨o, ho, (Option.some.inj hw).symm⟩

/-- Of the adds of an IR, a layer-4 frontend's aside, what is not refused fits. -/
theorem Built.fits {ir : Ir} {t : RequestType} (h : Built lib ir t) {s : ConfigState}
    (haccepted : ¬Refused lib s t) (htcp : ∀ f, t ≠ .addTcpFrontend f)
    (hudp : ∀ f, t ≠ .addUdpFrontend f) : Fits lib s t := by
  cases h with
  | cluster => exact not_not.1 haccepted
  | backend => exact haccepted
  | front =>
    refine ⟨?_, ?_⟩
    · by_contra hadmits
      exact haccepted (.inl hadmits)
    · by_contra hheld
      exact haccepted (.inr hheld)
  | tcpListener => exact not_not.1 haccepted
  | udpListener => exact not_not.1 haccepted
  | tcp => exact absurd rfl (htcp _)
  | udp => exact absurd rfl (hudp _)

theorem Built.step {ir : Ir} {t : RequestType} (h : Built lib ir t) {s : ConfigState}
    (hfits : Fits lib s t) : Step lib s t where
  fits := hfits
  raw := h.raw
  standard := h.standardPayload
  freed := fun id hid => by
    subst hid
    cases h

/-! ## One claim per layer-4 address -/

theorem filterMap_listenerAddress (ir : Ir) :
    (routingRequests lib ir).filterMap listenerAddress =
      (l4Listeners ir.l4Frontends).map fun f => (f.protocol, f.listener.toWire) := by
  have hnone : ∀ l : List Request, (∀ r ∈ l, listenerAddress r = none) →
      l.filterMap listenerAddress = [] := fun l h => List.filterMap_eq_nil_iff.2 h
  have hclusters : (clusterRequests ir).filterMap listenerAddress = [] :=
    hnone _ (by simp [clusterRequests, clusterRequest, RequestType.into, listenerAddress])
  have hbackends : (ir.backends.map backendRequest).filterMap listenerAddress = [] :=
    hnone _ (by simp [backendRequest, RequestType.into, listenerAddress])
  have hfronts : (httpFrontendRequests lib ir).filterMap listenerAddress = [] :=
    hnone _ fun r hr => by
      obtain ⟨p, -, rfl⟩ := List.mem_map.1 hr
      rfl
  have hl4 : ((uniqueL4Frontends ir.l4Frontends).map l4FrontendRequest).filterMap
      listenerAddress = [] := by
    refine hnone _ fun r hr => ?_
    obtain ⟨f, -, rfl⟩ := List.mem_map.1 hr
    unfold l4FrontendRequest
    cases f.protocol <;> rfl
  rw [routingRequests, List.filterMap_append, List.filterMap_append, List.filterMap_append,
    List.filterMap_append, hclusters, hbackends, hfronts, hl4]
  simp [l4ListenerAdds, List.filterMap_map]

theorem filterMap_frontAddress (ir : Ir) :
    (routingRequests lib ir).filterMap frontAddress =
      (uniqueL4Frontends ir.l4Frontends).map fun f => (f.protocol, f.listener.toWire) := by
  have hnone : ∀ l : List Request, (∀ r ∈ l, frontAddress r = none) →
      l.filterMap frontAddress = [] := fun l h => List.filterMap_eq_nil_iff.2 h
  have hclusters : (clusterRequests ir).filterMap frontAddress = [] :=
    hnone _ (by simp [clusterRequests, clusterRequest, RequestType.into, frontAddress])
  have hbackends : (ir.backends.map backendRequest).filterMap frontAddress = [] :=
    hnone _ (by simp [backendRequest, RequestType.into, frontAddress])
  have hfronts : (httpFrontendRequests lib ir).filterMap frontAddress = [] :=
    hnone _ fun r hr => by
      obtain ⟨p, -, rfl⟩ := List.mem_map.1 hr
      rfl
  have hlisteners : (l4ListenerAdds ir.l4Frontends).filterMap frontAddress = [] := by
    refine hnone _ fun r hr => ?_
    obtain ⟨f, -, rfl⟩ := List.mem_map.1 hr
    unfold l4ListenerAdd
    cases f.protocol <;> rfl
  rw [routingRequests, List.filterMap_append, List.filterMap_append, List.filterMap_append,
    List.filterMap_append, hclusters, hbackends, hfronts, hlisteners]
  simp [List.filterMap_map]

/-- The listener a listener's add configures, as the store has it. -/
theorem Built.hasListener {ir : Ir} {t : RequestType} (h : Built lib ir t)
    {x : L4Protocol × SocketAddress} (hx : listenerAddress t.into = some x) :
    (∃ w, writeOf lib t = some w ∧ w.slot = .listener (proxyOf x.1) x.2 ∧ w.value ≠ none) ∧
      ∀ s, ¬Refused lib s t → s.get (.listener (proxyOf x.1) x.2) = none := by
  cases h with
  | tcpListener hf _ =>
    obtain rfl := Option.some.inj hx
    refine ⟨⟨_, rfl, rfl, by simp⟩, fun s hs => ?_⟩
    have hnone := not_not.1 hs
    simp [proxyOf, ConfigState.get, hnone]
  | udpListener hf _ =>
    obtain rfl := Option.some.inj hx
    refine ⟨⟨_, rfl, rfl, by simp⟩, fun s hs => ?_⟩
    have hnone := not_not.1 hs
    simp [proxyOf, ConfigState.get, hnone]
  | _ => simp [listenerAddress, RequestType.into] at hx

/-- **An accepted fold configures each listener once.**  A second add of a
listener is refused; the listeners come first, so their adds can be read off
before the frontends are. -/
theorem nodup_listenerAddress (hlib : lib.Documented) {ir : Ir} {s : ConfigState}
    (hok : dispatchAll lib {} (canonicalize lib (routingRequests lib ir)) = .ok s) :
    ((routingRequests lib ir).filterMap listenerAddress).Nodup := by
  have hbuilt : ∀ r ∈ canonicalize lib (routingRequests lib ir),
      ∃ t, r = RequestType.into t ∧ Built lib ir t := fun r hr =>
    mem_routingRequests.1 (mem_canonicalize.1 hr)
  have hsorted : (canonicalize lib (routingRequests lib ir)).Pairwise
      fun a b => tier a ≤ tier b := sortedByTier _
  rw [← ((@canonicalize_perm lib (routingRequests lib ir)).filterMap
    listenerAddress).nodup_iff]
  set rs := canonicalize lib (routingRequests lib ir)
  have hsplit := eq_filter_append_filter 1 hsorted
  set rs₀ := rs.filter fun r => tier r < 1 with hrs₀
  set rs₁ := rs.filter fun r => 1 ≤ tier r with hrs₁
  -- beyond the first tier no request configures a listener
  have hrest : rs₁.filterMap listenerAddress = [] := by
    rw [List.filterMap_eq_nil_iff]
    intro r hr
    obtain ⟨hr, htier⟩ := List.mem_filter.1 hr
    obtain ⟨t, rfl, ht⟩ := hbuilt r hr
    cases ht with
    | tcpListener => simp [verbTier] at htier
    | udpListener => simp [verbTier] at htier
    | _ => rfl
  have hfirst : ∀ r ∈ rs₀, ∃ t, r = RequestType.into t ∧ Built lib ir t ∧
      (∀ f, t ≠ .addTcpFrontend f) ∧ ∀ f, t ≠ .addUdpFrontend f := by
    intro r hr
    obtain ⟨hr, htier⟩ := List.mem_filter.1 hr
    obtain ⟨t, rfl, ht⟩ := hbuilt r hr
    refine ⟨t, rfl, ht, ?_, ?_⟩ <;> rintro f rfl <;> simp [verbTier] at htier
  rw [hsplit] at hok
  obtain ⟨s₀, hok₀⟩ := dispatchAll_ok_of_append hok
  obtain ⟨-, hsteps⟩ := dispatchAll_ok hlib empty_applied hok₀ fun p r rest hr s' _ => by
    obtain ⟨t, rfl, ht, htcp, hudp⟩ := hfirst r (by rw [hr]; simp)
    exact ⟨t, rfl, fun haccepted => ht.step (ht.fits haccepted htcp hudp)⟩
  rw [hsplit, List.filterMap_append, hrest, List.append_nil]
  refine nodup_filterMap_of_split fun p r rest hr x hx b hb hbx => ?_
  obtain ⟨t, rfl, ht, -, -⟩ := hfirst r (by rw [hr]; simp)
  obtain ⟨t', rfl, ht', -, -⟩ := hfirst b (by rw [hr]; simp [hb])
  obtain ⟨s'', happ, haccepted⟩ := hsteps p t rest hr
  obtain ⟨w, hw, hslot, hvalue⟩ := (ht'.hasListener hbx).1
  have hnone := (ht.hasListener hx).2 s'' haccepted
  rw [happ.get] at hnone
  refine run_ne_none (fun w' hw' _ => ?_) (.inr ⟨w, ?_, hslot⟩) hnone
  · obtain ⟨t₁, ht₁, hwrite⟩ := (mem_writesOf lib).1 hw'
    obtain ⟨t₂, heq, hbuilt₂, -, -⟩ := hfirst t₁.into (by
      rw [hr]
      exact List.mem_append_left _ (by simpa using ht₁))
    obtain rfl := RequestType.into_inj.1 heq
    obtain ⟨o, -, rfl⟩ := hbuilt₂.eq_write hwrite
    simp
  · exact (mem_writesOf lib).2 ⟨t', by simpa using hb, hw⟩

/-- **Two layer-4 routes of one protocol whose addresses Sōzu cannot tell apart are
on one address.** -/
theorem listener_eq_of_toWire_eq (hlib : lib.Documented) {ir : Ir} {s : ConfigState}
    (hok : dispatchAll lib {} (canonicalize lib (routingRequests lib ir)) = .ok s)
    {f g : L4Frontend} (hf : f ∈ ir.l4Frontends) (hg : g ∈ ir.l4Frontends)
    (hproto : f.protocol = g.protocol) (hwire : f.listener.toWire = g.listener.toWire) :
    f.listener = g.listener := by
  have hnd := nodup_listenerAddress hlib hok
  rw [filterMap_listenerAddress] at hnd
  obtain ⟨f', hf', hfkey⟩ := exists_mem_uniqueBy (fun f => (f.protocol, f.listener)) hf
  obtain ⟨g', hg', hgkey⟩ := exists_mem_uniqueBy (fun f => (f.protocol, f.listener)) hg
  simp only [Prod.mk.injEq] at hfkey hgkey
  have heq : f' = g' := inj_of_nodup_map hnd hf' hg' (by
    rw [hfkey.1, hfkey.2, hgkey.1, hgkey.2, hproto, hwire])
  rw [← hfkey.2, ← hgkey.2, heq]

/-- No two adds of the fold claim one layer-4 address. -/
theorem nodup_frontAddress (hlib : lib.Documented) {ir : Ir} {s : ConfigState}
    (hcheck : checkL4Conflicts (uniqueL4Frontends ir.l4Frontends) = .ok ())
    (hok : dispatchAll lib {} (canonicalize lib (routingRequests lib ir)) = .ok s) :
    ((routingRequests lib ir).filterMap frontAddress).Nodup := by
  rw [filterMap_frontAddress]
  have hnd := checkL4Conflicts_ok.1 hcheck
  refine List.Nodup.map_on ?_ (List.Nodup.of_map _ hnd)
  intro f hf g hg hfg
  simp only [Prod.mk.injEq] at hfg
  have hlistener := listener_eq_of_toWire_eq hlib hok (mem_uniqueL4Frontends.1 hf)
    (mem_uniqueL4Frontends.1 hg) hfg.1 hfg.2
  exact inj_of_nodup_map hnd hf hg (by rw [hfg.1, hlistener])

/-! ## What an accepted fold leaves -/

/-- What an accepted fold leaves: the writes of its requests, each of which some
state accepted. -/
structure Routes (lib : Library) (ir : Ir) (s : ConfigState) : Prop where
  applied : Applied lib {} (writesOf lib (canonicalize lib (routingRequests lib ir))) s
  accepted : ∀ t, Built lib ir t → ∃ s', ¬Refused lib s' t ∧ WellFormed lib s' ∧
    ∀ o, Holds lib s' o → ∃ t', Built lib ir t' ∧ t'.sets = some o
  nodup_frontAddress : ((routingRequests lib ir).filterMap frontAddress).Nodup

/-- A write of adds that an IR makes comes from one of them. -/
theorem built_of_mem_writesOf {ir : Ir} {rs : List Request}
    (hrs : ∀ r ∈ rs, r ∈ routingRequests lib ir) {w : Write Slot Obj} (hw : w ∈ writesOf lib rs) :
    ∃ t o, RequestType.into t ∈ rs ∧ Built lib ir t ∧ t.sets = some o ∧
      w = ⟨o.slot lib, some o⟩ := by
  obtain ⟨t, ht, hwrite⟩ := (mem_writesOf lib).1 hw
  obtain ⟨t', heq, hbuilt⟩ := mem_routingRequests.1 (hrs _ ht)
  obtain rfl := RequestType.into_inj.1 heq
  obtain ⟨o, ho, hwo⟩ := hbuilt.eq_write hwrite
  exact ⟨t, o, ht, hbuilt, ho, hwo⟩

/-- A store written by adds that an IR makes holds objects of that IR. -/
theorem Applied.built {ir : Ir} {rs : List Request} (hrs : ∀ r ∈ rs, r ∈ routingRequests lib ir)
    {s : ConfigState} (happ : Applied lib {} (writesOf lib rs) s) {o : Obj}
    (ho : Holds lib s o) : ∃ t, RequestType.into t ∈ rs ∧ Built lib ir t ∧ t.sets = some o := by
  have hget := (get_slot_iff happ.wellFormed).2 ho
  rw [happ.get] at hget
  rcases run_eq_some hget with hempty | ⟨w, hw, -, hvalue⟩
  · simp [empty_get] at hempty
  · obtain ⟨t, o', ht, hbuilt, ho', rfl⟩ := built_of_mem_writesOf hrs hw
    obtain rfl := Option.some.inj hvalue
    exact ⟨t, ht, hbuilt, ho'⟩

omit [CharTable] in
theorem frontAddress_of_sets_tcp {t : RequestType} {f : RequestTcpFrontend}
    (h : t.sets = some (.tcp f)) : frontAddress t.into = some (.tcp, f.address) := by
  cases t <;> simp only [RequestType.sets, Option.some.injEq, reduceCtorEq, Obj.tcp.injEq] at h
  subst h
  rfl

omit [CharTable] in
theorem frontAddress_of_sets_udp {t : RequestType} {f : RequestUdpFrontend}
    (h : t.sets = some (.udp f)) : frontAddress t.into = some (.udp, f.address) := by
  cases t <;> simp only [RequestType.sets, Option.some.injEq, reduceCtorEq, Obj.udp.injEq] at h
  subst h
  rfl

/-- **Each add of the fold, once not refused, is a step**: a layer-4 frontend's
address is free, since no add before it claimed it. -/
theorem Built.step_of_fold {ir : Ir} {rs p rest : List Request} {t : RequestType}
    (hrs : ∀ r ∈ rs, r ∈ routingRequests lib ir) (hnd : (rs.filterMap frontAddress).Nodup)
    (hsplit : rs = p ++ t.into :: rest) (ht : Built lib ir t) {s : ConfigState}
    (happ : Applied lib {} (writesOf lib p) s) (haccepted : ¬Refused lib s t) : Step lib s t := by
  have hp : ∀ r ∈ p, r ∈ routingRequests lib ir := fun r hr =>
    hrs r (by rw [hsplit]; exact List.mem_append_left _ hr)
  by_cases htcp : ∃ f, t = .addTcpFrontend f
  · obtain ⟨f, rfl⟩ := htcp
    refine ht.step fun id held hheld haddr => ?_
    have hid := (happ.wellFormed.tcp_keyed id held hheld).1
    subst hid
    obtain ⟨t', ht', -, hsets⟩ := happ.built hp (o := .tcp held) hheld
    have hkey := frontAddress_of_sets_tcp hsets
    rw [haddr] at hkey
    exact not_repeated_of_nodup_filterMap hnd hsplit (x := (.tcp, f.address)) rfl ht' hkey
  by_cases hudp : ∃ f, t = .addUdpFrontend f
  · obtain ⟨f, rfl⟩ := hudp
    refine ht.step fun id held hheld haddr => ?_
    have hid := happ.wellFormed.udp_keyed id held hheld
    subst hid
    obtain ⟨t', ht', -, hsets⟩ := happ.built hp (o := .udp held) hheld
    have hkey := frontAddress_of_sets_udp hsets
    rw [haddr] at hkey
    exact not_repeated_of_nodup_filterMap hnd hsplit (x := (.udp, f.address)) rfl ht' hkey
  exact ht.step (ht.fits haccepted (fun f hf => htcp ⟨f, hf⟩) fun f hf => hudp ⟨f, hf⟩)

/-- **What an accepted fold leaves.** -/
theorem routingState_ok (hlib : lib.Documented) {ir : Ir} {s : ConfigState}
    (h : routingState lib ir = .ok s) : Routes lib ir s := by
  obtain ⟨hcheck, hok⟩ := routingState_ok_iff.1 h
  have hnd := nodup_frontAddress hlib hcheck hok
  have hperm := @canonicalize_perm lib (routingRequests lib ir)
  have hrs : ∀ r ∈ canonicalize lib (routingRequests lib ir), r ∈ routingRequests lib ir :=
    fun r => hperm.mem_iff.1
  have hnd' : ((canonicalize lib (routingRequests lib ir)).filterMap frontAddress).Nodup :=
    (hperm.filterMap frontAddress).nodup_iff.2 hnd
  obtain ⟨happ, hsteps⟩ := dispatchAll_ok hlib empty_applied hok fun p r rest hr s' hs' => by
    obtain ⟨t, rfl, ht⟩ := mem_routingRequests.1 (hrs r (by rw [hr]; simp))
    exact ⟨t, rfl, ht.step_of_fold hrs hnd' hr hs'⟩
  refine ⟨happ, fun t ht => ?_, hnd⟩
  obtain ⟨p, rest, hsplit⟩ := List.append_of_mem
    (hperm.mem_iff.2 (mem_routingRequests.2 ⟨t, rfl, ht⟩))
  obtain ⟨s', happ', haccepted⟩ := hsteps p t rest hsplit
  refine ⟨s', haccepted, happ'.wellFormed, fun o ho => ?_⟩
  obtain ⟨t', -, ht', hsets⟩ := happ'.built (fun r hr => hrs r (by rw [hsplit]; simp_all)) ho
  exact ⟨t', ht', hsets⟩

namespace Routes

variable {ir : Ir} {s : ConfigState} (h : Routes lib ir s)

include h

theorem wellFormed : WellFormed lib s := h.applied.wellFormed

/-- The state holds objects of the IR. -/
theorem built {o : Obj} (ho : Holds lib s o) : ∃ t, Built lib ir t ∧ t.sets = some o := by
  obtain ⟨t, -, hbuilt, hsets⟩ := h.applied.built (fun r hr => mem_canonicalize.1 hr) ho
  exact ⟨t, hbuilt, hsets⟩

/-- Each object of the IR has its slot filled. -/
theorem slot_filled {t : RequestType} (ht : Built lib ir t) {o : Obj} (ho : t.sets = some o) :
    s.get (o.slot lib) ≠ none := by
  rw [h.applied.get]
  refine run_ne_none (fun w hw _ => ?_) (.inr ⟨⟨o.slot lib, some o⟩, ?_, rfl⟩)
  · obtain ⟨t', o', -, -, -, rfl⟩ := built_of_mem_writesOf (fun r hr => mem_canonicalize.1 hr) hw
    simp
  · refine (mem_writesOf lib).2 ⟨t, ?_, writeOf_of_sets lib ho⟩
    exact mem_canonicalize.2 (mem_routingRequests.2 ⟨t, rfl, ht⟩)

/-- Each cluster of the IR is admitted. -/
theorem admits_built_cluster {c : Cluster} (hc : c ∈ ir.clusters) :
    lib.admits (.addCluster (clusterPayload c (c.id ∈ udpClusters ir))) := by
  obtain ⟨s', haccepted, -⟩ := h.accepted _ (.cluster hc)
  exact not_not.1 haccepted

/-- Each frontend of the IR that is sent is admitted on its verb. -/
theorem admits_built_front {p : Bool × RequestHttpFrontend} (hp : p ∈ httpFrontendPayloads lib ir) :
    lib.admits (.addHttpFrontend p.1 p.2) := by
  obtain ⟨s', haccepted, -⟩ := h.accepted _ (.front hp)
  by_contra hadmits
  exact haccepted (.inl hadmits)

/-- Each backend of the IR names a cluster it declares. -/
theorem declares {b : Backend} (hb : b ∈ ir.backends) : Declares ir b.clusterId := by
  obtain ⟨s', haccepted, hwf, hbuilt⟩ := h.accepted _ (.backend hb)
  have hheld : s'.clusters[b.clusterId]? ≠ none := haccepted
  obtain ⟨c, hc⟩ := Option.ne_none_iff_exists'.1 hheld
  have hid := hwf.cluster_keyed _ c hc
  rw [← hid] at hc
  obtain ⟨t, ht, hsets⟩ := hbuilt (.cluster c) hc
  cases ht <;> simp only [RequestType.sets, Option.some.injEq, reduceCtorEq,
    Obj.cluster.injEq] at hsets
  rename_i c' hc'
  subst hsets
  exact ⟨c', hc', hid⟩

/-- Each cluster of the state is admitted. -/
theorem admits_cluster {c : Sozu.Cluster} (hc : Holds lib s (.cluster c)) :
    lib.admits (.addCluster c) := by
  obtain ⟨t, ht, hsets⟩ := h.built hc
  cases ht <;> simp only [RequestType.sets, Option.some.injEq, reduceCtorEq,
    Obj.cluster.injEq] at hsets
  rename_i c' hc'
  subst hsets
  exact h.admits_built_cluster hc'

/-- Each frontend of the state is admitted on its verb. -/
theorem admits_front {https : Bool} {f : RequestHttpFrontend}
    (hf : Holds lib s (.front https f)) : lib.admits (.addHttpFrontend https f) := by
  obtain ⟨t, ht, hsets⟩ := h.built hf
  cases ht <;> simp only [RequestType.sets, Option.some.injEq, reduceCtorEq,
    Obj.front.injEq] at hsets
  rename_i p hp
  obtain ⟨rfl, rfl⟩ := hsets
  exact h.admits_built_front hp

/-- Each listener of the state is the active one the translator configures. -/
theorem listener {proxy : ListenerType} {address : SocketAddress} {o : Obj}
    (ho : s.get (.listener proxy address) = some o) : l4Listener proxy address true = some o := by
  obtain ⟨hheld, hslot⟩ := (get_eq_some_iff h.wellFormed).1 ho
  obtain ⟨t, ht, hsets⟩ := h.built hheld
  have hw := writeOf_of_sets lib hsets
  cases ht <;> simp only [RequestType.sets, Option.some.injEq] at hsets
  case tcpListener f _ _ =>
    subst hsets
    simp only [Obj.slot, Slot.listener.injEq] at hslot
    obtain ⟨rfl, rfl⟩ := hslot
    simp [l4Listener, tcpListener]
  case udpListener f _ _ =>
    subst hsets
    simp only [Obj.slot, Slot.listener.injEq] at hslot
    obtain ⟨rfl, rfl⟩ := hslot
    simp [l4Listener, udpListener]
  all_goals
    subst hsets
    simp [Obj.slot] at hslot

/-- One TCP frontend per address. -/
theorem tcp_apart {f f' : RequestTcpFrontend} (hf : Holds lib s (.tcp f))
    (hf' : Holds lib s (.tcp f')) (haddr : f.address = f'.address) : f = f' := by
  obtain ⟨t, ht, hsets⟩ := h.built hf
  obtain ⟨t', ht', hsets'⟩ := h.built hf'
  have hkey := frontAddress_of_sets_tcp hsets
  have hkey' := frontAddress_of_sets_tcp hsets'
  rw [← haddr] at hkey'
  have hinto : t.into = t'.into := eq_of_nodup_filterMap h.nodup_frontAddress
    (mem_routingRequests.2 ⟨t, rfl, ht⟩) (mem_routingRequests.2 ⟨t', rfl, ht'⟩) hkey hkey'
  obtain rfl := RequestType.into_inj.1 hinto
  rw [hsets] at hsets'
  simpa using hsets'

/-- One UDP frontend per address. -/
theorem udp_apart {f f' : RequestUdpFrontend} (hf : Holds lib s (.udp f))
    (hf' : Holds lib s (.udp f')) (haddr : f.address = f'.address) : f = f' := by
  obtain ⟨t, ht, hsets⟩ := h.built hf
  obtain ⟨t', ht', hsets'⟩ := h.built hf'
  have hkey := frontAddress_of_sets_udp hsets
  have hkey' := frontAddress_of_sets_udp hsets'
  rw [← haddr] at hkey'
  have hinto : t.into = t'.into := eq_of_nodup_filterMap h.nodup_frontAddress
    (mem_routingRequests.2 ⟨t, rfl, ht⟩) (mem_routingRequests.2 ⟨t', rfl, ht'⟩) hkey hkey'
  obtain rfl := RequestType.into_inj.1 hinto
  rw [hsets] at hsets'
  simpa using hsets'

/-- Each object names a cluster the state holds, when the IR passes its check. -/
theorem cluster_held (hrefs : checkClusterReferences ir = .ok ()) {o : Obj} {id : String}
    (ho : Holds lib s o) (hid : o.clusterId = some id) : s.get (.cluster id) ≠ none := by
  obtain ⟨hbackends, hfronts, hl4⟩ := checkClusterReferences_ok.1 hrefs
  obtain ⟨t, ht, hsets⟩ := h.built ho
  have hdeclared : Declares ir id := by
    cases ht <;> simp only [RequestType.sets, Option.some.injEq] at hsets <;>
      subst hsets <;> simp only [Obj.clusterId, Option.some.injEq, reduceCtorEq] at hid
    case backend b hb =>
      subst hid
      exact hbackends b hb
    case front p hp =>
      obtain ⟨f, hf, rfl⟩ := List.mem_map.1 (mem_of_mem_uniqueBy hp)
      rw [frontendPayload_clusterId] at hid
      exact hfronts f (mem_of_mem_uniqueBy hf) id hid
    case tcp f hf hproto =>
      subst hid
      exact hl4 f hf
    case udp f hf hproto =>
      subst hid
      exact hl4 f hf
  obtain ⟨c, hc, rfl⟩ := hdeclared
  exact h.slot_filled (.cluster hc) rfl

end Routes

end Keys

end Translator

end SozuGateway
