import SozuGateway.Translator.Replay

/-!
# The requests of an IR, slot by slot

An IR without layer-4 routes, read off one slot of the routing state at a time.

* `slotRequests` — the requests of the IR that write a slot;
  `filter_routingRequests` — these are the ones the fold dispatches there.
* `Routes.get_congr` — two IRs with the same requests at a slot hold the same there.
* `routingState_of_admitted` — such an IR has a routing state as soon as its payloads
  are admitted and its backends name declared clusters.
-/

set_option autoImplicit false

namespace SozuGateway

namespace Translator

open Lib Sozu

variable {lib : Library}

/-! ## The requests that write a slot -/

/-- The request writes the slot. -/
def writesSlot (lib : Library) (k : Slot) (r : Request) : Bool :=
  (r.requestType.bind (writeOf lib)).any fun w => w.slot = k

theorem writesOf_filter (k : Slot) (rs : List Request) :
    writesOf lib (rs.filter (writesSlot lib k)) = (writesOf lib rs).filter fun w => w.slot = k := by
  induction rs with
  | nil => rfl
  | cons r rs ih =>
    unfold writesOf at ih ⊢
    cases hw : r.requestType.bind (writeOf lib) with
    | none =>
      have hnot : writesSlot lib k r = false := by simp [writesSlot, hw]
      rw [List.filter_cons_of_neg (by simp [hnot]), ih]
      simp only [List.filterMap_cons, hw]
    | some w =>
      by_cases hk : w.slot = k
      · have hyes : writesSlot lib k r = true := by simp [writesSlot, hw, hk]
        rw [List.filter_cons_of_pos hyes]
        simp only [List.filterMap_cons, hw]
        rw [ih, List.filter_cons_of_pos (by simpa using hk)]
      · have hnot : writesSlot lib k r = false := by simp [writesSlot, hw, hk]
        rw [List.filter_cons_of_neg (by simp [hnot]), ih]
        simp only [List.filterMap_cons, hw]
        rw [List.filter_cons_of_neg (by simpa using hk)]

theorem filter_canonicalize (p : Request → Bool) (rs : List Request) :
    (canonicalize lib rs).filter p = canonicalize lib (rs.filter p) := by
  unfold canonicalize canonicalizeRanked
  rw [List.filter_map, filter_sortBy, List.filter_map]
  rfl

section Keys

variable [CharTable]

/-- **Two IRs with the same requests at a slot hold the same there.** -/
theorem Routes.get_congr {ir ir' : Ir} {s s' : ConfigState}
    (h : Routes lib ir s) (h' : Routes lib ir' s') {k : Slot}
    (hsame : (routingRequests lib ir).filter (writesSlot lib k) =
      (routingRequests lib ir').filter (writesSlot lib k)) : s.get k = s'.get k := by
  rw [h.applied.get, h'.applied.get, ← run_filter_slot _ k, ← writesOf_filter,
    filter_canonicalize, hsame, ← filter_canonicalize, writesOf_filter, run_filter_slot]

/-! ## Without layer 4 -/

/-- The requests an IR without layer-4 routes makes at a slot. -/
def slotRequests (ir : Ir) : Slot → List Request
  | .cluster id => (under Cluster.id id ir.clusters).map fun c => clusterRequest c false
  | .backend clusterId backendId address =>
      (under backendKey (toLex (clusterId, toLex (backendId, address.toAddr))) ir.backends).map
        backendRequest
  | .front https key =>
      ((under Frontend.sozuRouteKey ⟨https, key⟩ ir.frontends).take 1).map fun f =>
        frontendRequest f.tls (frontendPayload f)
  | _ => []

theorem sozuRouteKey_https (f : Frontend) : f.sozuRouteKey.https = f.tls := rfl

/-- The payloads of the frontends: one for each route key. -/
theorem httpFrontendPayloads_eq (hkeyed : RouteKeyed lib) (ir : Ir) :
    httpFrontendPayloads lib ir = (uniqueFrontends ir).map fun f => (f.tls, frontendPayload f) := by
  refine uniqueBy_eq_self ?_
  rw [List.map_map]
  have hnd := nodup_map_uniqueBy Frontend.sozuRouteKey ir.frontends
  refine List.Nodup.map_on (fun f hf f' hf' heq => ?_) (List.Nodup.of_map _ hnd)
  simp only [Function.comp_apply, Prod.mk.injEq, hkeyed f, hkeyed f'] at heq
  refine inj_of_nodup_map hnd hf hf' ?_
  exact SozuRouteKey.mk.injEq .. ▸ heq

omit [CharTable] in
theorem clusterRequests_eq {ir : Ir} (hl4 : ir.l4Frontends = []) :
    clusterRequests ir = ir.clusters.map fun c => clusterRequest c false := by
  refine List.map_congr_left fun c _ => ?_
  have hnot : c.id ∉ udpClusters ir := by simp [udpClusters, hl4]
  simp [hnot]

/-- **The requests the fold dispatches at a slot.** -/
theorem filter_routingRequests (hkeyed : RouteKeyed lib) {ir : Ir} (hl4 : ir.l4Frontends = [])
    (k : Slot) : (routingRequests lib ir).filter (writesSlot lib k) = slotRequests ir k := by
  have hcluster : ∀ c, writesSlot lib k (clusterRequest c false) = decide (.cluster c.id = k) :=
    fun c => rfl
  have hbackend : ∀ b, writesSlot lib k (backendRequest b) =
      decide (.backend b.clusterId b.backendId b.address.toWire = k) := fun b => rfl
  have hfront : ∀ f, writesSlot lib k (frontendRequest f.tls (frontendPayload f)) =
      decide (.front f.tls f.sozuRouteKey.key = k) := by
    intro f
    rw [← hkeyed f]
    rfl
  have hnone : ∀ {α : Type} (l : List α) (f : α → Request),
      (∀ a ∈ l, writesSlot lib k (f a) = false) → (l.map f).filter (writesSlot lib k) = [] := by
    intro α l f h
    rw [List.filter_eq_nil_iff]
    intro r hr
    obtain ⟨a, ha, rfl⟩ := List.mem_map.1 hr
    simp [h a ha]
  rw [routingRequests, clusterRequests_eq hl4, httpFrontendRequests, httpFrontendPayloads_eq hkeyed,
    hl4, List.map_map]
  have hempty : l4ListenerAdds [] ++ (uniqueL4Frontends []).map l4FrontendRequest = [] := rfl
  rw [List.append_assoc _ (l4ListenerAdds []), hempty, List.append_nil, List.filter_append,
    List.filter_append]
  cases k with
  | cluster id =>
    rw [hnone ir.backends backendRequest fun b _ => by simp [hbackend],
      hnone (uniqueFrontends ir) _ fun f _ => by simp [hfront], List.append_nil, List.append_nil,
      List.filter_map]
    refine congrArg _ (under_eq_filter fun c _ => ?_).symm
    simp [hcluster]
  | backend clusterId backendId address =>
    rw [hnone ir.clusters _ fun c _ => by simp [hcluster],
      hnone (uniqueFrontends ir) _ fun f _ => by simp [hfront], List.append_nil, List.nil_append,
      List.filter_map]
    refine congrArg _ (under_eq_filter fun b _ => ?_).symm
    simp only [Function.comp_apply, hbackend, decide_eq_true_eq, Slot.backend.injEq, backendKey,
      EmbeddingLike.apply_eq_iff_eq, Prod.mk.injEq]
    rw [← SocketAddress.toAddr_toWire, SocketAddress.toAddr_injective.eq_iff]
  | front https key =>
    rw [hnone ir.clusters _ fun c _ => by simp [hcluster],
      hnone ir.backends backendRequest fun b _ => by simp [hbackend], List.nil_append,
      List.nil_append, List.filter_map]
    refine congrArg _ ?_
    have hkey : ∀ f : Frontend, f.sozuRouteKey = ⟨https, key⟩ ↔
        Slot.front f.tls f.sozuRouteKey.key = .front https key := by
      intro f
      rw [Slot.front.injEq, ← sozuRouteKey_https f]
      cases f.sozuRouteKey
      simp
    calc
      _ = (uniqueBy Frontend.sozuRouteKey ir.frontends).filter
          fun f => f.sozuRouteKey = ⟨https, key⟩ := by
        refine List.filter_congr fun f _ => ?_
        rw [Function.comp_apply, Function.comp_apply, hfront, decide_eq_decide, hkey]
      _ = (ir.frontends.filter fun f => f.sozuRouteKey = ⟨https, key⟩).take 1 := filter_uniqueBy _ _
      _ = (under Frontend.sozuRouteKey ⟨https, key⟩ ir.frontends).take 1 :=
        congrArg _ (under_eq_filter fun f _ => decide_eq_true_iff.symm).symm
  | _ =>
    rw [hnone ir.clusters _ fun c _ => by simp [hcluster],
      hnone ir.backends backendRequest fun b _ => by simp [hbackend],
      hnone (uniqueFrontends ir) _ fun f _ => by simp [hfront]]
    rfl

/-- A slot is filled exactly when the IR makes a request there. -/
theorem Routes.get_eq_none_iff (hkeyed : RouteKeyed lib) {ir : Ir} {s : ConfigState}
    (h : Routes lib ir s) (hl4 : ir.l4Frontends = []) {k : Slot} :
    s.get k = none ↔ slotRequests ir k = [] := by
  rw [← filter_routingRequests hkeyed hl4, List.filter_eq_nil_iff]
  constructor
  · intro hnone r hr hwrites
    obtain ⟨t, rfl, ht⟩ := mem_routingRequests.1 hr
    obtain ⟨o, ho⟩ := ht.sets
    have hslot : o.slot lib = k := by
      simpa [writesSlot, RequestType.into, writeOf_of_sets lib ho] using hwrites
    exact h.slot_filled ht ho (hslot ▸ hnone)
  · intro hall
    by_contra hne
    obtain ⟨o, ho⟩ := Option.ne_none_iff_exists'.1 hne
    obtain ⟨hheld, hslot⟩ := (get_eq_some_iff h.wellFormed).1 ho
    obtain ⟨t, ht, hsets⟩ := h.built hheld
    refine hall t.into (mem_routingRequests.2 ⟨t, rfl, ht⟩) ?_
    simp [writesSlot, RequestType.into, writeOf_of_sets lib hsets, hslot]

/-! ## When the fold succeeds -/

/-- The route key an add claims. -/
def frontKey (lib : Library) (r : Request) : Option (Bool × String) :=
  match r.requestType with
  | some (.addFrontend v f) => some (v.https, lib.display f)
  | _ => none

/-- No two adds of an IR claim one route key. -/
theorem nodup_frontKey (ir : Ir) : ((routingRequests lib ir).filterMap (frontKey lib)).Nodup := by
  have hnone : ∀ l : List Request, (∀ r ∈ l, frontKey lib r = none) →
      l.filterMap (frontKey lib) = [] := fun l h => List.filterMap_eq_nil_iff.2 h
  have hclusters : (clusterRequests ir).filterMap (frontKey lib) = [] :=
    hnone _ (by simp [clusterRequests, clusterRequest, RequestType.into, frontKey])
  have hbackends : (ir.backends.map backendRequest).filterMap (frontKey lib) = [] :=
    hnone _ (by simp [backendRequest, RequestType.into, frontKey])
  have hlisteners : (l4ListenerAdds ir.l4Frontends).filterMap (frontKey lib) = [] := by
    refine hnone _ fun r hr => ?_
    obtain ⟨f, -, rfl⟩ := List.mem_map.1 hr
    unfold l4ListenerAdd
    cases f.protocol <;> rfl
  have hl4 : ((uniqueL4Frontends ir.l4Frontends).map l4FrontendRequest).filterMap
      (frontKey lib) = [] := by
    refine hnone _ fun r hr => ?_
    obtain ⟨f, -, rfl⟩ := List.mem_map.1 hr
    unfold l4FrontendRequest
    cases f.protocol <;> rfl
  have hfronts : (httpFrontendRequests lib ir).filterMap (frontKey lib) =
      (httpFrontendPayloads lib ir).map fun p => (p.1, lib.display p.2) := by
    rw [httpFrontendRequests, List.filterMap_map, ← List.filterMap_eq_map]
    rfl
  rw [routingRequests, List.filterMap_append, List.filterMap_append, List.filterMap_append,
    List.filterMap_append, hclusters, hbackends, hlisteners, hl4, hfronts, List.append_nil,
    List.append_nil, List.nil_append, List.nil_append]
  exact nodup_map_uniqueBy _ _

/-- **An IR without layer-4 routes has a routing state** when its payloads are admitted
and its backends name clusters it declares. -/
theorem routingState_of_admitted (hlib : lib.Documented) {ir : Ir} (hl4 : ir.l4Frontends = [])
    (hclusters : ∀ c ∈ ir.clusters, lib.admits (.addCluster (clusterPayload c false)))
    (hbackends : ∀ b ∈ ir.backends, Declares ir b.clusterId)
    (hfronts : ∀ p ∈ httpFrontendPayloads lib ir, lib.admits (.addHttpFrontend p.1 p.2)) :
    ∃ s, routingState lib ir = .ok s := by
  set rs := canonicalize lib (routingRequests lib ir) with hrs
  have hperm : rs.Perm (routingRequests lib ir) := canonicalize_perm _
  have hsorted : rs.Pairwise fun a b => tier a ≤ tier b := sortedByTier _
  have hnd : (rs.filterMap (frontKey lib)).Nodup :=
    (hperm.filterMap (frontKey lib)).nodup_iff.2 (nodup_frontKey ir)
  have hnot : ∀ f, f ∉ ir.l4Frontends := by simp [hl4]
  obtain ⟨s, hs, -⟩ := @dispatchAll_of_steps lib hlib {} {} [] rs empty_applied
    fun p r rest hsplit s happ => by
      have hr : r ∈ rs := by
        rw [hsplit]
        simp
      obtain ⟨t, rfl, ht⟩ := mem_routingRequests.1 (hperm.mem_iff.1 hr)
      have hp : ∀ r ∈ p, r ∈ routingRequests lib ir := fun r hr =>
        hperm.mem_iff.1 (by rw [hsplit]; exact List.mem_append_left _ hr)
      rw [List.nil_append] at happ
      refine ⟨t, rfl, ht.step ?_⟩
      cases ht with
      | @cluster c hc =>
        have hudp : c.id ∉ udpClusters ir := by simp [udpClusters, hl4]
        show lib.admits _ = true
        rw [decide_eq_false hudp]
        exact hclusters c hc
      | @backend b hb =>
        -- the adds of the clusters are in an earlier tier
        obtain ⟨c, hc, hid⟩ := hbackends b hb
        have hadd : clusterRequest c (c.id ∈ udpClusters ir) ∈ rs :=
          hperm.mem_iff.2 (mem_routingRequests.2 ⟨_, rfl, .cluster hc⟩)
        have hbefore : clusterRequest c (c.id ∈ udpClusters ir) ∈ p := by
          rw [hsplit, List.pairwise_append, List.pairwise_cons] at hsorted
          rw [hsplit, List.mem_append, List.mem_cons] at hadd
          rcases hadd with hadd | hadd | hadd
          · exact hadd
          · cases hadd
          · have htier := hsorted.2.1.1 _ hadd
            simp [clusterRequest, verbTier] at htier
        show s.clusters[b.clusterId]? ≠ none
        rw [cluster_ne_none_iff, happ.get]
        refine run_ne_none (fun w hw _ => ?_) (.inr ⟨⟨.cluster b.clusterId, some (.cluster
          (clusterPayload c (c.id ∈ udpClusters ir)))⟩, ?_, rfl⟩)
        · obtain ⟨t', o', -, -, -, rfl⟩ := built_of_mem_writesOf hp hw
          simp
        · refine (mem_writesOf lib).2 ⟨_, hbefore, ?_⟩
          rw [← hid]
          rfl
      | @front payload hpayload =>
        refine ⟨hfronts payload hpayload, ?_⟩
        show (s.fronts payload.1)[lib.display payload.2]? = none
        by_contra hheld
        obtain ⟨f, hf⟩ := Option.ne_none_iff_exists'.1 hheld
        have hdisplay := happ.wellFormed.front_keyed payload.1 _ f hf
        rw [← hdisplay] at hf
        obtain ⟨t', ht', -, hsets⟩ := happ.built hp (show Holds lib s (.front payload.1 f) from hf)
        refine not_repeated_of_nodup_filterMap hnd hsplit
          (show frontKey lib _ = some (payload.1, lib.display payload.2) from rfl) ht' ?_
        cases t' <;> simp only [RequestType.sets, Option.some.injEq, reduceCtorEq,
          Obj.front.injEq] at hsets
        obtain ⟨hhttps, rfl⟩ := hsets
        simp [frontKey, RequestType.into, hhttps, hdisplay]
      | tcpListener hf _ => exact absurd (mem_of_mem_uniqueBy hf) (hnot _)
      | udpListener hf _ => exact absurd (mem_of_mem_uniqueBy hf) (hnot _)
      | tcp hf _ => exact absurd hf (hnot _)
      | udp hf _ => exact absurd hf (hnot _)
  refine ⟨s, routingState_ok_iff.2 ⟨?_, hs⟩⟩
  rw [hl4]
  rfl

end Keys

end Translator

end SozuGateway
