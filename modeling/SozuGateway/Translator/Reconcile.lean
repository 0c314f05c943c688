import SozuGateway.Translator.CertificateDiff
import SozuGateway.Translator.Routing

/-!
# Reconcile

The batch between two IRs: the library's diff of the two routing states, with
cluster removals spelled out and superseded backend removals dropped, and the
certificate requests, in canonical order without repetition.

* `Plan` — the routing requests of a batch, read off the two states;
  `mem_routingBatch` — the rewritten diff holds these and no others.
* `reconcile_ok_iff` — what a successful reconcile returns.
* `Diffable.routing_filter`, `Diffable.certificates_filter` — the routing half of the
  batch, and its certificate half.
* `RoutingHalf` — each request of the plan once, by tier.
-/

set_option autoImplicit false

namespace SozuGateway

namespace Translator

open Lib Sozu

section Routing

variable (lib : Library)

/-! ## Rewriting the library's diff -/

/-- Spell out what each `RemoveCluster` of a diff removes. -/
def expandClusterRemovals (previous : ConfigState) (requests : List Request) : List Request :=
  requests.flatMap fun req =>
    match req.requestType with
    | some (.removeCluster id) => lib.clusterRemovalRequests previous id ++ [req]
    | _ => [req]

/-- The backends a batch adds, by cluster, id and address. -/
def addedBackends (requests : List Request) : List (String × String × SocketAddr) :=
  requests.filterMap fun req =>
    match req.requestType with
    | some (.addBackend b) => some (b.clusterId, b.backendId, b.address.toAddr)
    | _ => none

/-- The request removes a backend the batch also adds. -/
def superseded (added : List (String × String × SocketAddr)) (req : Request) : Bool :=
  match req.requestType with
  | some (.removeBackend b) => (b.clusterId, b.backendId, b.address.toAddr) ∈ added
  | _ => false

/-- Drop every `RemoveBackend` whose backend the batch also adds. -/
def dropSupersededBackendRemoves (requests : List Request) : List Request :=
  let added := addedBackends requests
  if added = [] then requests else requests.filter fun req => !superseded added req

/-- The routing requests between two states. -/
def routingBatch (a b : ConfigState) : List Request :=
  dropSupersededBackendRemoves (expandClusterRemovals lib a (lib.diff a b))

/-! ## The plan -/

/-- The routing requests of a batch, read off the two states: every object of one
state only is added or removed, a changed backend is upserted alone. -/
inductive Plan (a b : ConfigState) : RequestType → Prop
  | addCluster {c : Sozu.Cluster} : Holds lib b (.cluster c) → ¬Holds lib a (.cluster c) →
      Plan a b (.addCluster c)
  | removeCluster {id : String} : a.get (.cluster id) ≠ none → b.get (.cluster id) = none →
      Plan a b (.removeCluster id)
  | addBackend {x : AddBackend} : Holds lib b (.backend x) → ¬Holds lib a (.backend x) →
      Plan a b (.addBackend x)
  | removeBackend {x : AddBackend} : Holds lib a (.backend x) →
      b.get (.backend x.clusterId x.backendId x.address) = none →
      Plan a b (.removeBackend ⟨x.clusterId, x.backendId, x.address⟩)
  | addFrontend {https : Bool} {f : RequestHttpFrontend} : Holds lib b (.front https f) →
      ¬Holds lib a (.front https f) → Plan a b (.addFrontend (frontendVerb https f) f)
  | removeFrontend {https : Bool} {f : RequestHttpFrontend} : Holds lib a (.front https f) →
      ¬Holds lib b (.front https f) → Plan a b (.removeFrontend (frontendVerb https f) f)
  | addTcpFrontend {f : RequestTcpFrontend} : Holds lib b (.tcp f) → ¬Holds lib a (.tcp f) →
      Plan a b (.addTcpFrontend f)
  | removeTcpFrontend {f : RequestTcpFrontend} : Holds lib a (.tcp f) → ¬Holds lib b (.tcp f) →
      Plan a b (.removeTcpFrontend f)
  | addUdpFrontend {f : RequestUdpFrontend} : Holds lib b (.udp f) → ¬Holds lib a (.udp f) →
      Plan a b (.addUdpFrontend f)
  | removeUdpFrontend {f : RequestUdpFrontend} : Holds lib a (.udp f) → ¬Holds lib b (.udp f) →
      Plan a b (.removeUdpFrontend f)
  | addTcpListener {l : TcpListenerConfig} : Holds lib b (.tcpListener l) →
      a.get (.listener .tcp l.address) = none → Plan a b (.addTcpListener l)
  | addUdpListener {l : UdpListenerConfig} : Holds lib b (.udpListener l) →
      a.get (.listener .udp l.address) = none → Plan a b (.addUdpListener l)
  | activateListener {proxy : ListenerType} {address : SocketAddress} :
      a.get (.listener proxy address) = none → b.get (.listener proxy address) ≠ none →
      Plan a b (.activateListener ⟨address, proxy, false⟩)
  | deactivateListener {proxy : ListenerType} {address : SocketAddress} :
      b.get (.listener proxy address) = none → a.get (.listener proxy address) ≠ none →
      Plan a b (.deactivateListener ⟨address, proxy, false⟩)
  | removeListener {proxy : ListenerType} {address : SocketAddress} :
      b.get (.listener proxy address) = none → a.get (.listener proxy address) ≠ none →
      Plan a b (.removeListener ⟨address, proxy⟩)

variable {lib}

theorem mem_expandClusterRemovals {previous : ConfigState} {requests : List Request}
    {r : Request} : r ∈ expandClusterRemovals lib previous requests ↔
      r ∈ requests ∨ ∃ id, RequestType.into (.removeCluster id) ∈ requests ∧
        r ∈ lib.clusterRemovalRequests previous id := by
  unfold expandClusterRemovals
  rw [List.mem_flatMap]
  constructor
  · rintro ⟨req, hreq, hr⟩
    split at hr
    · rename_i id hid
      obtain rfl : req = RequestType.into (.removeCluster id) := by
        cases req
        exact congrArg Request.mk hid
      rcases List.mem_append.1 hr with hr | hr
      · exact .inr ⟨id, hreq, hr⟩
      · rw [List.mem_singleton.1 hr]
        exact .inl hreq
    · rw [List.mem_singleton.1 hr]
      exact .inl hreq
  · rintro (hr | ⟨id, hreq, hr⟩)
    · refine ⟨r, hr, ?_⟩
      split <;> simp
    · exact ⟨_, hreq, List.mem_append_left _ hr⟩

theorem mem_addedBackends {requests : List Request} {k : String × String × SocketAddr} :
    k ∈ addedBackends requests ↔ ∃ b, RequestType.into (.addBackend b) ∈ requests ∧
      k = (b.clusterId, b.backendId, b.address.toAddr) := by
  unfold addedBackends
  rw [List.mem_filterMap]
  constructor
  · rintro ⟨req, hreq, hk⟩
    split at hk
    · rename_i b hb
      obtain rfl : req = RequestType.into (.addBackend b) := by
        cases req
        exact congrArg Request.mk hb
      exact ⟨b, hreq, (Option.some.inj hk).symm⟩
    · cases hk
  · rintro ⟨b, hreq, rfl⟩
    exact ⟨_, hreq, rfl⟩

theorem mem_dropSuperseded {requests : List Request} {r : Request} :
    r ∈ dropSupersededBackendRemoves requests ↔
      r ∈ requests ∧ superseded (addedBackends requests) r = false := by
  unfold dropSupersededBackendRemoves
  simp only []
  split
  · rename_i hnil
    rw [hnil]
    refine ⟨fun hr => ⟨hr, ?_⟩, And.left⟩
    unfold superseded
    split <;> simp
  · simp

/-- A backend's removal is superseded by an add of the same key. -/
theorem superseded_removeBackend {requests : List Request} {b : RemoveBackend} :
    superseded (addedBackends requests) (RequestType.into (.removeBackend b)) = true ↔
      ∃ x, RequestType.into (.addBackend x) ∈ requests ∧ x.clusterId = b.clusterId ∧
        x.backendId = b.backendId ∧ x.address = b.address := by
  unfold superseded
  simp only [RequestType.into, decide_eq_true_eq, mem_addedBackends, Prod.mk.injEq]
  constructor
  · rintro ⟨x, hx, h1, h2, h3⟩
    exact ⟨x, hx, h1.symm, h2.symm, SocketAddress.toAddr_injective h3.symm⟩
  · rintro ⟨x, hx, h1, h2, h3⟩
    exact ⟨x, hx, h1.symm, h2.symm, by rw [h3]⟩

/-- Not superseded: every request but a backend's removal. -/
theorem not_superseded {added : List (String × String × SocketAddr)} {t : RequestType}
    (ht : ∀ x, t ≠ .removeBackend x) : superseded added t.into = false := by
  unfold superseded
  split
  · rename_i x hx
    exact absurd (Option.some.inj hx) (ht x)
  · rfl

/-- The removal of an object the diff emits, or leaves to the removal of its
cluster. -/
theorem emits_or_removed {a b : ConfigState} {t : RequestType} {id : String}
    (hemits : (a.clusters[id]? ≠ none → b.clusters[id]? ≠ none) → Emits lib a b t)
    (hremoval : ClusterRemoval lib a id t) :
    Emits lib a b t ∨ ∃ id, Emits lib a b (.removeCluster id) ∧ ClusterRemoval lib a id t := by
  by_cases hgone : a.clusters[id]? ≠ none ∧ b.clusters[id]? = none
  · exact .inr ⟨id, .removeCluster hgone.1 hgone.2, hremoval⟩
  · exact .inl (hemits fun ha hb => hgone ⟨ha, hb⟩)

/-- Every layer-4 listener of the state is the active one the translator
configures. -/
def ActiveListeners (s : ConfigState) : Prop :=
  ∀ proxy address o, s.get (.listener proxy address) = some o →
    l4Listener proxy address true = some o

theorem ActiveListeners.configured {s : ConfigState} (h : ActiveListeners s) : Configured s :=
  fun proxy address o ho => ⟨true, h proxy address o ho⟩

/-- What the two states of a reconcile satisfy: both come from a fold, and every
object of the second names a cluster it holds. -/
structure Diffable (lib : Library) (a b : ConfigState) : Prop where
  wellFormed_left : WellFormed lib a
  wellFormed_right : WellFormed lib b
  listeners_left : ActiveListeners a
  listeners_right : ActiveListeners b
  closed : ∀ o id, Holds lib b o → o.clusterId = some id → b.get (.cluster id) ≠ none

namespace Diffable

variable {a b : ConfigState} (h : Diffable lib a b)

include h

theorem closed' : Closed lib a b := fun o id ho hid _ =>
  cluster_ne_none_iff.2 (h.closed o id ho hid)

theorem sameListeners : SameListeners a b := by
  have htcp : ∀ (s : ConfigState), ActiveListeners s → ∀ (x : SocketAddress) l,
      s.tcpListeners[x]? = some l → l = tcpListener x.toAddr := by
    intro s hs x l hl
    have hget : s.get (.listener .tcp x) = some (.tcpListener l) := by simp [ConfigState.get, hl]
    have hconf := hs .tcp x _ hget
    simp only [l4Listener, Option.some.injEq, Obj.tcpListener.injEq] at hconf
    exact hconf.symm
  have hudp : ∀ (s : ConfigState), ActiveListeners s → ∀ (x : SocketAddress) l,
      s.udpListeners[x]? = some l → l = udpListener x.toAddr := by
    intro s hs x l hl
    have hget : s.get (.listener .udp x) = some (.udpListener l) := by simp [ConfigState.get, hl]
    have hconf := hs .udp x _ hget
    simp only [l4Listener, Option.some.injEq, Obj.udpListener.injEq] at hconf
    exact hconf.symm
  refine ⟨fun x l l' hl hl' => ?_, fun x l l' hl hl' => ?_, fun x l hl => ?_, fun x l hl => ?_⟩
  · rw [htcp a h.listeners_left x l hl, htcp b h.listeners_right x l' hl']
  · rw [hudp a h.listeners_left x l hl, hudp b h.listeners_right x l' hl']
  · rcases hl with hl | hl
    · rw [htcp a h.listeners_left x l hl]
      rfl
    · rw [htcp b h.listeners_right x l hl]
      rfl
  · rcases hl with hl | hl
    · rw [hudp a h.listeners_left x l hl]
      rfl
    · rw [hudp b h.listeners_right x l hl]
      rfl

/-- The library's diff, as it is documented. -/
theorem mem_diff (hlib : lib.Documented) {t : RequestType} :
    t.into ∈ lib.diff a b ↔ Emits lib a b t := by
  rw [hlib.mem_diff a b h.wellFormed_left h.wellFormed_right h.closed' h.sameListeners]
  constructor
  · rintro ⟨t', heq, ht⟩
    obtain rfl := RequestType.into_inj.1 heq
    exact ht
  · intro ht
    exact ⟨t, rfl, ht⟩

theorem mem_expand (hlib : lib.Documented) {t : RequestType} :
    t.into ∈ expandClusterRemovals lib a (lib.diff a b) ↔
      Emits lib a b t ∨ ∃ id, Emits lib a b (.removeCluster id) ∧ ClusterRemoval lib a id t := by
  rw [mem_expandClusterRemovals, h.mem_diff hlib]
  refine or_congr_right (exists_congr fun id => and_congr (h.mem_diff hlib) ?_)
  rw [hlib.mem_clusterRemovalRequests a id h.wellFormed_left]
  constructor
  · rintro ⟨t', heq, ht⟩
    obtain rfl := RequestType.into_inj.1 heq
    exact ht
  · intro ht
    exact ⟨t, rfl, ht⟩

/-- An add of a backend is the diff's own. -/
theorem mem_expand_addBackend (hlib : lib.Documented) {x : AddBackend} :
    RequestType.into (.addBackend x) ∈ expandClusterRemovals lib a (lib.diff a b) ↔
      Holds lib b (.backend x) ∧ ¬Holds lib a (.backend x) := by
  rw [h.mem_expand hlib]
  constructor
  · rintro (hx | ⟨id, -, hx⟩)
    · cases hx with
      | addBackend hb ha => exact ⟨hb, ha⟩
    · cases hx
  · rintro ⟨hb, ha⟩
    exact .inl (.addBackend hb ha)

/-- A backend `b` does not hold as `a` does has its removal superseded exactly when
`b` holds its slot. -/
theorem superseded_iff (hlib : lib.Documented) {x : AddBackend} (ha : Holds lib a (.backend x))
    (hb : ¬Holds lib b (.backend x)) :
    superseded (addedBackends (expandClusterRemovals lib a (lib.diff a b)))
        (RequestType.into (.removeBackend ⟨x.clusterId, x.backendId, x.address⟩)) = true ↔
      b.get (.backend x.clusterId x.backendId x.address) ≠ none := by
  rw [superseded_removeBackend]
  constructor
  · rintro ⟨y, hy, h1, h2, h3⟩
    obtain ⟨hyb, -⟩ := (h.mem_expand_addBackend hlib).1 hy
    have hget : b.get (Obj.slot lib (.backend y)) = some (.backend y) :=
      (get_slot_iff h.wellFormed_right).2 hyb
    simp only [Obj.slot, h1, h2, h3] at hget
    simp [hget]
  · intro hslot
    obtain ⟨o, ho⟩ := Option.ne_none_iff_exists'.1 hslot
    obtain ⟨hheld, hoslot⟩ := (get_eq_some_iff h.wellFormed_right).1 ho
    cases o <;> simp only [Obj.slot, Slot.backend.injEq, reduceCtorEq] at hoslot
    rename_i y
    obtain ⟨h1, h2, h3⟩ := hoslot
    refine ⟨y, (h.mem_expand_addBackend hlib).2 ⟨hheld, fun hya => ?_⟩, h1, h2, h3⟩
    -- `a` holding both would make them one
    have heq := h.wellFormed_left.eq_of_slot hya ha (by simp [Obj.slot, h1, h2, h3])
    rw [heq] at hheld
    exact hb hheld

theorem not_holds_of_removed {o : Obj} {id : String} (hid : o.clusterId = some id)
    (hgone : b.clusters[id]? = none) : ¬Holds lib b o := fun ho =>
  cluster_ne_none_iff.2 (h.closed o id ho hid) hgone

/-- A kept removal of a backend is of the plan. -/
theorem plan_removeBackend (hlib : lib.Documented) {x : AddBackend}
    (ha : Holds lib a (.backend x)) (hb : ¬Holds lib b (.backend x))
    (hkept : superseded (addedBackends (expandClusterRemovals lib a (lib.diff a b)))
      (RequestType.into (.removeBackend ⟨x.clusterId, x.backendId, x.address⟩)) = false) :
    Plan lib a b (.removeBackend ⟨x.clusterId, x.backendId, x.address⟩) := by
  refine .removeBackend ha ?_
  by_contra hslot
  rw [(h.superseded_iff hlib ha hb).2 hslot] at hkept
  cases hkept

/-- What the diff emits and the batch keeps is of the plan. -/
theorem plan_of_emits (hlib : lib.Documented) {t : RequestType} (ht : Emits lib a b t)
    (hkept : superseded (addedBackends (expandClusterRemovals lib a (lib.diff a b))) t.into =
      false) : Plan lib a b t := by
  cases ht with
  | addCluster hb ha => exact .addCluster hb ha
  | removeCluster ha hb =>
    exact .removeCluster (cluster_ne_none_iff.1 ha) (by simpa [ConfigState.get] using hb)
  | addBackend hb ha => exact .addBackend hb ha
  | removeBackend ha hb _ => exact h.plan_removeBackend hlib ha hb hkept
  | addFrontend hb ha => exact .addFrontend hb ha
  | removeFrontend ha hb _ => exact .removeFrontend ha hb
  | addTcpFrontend hb ha => exact .addTcpFrontend hb ha
  | removeTcpFrontend ha hb _ => exact .removeTcpFrontend ha hb
  | addUdpFrontend hb ha => exact .addUdpFrontend hb ha
  | removeUdpFrontend ha hb _ => exact .removeUdpFrontend ha hb
  | addTcpListener hb ha => exact .addTcpListener hb (by simpa [hasListener_iff] using ha)
  | addUdpListener hb ha => exact .addUdpListener hb (by simpa [hasListener_iff] using ha)
  | activateListener hgain =>
    exact .activateListener (by simpa [hasListener_iff] using hgain.1) (hasListener_iff.1 hgain.2)
  | deactivateListener hgain =>
    exact .deactivateListener (by simpa [hasListener_iff] using hgain.1)
      (hasListener_iff.1 hgain.2)
  | removeListener hgain =>
    exact .removeListener (by simpa [hasListener_iff] using hgain.1) (hasListener_iff.1 hgain.2)

/-- So is what the removal of a cluster takes along. -/
theorem plan_of_clusterRemoval (hlib : lib.Documented) {id : String} {t : RequestType}
    (hid : b.clusters[id]? = none) (ht : ClusterRemoval lib a id t)
    (hkept : superseded (addedBackends (expandClusterRemovals lib a (lib.diff a b))) t.into =
      false) : Plan lib a b t := by
  cases ht with
  | backend hx =>
    have hkeyed := h.wellFormed_left.backend_keyed id _ hx
    subst hkeyed
    exact h.plan_removeBackend hlib hx (h.not_holds_of_removed rfl hid) hkept
  | front hf hfid => exact .removeFrontend hf (h.not_holds_of_removed hfid hid)
  | tcp hf =>
    have hkeyed := (h.wellFormed_left.tcp_keyed id _ hf).1
    subst hkeyed
    exact .removeTcpFrontend hf (h.not_holds_of_removed rfl hid)
  | udp hf =>
    have hkeyed := h.wellFormed_left.udp_keyed id _ hf
    subst hkeyed
    exact .removeUdpFrontend hf (h.not_holds_of_removed rfl hid)

/-- Every request of the expanded diff is a typed one. -/
theorem exists_into (hlib : lib.Documented) {r : Request}
    (hr : r ∈ expandClusterRemovals lib a (lib.diff a b)) : ∃ t, r = RequestType.into t := by
  rcases mem_expandClusterRemovals.1 hr with hr | ⟨id, -, hr⟩
  · obtain ⟨t, rfl, -⟩ := (hlib.mem_diff a b h.wellFormed_left h.wellFormed_right h.closed'
      h.sameListeners r).1 hr
    exact ⟨t, rfl⟩
  · obtain ⟨t, rfl, -⟩ := (hlib.mem_clusterRemovalRequests a id h.wellFormed_left r).1 hr
    exact ⟨t, rfl⟩

/-- `b` holds no backend whose slot is empty. -/
theorem not_holds_backend {x : AddBackend}
    (hb : b.get (.backend x.clusterId x.backendId x.address) = none) :
    ¬Holds lib b (.backend x) := by
  intro hheld
  have hget : b.get (Obj.slot lib (.backend x)) = some (.backend x) :=
    (get_slot_iff h.wellFormed_right).2 hheld
  simp only [Obj.slot, hb] at hget
  cases hget

/-- The plan is in the expanded diff. -/
theorem mem_expand_of_plan (hlib : lib.Documented) {t : RequestType} (ht : Plan lib a b t) :
    t.into ∈ expandClusterRemovals lib a (lib.diff a b) := by
  rw [h.mem_expand hlib]
  cases ht with
  | addCluster hb ha => exact .inl (.addCluster hb ha)
  | removeCluster ha hb =>
    exact .inl (.removeCluster (cluster_ne_none_iff.2 ha) (by simpa [ConfigState.get] using hb))
  | addBackend hb ha => exact .inl (.addBackend hb ha)
  | removeBackend ha hb =>
    exact emits_or_removed (.removeBackend ha (h.not_holds_backend hb)) (.backend ha)
  | addFrontend hb ha => exact .inl (.addFrontend hb ha)
  | @removeFrontend https f ha hb =>
    cases hfid : f.clusterId with
    | none => exact .inl (.removeFrontend ha hb (by simp [hfid]))
    | some id =>
      refine emits_or_removed (fun hids => ?_) (.front ha hfid)
      refine .removeFrontend ha hb fun id' hid' => ?_
      rw [hfid] at hid'
      exact Option.some.inj hid' ▸ hids
  | addTcpFrontend hb ha => exact .inl (.addTcpFrontend hb ha)
  | removeTcpFrontend ha hb => exact emits_or_removed (.removeTcpFrontend ha hb) (.tcp ha)
  | addUdpFrontend hb ha => exact .inl (.addUdpFrontend hb ha)
  | removeUdpFrontend ha hb => exact emits_or_removed (.removeUdpFrontend ha hb) (.udp ha)
  | addTcpListener hb ha =>
    exact .inl (.addTcpListener hb (by simpa [hasListener_iff] using ha))
  | addUdpListener hb ha =>
    exact .inl (.addUdpListener hb (by simpa [hasListener_iff] using ha))
  | activateListener ha hb =>
    exact .inl (.activateListener ⟨by simpa [hasListener_iff] using ha, hasListener_iff.2 hb⟩)
  | deactivateListener hb ha =>
    exact .inl (.deactivateListener ⟨by simpa [hasListener_iff] using hb, hasListener_iff.2 ha⟩)
  | removeListener hb ha =>
    exact .inl (.removeListener ⟨by simpa [hasListener_iff] using hb, hasListener_iff.2 ha⟩)

/-- Nothing of the plan is superseded. -/
theorem not_superseded_of_plan (hlib : lib.Documented) {t : RequestType} (ht : Plan lib a b t) :
    superseded (addedBackends (expandClusterRemovals lib a (lib.diff a b))) t.into = false := by
  cases ht with
  | removeBackend ha hb =>
    rw [← Bool.not_eq_true, h.superseded_iff hlib ha (h.not_holds_backend hb)]
    exact not_not.2 hb
  | _ => exact not_superseded fun _ heq => by cases heq

/-- **The routing requests between two states are those of the plan.** -/
theorem mem_routingBatch (hlib : lib.Documented) {r : Request} :
    r ∈ routingBatch lib a b ↔ ∃ t, r = RequestType.into t ∧ Plan lib a b t := by
  constructor
  · intro hr
    obtain ⟨hmem, hkept⟩ := mem_dropSuperseded.1 hr
    obtain ⟨t, rfl⟩ := h.exists_into hlib hmem
    refine ⟨t, rfl, ?_⟩
    rcases (h.mem_expand hlib).1 hmem with ht | ⟨id, hid, ht⟩
    · exact h.plan_of_emits hlib ht hkept
    · cases hid with
      | removeCluster _ hb => exact h.plan_of_clusterRemoval hlib hb ht hkept
  · rintro ⟨t, rfl, ht⟩
    exact mem_dropSuperseded.2 ⟨h.mem_expand_of_plan hlib ht, h.not_superseded_of_plan hlib ht⟩

end Diffable

/-! ## The batch -/

variable (lib)

/-- The requests of a batch, ranked, before they are ordered. -/
def rankedBatch (a b : ConfigState) (prev des : List KeyedCert) : List (CertRank × Request) :=
  (routingBatch lib a b).map (fun req => (.gains, req)) ++ certDiff lib prev des

/-- The batch between two routing states and two lists of certificates. -/
def batchOf (a b : ConfigState) (prev des : List KeyedCert) : List Request :=
  dedupAdjacent (canonicalizeRanked lib (rankedBatch lib a b prev des))

/-- Minimal, dependency-safe requests to converge the applied IR towards the desired
one. -/
def reconcile [CharTable] (previous desired : Ir) : Except TranslatorError (List Request) := do
  checkClusterReferences desired
  let previousState ← routingState lib previous
  let desiredState ← routingState lib desired
  let routing := routingBatch lib previousState desiredState
  let certificates ← certificateRequests lib previous.certificates desired.certificates
  return dedupAdjacent
    (canonicalizeRanked lib (routing.map (fun req => (.gains, req)) ++ certificates))

variable {lib}

/-- The states and the certificates a successful reconcile diffs. -/
structure Reconciles [CharTable] (lib : Library) (previous desired : Ir) (a b : ConfigState)
    (prev des : List KeyedCert) : Prop where
  references : checkClusterReferences desired = .ok ()
  previousState : routingState lib previous = .ok a
  desiredState : routingState lib desired = .ok b
  previousCerts : keyedCerts lib previous.certificates = .ok prev
  desiredCerts : keyedCerts lib desired.certificates = .ok des

theorem reconcile_of_reconciles [CharTable] {previous desired : Ir} {a b : ConfigState}
    {prev des : List KeyedCert} (h : Reconciles lib previous desired a b prev des) :
    reconcile lib previous desired = .ok (batchOf lib a b prev des) := by
  unfold reconcile certificateRequests
  rw [h.references, h.previousState, h.desiredState, h.previousCerts, h.desiredCerts]
  rfl

/-- **What a successful reconcile returns.** -/
theorem reconcile_ok_iff [CharTable] {previous desired : Ir} {batch : List Request} :
    reconcile lib previous desired = .ok batch ↔
      ∃ a b prev des, Reconciles lib previous desired a b prev des ∧
        batch = batchOf lib a b prev des := by
  constructor
  · intro h
    have hcopy := h
    unfold reconcile certificateRequests at h
    cases hrefs : checkClusterReferences desired with
    | error e => simp [hrefs, bind, Except.bind] at h
    | ok u =>
    cases ha : routingState lib previous with
    | error e => simp [hrefs, ha, bind, Except.bind] at h
    | ok a =>
    cases hb : routingState lib desired with
    | error e => simp [hrefs, ha, hb, bind, Except.bind] at h
    | ok b =>
    cases hprev : keyedCerts lib previous.certificates with
    | error e => simp [hrefs, ha, hb, hprev, bind, Except.bind] at h
    | ok prev =>
    cases hdes : keyedCerts lib desired.certificates with
    | error e => simp [hrefs, ha, hb, hprev, hdes, bind, Except.bind] at h
    | ok des =>
    have hrec : Reconciles lib previous desired a b prev des := ⟨hrefs, ha, hb, hprev, hdes⟩
    rw [reconcile_of_reconciles hrec] at hcopy
    exact ⟨a, b, prev, des, hrec, (Except.ok.inj hcopy).symm⟩
  · rintro ⟨a, b, prev, des, hrec, rfl⟩
    exact reconcile_of_reconciles hrec

/-! ## The two halves of a batch -/

theorem namesACertificate_certDiff {prev des : List KeyedCert} {r : CertRank × Request}
    (h : r ∈ certDiff lib prev des) : r.2.namesACertificate = true := by
  have hmem := (certDiff_perm lib prev des).mem_iff.1 (List.mem_map_of_mem h)
  simp only [List.mem_append, List.mem_map] at hmem
  rcases hmem with (⟨u, -, hr⟩ | ⟨pair, -, hr⟩) | ⟨old, -, hr⟩
  · rw [← hr]
    rfl
  · rw [← hr]
    unfold addRequest
    split <;> rfl
  · rw [← hr]
    rfl

theorem Plan.namesACertificate {a b : ConfigState} {t : RequestType} (h : Plan lib a b t) :
    t.into.namesACertificate = false := by
  cases h <;> rfl

/-- **A half of a batch is that half's requests, sorted**, when each of these is in
the batch once. -/
theorem batchOf_filter (hjson : Function.Injective lib.json) {a b : ConfigState}
    {prev des : List KeyedCert} (p : Request → Bool)
    (hnd : ((dedupAdjacent (sortBy (sortKey lib)
      ((rankedBatch lib a b prev des).filter fun r => p r.2))).map Prod.snd).Nodup) :
    (batchOf lib a b prev des).filter p = (dedupAdjacent (sortBy (sortKey lib)
      ((rankedBatch lib a b prev des).filter fun r => p r.2))).map Prod.snd := by
  rw [← filter_dedupAdjacent_sortBy _ (keyInjOn hjson _)] at hnd ⊢
  have hfilter : ((dedupAdjacent (sortBy (sortKey lib) (rankedBatch lib a b prev des))).filter
      fun r => p r.2).map Prod.snd =
      ((dedupAdjacent (sortBy (sortKey lib) (rankedBatch lib a b prev des))).map Prod.snd).filter
        p := by
    rw [List.filter_map]
    rfl
  rw [hfilter] at hnd ⊢
  rw [batchOf, canonicalizeRanked, ← dedupAdjacent_map_dedupAdjacent,
    filter_dedupAdjacent_of_nodup hnd]

/-- The routing half of a batch. -/
theorem Diffable.routing_filter (hlib : lib.Documented) {a b : ConfigState}
    (h : Diffable lib a b) (prev des : List KeyedCert) :
    (batchOf lib a b prev des).filter (fun r => !r.namesACertificate) =
      dedupAdjacent (canonicalize lib (routingBatch lib a b)) := by
  have hhalf : (rankedBatch lib a b prev des).filter (fun r => !r.2.namesACertificate) =
      (routingBatch lib a b).map fun req => (.gains, req) := by
    rw [rankedBatch, List.filter_append, List.filter_eq_self.2, List.filter_eq_nil_iff.2,
      List.append_nil]
    · intro r hr
      simp [namesACertificate_certDiff hr]
    · intro r hr
      obtain ⟨req, hreq, rfl⟩ := List.mem_map.1 hr
      obtain ⟨t, rfl, ht⟩ := (h.mem_routingBatch hlib).1 hreq
      simp [ht.namesACertificate]
  have hmap : dedupAdjacent (canonicalize lib (routingBatch lib a b)) =
      (dedupAdjacent (sortBy (sortKey lib)
        ((routingBatch lib a b).map fun req => (CertRank.gains, req)))).map Prod.snd := by
    rw [canonicalize, canonicalizeRanked, dedupAdjacent_map]
    intro x hx y hy hxy
    rw [mem_sortBy, List.mem_map] at hx hy
    obtain ⟨req, -, rfl⟩ := hx
    obtain ⟨req', -, rfl⟩ := hy
    exact congrArg (Prod.mk _) hxy
  have hnd : ((dedupAdjacent (sortBy (sortKey lib)
      ((routingBatch lib a b).map fun req => (CertRank.gains, req)))).map Prod.snd).Nodup := by
    refine List.Nodup.map_on ?_ (nodup_dedupAdjacent_sortBy (keyInjOn hlib.json_injective _))
    intro x hx y hy hxy
    rw [mem_dedupAdjacent, mem_sortBy, List.mem_map] at hx hy
    obtain ⟨req, -, rfl⟩ := hx
    obtain ⟨req', -, rfl⟩ := hy
    exact congrArg (Prod.mk _) hxy
  rw [batchOf_filter hlib.json_injective _ (by rw [hhalf]; exact hnd), hhalf, hmap]

/-- The certificate half of a batch, when the diff repeats no request. -/
theorem Diffable.certificates_filter (hlib : lib.Documented) {a b : ConfigState}
    (h : Diffable lib a b) {prev des : List KeyedCert}
    (hnd : ((certDiff lib prev des).map Prod.snd).Nodup) :
    (batchOf lib a b prev des).filter Request.namesACertificate =
      canonicalizeRanked lib (certDiff lib prev des) := by
  have hhalf : (rankedBatch lib a b prev des).filter (fun r => r.2.namesACertificate) =
      certDiff lib prev des := by
    rw [rankedBatch, List.filter_append, List.filter_eq_nil_iff.2, List.filter_eq_self.2,
      List.nil_append]
    · intro r hr
      exact namesACertificate_certDiff hr
    · intro r hr
      obtain ⟨req, hreq, rfl⟩ := List.mem_map.1 hr
      obtain ⟨t, rfl, ht⟩ := (h.mem_routingBatch hlib).1 hreq
      simp [ht.namesACertificate]
  have hself : dedupAdjacent (sortBy (sortKey lib) (certDiff lib prev des)) =
      sortBy (sortKey lib) (certDiff lib prev des) :=
    dedupAdjacent_eq_self (nodup_sortBy.2 (List.Nodup.of_map _ hnd))
  rw [batchOf_filter hlib.json_injective _, hhalf, hself]
  · rfl
  · rw [hhalf, hself]
    exact (((sortBy_perm _ _).map Prod.snd).nodup_iff).2 hnd

/-! ## What the routing half is -/

/-- The routing half of a batch: each request of the plan once, by tier. -/
structure RoutingHalf (lib : Library) (a b : ConfigState) (rs : List Request) : Prop where
  mem_iff : ∀ r, r ∈ rs ↔ ∃ t, r = RequestType.into t ∧ Plan lib a b t
  nodup : rs.Nodup
  sorted : rs.Pairwise fun r r' => tier r ≤ tier r'

theorem Diffable.routingHalf (hlib : lib.Documented) {a b : ConfigState} (h : Diffable lib a b)
    (prev des : List KeyedCert) :
    RoutingHalf lib a b ((batchOf lib a b prev des).filter fun r => !r.namesACertificate) := by
  have hsorted : (canonicalize lib (routingBatch lib a b)).Pairwise fun r r' => tier r ≤ tier r' :=
    sortedByTier _
  refine ⟨fun r => ?_, ?_, ?_⟩
  · rw [h.routing_filter hlib, mem_dedupAdjacent, mem_canonicalize, h.mem_routingBatch hlib]
  · rw [h.routing_filter hlib, canonicalize, canonicalizeRanked, dedupAdjacent_map]
    · refine List.Nodup.map_on ?_ (nodup_dedupAdjacent_sortBy (keyInjOn hlib.json_injective _))
      intro x hx y hy hxy
      rw [mem_dedupAdjacent, mem_sortBy, List.mem_map] at hx hy
      obtain ⟨req, -, rfl⟩ := hx
      obtain ⟨req', -, rfl⟩ := hy
      exact congrArg (Prod.mk _) hxy
    · intro x hx y hy hxy
      rw [mem_sortBy, List.mem_map] at hx hy
      obtain ⟨req, -, rfl⟩ := hx
      obtain ⟨req', -, rfl⟩ := hy
      exact congrArg (Prod.mk _) hxy
  · rw [h.routing_filter hlib]
    exact hsorted.sublist (dedupAdjacent_sublist _)

end Routing

end Translator

end SozuGateway
