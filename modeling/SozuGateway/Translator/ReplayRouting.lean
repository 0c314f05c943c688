import SozuGateway.Translator.Slots

/-!
# The routes a replay leaves

The routing half of the replay of two IRs without layer-4 routes: the replayed IR has
the routing state the acknowledged requests leave.

* `Layer7` — two such IRs and their routing states.
* `Tracked` — a group is the previous one, the desired one or none, and the slot of
  the simulated state holds accordingly; `Layer7.follows_applyAll` — the replay of a
  head keeps it.
* `Cut` — the state after a head, once every lower tier is done.
* `Follows.replayed` — what the replayed IR requests at each slot;
  `Follows.routingState_replayed` — its routing state agrees with that of the head.
-/

set_option autoImplicit false

namespace SozuGateway

namespace Translator

open Lib Sozu

variable {lib : Library}

/-- Two IRs without layer-4 routes, and their routing states. -/
structure Layer7 [CharTable] (lib : Library) (previous desired : Ir) (a b : ConfigState) :
    Prop where
  keyed : RouteKeyed lib
  left : Routes lib previous a
  right : Routes lib desired b
  left_l4 : previous.l4Frontends = []
  right_l4 : desired.l4Frontends = []

/-- A group is the previous one, the desired one or none, and so is what its slot
holds. -/
def Tracked {T : Type} (group previous desired : List T) (held left right : Option Obj) : Prop :=
  (group = previous ∧ held = left) ∨ (group = desired ∧ held = right) ∨ (group = [] ∧ held = none)

/-- The groups of a replay follow a store of the simulated state. -/
structure Tracks [CharTable] (previous desired : Ir) (a b : ConfigState) (q : Replay)
    (S : Store Slot Obj) : Prop where
  cluster : ∀ id, Tracked (q.clusters.group id) (under Cluster.id id previous.clusters)
    (under Cluster.id id desired.clusters) (S (.cluster id)) (a.get (.cluster id))
    (b.get (.cluster id))
  backend : ∀ (clusterId backendId : String) (address : SocketAddress),
    Tracked (q.backends.group (toLex (clusterId, toLex (backendId, address.toAddr))))
      (under backendKey (toLex (clusterId, toLex (backendId, address.toAddr))) previous.backends)
      (under backendKey (toLex (clusterId, toLex (backendId, address.toAddr))) desired.backends)
      (S (.backend clusterId backendId address)) (a.get (.backend clusterId backendId address))
      (b.get (.backend clusterId backendId address))
  front : ∀ https key, Tracked (q.frontends.group ⟨https, key⟩)
    (under Frontend.sozuRouteKey ⟨https, key⟩ previous.frontends)
    (under Frontend.sozuRouteKey ⟨https, key⟩ desired.frontends) (S (.front https key))
    (a.get (.front https key)) (b.get (.front https key))

section Keys

variable [CharTable] {previous desired : Ir} {a b : ConfigState} {q : Replay}

/-! ## One request -/

theorem Tracks.new {flag : Bool} :
    Tracks previous desired a b (.new lib previous desired flag) a.get where
  cluster _ := .inl ⟨Keyed.group_new _ _, rfl⟩
  backend _ _ _ := .inl ⟨Keyed.group_new _ _, rfl⟩
  front _ _ := .inl ⟨Keyed.group_new _ _, rfl⟩

omit [CharTable] in
/-- A set group is the desired one. -/
theorem group_set_wanted {K T : Type} [LinearOrder K] {key : T → K} {groups : Keyed K T}
    {objects : List T} {k : K} (hheld : under key k objects ≠ []) (step : ℕ) (k' : K) :
    (groups.set k (wanted objects key)[k]? step).group k' =
      if k = k' then under key k objects else groups.group k' := by
  rw [getElem?_wanted, if_neg hheld, Keyed.group_set]

omit [CharTable] in
/-- A set key follows the desired objects, and so does the slot it stands for. -/
theorem Tracked.set {K T : Type} [LinearOrder K] {key : T → K} {groups : Keyed K T}
    {objects group : List T} {S : Store Slot Obj} {k k' : K} {slot slot' : Slot} {o : Obj}
    {left right : Option Obj}
    (ht : Tracked (groups.group k') group (under key k' objects) (S slot') left right)
    (hkey : k = k' ↔ slot = slot') (hheld : under key k objects ≠ [])
    (hright : slot = slot' → right = some o) (step : ℕ) :
    Tracked ((groups.set k (wanted objects key)[k]? step).group k') group (under key k' objects)
      ((Write.mk slot (some o)).apply S slot') left right := by
  rw [group_set_wanted hheld]
  by_cases hk : k = k'
  · subst hk
    have hslot := hkey.1 rfl
    rw [if_pos rfl, hright hslot, ← hslot, Write.apply_mk_same]
    exact .inr (.inl ⟨rfl, rfl⟩)
  · rw [if_neg hk, Write.apply_of_ne fun heq => hk (hkey.2 heq.symm)]
    exact ht

omit [CharTable] in
/-- A removed key has no group, and its slot holds nothing. -/
theorem Tracked.remove {K T : Type} [LinearOrder K] {groups : Keyed K T} {group group' : List T}
    {S : Store Slot Obj} {k k' : K} {slot slot' : Slot} {left right : Option Obj}
    (ht : Tracked (groups.group k') group group' (S slot') left right)
    (hkey : k = k' ↔ slot = slot') :
    Tracked ((groups.remove k).group k') group group' ((Write.mk slot none).apply S slot')
      left right := by
  rw [Keyed.group_remove]
  by_cases hk : k = k'
  · subst hk
    rw [if_pos rfl, ← hkey.1 rfl, Write.apply_mk_same]
    exact .inr (.inr ⟨rfl, rfl⟩)
  · rw [if_neg hk, Write.apply_of_ne fun heq => hk (hkey.2 heq.symm)]
    exact ht

omit [CharTable] in
/-- The key of a backend tells its slot. -/
theorem backendKey_inj_iff {clusterId backendId clusterId' backendId' : String}
    {address address' : SocketAddress} :
    (toLex (clusterId, toLex (backendId, address.toAddr)) : BackendKey) =
        toLex (clusterId', toLex (backendId', address'.toAddr)) ↔
      Slot.backend clusterId backendId address = .backend clusterId' backendId' address' := by
  simp only [EmbeddingLike.apply_eq_iff_eq, Prod.mk.injEq, Slot.backend.injEq]
  refine and_congr_right fun _ => and_congr_right fun _ => ?_
  exact ⟨fun heq => SocketAddress.toAddr_injective heq, congrArg _⟩

omit [CharTable] in
/-- The route key of a frontend tells its slot. -/
theorem routeKey_inj_iff {https https' : Bool} {key key' : String} :
    (⟨https, key⟩ : SozuRouteKey) = ⟨https', key'⟩ ↔
      Slot.front https key = .front https' key' := by
  simp only [SozuRouteKey.mk.injEq, Slot.front.injEq]

namespace Layer7

variable (h : Layer7 lib previous desired a b)

include h

/-- A slot the second state fills has something wanted under its key. -/
theorem slotRequests_ne_nil {k : Slot} (hk : b.get k ≠ none) : slotRequests desired k ≠ [] :=
  fun hnil => hk ((h.right.get_eq_none_iff h.keyed h.right_l4).2 hnil)

/-- Neither state holds anything of layer 4. -/
theorem get_eq_none {k : Slot} (hk : ∀ ir, slotRequests ir k = []) :
    a.get k = none ∧ b.get k = none :=
  ⟨(h.left.get_eq_none_iff h.keyed h.left_l4).2 (hk previous),
    (h.right.get_eq_none_iff h.keyed h.right_l4).2 (hk desired)⟩

theorem not_holds {o : Obj} (hslot : ∀ ir, slotRequests ir (o.slot lib) = []) :
    ¬Holds lib a o ∧ ¬Holds lib b o := by
  obtain ⟨ha, hb⟩ := h.get_eq_none hslot
  refine ⟨fun hheld => ?_, fun hheld => ?_⟩
  · rw [(get_slot_iff h.left.wellFormed).2 hheld] at ha
    cases ha
  · rw [(get_slot_iff h.right.wellFormed).2 hheld] at hb
    cases hb

/-- **One request of the plan keeps the groups and the state together.** -/
theorem tracks_apply {flag : Bool} (hq : q.Valid lib desired flag) {S : Store Slot Obj}
    (ht : Tracks previous desired a b q S) {t : RequestType} (hplan : Plan lib a b t) (step : ℕ) :
    Tracks previous desired a b (q.apply lib step t.into) (run S (writesOf lib [t.into])) := by
  have hget : ∀ {o : Obj}, Holds lib b o → b.get (o.slot lib) = some o := fun ho =>
    (get_slot_iff h.right.wellFormed).2 ho
  have hwanted : ∀ {o : Obj}, Holds lib b o → slotRequests desired (o.slot lib) ≠ [] := fun ho =>
    h.slotRequests_ne_nil (by rw [hget ho]; exact Option.some_ne_none _)
  cases hplan with
  | @addCluster c hb _ =>
    have hunder : under Cluster.id c.clusterId desired.clusters ≠ [] := fun hnil =>
      hwanted hb (by simp [Obj.slot, slotRequests, hnil])
    refine ⟨fun id => ?_, ht.backend, ht.front⟩
    show Tracked ((q.clusters.set c.clusterId q.wantedClusters[c.clusterId]? step).group id) _ _
      ((Write.mk (.cluster c.clusterId) (some (.cluster c))).apply S (.cluster id)) _ _
    rw [hq.wantedClusters]
    refine (ht.cluster id).set (by simp) hunder (fun heq => ?_) step
    rw [← heq]
    exact hget hb
  | @removeCluster id₀ _ hb =>
    refine ⟨fun id => ?_, ht.backend, ht.front⟩
    show Tracked ((q.clusters.remove id₀).group id) _ _
      ((Write.mk (.cluster id₀) none).apply S (.cluster id)) _ _
    exact (ht.cluster id).remove (by simp)
  | @addBackend x hb _ =>
    have hunder : under backendKey (toLex (x.clusterId, toLex (x.backendId, x.address.toAddr)))
        desired.backends ≠ [] := fun hnil => hwanted hb (by simp [Obj.slot, slotRequests, hnil])
    refine ⟨ht.cluster, fun clusterId backendId address => ?_, ht.front⟩
    show Tracked ((q.backends.set _ q.wantedBackends[_]? step).group _) _ _
      ((Write.mk (.backend x.clusterId x.backendId x.address) (some (.backend x))).apply S
        (.backend clusterId backendId address)) _ _
    rw [SocketAddress.plain_toAddr, hq.wantedBackends]
    refine (ht.backend clusterId backendId address).set backendKey_inj_iff hunder
      (fun heq => ?_) step
    rw [← heq]
    exact hget hb
  | @removeBackend x _ hb =>
    refine ⟨ht.cluster, fun clusterId backendId address => ?_, ht.front⟩
    show Tracked ((q.backends.remove _).group _) _ _
      ((Write.mk (.backend x.clusterId x.backendId x.address) none).apply S
        (.backend clusterId backendId address)) _ _
    rw [SocketAddress.plain_toAddr]
    exact (ht.backend clusterId backendId address).remove backendKey_inj_iff
  | @addFrontend https₀ f hb _ =>
    have hunder : under Frontend.sozuRouteKey ⟨https₀, lib.display f⟩ desired.frontends ≠ [] :=
      fun hnil => hwanted hb (by simp [Obj.slot, slotRequests, hnil])
    refine ⟨ht.cluster, ht.backend, fun https key => ?_⟩
    show Tracked ((q.frontends.set ⟨https₀, lib.display f⟩
        q.wantedFrontends[(⟨https₀, lib.display f⟩ : SozuRouteKey)]? step).group _) _ _
      ((Write.mk (.front https₀ (lib.display f)) (some (.front https₀ f))).apply S
        (.front https key)) _ _
    rw [hq.wantedFrontends]
    refine (ht.front https key).set routeKey_inj_iff hunder (fun heq => ?_) step
    rw [← heq]
    exact hget hb
  | @removeFrontend https₀ f _ _ =>
    refine ⟨ht.cluster, ht.backend, fun https key => ?_⟩
    show Tracked ((q.frontends.remove ⟨https₀, lib.display f⟩).group _) _ _
      ((Write.mk (.front https₀ (lib.display f)) none).apply S (.front https key)) _ _
    exact (ht.front https key).remove routeKey_inj_iff
  -- nothing of layer 4 is in either state
  | @addTcpFrontend f hb _ => exact absurd hb (h.not_holds (o := .tcp f) fun _ => rfl).2
  | @removeTcpFrontend f ha _ => exact absurd ha (h.not_holds (o := .tcp f) fun _ => rfl).1
  | @addUdpFrontend f hb _ => exact absurd hb (h.not_holds (o := .udp f) fun _ => rfl).2
  | @removeUdpFrontend f ha _ => exact absurd ha (h.not_holds (o := .udp f) fun _ => rfl).1
  | @addTcpListener l hb _ => exact absurd hb (h.not_holds (o := .tcpListener l) fun _ => rfl).2
  | @addUdpListener l hb _ => exact absurd hb (h.not_holds (o := .udpListener l) fun _ => rfl).2
  | activateListener _ hb => exact absurd (h.get_eq_none fun _ => rfl).2 hb
  | deactivateListener _ ha => exact absurd (h.get_eq_none fun _ => rfl).1 ha
  | removeListener _ ha => exact absurd (h.get_eq_none fun _ => rfl).1 ha

end Layer7

/-! ## A whole head -/

omit [CharTable] in
/-- A request that names a certificate is replayed on the certificates alone. -/
theorem Replay.apply_certificate {r : Request} (hr : r.namesACertificate = true) (step : ℕ) :
    ∃ certificates, q.apply lib step r = { q with certificates := certificates } := by
  obtain ⟨t⟩ := r
  cases t with
  | none => cases hr
  | some t =>
    cases t
    case addCertificate add =>
      unfold Replay.apply
      simp only
      split
      · exact ⟨_, rfl⟩
      · exact ⟨_, rfl⟩
    case removeCertificate remove => exact ⟨_, rfl⟩
    case replaceCertificate replace =>
      unfold Replay.apply
      simp only
      split
      · exact ⟨_, rfl⟩
      · split
        · exact ⟨_, rfl⟩
        · exact ⟨_, rfl⟩
    all_goals cases hr

omit [CharTable] in
theorem writesOf_certificate {r : Request} (hr : r.namesACertificate = true) :
    writesOf lib [r] = [] := by
  obtain ⟨t⟩ := r
  cases t with
  | none => cases hr
  | some t => cases t <;> first | rfl | cases hr

omit [CharTable] in
/-- Only the removal of a cluster marks it removed. -/
theorem Replay.removedClusters_apply {step : ℕ} {r : Request} {id : String}
    (h : (q.apply lib step r).removedClusters[id]? ≠ none) :
    q.removedClusters[id]? ≠ none ∨ r = RequestType.into (.removeCluster id) := by
  by_cases hr : r.namesACertificate = true
  · obtain ⟨certificates, heq⟩ := q.apply_certificate hr step
    rw [heq] at h
    exact .inl h
  · obtain ⟨t⟩ := r
    cases t with
    | none => exact .inl h
    | some t =>
      cases t
      case removeCluster id' =>
        by_cases hid : id' = id
        · exact .inr (hid ▸ rfl)
        · left
          intro hnone
          refine h ?_
          show (q.removedClusters.insert id' step)[id]? = none
          rw [BTreeMap.getElem?_insert, if_neg hid, hnone]
      case removeListener l =>
        left
        intro hnone
        refine h ?_
        unfold Replay.apply
        simp only
        split
        · exact hnone
        · exact hnone
      case addCertificate => exact absurd rfl hr
      case removeCertificate => exact absurd rfl hr
      case replaceCertificate => exact absurd rfl hr
      all_goals exact .inl h

/-- The replay of `p` is on the way from `previous` to `desired`. -/
structure Follows (lib : Library) (previous desired : Ir) (a b : ConfigState) (q : Replay)
    (p : List Request) : Prop
    extends Tracks previous desired a b q (run a.get (writesOf lib p)) where
  l4 : q.l4 = .new [] l4Key
  removed : ∀ id : String, q.removedClusters[id]? ≠ none →
    RequestType.into (.removeCluster id) ∈ p

/-- A request of the plan, or one that names a certificate. -/
def Planned (lib : Library) (a b : ConfigState) (r : Request) : Prop :=
  r.namesACertificate = true ∨ ∃ t, r = RequestType.into t ∧ Plan lib a b t

namespace Layer7

variable (h : Layer7 lib previous desired a b)

include h

theorem follows_new {flag : Bool} :
    Follows lib previous desired a b (.new lib previous desired flag) [] :=
  { Tracks.new with
    l4 := by
      show Keyed.new previous.l4Frontends l4Key = _
      rw [h.left_l4]
    removed := fun id hid => absurd (BTreeMap.getElem?_empty id) hid }

theorem l4_apply {t : RequestType} (hplan : Plan lib a b t) (step : ℕ) :
    (q.apply lib step t.into).l4 = q.l4 := by
  cases hplan with
  | @addTcpFrontend f hb _ => exact absurd hb (h.not_holds (o := .tcp f) fun _ => rfl).2
  | @addUdpFrontend f hb _ => exact absurd hb (h.not_holds (o := .udp f) fun _ => rfl).2
  | removeListener _ ha => exact absurd (h.get_eq_none fun _ => rfl).1 ha
  | _ => rfl

/-- **One acknowledged request.** -/
theorem follows_apply {flag : Bool} (hq : q.Valid lib desired flag) {p : List Request}
    (hp : Follows lib previous desired a b q p) {r : Request} (hr : Planned lib a b r) (step : ℕ) :
    Follows lib previous desired a b (q.apply lib step r) (p ++ [r]) := by
  have hremoved : ∀ id : String, (q.apply lib step r).removedClusters[id]? ≠ none →
      RequestType.into (.removeCluster id) ∈ p ++ [r] := by
    intro id hid
    rcases Replay.removedClusters_apply hid with hold | rfl
    · exact List.mem_append_left _ (hp.removed id hold)
    · simp
  rcases hr with hcert | ⟨t, rfl, hplan⟩
  · obtain ⟨certificates, heq⟩ : ∃ certificates, q.apply lib step r = { q with certificates } :=
      q.apply_certificate hcert step
    rw [heq] at hremoved ⊢
    have hwrites : writesOf lib (p ++ [r]) = writesOf lib p := by
      rw [writesOf_append, writesOf_certificate hcert, List.append_nil]
    exact
      { cluster := by rw [hwrites]; exact hp.cluster
        backend := by rw [hwrites]; exact hp.backend
        front := by rw [hwrites]; exact hp.front
        l4 := hp.l4
        removed := hremoved }
  · have htracks := h.tracks_apply hq hp.toTracks hplan step
    rw [← run_append, ← writesOf_append] at htracks
    exact { htracks with l4 := (h.l4_apply hplan step).trans hp.l4, removed := hremoved }

/-- **A whole head.** -/
theorem follows_applyAll {flag : Bool} (hq : q.Valid lib desired flag) {p rs : List Request}
    (hp : Follows lib previous desired a b q p) (hrs : ∀ r ∈ rs, Planned lib a b r) (step : ℕ) :
    Follows lib previous desired a b (q.applyAll lib step rs) (p ++ rs) := by
  induction rs generalizing q p step with
  | nil => simpa [Replay.applyAll] using hp
  | cons r rs ih =>
    have hnext := h.follows_apply hq hp (hrs r (by simp)) step
    have hrest := ih (hq.apply step r) hnext (fun r' hr' => hrs r' (by simp [hr'])) (step + 1)
    simpa [Replay.applyAll] using hrest

end Layer7

/-! ## A cut of the half -/

/-- The state after a head of the half, with every request of a lower tier done. -/
structure Cut (lib : Library) (a b : ConfigState) (p : List Request) (s : ConfigState) : Prop
    extends Head lib a b p where
  applied : Applied lib a (writesOf lib p) s
  done : ∀ t t', RequestType.into t ∈ p → Plan lib a b t' → verbTier t' < verbTier t →
    RequestType.into t' ∈ p

section Cuts

variable {a b s : ConfigState} {rs p rest : List Request}

omit [CharTable] in
theorem RoutingHalf.cut (hrs : RoutingHalf lib a b rs) (hsplit : rs = p ++ rest)
    (happ : Applied lib a (writesOf lib p) s) : Cut lib a b p s where
  plan r hr := (hrs.mem_iff r).1 (by rw [hsplit]; exact List.mem_append_left _ hr)
  sorted := by
    have hsorted := hrs.sorted
    rw [hsplit, List.pairwise_append] at hsorted
    exact hsorted.1
  applied := happ
  done t t' ht ht' hlt := by
    have hsorted := hrs.sorted
    have hmem := (hrs.mem_iff _).2 ⟨t', rfl, ht'⟩
    rw [hsplit, List.pairwise_append] at hsorted
    rw [hsplit, List.mem_append] at hmem
    rcases hmem with hmem | hmem
    · exact hmem
    · have hle : verbTier t ≤ verbTier t' := hsorted.2.2 _ ht _ hmem
      omega

namespace Cut

variable (hcut : Cut lib a b p s) (hconv : Convergent lib a b)

include hcut hconv

omit [CharTable] in
/-- Once a cluster is removed, nothing held names it: every other slot is settled. -/
theorem not_removed {id : String} (hid : RequestType.into (.removeCluster id) ∈ p) {k : Slot}
    (hk : ∀ id', k ≠ .cluster id') {o : Obj} (ho : s.get k = some o) : o.clusterId ≠ some id := by
  intro hoid
  obtain ⟨t, heq, ht⟩ := hcut.plan _ hid
  obtain rfl := RequestType.into_inj.1 heq
  have hgone : b.get (.cluster id) = none := by
    cases ht with
    | removeCluster _ hb => exact hb
  have hsettled : s.get k = b.get k := by
    refine hcut.settled hconv hcut.applied fun t' w ht' hw hslot => hcut.done _ t' hid ht' ?_
    -- only a cluster's removal runs as late
    have hwriter := ht'.writer_of_writeOf hw
    rw [hslot] at hwriter
    generalize w.value = v at hwriter
    cases hwriter <;> simp [verbTier]
    exact absurd rfl (hk _)
  rw [ho] at hsettled
  have hheld := ((get_eq_some_iff hconv.wellFormed_right).1 hsettled.symm).1
  exact hconv.closed o id hheld hoid hgone

end Cut

end Cuts

namespace Layer7

variable {s : ConfigState} {p : List Request} (h : Layer7 lib previous desired a b)
  (hcut : Cut lib a b p s)

include h hcut

/-- Nothing of layer 4 is held after a head. -/
theorem cut_get_eq_none {k : Slot} (hk : ∀ ir, slotRequests ir k = []) : s.get k = none := by
  obtain ⟨ha, hb⟩ := h.get_eq_none hk
  have hnot : ∀ {o : Obj}, Holds lib b o → o.slot lib ≠ k := by
    rintro o ho rfl
    rw [(get_slot_iff h.right.wellFormed).2 ho] at hb
    cases hb
  rcases hcut.get hcut.applied k with ⟨hget, -⟩ | ⟨t, -, -, hwriter, -⟩
  · rw [hget, ha]
  · generalize s.get k = v at hwriter
    cases hwriter with
    | addCluster ho => exact absurd rfl (hnot ho)
    | addBackend ho => exact absurd rfl (hnot ho)
    | addFrontend ho => exact absurd rfl (hnot ho)
    | addTcpFrontend ho => exact absurd rfl (hnot ho)
    | addUdpFrontend ho => exact absurd rfl (hnot ho)
    | addTcpListener ho _ => exact absurd rfl (hnot ho)
    | addUdpListener ho _ => exact absurd rfl (hnot ho)
    | activateListener _ hheld => exact absurd hb hheld
    | deactivateListener _ hheld => exact absurd ha hheld
    | _ => rfl

/-- A held backend's cluster is held. -/
theorem cluster_of_backend (hconv : Convergent lib a b) {clusterId backendId : String}
    {address : SocketAddress} (hheld : s.get (.backend clusterId backendId address) ≠ none) :
    s.get (.cluster clusterId) ≠ none := by
  obtain ⟨o, ho⟩ := Option.ne_none_iff_exists'.1 hheld
  have hoid : o.clusterId = some clusterId := by
    have hslot := ((get_eq_some_iff hcut.applied.wellFormed).1 ho).2
    cases o <;> simp only [Obj.slot, Slot.backend.injEq, reduceCtorEq] at hslot
    exact congrArg some hslot.1
  intro hnone
  rcases hcut.get hcut.applied (.cluster clusterId) with ⟨hget, hunwritten⟩ | ⟨t, ht, -, hwriter, -⟩
  · -- the cluster is not there from the start, so the backend was added before its cluster
    rcases hcut.get hcut.applied (.backend clusterId backendId address) with
      ⟨hbackend, -⟩ | ⟨t, ht, -, hwriter, -⟩
    · rw [ho] at hbackend
      obtain ⟨hbefore, hslot⟩ := (get_eq_some_iff h.left.wellFormed).1 hbackend.symm
      obtain ⟨t, ht, hsets⟩ := h.left.built hbefore
      cases ht <;> simp only [RequestType.sets, Option.some.injEq] at hsets <;> subst hsets <;>
        simp only [Obj.slot, reduceCtorEq, Slot.backend.injEq] at hslot
      rename_i x hx
      obtain ⟨c, hc, hid⟩ := h.left.declares hx
      refine h.left.slot_filled (.cluster hc) (o := .cluster _) rfl ?_
      rw [← hnone, hget]
      simp only [Obj.slot]
      exact congrArg a.get (congrArg Slot.cluster (hid.trans hslot.1))
    · rw [ho] at hwriter
      cases hwriter with
      | @addBackend x hb =>
        have hcluster := hconv.closed _ _ hb hoid
        obtain ⟨o', ho'⟩ := Option.ne_none_iff_exists'.1 hcluster
        obtain ⟨hwanted, hslot⟩ := (get_eq_some_iff h.right.wellFormed).1 ho'
        cases o' <;> simp only [Obj.slot, Slot.cluster.injEq, reduceCtorEq] at hslot
        rename_i c
        have hfresh : ¬Holds lib a (.cluster c) := by
          intro hold
          have hgeta := (get_slot_iff h.left.wellFormed).2 hold
          rw [Obj.slot, hslot, ← hget, hnone] at hgeta
          cases hgeta
        have hadd := hcut.done _ _ ht (.addCluster hwanted hfresh) (by simp [verbTier])
        exact hunwritten _ _ hadd rfl (congrArg Slot.cluster hslot)
  · rw [hnone] at hwriter
    cases hwriter with
    | removeCluster _ => exact hcut.not_removed hconv ht (by simp) ho hoid

end Layer7

/-! ## The replayed IR -/

/-- What is held at a slot is what a request of the IR sets there. -/
theorem Routes.held_mem (hkeyed : RouteKeyed lib) {ir : Ir} {x : ConfigState}
    (hx : Routes lib ir x) (hl4 : ir.l4Frontends = []) {k : Slot} {o : Obj}
    (ho : x.get k = some o) :
    ∃ t, RequestType.into t ∈ slotRequests ir k ∧ t.sets = some o := by
  obtain ⟨hheld, hslot⟩ := (get_eq_some_iff hx.wellFormed).1 ho
  obtain ⟨t, ht, hsets⟩ := hx.built hheld
  refine ⟨t, ?_, hsets⟩
  rw [← filter_routingRequests hkeyed hl4]
  refine List.mem_filter.2 ⟨mem_routingRequests.2 ⟨t, rfl, ht⟩, ?_⟩
  simp [writesSlot, RequestType.into, writeOf_of_sets lib hsets, hslot]

/-- A slot of the replayed IR is one of the two IRs', or empty, and so is the state. -/
def Replayed (lib : Library) (previous desired : Ir) (a b s : ConfigState) (replayed : Ir)
    (k : Slot) : Prop :=
  (∃ ir x, (ir = previous ∧ x = a ∨ ir = desired ∧ x = b) ∧ Routes lib ir x ∧
      ir.l4Frontends = [] ∧ slotRequests replayed k = slotRequests ir k ∧ s.get k = x.get k) ∨
    slotRequests replayed k = [] ∧ s.get k = none

omit [CharTable] in
theorem writesOf_routing (head : List Request) :
    writesOf lib (head.filter fun r => !r.namesACertificate) = writesOf lib head := by
  induction head with
  | nil => rfl
  | cons r head ih =>
    have hcons : ∀ rs, writesOf lib (r :: rs) = writesOf lib [r] ++ writesOf lib rs := fun rs =>
      writesOf_append lib [r] rs
    by_cases hr : r.namesACertificate = true
    · rw [List.filter_cons_of_neg (by simp [hr]), ih, hcons, writesOf_certificate hr,
        List.nil_append]
    · rw [List.filter_cons_of_pos (by simp [hr]), hcons, ih, hcons head]

section Finish

variable {s : ConfigState} {head : List Request} {flag : Bool}
  (h : Layer7 lib previous desired a b) (hconv : Convergent lib a b)
  (hcut : Cut lib a b (head.filter fun r => !r.namesACertificate) s)
  (hq : q.Valid lib desired flag) (hf : Follows lib previous desired a b q head)

include h hconv hcut hq hf

omit h hq in
/-- What `finish` drops of a group names a removed cluster, and what is held there does
not. -/
theorem Follows.not_dropped {k : Slot} (hk : ∀ id, k ≠ .cluster id) {o : Obj}
    (ho : s.get k = some o) {id : String} (hid : o.clusterId = some id) (since : ℕ) :
    q.removedSince id since = false := by
  unfold Replay.removedSince
  cases hstep : q.removedClusters[id]? with
  | none => rfl
  | some step =>
    have hmem := hf.removed id (by simp [hstep])
    have hp : RequestType.into (.removeCluster id) ∈
        head.filter fun r => !r.namesACertificate := List.mem_filter.2 ⟨hmem, rfl⟩
    exact absurd hid (hcut.not_removed hconv hp hk ho)

omit hconv hcut hq hf in
/-- A followed slot is replayed where its group is requested as it was. -/
theorem Layer7.replayed_of_tracked {T : Type} {group : List T} (objects : Ir → List T)
    {replayed : Ir} {k : Slot}
    (ht : Tracked group (objects previous) (objects desired) (s.get k) (a.get k) (b.get k))
    (hkept : ∀ {ir : Ir} {x : ConfigState}, Routes lib ir x → ir.l4Frontends = [] →
      group = objects ir → s.get k = x.get k → slotRequests replayed k = slotRequests ir k)
    (hnone : group = [] → slotRequests replayed k = []) :
    Replayed lib previous desired a b s replayed k := by
  rcases ht with ⟨hg, hs⟩ | ⟨hg, hs⟩ | ⟨hg, hs⟩
  · have hsame := hkept h.left h.left_l4 hg hs
    exact .inl ⟨previous, a, .inl ⟨rfl, rfl⟩, h.left, h.left_l4, hsame, hs⟩
  · have hsame := hkept h.right h.right_l4 hg hs
    exact .inl ⟨desired, b, .inr ⟨rfl, rfl⟩, h.right, h.right_l4, hsame, hs⟩
  · exact .inr ⟨hnone hg, hs⟩

omit [CharTable] h hconv hq hf in
/-- What the head leaves at a slot. -/
theorem Cut.get_run (k : Slot) : s.get k = run a.get (writesOf lib head) k := by
  rw [hcut.applied.get, writesOf_routing]

omit h hconv hcut hf in
/-- The clusters of a group are all kept. -/
theorem under_finish_clusters (id : String) :
    under Cluster.id id q.finish.clusters = q.clusters.group id :=
  Keyed.under_intoObjects hq.clusters (fun _ _ _ => .refl _) id

omit h hconv hcut hf in
/-- The backends of a group are kept unless their cluster was removed since. -/
theorem under_finish_backends (key : BackendKey) :
    under backendKey key q.finish.backends = (q.backends.group key).filter
      fun x => !q.removedSince x.clusterId (q.backends.since key) :=
  Keyed.under_intoObjects_filter hq.backends (fun since x => !q.removedSince x.clusterId since) key

omit h hconv hcut hf in
/-- So are the frontends of a group. -/
theorem under_finish_frontends (key : SozuRouteKey) :
    under Frontend.sozuRouteKey key q.finish.frontends = (q.frontends.group key).filter
      fun f => !f.clusterId.any fun id => q.removedSince id (q.frontends.since key) :=
  Keyed.under_intoObjects_filter hq.frontends
    (fun since f => !f.clusterId.any fun id => q.removedSince id since) key

/-- The backends requested at a held slot are all kept. -/
theorem Follows.backends_kept {ir : Ir} {x : ConfigState} (hx : Routes lib ir x)
    (hl4 : ir.l4Frontends = []) {clusterId backendId : String} {address : SocketAddress}
    (hgroup : q.backends.group (toLex (clusterId, toLex (backendId, address.toAddr))) =
      under backendKey (toLex (clusterId, toLex (backendId, address.toAddr))) ir.backends)
    (hs : s.get (.backend clusterId backendId address) =
      x.get (.backend clusterId backendId address)) :
    slotRequests q.finish (.backend clusterId backendId address) =
      slotRequests ir (.backend clusterId backendId address) := by
  set key : BackendKey := toLex (clusterId, toLex (backendId, address.toAddr)) with hkey
  show (under backendKey key q.finish.backends).map backendRequest =
    (under backendKey key ir.backends).map backendRequest
  rw [under_finish_backends hq, hgroup]
  refine congrArg _ (List.filter_eq_self.2 fun y hy => ?_)
  obtain ⟨hmem, hykey⟩ := mem_under.1 hy
  have hid : y.clusterId = clusterId := (Prod.mk.injEq .. ▸ toLex.injective hykey).1
  have hne : x.get (.backend clusterId backendId address) ≠ none := fun hnone => by
    have hnil := (hx.get_eq_none_iff h.keyed hl4).1 hnone
    exact List.ne_nil_of_mem hy (List.map_eq_nil_iff.1 hnil)
  obtain ⟨o, ho⟩ := Option.ne_none_iff_exists'.1 (hs ▸ hne)
  have hoid : o.clusterId = some y.clusterId := by
    have hslot := ((get_eq_some_iff hcut.applied.wellFormed).1 ho).2
    cases o <;> simp only [Obj.slot, Slot.backend.injEq, reduceCtorEq] at hslot
    exact congrArg some (hslot.1.trans hid.symm)
  rw [hf.not_dropped hconv hcut (by simp) ho hoid]
  rfl

/-- The frontend requested at a held slot is kept. -/
theorem Follows.frontend_kept {ir : Ir} {x : ConfigState} (hx : Routes lib ir x)
    (hl4 : ir.l4Frontends = []) {https : Bool} {key : String}
    (hgroup : q.frontends.group ⟨https, key⟩ =
      under Frontend.sozuRouteKey ⟨https, key⟩ ir.frontends)
    (hs : s.get (.front https key) = x.get (.front https key)) :
    slotRequests q.finish (.front https key) = slotRequests ir (.front https key) := by
  simp only [slotRequests]
  rw [under_finish_frontends hq, hgroup]
  refine congrArg _ ?_
  cases hunder : under Frontend.sozuRouteKey ⟨https, key⟩ ir.frontends with
  | nil => rfl
  | cons f rest =>
    -- only the first of a group is sent
    rw [List.filter_cons_of_pos]
    · rfl
    · have hne : x.get (.front https key) ≠ none := fun hnone => by
        have hnil := (hx.get_eq_none_iff h.keyed hl4).1 hnone
        simp [slotRequests, hunder] at hnil
      obtain ⟨o, ho⟩ := Option.ne_none_iff_exists'.1 hne
      obtain ⟨t, ht, hsets⟩ := hx.held_mem h.keyed hl4 ho
      have hreq : t.into = frontendRequest f.tls (frontendPayload f) := by
        simpa [slotRequests, hunder] using ht
      obtain rfl : t = .addFrontend (frontendVerb f.tls (frontendPayload f)) (frontendPayload f) :=
        RequestType.into_inj.1 hreq
      obtain rfl := Option.some.inj hsets
      cases hid : f.clusterId with
      | none => rfl
      | some id =>
        have hoid : (Obj.front (frontendVerb f.tls (frontendPayload f)).https
            (frontendPayload f)).clusterId = some id := (frontendPayload_clusterId f).trans hid
        simp only [Option.any_some]
        rw [hf.not_dropped hconv hcut (by simp) (hs.trans ho) hoid]
        rfl

/-- **What the replayed IR requests at a slot.** -/
theorem Follows.replayed (k : Slot) : Replayed lib previous desired a b s q.finish k := by
  cases k with
  | cluster id =>
    have hreq : slotRequests q.finish (.cluster id) =
        (q.clusters.group id).map fun c => clusterRequest c false := by
      rw [slotRequests, under_finish_clusters hq]
    refine h.replayed_of_tracked (fun ir => under Cluster.id id ir.clusters)
      (hcut.get_run _ ▸ hf.cluster id) (fun _ _ hg _ => ?_) fun hg => ?_
    · rw [hreq, hg]
      rfl
    · rw [hreq, hg]
      rfl
  | backend clusterId backendId address =>
    refine h.replayed_of_tracked (fun ir => under backendKey _ ir.backends)
      (hcut.get_run _ ▸ hf.backend clusterId backendId address)
      (fun hx hl4 hg hs => hf.backends_kept h hconv hcut hq hx hl4 hg hs) fun hg => ?_
    simp only [slotRequests]
    rw [under_finish_backends hq, hg]
    rfl
  | front https key =>
    refine h.replayed_of_tracked (fun ir => under Frontend.sozuRouteKey _ ir.frontends)
      (hcut.get_run _ ▸ hf.front https key)
      (fun hx hl4 hg hs => hf.frontend_kept h hconv hcut hq hx hl4 hg hs) fun hg => ?_
    simp only [slotRequests]
    rw [under_finish_frontends hq, hg]
    rfl
  | _ => exact .inr ⟨rfl, h.cut_get_eq_none hcut fun _ => rfl⟩

/-- Each add of the replayed IR is an add of one of the two IRs. -/
theorem Follows.built_replayed {t : RequestType} (ht : Built lib q.finish t)
    (hl4 : q.finish.l4Frontends = []) :
    ∃ ir x, Routes lib ir x ∧ ir.l4Frontends = [] ∧ Built lib ir t := by
  obtain ⟨o, hsets⟩ := ht.sets
  have hmem : t.into ∈ slotRequests q.finish (o.slot lib) := by
    rw [← filter_routingRequests h.keyed hl4]
    refine List.mem_filter.2 ⟨mem_routingRequests.2 ⟨t, rfl, ht⟩, ?_⟩
    simp [writesSlot, RequestType.into, writeOf_of_sets lib hsets]
  rcases hf.replayed h hconv hcut hq (o.slot lib) with ⟨ir, x, -, hx, hl4', hsame, -⟩ | ⟨hnil, -⟩
  · rw [hsame, ← filter_routingRequests h.keyed hl4'] at hmem
    obtain ⟨t', heq, ht'⟩ := mem_routingRequests.1 (List.mem_of_mem_filter hmem)
    obtain rfl := RequestType.into_inj.1 heq
    exact ⟨ir, x, hx, hl4', ht'⟩
  · rw [hnil] at hmem
    cases hmem

/-- A slot of the state is empty exactly when the replayed IR requests nothing there. -/
theorem Follows.get_eq_none_iff (k : Slot) : s.get k = none ↔ slotRequests q.finish k = [] := by
  rcases hf.replayed h hconv hcut hq k with ⟨ir, x, -, hx, hl4, hsame, hget⟩ | ⟨hnil, hnone⟩
  · rw [hget, hsame, hx.get_eq_none_iff h.keyed hl4]
  · simp [hnil, hnone]

omit h hconv hcut hq in
theorem Follows.l4_finish : q.finish.l4Frontends = [] := by
  unfold Replay.finish
  simp only [hf.l4]
  rfl

/-- **The replayed IR has a routing state.** -/
theorem Follows.routingState_ok (hlib : lib.Documented) :
    ∃ s', routingState lib q.finish = .ok s' := by
  have hl4 := hf.l4_finish
  refine routingState_of_admitted hlib hl4 (fun c hc => ?_) (fun x hx => ?_)
    fun payload hpayload => ?_
  · obtain ⟨ir, x, hx, -, ht⟩ := hf.built_replayed h hconv hcut hq (.cluster hc) hl4
    obtain ⟨s', haccepted, -⟩ := hx.accepted _ ht
    have hudp : c.id ∉ udpClusters q.finish := by simp [udpClusters, hl4]
    have hadmits := not_not.1 haccepted
    rwa [decide_eq_false hudp] at hadmits
  · have hslot : s.get (.backend x.clusterId x.backendId x.address.toWire) ≠ none := by
      rw [Ne, hf.get_eq_none_iff h hconv hcut hq]
      refine List.ne_nil_of_mem (List.mem_map.2 ⟨x, mem_under.2 ⟨hx, ?_⟩, rfl⟩)
      show backendKey x = _
      simp [backendKey]
    have hcluster := h.cluster_of_backend hcut hconv hslot
    rw [Ne, hf.get_eq_none_iff h hconv hcut hq] at hcluster
    obtain ⟨c, hc⟩ := List.exists_mem_of_ne_nil _ fun hnil => hcluster (List.map_eq_nil_iff.2 hnil)
    exact ⟨c, (mem_under.1 hc).1, (mem_under.1 hc).2⟩
  · obtain ⟨ir, x, hx, -, ht⟩ := hf.built_replayed h hconv hcut hq (.front hpayload) hl4
    obtain ⟨s', haccepted, -⟩ := hx.accepted _ ht
    by_contra hadmits
    exact haccepted (.inl hadmits)

/-- **Its routing state agrees with the state the head left.** -/
theorem Follows.routingState_replayed (hlib : lib.Documented) :
    ∃ s', routingState lib q.finish = .ok s' ∧ s'.Agrees s := by
  obtain ⟨s', hs'⟩ := hf.routingState_ok h hconv hcut hq hlib
  have hroutes := Translator.routingState_ok hlib hs'
  refine ⟨s', hs', (agrees_iff_get hroutes.wellFormed hcut.applied.wellFormed).2 fun k => ?_⟩
  rcases hf.replayed h hconv hcut hq k with ⟨ir, x, -, hx, hl4, hsame, hget⟩ | ⟨hnil, hnone⟩
  · rw [hget]
    refine hroutes.get_congr hx ?_
    rw [filter_routingRequests h.keyed hf.l4_finish, filter_routingRequests h.keyed hl4, hsame]
  · rw [hnone, hroutes.get_eq_none_iff h.keyed hf.l4_finish, hnil]

end Finish

end Keys

end Translator

end SozuGateway
