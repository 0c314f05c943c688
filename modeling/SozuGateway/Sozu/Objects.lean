import SozuGateway.Sozu.State

/-!
# The objects of a routing state

How each verb changes the objects a state holds, read off `after`.

* `WellFormed.eq_of_slot` — a slot holds one object.
* `agrees_iff` — two well-formed states agree exactly when they hold the same
  objects.
* `RequestType.sets`, `RequestType.clears` — the object an add sets, the slot a
  removal clears; `holds_after_sets`, `holds_after_clears` and
  `holds_after_removeCluster` say what the state holds afterwards.
* `WellFormed.after` — an accepted dispatch keeps a state well formed.
-/

set_option autoImplicit false

namespace SozuGateway

namespace Sozu

variable (lib : Library)

/-! ## Lookups -/

@[simp] theorem fronts_setFronts_same (s : ConfigState) (https : Bool)
    (m : BTreeMap String RequestHttpFrontend) : (s.setFronts https m).fronts https = m := by
  cases https <;> rfl

theorem fronts_setFronts (s : ConfigState) (https https' : Bool)
    (m : BTreeMap String RequestHttpFrontend) :
    (s.setFronts https m).fronts https' = if https = https' then m else s.fronts https' := by
  cases https <;> cases https' <;> rfl

@[simp] theorem setFronts_rest (s : ConfigState) (https : Bool)
    (m : BTreeMap String RequestHttpFrontend) :
    (s.setFronts https m).clusters = s.clusters ∧
      (s.setFronts https m).backends = s.backends ∧
      (s.setFronts https m).tcpFronts = s.tcpFronts ∧
      (s.setFronts https m).udpFronts = s.udpFronts ∧
      (s.setFronts https m).tcpListeners = s.tcpListeners ∧
      (s.setFronts https m).udpListeners = s.udpListeners := by
  cases https <;> exact ⟨rfl, rfl, rfl, rfl, rfl, rfl⟩

theorem sameBackend_iff {backendId : String} {address : SocketAddress} {b : AddBackend} :
    sameBackend backendId address b = true ↔ b.backendId = backendId ∧ b.address = address := by
  simp [sameBackend]

/-- A TCP frontend that claims its whole address. -/
def RequestTcpFrontend.Raw (f : RequestTcpFrontend) : Prop := f.sni = none ∧ f.alpn = []

theorem RequestTcpFrontend.Raw.tcpClaim {f : RequestTcpFrontend} (h : f.Raw) :
    Sozu.tcpClaim f = (none, []) := by
  simp [Sozu.tcpClaim, h.1, h.2]

theorem RequestTcpFrontend.Raw.filed {f : RequestTcpFrontend} (h : f.Raw) : f.filed = f := by
  obtain ⟨clusterId, address, sni, alpn⟩ := f
  obtain ⟨rfl, rfl⟩ : sni = none ∧ alpn = [] := h
  rfl

theorem RequestTcpFrontend.Raw.sameTcp_iff {f held : RequestTcpFrontend} (h : f.Raw)
    (hheld : held.Raw) : sameTcp f held = true ↔ held.address = f.address := by
  simp [sameTcp, h.tcpClaim, hheld.1, hheld.2]

/-! ## One object per slot -/

variable {lib}

theorem inj_of_nodup_map {α β : Type*} {f : α → β} {l : List α} (h : (l.map f).Nodup) {a b : α}
    (ha : a ∈ l) (hb : b ∈ l) (hab : f a = f b) : a = b :=
  List.inj_on_of_nodup_map h ha hb hab

/-- **A slot holds one object.** -/
theorem WellFormed.eq_of_slot {s : ConfigState} (hs : WellFormed lib s) {o o' : Obj}
    (ho : Holds lib s o) (ho' : Holds lib s o') (h : o.slot lib = o'.slot lib) : o = o' := by
  cases o <;> cases o' <;> simp only [Obj.slot, Slot.cluster.injEq, Slot.backend.injEq,
    Slot.front.injEq, Slot.tcp.injEq, Slot.udp.injEq, Slot.listener.injEq, reduceCtorEq,
    false_and] at h <;> simp only [Holds] at ho ho'
  case cluster.cluster c c' =>
    rw [h] at ho
    exact congrArg Obj.cluster (Option.some.inj (ho.symm.trans ho'))
  case backend.backend b b' =>
    rw [h.1] at ho
    exact congrArg Obj.backend (inj_of_nodup_map (hs.backend_nodup _) ho ho' (by simp [h.2]))
  case front.front x f x' f' =>
    obtain ⟨rfl, hk⟩ := h
    rw [hk] at ho
    exact congrArg (Obj.front x) (Option.some.inj (ho.symm.trans ho'))
  case tcp.tcp f f' =>
    rw [h.1] at ho
    exact congrArg Obj.tcp (inj_of_nodup_map (hs.tcp_nodup _) ho ho' h.2)
  case udp.udp f f' =>
    rw [h.1] at ho
    exact congrArg Obj.udp (inj_of_nodup_map (hs.udp_nodup _) ho ho' h.2)
  case tcpListener.tcpListener l l' =>
    rw [h.2] at ho
    exact congrArg Obj.tcpListener (Option.some.inj (ho.symm.trans ho'))
  case udpListener.udpListener l l' =>
    rw [h.2] at ho
    exact congrArg Obj.udpListener (Option.some.inj (ho.symm.trans ho'))

/-! ## Agreement is holding the same objects -/

theorem ConfigState.Agrees.holds {s t : ConfigState} (h : s.Agrees t) (o : Obj) :
    Holds lib s o ↔ Holds lib t o := by
  cases o with
  | cluster c => simp [Holds, h.clusters]
  | backend b => exact (h.backendsOf _).mem_iff
  | front https f => simp [Holds, h.fronts https]
  | tcp f => exact (h.tcpOf _).mem_iff
  | udp f => exact (h.udpOf _).mem_iff
  | tcpListener l => simp [Holds, h.tcpListeners]
  | udpListener l => simp [Holds, h.udpListeners]

theorem ConfigState.Agrees.wellFormed {s t : ConfigState} (h : s.Agrees t)
    (hs : WellFormed lib s) : WellFormed lib t where
  cluster_keyed := h.clusters ▸ hs.cluster_keyed
  front_keyed https := h.fronts https ▸ hs.front_keyed https
  tcpListener_keyed := h.tcpListeners ▸ hs.tcpListener_keyed
  udpListener_keyed := h.udpListeners ▸ hs.udpListener_keyed
  backend_keyed id b hb := hs.backend_keyed id b ((h.backendsOf id).mem_iff.2 hb)
  tcp_keyed id f hf := hs.tcp_keyed id f ((h.tcpOf id).mem_iff.2 hf)
  udp_keyed id f hf := hs.udp_keyed id f ((h.udpOf id).mem_iff.2 hf)
  backend_nodup id := ((h.backendsOf id).map _).nodup_iff.1 (hs.backend_nodup id)
  tcp_nodup id := ((h.tcpOf id).map _).nodup_iff.1 (hs.tcp_nodup id)
  udp_nodup id := ((h.udpOf id).map _).nodup_iff.1 (hs.udp_nodup id)

/-- Two maps whose values are filed under their own key, and which hold the same
values, are equal. -/
theorem map_eq_of_values {K V : Type} [LinearOrder K] {m m' : BTreeMap K V} {key : V → K}
    (hm : ∀ k v, m[k]? = some v → key v = k) (hm' : ∀ k v, m'[k]? = some v → key v = k)
    (h : ∀ v, m[key v]? = some v ↔ m'[key v]? = some v) : m = m' := by
  refine BTreeMap.ext fun k => ?_
  refine Option.ext fun v => ?_
  constructor
  · intro hv
    have hk := hm k v hv
    rw [← hk] at hv ⊢
    exact (h v).1 hv
  · intro hv
    have hk := hm' k v hv
    rw [← hk] at hv ⊢
    exact (h v).2 hv

/-- Two buckets with the same members, each there once, are permutations of each
other. -/
theorem bucket_perm {α β : Type} {f : α → β} {l l' : List α} (hl : (l.map f).Nodup)
    (hl' : (l'.map f).Nodup) (h : ∀ a, a ∈ l ↔ a ∈ l') : l.Perm l' :=
  (List.perm_ext_iff_of_nodup (List.Nodup.of_map f hl) (List.Nodup.of_map f hl')).2 h

/-- **Two well-formed states agree exactly when they hold the same objects.** -/
theorem agrees_iff {s t : ConfigState} (hs : WellFormed lib s) (ht : WellFormed lib t) :
    s.Agrees t ↔ ∀ o, Holds lib s o ↔ Holds lib t o := by
  refine ⟨fun h o => h.holds o, fun h => ?_⟩
  have hfronts : ∀ https, s.fronts https = t.fronts https := fun https =>
    map_eq_of_values (hs.front_keyed https) (ht.front_keyed https) fun f => h (.front https f)
  refine ⟨map_eq_of_values hs.cluster_keyed ht.cluster_keyed fun c => h (.cluster c),
    hfronts false, hfronts true,
    map_eq_of_values hs.tcpListener_keyed ht.tcpListener_keyed fun l => h (.tcpListener l),
    map_eq_of_values hs.udpListener_keyed ht.udpListener_keyed fun l => h (.udpListener l),
    fun id => bucket_perm (hs.backend_nodup id) (ht.backend_nodup id) fun b => ?_,
    fun id => bucket_perm (hs.tcp_nodup id) (ht.tcp_nodup id) fun f => ?_,
    fun id => bucket_perm (hs.udp_nodup id) (ht.udp_nodup id) fun f => ?_⟩
  · constructor <;> intro hb
    · have hid := hs.backend_keyed id b hb
      subst hid
      exact (h (.backend b)).1 hb
    · have hid := ht.backend_keyed id b hb
      subst hid
      exact (h (.backend b)).2 hb
  · constructor <;> intro hf
    · obtain ⟨hid, -⟩ := hs.tcp_keyed id f hf
      subst hid
      exact (h (.tcp f)).1 hf
    · obtain ⟨hid, -⟩ := ht.tcp_keyed id f hf
      subst hid
      exact (h (.tcp f)).2 hf
  · constructor <;> intro hf
    · have hid := hs.udp_keyed id f hf
      subst hid
      exact (h (.udp f)).1 hf
    · have hid := ht.udp_keyed id f hf
      subst hid
      exact (h (.udp f)).2 hf

/-! ## What a verb sets and clears -/

variable (lib)

/-- The object an add sets. -/
def RequestType.sets : RequestType → Option Obj
  | .addCluster c => some (.cluster c)
  | .addBackend b => some (.backend b)
  | .addFrontend v f => some (.front v.https f)
  | .addTcpFrontend f => some (.tcp f)
  | .addUdpFrontend f => some (.udp f)
  | .addTcpListener l => some (.tcpListener l)
  | .addUdpListener l => some (.udpListener l)
  | _ => none

/-- The slot a removal clears, `RemoveCluster` aside. -/
def RequestType.clears : RequestType → Option Slot
  | .removeBackend b => some (.backend b.clusterId b.backendId b.address)
  | .removeFrontend v f => some (.front v.https (lib.display f))
  | .removeTcpFrontend f => some (.tcp f.clusterId f.address)
  | .removeUdpFrontend f => some (.udp f.clusterId f.address)
  | .removeListener l =>
      match l.proxy with
      | .tcp => some (.listener .tcp l.address)
      | .udp => some (.listener .udp l.address)
      | _ => none
  | _ => none

/-- A layer-4 frontend request that claims its whole address. -/
def RequestType.Raw : RequestType → Prop
  | .addTcpFrontend f => f.Raw
  | .removeTcpFrontend f => f.Raw
  | _ => True

@[simp] theorem sets_addHttpFrontend (https : Bool) (f : RequestHttpFrontend) :
    (RequestType.addHttpFrontend https f).sets = some (.front https f) := rfl

@[simp] theorem clears_removeHttpFrontend (https : Bool) (f : RequestHttpFrontend) :
    (RequestType.removeHttpFrontend https f).clears lib = some (.front https (lib.display f)) := rfl

variable {lib}

theorem mem_backendsOf_insert {s : ConfigState} {id id' : String} {l : List AddBackend}
    {b : AddBackend} :
    b ∈ ({ s with backends := s.backends.insert id l } : ConfigState).backendsOf id' ↔
      if id = id' then b ∈ l else b ∈ s.backendsOf id' := by
  rw [ConfigState.backendsOf, BTreeMap.getElem?_insert]
  split <;> rfl

theorem mem_tcpOf_insert {s : ConfigState} {id id' : String} {l : List RequestTcpFrontend}
    {f : RequestTcpFrontend} :
    f ∈ ({ s with tcpFronts := s.tcpFronts.insert id l } : ConfigState).tcpOf id' ↔
      if id = id' then f ∈ l else f ∈ s.tcpOf id' := by
  rw [ConfigState.tcpOf, BTreeMap.getElem?_insert]
  split <;> rfl

theorem mem_udpOf_insert {s : ConfigState} {id id' : String} {l : List RequestUdpFrontend}
    {f : RequestUdpFrontend} :
    f ∈ ({ s with udpFronts := s.udpFronts.insert id l } : ConfigState).udpOf id' ↔
      if id = id' then f ∈ l else f ∈ s.udpOf id' := by
  rw [ConfigState.udpOf, BTreeMap.getElem?_insert]
  split <;> rfl

/-- A slot that is set under its own key, as a map says it. -/
theorem insert_eq_some_iff {K V : Type} [LinearOrder K] {m : BTreeMap K V} {key : V → K}
    {v v' : V} : (m.insert (key v) v)[key v']? = some v' ↔
      v' = v ∨ (m[key v']? = some v' ∧ key v' ≠ key v) := by
  rw [BTreeMap.getElem?_insert]
  by_cases h : key v = key v'
  · simp [h, eq_comm]
  · have hne : v' ≠ v := fun h' => h (by rw [h'])
    simp [h, hne, Ne.symm h]

/-- A slot that is cleared, as a map says it. -/
theorem erase_eq_some_iff {K V : Type} [LinearOrder K] {m : BTreeMap K V} {k k' : K} {v : V} :
    (m.erase k)[k']? = some v ↔ m[k']? = some v ∧ k' ≠ k := by
  rw [BTreeMap.getElem?_erase]
  by_cases h : k = k'
  · simp [h]
  · simp [h, Ne.symm h]

/-- **What a state holds after an accepted add**: the object it sets, and every
object of another slot. -/
theorem holds_after_sets {s : ConfigState} {t : RequestType} {o : Obj}
    (hfit : Fits lib s t) (hraw : t.Raw) (hset : t.sets = some o) (o' : Obj) :
    Holds lib (after lib s t) o' ↔ o' = o ∨ (Holds lib s o' ∧ o'.slot lib ≠ o.slot lib) := by
  cases t <;> simp only [RequestType.sets, Option.some.injEq, reduceCtorEq] at hset <;> subst hset
  case addCluster c =>
    cases o' <;> simp [Holds, after, Obj.slot, insert_eq_some_iff, ConfigState.backendsOf,
      ConfigState.tcpOf, ConfigState.udpOf, ConfigState.fronts]
  case addBackend b =>
    cases o' <;> simp [Holds, after, Obj.slot, mem_backendsOf_insert, ConfigState.tcpOf,
      ConfigState.udpOf, ConfigState.fronts]
    case backend b' =>
      by_cases h : b.clusterId = b'.clusterId
      · simp [h, sameBackend, imp_iff_not_or]
      · have hne : b' ≠ b := fun h' => h (by rw [h'])
        simp [h, hne, Ne.symm h]
  case addFrontend v f =>
    cases o' <;> simp [Holds, after, Obj.slot, ConfigState.backendsOf, ConfigState.tcpOf,
      ConfigState.udpOf, fronts_setFronts]
    case front https f' =>
      by_cases h : v.https = https
      · subst h
        simp [insert_eq_some_iff]
      · simp [h, Ne.symm h]
  case addTcpFrontend f =>
    cases o' <;> simp [Holds, after, Obj.slot, mem_tcpOf_insert, ConfigState.backendsOf,
      ConfigState.udpOf, ConfigState.fronts]
    case tcp f' =>
      rw [RequestTcpFrontend.Raw.filed hraw]
      by_cases h : f.clusterId = f'.clusterId
      · have hfree : f' ∈ s.tcpOf f'.clusterId → f'.address ≠ f.address := hfit _ _
        simp only [h, if_true, true_implies]
        exact or_congr_right ⟨fun hm => ⟨hm, hfree hm⟩, And.left⟩
      · have hne : f' ≠ f := fun h' => h (by rw [h'])
        simp [h, hne, Ne.symm h]
  case addUdpFrontend f =>
    cases o' <;> simp [Holds, after, Obj.slot, mem_udpOf_insert, ConfigState.backendsOf,
      ConfigState.tcpOf, ConfigState.fronts]
    case udp f' =>
      by_cases h : f.clusterId = f'.clusterId
      · have hfree : f' ∈ s.udpOf f'.clusterId → f'.address ≠ f.address := hfit _ _
        simp only [h, if_true, true_implies]
        exact or_congr_right ⟨fun hm => ⟨hm, hfree hm⟩, And.left⟩
      · have hne : f' ≠ f := fun h' => h (by rw [h'])
        simp [h, hne, Ne.symm h]
  case addTcpListener l =>
    cases o' <;> simp [Holds, after, Obj.slot, insert_eq_some_iff, ConfigState.backendsOf,
      ConfigState.udpOf, ConfigState.fronts, ConfigState.tcpOf]
  case addUdpListener l =>
    cases o' <;> simp [Holds, after, Obj.slot, insert_eq_some_iff, ConfigState.backendsOf,
      ConfigState.udpOf, ConfigState.fronts, ConfigState.tcpOf]

/-- **What a state holds after a removal**: every object of another slot. -/
theorem holds_after_clears {s : ConfigState} {t : RequestType} {k : Slot} (hs : WellFormed lib s)
    (hraw : t.Raw) (hclear : t.clears lib = some k) (o : Obj) :
    Holds lib (after lib s t) o ↔ Holds lib s o ∧ o.slot lib ≠ k := by
  cases t <;> simp only [RequestType.clears, Option.some.injEq, reduceCtorEq] at hclear
  case removeBackend b =>
    subst hclear
    cases o <;> simp [Holds, after, Obj.slot, mem_backendsOf_insert, ConfigState.tcpOf,
      ConfigState.udpOf, ConfigState.fronts]
    case backend b' =>
      by_cases h : b.clusterId = b'.clusterId
      · simp [h, sameBackend, imp_iff_not_or]
      · simp [h, Ne.symm h]
  case removeFrontend v f =>
    subst hclear
    cases o <;> simp [Holds, after, Obj.slot, ConfigState.backendsOf, ConfigState.tcpOf,
      ConfigState.udpOf, fronts_setFronts]
    case front https f' =>
      by_cases h : v.https = https
      · subst h
        simp [erase_eq_some_iff]
      · simp [h, Ne.symm h]
  case removeTcpFrontend f =>
    subst hclear
    cases o <;> simp [Holds, after, Obj.slot, mem_tcpOf_insert, ConfigState.backendsOf,
      ConfigState.udpOf, ConfigState.fronts]
    case tcp f' =>
      by_cases h : f.clusterId = f'.clusterId
      · simp only [h, if_true, true_implies]
        refine and_congr_right fun hm => ?_
        have hiff := RequestTcpFrontend.Raw.sameTcp_iff hraw (hs.tcp_keyed _ _ hm).2
        rw [← not_iff_not, not_not, Bool.not_eq_false, hiff]
      · simp [h, Ne.symm h]
  case removeUdpFrontend f =>
    subst hclear
    cases o <;> simp [Holds, after, Obj.slot, mem_udpOf_insert, ConfigState.backendsOf,
      ConfigState.tcpOf, ConfigState.fronts]
    case udp f' =>
      by_cases h : f.clusterId = f'.clusterId
      · simp [h]
      · simp [h, Ne.symm h]
  case removeListener l =>
    obtain ⟨address, proxy⟩ := l
    cases proxy <;> simp only [Option.some.injEq, reduceCtorEq] at hclear
    all_goals
      subst hclear
      cases o <;> simp [Holds, after, Obj.slot, erase_eq_some_iff, ConfigState.backendsOf,
        ConfigState.udpOf, ConfigState.fronts, ConfigState.tcpOf]

/-- **What a state holds after a cluster removal**: neither the cluster nor any
object naming it. -/
theorem holds_after_removeCluster {s : ConfigState} (id : String) (o : Obj) :
    Holds lib (after lib s (.removeCluster id)) o ↔
      Holds lib s o ∧ o.slot lib ≠ .cluster id ∧ o.clusterId ≠ some id := by
  cases o with
  | cluster c => simp [Holds, after, Obj.slot, Obj.clusterId, erase_eq_some_iff]
  | backend b =>
    simp only [Holds, after, Obj.slot, Obj.clusterId, ConfigState.backendsOf,
      BTreeMap.getElem?_erase]
    by_cases h : id = b.clusterId
    · simp [h]
    · simp [h, Ne.symm h]
  | front https f =>
    cases https <;> simp [Holds, after, Obj.slot, Obj.clusterId, ConfigState.fronts]
  | tcp f =>
    simp only [Holds, after, Obj.slot, Obj.clusterId, ConfigState.tcpOf, BTreeMap.getElem?_erase]
    by_cases h : id = f.clusterId
    · simp [h]
    · simp [h, Ne.symm h]
  | udp f =>
    simp only [Holds, after, Obj.slot, Obj.clusterId, ConfigState.udpOf, BTreeMap.getElem?_erase]
    by_cases h : id = f.clusterId
    · simp [h]
    · simp [h, Ne.symm h]
  | tcpListener l => simp [Holds, after, Obj.slot, Obj.clusterId]
  | udpListener l => simp [Holds, after, Obj.slot, Obj.clusterId]

/-! ## Well-formedness is kept -/

theorem backendsOf_insert (s : ConfigState) (id id' : String) (l : List AddBackend) :
    ({ s with backends := s.backends.insert id l } : ConfigState).backendsOf id' =
      if id = id' then l else s.backendsOf id' := by
  rw [ConfigState.backendsOf, BTreeMap.getElem?_insert]
  split <;> rfl

theorem tcpOf_insert (s : ConfigState) (id id' : String) (l : List RequestTcpFrontend) :
    ({ s with tcpFronts := s.tcpFronts.insert id l } : ConfigState).tcpOf id' =
      if id = id' then l else s.tcpOf id' := by
  rw [ConfigState.tcpOf, BTreeMap.getElem?_insert]
  split <;> rfl

theorem udpOf_insert (s : ConfigState) (id id' : String) (l : List RequestUdpFrontend) :
    ({ s with udpFronts := s.udpFronts.insert id l } : ConfigState).udpOf id' =
      if id = id' then l else s.udpOf id' := by
  rw [ConfigState.udpOf, BTreeMap.getElem?_insert]
  split <;> rfl

/-- A map of values under their own key stays one when a value is set under its
key. -/
theorem keyed_insert {K V : Type} [LinearOrder K] {m : BTreeMap K V} {key : V → K} {v : V}
    (hm : ∀ k v', m[k]? = some v' → key v' = k) (k : K) (v' : V)
    (h : (m.insert (key v) v)[k]? = some v') : key v' = k := by
  rw [BTreeMap.getElem?_insert] at h
  split at h
  · rename_i hk
    rw [← Option.some.inj h, hk]
  · exact hm k v' h

theorem keyed_erase {K V : Type} [LinearOrder K] {m : BTreeMap K V} {key : V → K} {k₀ : K}
    (hm : ∀ k v', m[k]? = some v' → key v' = k) (k : K) (v' : V)
    (h : (m.erase k₀)[k]? = some v') : key v' = k := by
  rw [BTreeMap.getElem?_erase] at h
  split at h
  · cases h
  · exact hm k v' h

theorem keyed_filter {K V : Type} [LinearOrder K] {m : BTreeMap K V} {key : V → K}
    {p : K → V → Bool} (hm : ∀ k v', m[k]? = some v' → key v' = k) (k : K) (v' : V)
    (h : (m.filter p)[k]? = some v') : key v' = k := by
  rw [BTreeMap.getElem?_filter] at h
  exact hm k v' (Option.eq_some_of_filter_eq_some h)

theorem keyed_modify {K V : Type} [LinearOrder K] {m : BTreeMap K V} {key : V → K} {k₀ : K}
    {f : V → V} (hf : ∀ v, key (f v) = key v) (hm : ∀ k v', m[k]? = some v' → key v' = k) (k : K)
    (v' : V) (h : (m.modify k₀ f)[k]? = some v') : key v' = k := by
  rw [BTreeMap.getElem?_modify] at h
  split at h
  · obtain ⟨v, hv, rfl⟩ := Option.map_eq_some_iff.1 h
    rw [hf]
    exact hm k v hv
  · exact hm k v' h

theorem WellFormed.setFronts {s : ConfigState} (hs : WellFormed lib s) {https : Bool}
    {m : BTreeMap String RequestHttpFrontend}
    (hm : ∀ (k : String) f, m[k]? = some f → lib.display f = k) :
    WellFormed lib (s.setFronts https m) := by
  cases https
  · exact { hs with
      front_keyed := fun https => by
        cases https
        · exact hm
        · exact hs.front_keyed true }
  · exact { hs with
      front_keyed := fun https => by
        cases https
        · exact hs.front_keyed false
        · exact hm }

theorem WellFormed.insertBackends {s : ConfigState} (hs : WellFormed lib s) {id : String}
    {l : List AddBackend} (hkeyed : ∀ b ∈ l, b.clusterId = id)
    (hnd : (l.map fun b => (b.backendId, b.address)).Nodup) :
    WellFormed lib { s with backends := s.backends.insert id l } :=
  { hs with
    backend_keyed := fun id' => by
      rw [backendsOf_insert]
      split
      · rename_i h
        exact h ▸ hkeyed
      · exact hs.backend_keyed id'
    backend_nodup := fun id' => by
      rw [backendsOf_insert]
      split
      · exact hnd
      · exact hs.backend_nodup id' }

theorem WellFormed.insertTcp {s : ConfigState} (hs : WellFormed lib s) {id : String}
    {l : List RequestTcpFrontend} (hkeyed : ∀ f ∈ l, f.clusterId = id ∧ f.Raw)
    (hnd : (l.map fun f => f.address).Nodup) :
    WellFormed lib { s with tcpFronts := s.tcpFronts.insert id l } :=
  { hs with
    tcp_keyed := fun id' => by
      rw [tcpOf_insert]
      split
      · rename_i h
        exact h ▸ hkeyed
      · exact hs.tcp_keyed id'
    tcp_nodup := fun id' => by
      rw [tcpOf_insert]
      split
      · exact hnd
      · exact hs.tcp_nodup id' }

theorem WellFormed.insertUdp {s : ConfigState} (hs : WellFormed lib s) {id : String}
    {l : List RequestUdpFrontend} (hkeyed : ∀ f ∈ l, f.clusterId = id)
    (hnd : (l.map fun f => f.address).Nodup) :
    WellFormed lib { s with udpFronts := s.udpFronts.insert id l } :=
  { hs with
    udp_keyed := fun id' => by
      rw [udpOf_insert]
      split
      · rename_i h
        exact h ▸ hkeyed
      · exact hs.udp_keyed id'
    udp_nodup := fun id' => by
      rw [udpOf_insert]
      split
      · exact hnd
      · exact hs.udp_nodup id' }

theorem nodup_map_filter {α β : Type} {f : α → β} {p : α → Bool} {l : List α}
    (h : (l.map f).Nodup) : ((l.filter p).map f).Nodup :=
  h.sublist (List.filter_sublist.map f)

/-- What a cascade leaves of the buckets of a cluster. -/
theorem erased_getD {V : Type} (m : BTreeMap String (List V)) (id id' : String) :
    (m.erase id)[id']?.getD [] = if id = id' then [] else m[id']?.getD [] := by
  rw [BTreeMap.getElem?_erase]
  split <;> rfl

theorem WellFormed.removeCluster {s : ConfigState} (hs : WellFormed lib s) (id : String) :
    WellFormed lib (after lib s (.removeCluster id)) where
  cluster_keyed := keyed_erase hs.cluster_keyed
  front_keyed https := by
    cases https
    · exact keyed_filter (hs.front_keyed false)
    · exact keyed_filter (hs.front_keyed true)
  tcpListener_keyed := hs.tcpListener_keyed
  udpListener_keyed := hs.udpListener_keyed
  backend_keyed id' b hb := by
    rw [ConfigState.backendsOf, after, erased_getD] at hb
    split at hb
    · simp at hb
    · exact hs.backend_keyed id' b hb
  tcp_keyed id' f hf := by
    rw [ConfigState.tcpOf, after, erased_getD] at hf
    split at hf
    · simp at hf
    · exact hs.tcp_keyed id' f hf
  udp_keyed id' f hf := by
    rw [ConfigState.udpOf, after, erased_getD] at hf
    split at hf
    · simp at hf
    · exact hs.udp_keyed id' f hf
  backend_nodup id' := by
    rw [ConfigState.backendsOf, after, erased_getD]
    split
    · simp
    · exact hs.backend_nodup id'
  tcp_nodup id' := by
    rw [ConfigState.tcpOf, after, erased_getD]
    split
    · simp
    · exact hs.tcp_nodup id'
  udp_nodup id' := by
    rw [ConfigState.udpOf, after, erased_getD]
    split
    · simp
    · exact hs.udp_nodup id'

/-- **An accepted dispatch keeps a state well formed.** -/
theorem WellFormed.after {s : ConfigState} (hs : WellFormed lib s) {t : RequestType}
    (hfit : Fits lib s t) (hraw : t.Raw) : WellFormed lib (after lib s t) := by
  cases t with
  | addCluster c => exact { hs with cluster_keyed := keyed_insert hs.cluster_keyed }
  | removeCluster id => exact hs.removeCluster id
  | addBackend b =>
    refine hs.insertBackends (fun x hx => ?_) ?_
    · rcases List.mem_cons.1 hx with rfl | hx
      · rfl
      · exact hs.backend_keyed _ x (List.mem_of_mem_filter hx)
    · -- the backend the upsert replaces is filtered out
      rw [List.map_cons, List.nodup_cons]
      refine ⟨?_, nodup_map_filter (hs.backend_nodup _)⟩
      intro hmem
      obtain ⟨x, hx, hkey⟩ := List.mem_map.1 hmem
      simp only [Prod.mk.injEq] at hkey
      have hsame : sameBackend b.backendId b.address x = true := sameBackend_iff.2 hkey
      simp [hsame] at hx
  | removeBackend b =>
    exact hs.insertBackends (fun x hx => hs.backend_keyed _ x (List.mem_of_mem_filter hx))
      (nodup_map_filter (hs.backend_nodup _))
  | addFrontend v f => exact hs.setFronts (keyed_insert (hs.front_keyed _))
  | removeFrontend v f => exact hs.setFronts (keyed_erase (hs.front_keyed _))
  | addTcpFrontend f =>
    have hf : f.filed = f := RequestTcpFrontend.Raw.filed hraw
    rw [Sozu.after, hf]
    refine hs.insertTcp (fun x hx => ?_) ?_
    · rcases List.mem_cons.1 hx with rfl | hx
      · exact ⟨rfl, hraw⟩
      · exact hs.tcp_keyed _ x hx
    · rw [List.map_cons, List.nodup_cons]
      refine ⟨?_, hs.tcp_nodup _⟩
      rintro hmem
      obtain ⟨x, hx, hxa⟩ := List.mem_map.1 hmem
      exact hfit _ x hx hxa
  | removeTcpFrontend f =>
    exact hs.insertTcp (fun x hx => hs.tcp_keyed _ x (List.mem_of_mem_filter hx))
      (nodup_map_filter (hs.tcp_nodup _))
  | addUdpFrontend f =>
    refine hs.insertUdp (fun x hx => ?_) ?_
    · rcases List.mem_cons.1 hx with rfl | hx
      · rfl
      · exact hs.udp_keyed _ x hx
    · rw [List.map_cons, List.nodup_cons]
      refine ⟨?_, hs.udp_nodup _⟩
      rintro hmem
      obtain ⟨x, hx, hxa⟩ := List.mem_map.1 hmem
      exact hfit _ x hx hxa
  | removeUdpFrontend f =>
    exact hs.insertUdp (fun x hx => hs.udp_keyed _ x (List.mem_of_mem_filter hx))
      (nodup_map_filter (hs.udp_nodup _))
  | addTcpListener l => exact { hs with tcpListener_keyed := keyed_insert hs.tcpListener_keyed }
  | addUdpListener l => exact { hs with udpListener_keyed := keyed_insert hs.udpListener_keyed }
  | activateListener a =>
    obtain ⟨address, proxy, fromScm⟩ := a
    cases proxy
    case tcp =>
      exact { hs with tcpListener_keyed := keyed_modify (fun _ => rfl) hs.tcpListener_keyed }
    case udp =>
      exact { hs with udpListener_keyed := keyed_modify (fun _ => rfl) hs.udpListener_keyed }
    all_goals exact hs
  | deactivateListener d =>
    obtain ⟨address, proxy, toScm⟩ := d
    cases proxy
    case tcp =>
      exact { hs with tcpListener_keyed := keyed_modify (fun _ => rfl) hs.tcpListener_keyed }
    case udp =>
      exact { hs with udpListener_keyed := keyed_modify (fun _ => rfl) hs.udpListener_keyed }
    all_goals exact hs
  | removeListener l =>
    obtain ⟨address, proxy⟩ := l
    cases proxy
    case tcp => exact { hs with tcpListener_keyed := keyed_erase hs.tcpListener_keyed }
    case udp => exact { hs with udpListener_keyed := keyed_erase hs.udpListener_keyed }
    all_goals exact hs
  | _ => exact hs

end Sozu

end SozuGateway
