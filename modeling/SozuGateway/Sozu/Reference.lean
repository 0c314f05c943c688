import SozuGateway.Sozu.Store
import SozuGateway.Sozu.Encoding

/-!
# A library that behaves as documented

An executable `ConfigState::dispatch`, `ConfigState::diff` and
`ConfigState::cluster_removal_requests`, over any route-key spelling and any PEM
decoding, so that the documented behaviour is one a library can have.

* `Library.completed` — a library with the three operations filled in.
* `completed_documented` — it behaves as documented.
* `reference` — the route key of `RequestHttpFrontend`'s `Display`, the JSON of
  `serde_json`, and a PEM decoding that reads the text's own bytes.
-/

set_option autoImplicit false

namespace SozuGateway

namespace Sozu

open Lib

/-! ## The objects of a state, listed -/

/-- The values of a map. -/
def valuesOf {K V : Type} [LinearOrder K] (m : BTreeMap K V) : List V := m.toList.map Prod.snd

theorem mem_valuesOf {K V : Type} [LinearOrder K] {m : BTreeMap K V} {v : V} :
    v ∈ valuesOf m ↔ ∃ k : K, m[k]? = some v := by
  simp only [valuesOf, List.mem_map, Prod.exists, exists_eq_right]
  exact exists_congr fun k => Std.ExtTreeMap.mem_toList_iff_getElem?_eq_some

/-- The values of a map, each filed under its own key. -/
theorem mem_valuesOf_keyed {K V : Type} [LinearOrder K] {m : BTreeMap K V} {key : V → K}
    (h : ∀ k v, m[k]? = some v → key v = k) {v : V} : v ∈ valuesOf m ↔ m[key v]? = some v := by
  rw [mem_valuesOf]
  constructor
  · rintro ⟨k, hk⟩
    rw [h k v hk]
    exact hk
  · intro hv
    exact ⟨_, hv⟩

/-- The members of every bucket. -/
def membersOf {V : Type} (m : BTreeMap String (List V)) : List V := (valuesOf m).flatten

theorem mem_membersOf {V : Type} {m : BTreeMap String (List V)} {v : V} :
    v ∈ membersOf m ↔ ∃ id : String, v ∈ m[id]?.getD [] := by
  simp only [membersOf, List.mem_flatten, mem_valuesOf]
  constructor
  · rintro ⟨held, ⟨id, hid⟩, hv⟩
    exact ⟨id, by simpa [hid] using hv⟩
  · rintro ⟨id, hv⟩
    cases hid : m[id]? with
    | none => simp [hid] at hv
    | some held => exact ⟨held, ⟨id, hid⟩, by simpa [hid] using hv⟩

/-- The members of every bucket, each filed under its own cluster. -/
theorem mem_membersOf_keyed {V : Type} {m : BTreeMap String (List V)} {key : V → String}
    (h : ∀ (id : String), ∀ v ∈ m[id]?.getD [], key v = id) {v : V} :
    v ∈ membersOf m ↔ v ∈ m[key v]?.getD [] := by
  rw [mem_membersOf]
  constructor
  · rintro ⟨id, hv⟩
    rw [h id v hv]
    exact hv
  · intro hv
    exact ⟨_, hv⟩

/-- The objects a state holds. -/
def objects (s : ConfigState) : List Obj :=
  (valuesOf s.clusters).map .cluster ++ (membersOf s.backends).map .backend ++
    (valuesOf s.httpFronts).map (.front false) ++ (valuesOf s.httpsFronts).map (.front true) ++
    (membersOf s.tcpFronts).map .tcp ++ (membersOf s.udpFronts).map .udp ++
    (valuesOf s.tcpListeners).map .tcpListener ++ (valuesOf s.udpListeners).map .udpListener

variable {lib : Library}

theorem mem_objects {s : ConfigState} (hs : WellFormed lib s) {o : Obj} :
    o ∈ objects s ↔ Holds lib s o := by
  simp only [objects, List.mem_append, List.mem_map]
  cases o with
  | cluster c => simpa [Holds] using mem_valuesOf_keyed hs.cluster_keyed
  | backend b =>
    simpa [Holds, ConfigState.backendsOf] using mem_membersOf_keyed hs.backend_keyed
  | front https f =>
    cases https
    · simpa [Holds, ConfigState.fronts] using mem_valuesOf_keyed (hs.front_keyed false)
    · simpa [Holds, ConfigState.fronts] using mem_valuesOf_keyed (hs.front_keyed true)
  | tcp f =>
    simpa [Holds, ConfigState.tcpOf] using
      mem_membersOf_keyed fun id f hf => (hs.tcp_keyed id f hf).1
  | udp f => simpa [Holds, ConfigState.udpOf] using mem_membersOf_keyed hs.udp_keyed
  | tcpListener l => simpa [Holds] using mem_valuesOf_keyed hs.tcpListener_keyed
  | udpListener l => simpa [Holds] using mem_valuesOf_keyed hs.udpListener_keyed

/-! ## Dispatch -/

instance (s : ConfigState) (proxy : ListenerType) (address : SocketAddress) :
    Decidable (s.hasListener proxy address) :=
  match proxy with
  | .tcp => inferInstanceAs (Decidable (s.tcpListeners[address]? ≠ none))
  | .udp => inferInstanceAs (Decidable (s.udpListeners[address]? ≠ none))
  | .http => isFalse id
  | .https => isFalse id

/-- Why a dispatch is refused, if it is. -/
def refusal (lib : Library) (s : ConfigState) : RequestType → Option StateError
  | .addCluster c => if lib.admits (.addCluster c) then none else some (.other "invalid cluster")
  | .removeCluster id => if s.clusters[id]? = none then some .notFound else none
  | .addBackend b => if s.clusters[b.clusterId]? = none then some .notFound else none
  | .removeBackend b =>
      if (s.backendsOf b.clusterId).any (sameBackend b.backendId b.address) then none
      else some .noChange
  | .addFrontend v f =>
      if lib.admits (.addFrontend v f) then
        if (s.fronts v.https)[lib.display f]? = none then none else some .alreadyExists
      else some (.other "invalid frontend")
  | .removeFrontend v f =>
      match (s.fronts v.https)[lib.display f]? with
      | some held => if held.clusterId = f.clusterId then none else some .notFound
      | none => some .notFound
  | .addTcpFrontend f =>
      if (membersOf s.tcpFronts).any (·.address = f.address) then some .alreadyExists else none
  | .removeTcpFrontend f =>
      if (s.tcpOf f.clusterId).any (sameTcp f) then none else some .noChange
  | .addUdpFrontend f =>
      if (membersOf s.udpFronts).any (·.address = f.address) then some .alreadyExists else none
  | .removeUdpFrontend f =>
      if (s.udpOf f.clusterId).any (·.address = f.address) then none else some .noChange
  | .addTcpListener l => if s.tcpListeners[l.address]? = none then none else some .alreadyExists
  | .addUdpListener l => if s.udpListeners[l.address]? = none then none else some .alreadyExists
  | .activateListener a => if s.hasListener a.proxy a.address then none else some .notFound
  | .deactivateListener d => if s.hasListener d.proxy d.address then none else some .notFound
  | .removeListener l => if s.hasListener l.proxy l.address then none else some .noChange
  | _ => some (.other "not a state request")

/-- A frontend's address no bucket claims. -/
theorem any_membersOf_eq_false {V : Type} {m : BTreeMap String (List V)} {p : V → Bool}
    (h : ∀ (id : String), ∀ v ∈ m[id]?.getD [], p v = false) : (membersOf m).any p = false := by
  rw [List.any_eq_false]
  intro v hv
  obtain ⟨id, hid⟩ := mem_membersOf.1 hv
  simp [h id v hid]

theorem refusal_eq_none_of_fits {s : ConfigState} {t : RequestType} (h : Fits lib s t) :
    refusal lib s t = none := by
  cases t <;> simp only [Fits] at h
  case addCluster c => exact if_pos h
  case removeCluster id => exact if_neg h
  case addBackend b => exact if_neg h
  case removeBackend b => exact if_pos (List.any_eq_true.2 h)
  case addFrontend v f => exact (if_pos h.1).trans (if_pos h.2)
  case removeFrontend v f =>
    obtain ⟨held, hheld, hid⟩ := h
    simp [refusal, hheld, hid]
  case addTcpFrontend f =>
    have hany := any_membersOf_eq_false fun id held hheld => decide_eq_false (h id held hheld)
    rw [refusal, if_neg (by simpa using hany)]
  case removeTcpFrontend f => exact if_pos (List.any_eq_true.2 h)
  case addUdpFrontend f =>
    have hany := any_membersOf_eq_false fun id held hheld => decide_eq_false (h id held hheld)
    rw [refusal, if_neg (by simpa using hany)]
  case removeUdpFrontend f =>
    obtain ⟨held, hheld, haddr⟩ := h
    exact if_pos (List.any_eq_true.2 ⟨held, hheld, decide_eq_true haddr⟩)
  case addTcpListener l => exact if_pos h
  case addUdpListener l => exact if_pos h
  case activateListener a => exact if_pos h
  case deactivateListener d => exact if_pos h
  case removeListener l => exact if_pos h

theorem refusal_ne_none_of_refused {s : ConfigState} {t : RequestType} (h : Refused lib s t) :
    ∃ e, refusal lib s t = some e := by
  cases t <;> simp only [Refused] at h
  case addCluster c => exact ⟨_, if_neg h⟩
  case addBackend b => exact ⟨_, if_pos h⟩
  case addFrontend v f =>
    by_cases hadmits : lib.admits (.addFrontend v f) = true
    · exact ⟨_, (if_pos hadmits).trans (if_neg (h.resolve_left (not_not.2 hadmits)))⟩
    · exact ⟨_, if_neg hadmits⟩
  case addTcpListener l => exact ⟨_, if_neg h⟩
  case addUdpListener l => exact ⟨_, if_neg h⟩

/-- `ConfigState::dispatch`. -/
def dispatched (lib : Library) (s : ConfigState) (r : Request) : Except StateError ConfigState :=
  match r.requestType with
  | none => .error (.other "empty request")
  | some t =>
      match refusal lib s t with
      | some e => .error e
      | none => .ok (after lib s t)

/-! ## The diff -/

/-- The requests that add an object. -/
def gained : Obj → List RequestType
  | .cluster c => [.addCluster c]
  | .backend b => [.addBackend b]
  | .front https f => [.addHttpFrontend https f]
  | .tcp f => [.addTcpFrontend f]
  | .udp f => [.addUdpFrontend f]
  | .tcpListener l => [.addTcpListener l, .activateListener ⟨l.address, .tcp, false⟩]
  | .udpListener l => [.addUdpListener l, .activateListener ⟨l.address, .udp, false⟩]

/-- The requests that remove an object. -/
def removals : Obj → List RequestType
  | .cluster c => [.removeCluster c.clusterId]
  | .backend b => [.removeBackend ⟨b.clusterId, b.backendId, b.address⟩]
  | .front https f => [.removeHttpFrontend https f]
  | .tcp f => [.removeTcpFrontend f]
  | .udp f => [.removeUdpFrontend f]
  | .tcpListener l =>
    [.deactivateListener ⟨l.address, .tcp, false⟩, .removeListener ⟨l.address, .tcp⟩]
  | .udpListener l =>
    [.deactivateListener ⟨l.address, .udp, false⟩, .removeListener ⟨l.address, .udp⟩]

/-- The object goes without a request of its own: with its cluster, or under the add
that replaces it. -/
def covered (a b : ConfigState) : Obj → Bool
  | .cluster c => b.clusters[c.clusterId]? ≠ none
  | o =>
      match o.clusterId with
      | some id => a.clusters[id]? ≠ none ∧ b.clusters[id]? = none
      | none => false

/-- `ConfigState::diff`. -/
def diffed (a b : ConfigState) : List Request :=
  ((objects b).filter (· ∉ objects a)).flatMap (fun o => (gained o).map RequestType.into) ++
    ((objects a).filter fun o => o ∉ objects b ∧ ¬covered a b o).flatMap
      fun o => (removals o).map RequestType.into

/-- `ConfigState::cluster_removal_requests`. -/
def clusterRemovals (s : ConfigState) (id : String) : List Request :=
  ((objects s).filter fun o => o.clusterId = some id).flatMap
    fun o => (removals o).map RequestType.into

theorem mem_diffed {a b : ConfigState} (ha : WellFormed lib a) (hb : WellFormed lib b)
    {r : Request} : r ∈ diffed a b ↔ ∃ t, r = RequestType.into t ∧
      ((∃ o, Holds lib b o ∧ ¬Holds lib a o ∧ t ∈ gained o) ∨
        ∃ o, Holds lib a o ∧ ¬Holds lib b o ∧ covered a b o = false ∧ t ∈ removals o) := by
  simp only [diffed, List.mem_append, List.mem_flatMap, List.mem_filter, List.mem_map,
    decide_eq_true_eq, mem_objects ha, mem_objects hb, Bool.not_eq_true]
  constructor
  · rintro (⟨o, ⟨hob, hoa⟩, t, ht, rfl⟩ | ⟨o, ⟨hoa, hob, hcov⟩, t, ht, rfl⟩)
    · exact ⟨t, rfl, .inl ⟨o, hob, hoa, ht⟩⟩
    · exact ⟨t, rfl, .inr ⟨o, hoa, hob, hcov, ht⟩⟩
  · rintro ⟨t, rfl, (⟨o, hob, hoa, ht⟩ | ⟨o, hoa, hob, hcov, ht⟩)⟩
    · exact .inl ⟨o, ⟨hob, hoa⟩, t, ht, rfl⟩
    · exact .inr ⟨o, ⟨hoa, hob, hcov⟩, t, ht, rfl⟩

/-- A listener of one state only is held by that state alone. -/
theorem not_holds_of_gained {a : ConfigState} {o : Obj} {proxy : ListenerType}
    {address : SocketAddress} (hslot : o.slot lib = .listener proxy address)
    (hnot : ¬a.hasListener proxy address) : ¬Holds lib a o := by
  intro ha
  cases o <;> simp only [Obj.slot, reduceCtorEq, Slot.listener.injEq] at hslot
  case tcpListener l =>
    obtain ⟨rfl, rfl⟩ := hslot
    have hl : a.tcpListeners[l.address]? = some l := ha
    exact hnot (by simp [ConfigState.hasListener, hl])
  case udpListener l =>
    obtain ⟨rfl, rfl⟩ := hslot
    have hl : a.udpListeners[l.address]? = some l := ha
    exact hnot (by simp [ConfigState.hasListener, hl])

theorem exists_of_hasListener {s : ConfigState} (hs : WellFormed lib s) {proxy : ListenerType}
    {address : SocketAddress} (h : s.hasListener proxy address) :
    (∃ l, Holds lib s (.tcpListener l) ∧ proxy = .tcp ∧ address = l.address) ∨
      ∃ l, Holds lib s (.udpListener l) ∧ proxy = .udp ∧ address = l.address := by
  cases proxy <;> simp only [ConfigState.hasListener] at h
  case tcp =>
    obtain ⟨l, hl⟩ := Option.ne_none_iff_exists'.1 h
    have hkey := hs.tcpListener_keyed address l hl
    subst hkey
    exact .inl ⟨l, hl, rfl, rfl⟩
  case udp =>
    obtain ⟨l, hl⟩ := Option.ne_none_iff_exists'.1 h
    have hkey := hs.udpListener_keyed address l hl
    subst hkey
    exact .inr ⟨l, hl, rfl, rfl⟩

theorem hasListener_of_holds {s : ConfigState} {o : Obj} {proxy : ListenerType}
    {address : SocketAddress} (hs : Holds lib s o) (hslot : o.slot lib = .listener proxy address) :
    s.hasListener proxy address := by
  by_contra hnot
  exact not_holds_of_gained hslot hnot hs

theorem SameListeners.symm {a b : ConfigState} (h : SameListeners a b) : SameListeners b a :=
  ⟨fun x l l' hl hl' => (h.tcp x l' l hl' hl).symm, fun x l l' hl hl' => (h.udp x l' l hl' hl).symm,
    fun x l hl => h.tcp_active x l hl.symm, fun x l hl => h.udp_active x l hl.symm⟩

/-- The listeners two states share are alike, so one that differs is new. -/
theorem SameListeners.not_hasListener {a b : ConfigState} (h : SameListeners a b) {o : Obj}
    {proxy : ListenerType} {address : SocketAddress} (hslot : o.slot lib = .listener proxy address)
    (hb : Holds lib b o) (ha : ¬Holds lib a o) : ¬a.hasListener proxy address := by
  intro hlistens
  cases o <;> simp only [Obj.slot, reduceCtorEq, Slot.listener.injEq] at hslot
  case tcpListener l =>
    obtain ⟨rfl, rfl⟩ := hslot
    obtain ⟨l', hl'⟩ := Option.ne_none_iff_exists'.1 hlistens
    obtain rfl := h.tcp _ _ _ hl' hb
    exact ha hl'
  case udpListener l =>
    obtain ⟨rfl, rfl⟩ := hslot
    obtain ⟨l', hl'⟩ := Option.ne_none_iff_exists'.1 hlistens
    obtain rfl := h.udp _ _ _ hl' hb
    exact ha hl'

/-- What is sent for an object gained is documented. -/
theorem emits_of_gained {a b : ConfigState} (hsame : SameListeners a b) {o : Obj} {t : RequestType}
    (hob : Holds lib b o) (hoa : ¬Holds lib a o) (ht : t ∈ gained o) : Emits lib a b t := by
  cases o <;> simp only [gained, List.mem_cons, List.not_mem_nil, or_false] at ht
  case cluster c => exact ht ▸ .addCluster hob hoa
  case backend x => exact ht ▸ .addBackend hob hoa
  case front https f => exact ht ▸ .addFrontend hob hoa
  case tcp f => exact ht ▸ .addTcpFrontend hob hoa
  case udp f => exact ht ▸ .addUdpFrontend hob hoa
  case tcpListener l =>
    have hnew := hsame.not_hasListener rfl hob hoa
    rcases ht with rfl | rfl
    · exact .addTcpListener hob hnew
    · exact .activateListener ⟨hnew, hasListener_of_holds hob rfl⟩
  case udpListener l =>
    have hnew := hsame.not_hasListener rfl hob hoa
    rcases ht with rfl | rfl
    · exact .addUdpListener hob hnew
    · exact .activateListener ⟨hnew, hasListener_of_holds hob rfl⟩

/-- What is sent for an object that goes by itself is documented. -/
theorem emits_of_removal {a b : ConfigState} (hsame : SameListeners a b) {o : Obj}
    {t : RequestType} (hoa : Holds lib a o) (hob : ¬Holds lib b o) (hcov : covered a b o = false)
    (ht : t ∈ removals o) : Emits lib a b t := by
  cases o <;> simp only [removals, List.mem_cons, List.not_mem_nil, or_false] at ht
  case cluster c =>
    subst ht
    have hc : a.clusters[c.clusterId]? = some c := hoa
    simp only [covered, decide_eq_false_iff_not, not_not] at hcov
    exact .removeCluster (by rw [hc]; exact Option.some_ne_none c) hcov
  case backend x =>
    subst ht
    simp only [covered, Obj.clusterId, decide_eq_false_iff_not, not_and] at hcov
    exact .removeBackend hoa hob hcov
  case front https f =>
    subst ht
    refine .removeFrontend hoa hob fun id hid => ?_
    simp only [covered, Obj.clusterId, hid, decide_eq_false_iff_not, not_and] at hcov
    exact hcov
  case tcp f =>
    subst ht
    simp only [covered, Obj.clusterId, decide_eq_false_iff_not, not_and] at hcov
    exact .removeTcpFrontend hoa hob hcov
  case udp f =>
    subst ht
    simp only [covered, Obj.clusterId, decide_eq_false_iff_not, not_and] at hcov
    exact .removeUdpFrontend hoa hob hcov
  case tcpListener l =>
    have hnew := hsame.symm.not_hasListener rfl hoa hob
    rcases ht with rfl | rfl
    · exact .deactivateListener ⟨hnew, hasListener_of_holds hoa rfl⟩
    · exact .removeListener ⟨hnew, hasListener_of_holds hoa rfl⟩
  case udpListener l =>
    have hnew := hsame.symm.not_hasListener rfl hoa hob
    rcases ht with rfl | rfl
    · exact .deactivateListener ⟨hnew, hasListener_of_holds hoa rfl⟩
    · exact .removeListener ⟨hnew, hasListener_of_holds hoa rfl⟩

/-- What is documented is sent for an object gained, or for one that goes by itself. -/
theorem gained_or_removed_of_emits {a b : ConfigState} (ha : WellFormed lib a)
    (hb : WellFormed lib b) {t : RequestType} (ht : Emits lib a b t) :
    (∃ o, Holds lib b o ∧ ¬Holds lib a o ∧ t ∈ gained o) ∨
      ∃ o, Holds lib a o ∧ ¬Holds lib b o ∧ covered a b o = false ∧ t ∈ removals o := by
  cases ht with
  | @addCluster c hob hoa => exact .inl ⟨.cluster c, hob, hoa, by simp [gained]⟩
  | @removeCluster id hida hidb =>
    obtain ⟨c, hc⟩ := Option.ne_none_iff_exists'.1 hida
    have hid := ha.cluster_keyed id c hc
    subst hid
    refine .inr ⟨.cluster c, hc, fun hheld => ?_, by simpa [covered] using hidb, by simp [removals]⟩
    have hcb : b.clusters[c.clusterId]? = some c := hheld
    rw [hidb] at hcb
    cases hcb
  | @addBackend x hob hoa => exact .inl ⟨.backend x, hob, hoa, by simp [gained]⟩
  | @removeBackend x hoa hob hcov =>
    refine .inr ⟨.backend x, hoa, hob, ?_, by simp [removals]⟩
    simpa only [covered, Obj.clusterId, decide_eq_false_iff_not, not_and] using hcov
  | @addFrontend https f hob hoa => exact .inl ⟨.front https f, hob, hoa, by simp [gained]⟩
  | @removeFrontend https f hoa hob hcov =>
    refine .inr ⟨.front https f, hoa, hob, ?_, by simp [removals]⟩
    simp only [covered, Obj.clusterId]
    cases hid : f.clusterId with
    | none => rfl
    | some id => simpa only [decide_eq_false_iff_not, not_and] using hcov id hid
  | @addTcpFrontend f hob hoa => exact .inl ⟨.tcp f, hob, hoa, by simp [gained]⟩
  | @removeTcpFrontend f hoa hob hcov =>
    refine .inr ⟨.tcp f, hoa, hob, ?_, by simp [removals]⟩
    simpa only [covered, Obj.clusterId, decide_eq_false_iff_not, not_and] using hcov
  | @addUdpFrontend f hob hoa => exact .inl ⟨.udp f, hob, hoa, by simp [gained]⟩
  | @removeUdpFrontend f hoa hob hcov =>
    refine .inr ⟨.udp f, hoa, hob, ?_, by simp [removals]⟩
    simpa only [covered, Obj.clusterId, decide_eq_false_iff_not, not_and] using hcov
  | @addTcpListener l hob hnot =>
    exact .inl ⟨.tcpListener l, hob, not_holds_of_gained rfl hnot, by simp [gained]⟩
  | @addUdpListener l hob hnot =>
    exact .inl ⟨.udpListener l, hob, not_holds_of_gained rfl hnot, by simp [gained]⟩
  | @activateListener proxy address hgain =>
    rcases exists_of_hasListener hb hgain.2 with ⟨l, hl, rfl, rfl⟩ | ⟨l, hl, rfl, rfl⟩
    · exact .inl ⟨_, hl, not_holds_of_gained rfl hgain.1, by simp [gained]⟩
    · exact .inl ⟨_, hl, not_holds_of_gained rfl hgain.1, by simp [gained]⟩
  | @deactivateListener proxy address hgain =>
    rcases exists_of_hasListener ha hgain.2 with ⟨l, hl, rfl, rfl⟩ | ⟨l, hl, rfl, rfl⟩
    · exact .inr ⟨_, hl, not_holds_of_gained rfl hgain.1, rfl, by simp [removals]⟩
    · exact .inr ⟨_, hl, not_holds_of_gained rfl hgain.1, rfl, by simp [removals]⟩
  | @removeListener proxy address hgain =>
    rcases exists_of_hasListener ha hgain.2 with ⟨l, hl, rfl, rfl⟩ | ⟨l, hl, rfl, rfl⟩
    · exact .inr ⟨_, hl, not_holds_of_gained rfl hgain.1, rfl, by simp [removals]⟩
    · exact .inr ⟨_, hl, not_holds_of_gained rfl hgain.1, rfl, by simp [removals]⟩

/-- **The diff emits what is documented.** -/
theorem mem_diffed_iff {a b : ConfigState} (ha : WellFormed lib a) (hb : WellFormed lib b)
    (hsame : SameListeners a b) {r : Request} :
    r ∈ diffed a b ↔ ∃ t, r = RequestType.into t ∧ Emits lib a b t := by
  rw [mem_diffed ha hb]
  refine exists_congr fun t => and_congr_right fun _ => ⟨?_, gained_or_removed_of_emits ha hb⟩
  rintro (⟨o, hob, hoa, ht⟩ | ⟨o, hoa, hob, hcov, ht⟩)
  · exact emits_of_gained hsame hob hoa ht
  · exact emits_of_removal hsame hoa hob hcov ht

theorem mem_clusterRemovals {s : ConfigState} (hs : WellFormed lib s) {id : String} {r : Request} :
    r ∈ clusterRemovals s id ↔ ∃ t, r = RequestType.into t ∧ ClusterRemoval lib s id t := by
  simp only [clusterRemovals, List.mem_flatMap, List.mem_filter, List.mem_map,
    decide_eq_true_eq, mem_objects hs]
  constructor
  · rintro ⟨o, ⟨ho, hid⟩, t, ht, rfl⟩
    refine ⟨t, rfl, ?_⟩
    cases o <;> simp only [Obj.clusterId, Option.some.injEq, reduceCtorEq] at hid <;>
      simp only [removals, List.mem_cons, List.not_mem_nil, or_false] at ht <;> subst ht
    case backend x => exact .backend (hid ▸ ho)
    case front https f => exact .front ho hid
    case tcp f => exact .tcp (hid ▸ ho)
    case udp f => exact .udp (hid ▸ ho)
  · rintro ⟨t, rfl, ht⟩
    cases ht with
    | @backend x hx =>
      have hid := hs.backend_keyed id x hx
      subst hid
      exact ⟨.backend x, ⟨hx, rfl⟩, _, by simp [removals], rfl⟩
    | @front https f hf hid => exact ⟨.front https f, ⟨hf, hid⟩, _, by simp [removals], rfl⟩
    | @tcp f hf =>
      have hid := (hs.tcp_keyed id f hf).1
      subst hid
      exact ⟨.tcp f, ⟨hf, rfl⟩, _, by simp [removals], rfl⟩
    | @udp f hf =>
      have hid := hs.udp_keyed id f hf
      subst hid
      exact ⟨.udp f, ⟨hf, rfl⟩, _, by simp [removals], rfl⟩

/-! ## The library -/

/-- The library with its state operations filled in. -/
def Library.completed (lib : Library) : Library :=
  { lib with
    dispatch := dispatched lib
    diff := diffed
    clusterRemovalRequests := clusterRemovals
    json := fun r => r.json.text
    backendJson := fun b => b.json.text
    tcpJson := fun f => f.json.text
    udpJson := fun f => f.json.text }

/-- **A completed library behaves as documented.** -/
theorem completed_documented (lib : Library) : lib.completed.Documented where
  dispatch_fits s t _ hfits := by
    refine ⟨after lib s t, ?_, .refl _⟩
    have hnone : refusal lib s t = none := refusal_eq_none_of_fits hfits
    show dispatched lib s t.into = .ok (after lib s t)
    simp [dispatched, RequestType.into, hnone]
  dispatch_refused s t href := by
    obtain ⟨e, he⟩ : ∃ e, refusal lib s t = some e := refusal_ne_none_of_refused href
    refine ⟨e, ?_⟩
    show dispatched lib s t.into = .error e
    simp [dispatched, RequestType.into, he]
  mem_diff a b ha hb _ hsame r := mem_diffed_iff ha hb hsame
  mem_clusterRemovalRequests s id hs r := mem_clusterRemovals hs
  json_injective := Json.text_injective.comp Request.json_injective
  backendJson_injective := Json.text_injective.comp fun a b h => tells_backend.inj a b h
  tcpJson_injective := Json.text_injective.comp fun a b h => tells_tcp.inj a b h
  udpJson_injective := Json.text_injective.comp fun a b h => tells_udp.inj a b h

/-- How the `Display` of a frontend spells one of its predicates. -/
def spelledPredicate [CharTable] (p : HeaderPredicate) : List Char :=
  let kind := match p.kind with
    | .exact => 0
    | .regex => 1
  ";H".toList ++ Nat.toDigits 10 kind ++ ':' :: debugStr p.name ++ '=' :: debugStr (p.value.getD "")

/-- `RequestHttpFrontend`'s `Display`. -/
def displayed [CharTable] (f : RequestHttpFrontend) : String :=
  let rule := match f.path.kind with
    | .plainPrefix => 'P' :: f.path.value.toList
    | .regex => 'R' :: f.path.value.toList
  let method := match f.method with
    | none => []
    | some method => ';' :: method.toList
  String.ofList (f.address.toAddr.display ++ ';' :: f.hostname.toList ++
    ';' :: (rule ++ method ++ f.headerPredicates.flatMap spelledPredicate))

/-- The bytes of a text, which a PEM block of ASCII armour is made of. -/
def bytesOf (pem : String) : Except String (List (Fin 256)) :=
  if pem = "" then .error "no PEM block" else .ok (pem.toList.map fun c => Fin.ofNat 256 c.toNat)

/-- The ASCII part of the table of characters `Debug` prints as they are. -/
@[reducible] def asciiTable : CharTable := ⟨fun c => 32 ≤ c.toNat ∧ c.toNat < 127⟩

/-- A library that behaves as documented, files frontends under `Display`'s key,
admits every payload and takes the bytes of a PEM text for its contents and its
fingerprint. -/
def reference [CharTable] : Library :=
  Library.completed
    { dispatch := fun s _ => .ok s
      diff := fun _ _ => []
      clusterRemovalRequests := fun _ _ => []
      admits := fun _ => true
      display := displayed
      json := fun _ => ""
      backendJson := fun _ => ""
      tcpJson := fun _ => ""
      udpJson := fun _ => ""
      calculateFingerprint := bytesOf
      parsePem := bytesOf
      splitCertificateChain := fun text => if text = "" then [] else [text] }

/-- A computation checked to succeed has a result. -/
theorem exists_ok_of_isOk {ε α : Type} {x : Except ε α} (h : x.isOk = true) : ∃ a, x = .ok a := by
  cases x with
  | error e => cases h
  | ok a => exact ⟨a, rfl⟩

theorem reference_documented [CharTable] : reference.Documented := completed_documented _

end Sozu

end SozuGateway
