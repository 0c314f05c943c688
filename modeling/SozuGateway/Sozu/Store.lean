import SozuGateway.Sozu.Objects

/-!
# A routing state as a store

A well-formed routing state is a partial map from slots to objects, and each
accepted dispatch writes one slot of it.

* `ConfigState.get` — what a state holds at a slot; `get_eq_some_iff` reads it
  through `Holds`, and `agrees_iff_get` says that two states agree exactly when
  they are the same store.
* `get_after_sets`, `get_after_clears`, `get_after_removeCluster`,
  `get_after_activate`, `get_after_deactivate` — the write each verb is.
-/

set_option autoImplicit false

namespace SozuGateway

namespace Sozu

open Lib (Store Write)

variable {lib : Library}

/-! ## The store of a state -/

/-- What the state holds at a slot. -/
def ConfigState.get (s : ConfigState) : Store Slot Obj
  | .cluster id => s.clusters[id]?.map .cluster
  | .backend id backendId address =>
      ((s.backendsOf id).find? (sameBackend backendId address)).map .backend
  | .front https key => (s.fronts https)[key]?.map (.front https)
  | .tcp id address => ((s.tcpOf id).find? fun f => f.address = address).map .tcp
  | .udp id address => ((s.udpOf id).find? fun f => f.address = address).map .udp
  | .listener .tcp address => s.tcpListeners[address]?.map .tcpListener
  | .listener .udp address => s.udpListeners[address]?.map .udpListener
  | .listener _ _ => none

/-- What a search by key finds in a bucket where the key tells members apart. -/
theorem find?_eq_some_iff_of_nodup {α β : Type} {f : α → β} {l : List α} (hnd : (l.map f).Nodup)
    {p : α → Bool} {b : β} (hp : ∀ a, p a = true ↔ f a = b) {a : α} :
    l.find? p = some a ↔ a ∈ l ∧ f a = b := by
  constructor
  · intro h
    exact ⟨List.mem_of_find?_eq_some h, (hp a).1 (List.find?_some h)⟩
  · rintro ⟨ha, hb⟩
    cases h : l.find? p with
    | none =>
      have hnot := List.find?_eq_none.1 h a ha
      exact absurd ((hp a).2 hb) hnot
    | some a' =>
      have ha' : f a' = f a := by rw [(hp a').1 (List.find?_some h), hb]
      rw [inj_of_nodup_map hnd (List.mem_of_find?_eq_some h) ha ha']

section Get

variable {s : ConfigState} (hs : WellFormed lib s)

include hs

theorem find?_backendsOf {id backendId : String} {address : SocketAddress} {b : AddBackend} :
    (s.backendsOf id).find? (sameBackend backendId address) = some b ↔
      b ∈ s.backendsOf id ∧ (b.backendId, b.address) = (backendId, address) :=
  find?_eq_some_iff_of_nodup (hs.backend_nodup id) fun x => by simp [sameBackend]

theorem find?_tcpOf {id : String} {address : SocketAddress} {f : RequestTcpFrontend} :
    (s.tcpOf id).find? (fun f => f.address = address) = some f ↔
      f ∈ s.tcpOf id ∧ f.address = address :=
  find?_eq_some_iff_of_nodup (hs.tcp_nodup id) fun x => by simp

theorem find?_udpOf {id : String} {address : SocketAddress} {f : RequestUdpFrontend} :
    (s.udpOf id).find? (fun f => f.address = address) = some f ↔
      f ∈ s.udpOf id ∧ f.address = address :=
  find?_eq_some_iff_of_nodup (hs.udp_nodup id) fun x => by simp

/-- What a slot has is held, and filed under that slot. -/
theorem holds_of_get {k : Slot} {o : Obj} (h : s.get k = some o) :
    Holds lib s o ∧ o.slot lib = k := by
  cases k with
  | cluster id =>
    obtain ⟨c, hc, rfl⟩ := Option.map_eq_some_iff.1 h
    have hid := hs.cluster_keyed id c hc
    subst hid
    exact ⟨hc, rfl⟩
  | backend id backendId address =>
    obtain ⟨b, hb, rfl⟩ := Option.map_eq_some_iff.1 h
    obtain ⟨hmem, hkey⟩ := (find?_backendsOf hs).1 hb
    have hid := hs.backend_keyed id b hmem
    subst hid
    simp only [Prod.mk.injEq] at hkey
    exact ⟨hmem, by simp [Obj.slot, hkey]⟩
  | front https key =>
    obtain ⟨f, hf, rfl⟩ := Option.map_eq_some_iff.1 h
    have hk := hs.front_keyed https key f hf
    subst hk
    exact ⟨hf, rfl⟩
  | tcp id address =>
    obtain ⟨f, hf, rfl⟩ := Option.map_eq_some_iff.1 h
    obtain ⟨hmem, rfl⟩ := (find?_tcpOf hs).1 hf
    have hid := (hs.tcp_keyed id f hmem).1
    subst hid
    exact ⟨hmem, rfl⟩
  | udp id address =>
    obtain ⟨f, hf, rfl⟩ := Option.map_eq_some_iff.1 h
    obtain ⟨hmem, rfl⟩ := (find?_udpOf hs).1 hf
    have hid := hs.udp_keyed id f hmem
    subst hid
    exact ⟨hmem, rfl⟩
  | listener proxy address =>
    cases proxy with
    | tcp =>
      obtain ⟨l, hl, rfl⟩ := Option.map_eq_some_iff.1 h
      have hk := hs.tcpListener_keyed address l hl
      subst hk
      exact ⟨hl, rfl⟩
    | udp =>
      obtain ⟨l, hl, rfl⟩ := Option.map_eq_some_iff.1 h
      have hk := hs.udpListener_keyed address l hl
      subst hk
      exact ⟨hl, rfl⟩
    | http | https => cases h

/-- What is held is in its slot. -/
theorem get_of_holds {o : Obj} (h : Holds lib s o) : s.get (o.slot lib) = some o := by
  cases o with
  | cluster c => exact Option.map_eq_some_iff.2 ⟨c, h, rfl⟩
  | backend b => exact Option.map_eq_some_iff.2 ⟨b, (find?_backendsOf hs).2 ⟨h, rfl⟩, rfl⟩
  | front https f => exact Option.map_eq_some_iff.2 ⟨f, h, rfl⟩
  | tcp f => exact Option.map_eq_some_iff.2 ⟨f, (find?_tcpOf hs).2 ⟨h, rfl⟩, rfl⟩
  | udp f => exact Option.map_eq_some_iff.2 ⟨f, (find?_udpOf hs).2 ⟨h, rfl⟩, rfl⟩
  | tcpListener l => exact Option.map_eq_some_iff.2 ⟨l, h, rfl⟩
  | udpListener l => exact Option.map_eq_some_iff.2 ⟨l, h, rfl⟩

/-- **A slot of the store holds the object filed under it.** -/
theorem get_eq_some_iff {k : Slot} {o : Obj} :
    s.get k = some o ↔ Holds lib s o ∧ o.slot lib = k := by
  refine ⟨holds_of_get hs, ?_⟩
  rintro ⟨ho, rfl⟩
  exact get_of_holds hs ho

end Get

theorem get_slot_iff {s : ConfigState} (hs : WellFormed lib s) {o : Obj} :
    s.get (o.slot lib) = some o ↔ Holds lib s o := by
  simp [get_eq_some_iff hs]

/-- **Two well-formed states agree exactly when they are the same store.** -/
theorem agrees_iff_get {s t : ConfigState} (hs : WellFormed lib s) (ht : WellFormed lib t) :
    s.Agrees t ↔ ∀ k, s.get k = t.get k := by
  rw [agrees_iff hs ht]
  constructor
  · intro h k
    refine Option.ext fun o => ?_
    rw [get_eq_some_iff hs, get_eq_some_iff ht, h]
  · intro h o
    rw [← get_slot_iff hs, ← get_slot_iff ht, h]

theorem ConfigState.Agrees.get {s t : ConfigState} (h : s.Agrees t) (hs : WellFormed lib s)
    (k : Slot) : s.get k = t.get k :=
  (agrees_iff_get hs (h.wellFormed hs)).1 h k

/-! ## What a slot says of the state -/

theorem hasListener_iff {s : ConfigState} {proxy : ListenerType} {address : SocketAddress} :
    s.hasListener proxy address ↔ s.get (.listener proxy address) ≠ none := by
  cases proxy <;> simp [ConfigState.hasListener, ConfigState.get]

theorem cluster_ne_none_iff {s : ConfigState} {id : String} :
    s.clusters[id]? ≠ none ↔ s.get (.cluster id) ≠ none := by
  simp [ConfigState.get]

/-! ## Each verb is a write -/

/-- A store is determined by what it holds. -/
theorem get_eq_apply {s s' : ConfigState} (hs' : WellFormed lib s') {w : Write Slot Obj}
    (h : ∀ k o, (Holds lib s' o ∧ o.slot lib = k) ↔ w.apply s.get k = some o) :
    s'.get = w.apply s.get :=
  funext fun k => Option.ext fun o => (get_eq_some_iff hs').trans (h k o)

/-- **An accepted add writes its object.** -/
theorem get_after_sets {s : ConfigState} {t : RequestType} {o : Obj} (hs : WellFormed lib s)
    (hfit : Fits lib s t) (hraw : t.Raw) (hset : t.sets = some o) :
    (after lib s t).get = Write.apply ⟨o.slot lib, some o⟩ s.get := by
  refine get_eq_apply (hs.after hfit hraw) fun k o' => ?_
  rw [holds_after_sets hfit hraw hset]
  by_cases hk : k = o.slot lib
  · subst hk
    rw [Write.apply_mk_same]
    constructor
    · rintro ⟨rfl | ⟨-, hne⟩, hslot⟩
      · rfl
      · exact absurd hslot hne
    · intro h
      obtain rfl := Option.some.inj h
      exact ⟨.inl rfl, rfl⟩
  · rw [Write.apply_of_ne hk, get_eq_some_iff hs]
    constructor
    · rintro ⟨rfl | ⟨ho, -⟩, hslot⟩
      · exact absurd hslot.symm hk
      · exact ⟨ho, hslot⟩
    · rintro ⟨ho, rfl⟩
      exact ⟨.inr ⟨ho, hk⟩, rfl⟩

/-- **An accepted removal clears its slot.** -/
theorem get_after_clears {s : ConfigState} {t : RequestType} {k₀ : Slot} (hs : WellFormed lib s)
    (hfit : Fits lib s t) (hraw : t.Raw) (hclear : t.clears lib = some k₀) :
    (after lib s t).get = Write.apply ⟨k₀, none⟩ s.get := by
  refine get_eq_apply (hs.after hfit hraw) fun k o => ?_
  rw [holds_after_clears hs hraw hclear]
  by_cases hk : k = k₀
  · subst hk
    rw [Write.apply_mk_same]
    simp +contextual
  · rw [Write.apply_of_ne hk, get_eq_some_iff hs]
    constructor
    · rintro ⟨⟨ho, -⟩, hslot⟩
      exact ⟨ho, hslot⟩
    · rintro ⟨ho, rfl⟩
      exact ⟨⟨ho, hk⟩, rfl⟩

/-- **A cluster removal that cascades to nothing clears the cluster's slot.** -/
theorem get_after_removeCluster {s : ConfigState} {id : String} (hs : WellFormed lib s)
    (hfree : ∀ o, Holds lib s o → o.clusterId ≠ some id) :
    (after lib s (.removeCluster id)).get = Write.apply ⟨.cluster id, none⟩ s.get := by
  refine get_eq_apply (hs.removeCluster id) fun k o => ?_
  rw [holds_after_removeCluster]
  by_cases hk : k = .cluster id
  · subst hk
    rw [Write.apply_mk_same]
    simp +contextual
  · rw [Write.apply_of_ne hk, get_eq_some_iff hs]
    constructor
    · rintro ⟨⟨ho, -, -⟩, hslot⟩
      exact ⟨ho, hslot⟩
    · rintro ⟨ho, rfl⟩
      exact ⟨⟨ho, hk, hfree o ho⟩, rfl⟩

/-- A layer-4 listener with its `active` flag set. -/
def Obj.withActive (active : Bool) : Obj → Obj
  | .tcpListener l => .tcpListener { l with active }
  | .udpListener l => .udpListener { l with active }
  | o => o

/-- What changing the `active` flag of the listener at an address does to the
store. -/
theorem get_modify_listener {s s' : ConfigState} {active : Bool} {proxy : ListenerType}
    {address : SocketAddress}
    (hs' : s' = match proxy with
      | .tcp => { s with tcpListeners := s.tcpListeners.modify address ({ · with active }) }
      | .udp => { s with udpListeners := s.udpListeners.modify address ({ · with active }) }
      | _ => s) (hfit : s.hasListener proxy address) :
    s'.get = Write.apply ⟨.listener proxy address,
      (s.get (.listener proxy address)).map (Obj.withActive active)⟩ s.get := by
  funext k
  by_cases hk : k = .listener proxy address
  · subst hk
    rw [Write.apply_mk_same]
    cases proxy <;> simp only [ConfigState.hasListener] at hfit
    all_goals
      subst hs'
      simp [ConfigState.get, Obj.withActive, Function.comp_def]
  · rw [Write.apply_of_ne hk]
    cases proxy <;> simp only [ConfigState.hasListener] at hfit
    all_goals
      subst hs'
      cases k
      case listener proxy' address' =>
        cases proxy' <;> simp only [ConfigState.get, BTreeMap.getElem?_modify]
        all_goals
          split
          · rename_i h
            exact absurd (congrArg (Slot.listener _) h.symm) hk
          · rfl
      all_goals rfl

/-- **An activation sets the listener's flag.** -/
theorem get_after_activate {s : ConfigState} {a : ActivateListener}
    (hfit : Fits lib s (.activateListener a)) :
    (after lib s (.activateListener a)).get = Write.apply ⟨.listener a.proxy a.address,
      (s.get (.listener a.proxy a.address)).map (Obj.withActive true)⟩ s.get :=
  get_modify_listener (by obtain ⟨address, proxy, fromScm⟩ := a; cases proxy <;> rfl) hfit

/-- **A deactivation clears the listener's flag.** -/
theorem get_after_deactivate {s : ConfigState} {d : DeactivateListener}
    (hfit : Fits lib s (.deactivateListener d)) :
    (after lib s (.deactivateListener d)).get = Write.apply ⟨.listener d.proxy d.address,
      (s.get (.listener d.proxy d.address)).map (Obj.withActive false)⟩ s.get :=
  get_modify_listener (by obtain ⟨address, proxy, toScm⟩ := d; cases proxy <;> rfl) hfit

end Sozu

end SozuGateway
