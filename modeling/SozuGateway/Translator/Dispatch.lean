import SozuGateway.Translator.Order

/-!
# Dispatching requests is writing to the store

The requests of the translator, dispatched one after the other, write the store
of `Sozu.ConfigState.get` one slot at a time.

* `writeOf` — the write a request is.
* `Step` — what makes a dispatch accepted and its effect that write
  (`Step.dispatch`).
* `dispatchAll_of_steps` — a list whose every request is a step is accepted, and
  leaves the store its writes leave.
* `dispatchAll_ok` — an accepted list was made of steps, when what is not refused
  is one.
-/

set_option autoImplicit false

namespace SozuGateway

namespace Translator

open Lib Sozu

variable (lib : Library)

/-! ## The write of a request -/

/-- The layer-4 listener the translator configures at an address. -/
def l4Listener (proxy : ListenerType) (address : SocketAddress) (active : Bool) : Option Obj :=
  match proxy with
  | .tcp => some (.tcpListener { tcpListener address.toAddr with active })
  | .udp => some (.udpListener { udpListener address.toAddr with active })
  | _ => none

theorem withActive_l4Listener {proxy : ListenerType} {address : SocketAddress}
    {active active' : Bool} :
    (l4Listener proxy address active).map (Obj.withActive active') =
      l4Listener proxy address active' := by
  cases proxy <;> rfl

/-- The write a request is. -/
def writeOf : RequestType → Option (Write Slot Obj)
  | .removeCluster id => some ⟨.cluster id, none⟩
  | .activateListener a =>
      some ⟨.listener a.proxy a.address, l4Listener a.proxy a.address true⟩
  | .deactivateListener d =>
      some ⟨.listener d.proxy d.address, l4Listener d.proxy d.address false⟩
  | t =>
      match t.sets with
      | some o => some ⟨o.slot lib, some o⟩
      | none => (t.clears lib).map fun k => ⟨k, none⟩

theorem writeOf_of_sets {t : RequestType} {o : Obj} (h : t.sets = some o) :
    writeOf lib t = some ⟨o.slot lib, some o⟩ := by
  cases t <;> simp only [RequestType.sets, reduceCtorEq] at h
  all_goals
    simp only [writeOf, RequestType.sets]
    obtain rfl := Option.some.inj h
    rfl

theorem writeOf_of_clears {t : RequestType} {k : Slot} (h : t.clears lib = some k) :
    writeOf lib t = some ⟨k, none⟩ := by
  cases t <;> simp only [RequestType.clears, reduceCtorEq] at h
  all_goals
    simp only [writeOf, RequestType.sets, RequestType.clears, h, Option.map_some]
    try rw [Option.some.inj h]

/-- The writes of a list of requests. -/
def writesOf (rs : List Request) : List (Write Slot Obj) :=
  rs.filterMap fun r => r.requestType.bind (writeOf lib)

theorem writesOf_append (rs rs' : List Request) :
    writesOf lib (rs ++ rs') = writesOf lib rs ++ writesOf lib rs' := List.filterMap_append

theorem mem_writesOf {rs : List Request} {w : Write Slot Obj} :
    w ∈ writesOf lib rs ↔ ∃ t, RequestType.into t ∈ rs ∧ writeOf lib t = some w := by
  rw [writesOf, List.mem_filterMap]
  constructor
  · rintro ⟨⟨t⟩, hr, hw⟩
    obtain ⟨t, rfl, hw⟩ := Option.bind_eq_some_iff.1 hw
    exact ⟨t, hr, hw⟩
  · rintro ⟨t, hr, hw⟩
    exact ⟨t.into, hr, by simpa [RequestType.into] using hw⟩

/-! ## Accepted steps -/

/-- The payload of a listener's add is the one the translator configures. -/
def StandardPayload : RequestType → Prop
  | .addTcpListener l => l = tcpListener l.address.toAddr
  | .addUdpListener l => l = udpListener l.address.toAddr
  | _ => True

/-- Every layer-4 listener of the state is one the translator configured. -/
def Configured (s : ConfigState) : Prop :=
  ∀ proxy address o, s.get (.listener proxy address) = some o →
    ∃ active, l4Listener proxy address active = some o

/-- What makes a dispatch accepted, and one write. -/
structure Step (s : ConfigState) (t : RequestType) : Prop where
  fits : Fits lib s t
  raw : t.Raw
  standard : StandardPayload t
  /-- A cluster's removal finds nothing naming the cluster. -/
  freed : ∀ id, t = .removeCluster id → ∀ o, Holds lib s o → o.clusterId ≠ some id

variable {lib}

theorem Configured.map_withActive {s : ConfigState} (hs : Configured s) {proxy : ListenerType}
    {address : SocketAddress} (hheld : s.hasListener proxy address) (active : Bool) :
    (s.get (.listener proxy address)).map (Obj.withActive active) =
      l4Listener proxy address active := by
  rw [hasListener_iff] at hheld
  obtain ⟨o, ho⟩ := Option.ne_none_iff_exists'.1 hheld
  obtain ⟨active', hl⟩ := hs proxy address o ho
  rw [ho, ← hl, withActive_l4Listener]

/-- **The effect of a step is its write.** -/
theorem Step.get_after {s : ConfigState} {t : RequestType} (hstep : Step lib s t)
    (hs : WellFormed lib s) (hconf : Configured s) :
    ∃ w, writeOf lib t = some w ∧ (after lib s t).get = w.apply s.get := by
  have hset : ∀ o, t.sets = some o →
      ∃ w, writeOf lib t = some w ∧ (after lib s t).get = w.apply s.get := fun o ho =>
    ⟨_, writeOf_of_sets lib ho, get_after_sets hs hstep.fits hstep.raw ho⟩
  have hclear : ∀ k, t.clears lib = some k →
      ∃ w, writeOf lib t = some w ∧ (after lib s t).get = w.apply s.get := fun k hk =>
    ⟨_, writeOf_of_clears lib hk, get_after_clears hs hstep.fits hstep.raw hk⟩
  have hfit := hstep.fits
  cases t with
  | removeCluster id =>
    exact ⟨_, rfl, get_after_removeCluster hs (hstep.freed id rfl)⟩
  | activateListener a =>
    refine ⟨_, rfl, ?_⟩
    rw [get_after_activate hfit, hconf.map_withActive hfit]
  | deactivateListener d =>
    refine ⟨_, rfl, ?_⟩
    rw [get_after_deactivate hfit, hconf.map_withActive hfit]
  | removeListener l =>
    obtain ⟨address, proxy⟩ := l
    cases proxy
    case tcp => exact hclear _ rfl
    case udp => exact hclear _ rfl
    all_goals exact absurd hfit id
  | addCluster c => exact hset _ rfl
  | addBackend b => exact hset _ rfl
  | addFrontend v f => exact hset _ rfl
  | addTcpFrontend f => exact hset _ rfl
  | addUdpFrontend f => exact hset _ rfl
  | addTcpListener l => exact hset _ rfl
  | addUdpListener l => exact hset _ rfl
  | removeBackend b => exact hclear _ rfl
  | removeFrontend v f => exact hclear _ rfl
  | removeTcpFrontend f => exact hclear _ rfl
  | removeUdpFrontend f => exact hclear _ rfl
  | _ => exact absurd hfit id

/-- A write to a listener's slot sets a configured listener, or clears the slot. -/
theorem writeOf_listener {t : RequestType} {w : Write Slot Obj} (hw : writeOf lib t = some w)
    (hstd : StandardPayload t) {proxy : ListenerType} {address : SocketAddress}
    (hslot : w.slot = .listener proxy address) {o : Obj} (ho : w.value = some o) :
    ∃ active, l4Listener proxy address active = some o := by
  cases t
  case activateListener a =>
    obtain rfl := Option.some.inj hw
    simp only [Slot.listener.injEq] at hslot
    obtain ⟨rfl, rfl⟩ := hslot
    exact ⟨true, ho⟩
  case deactivateListener d =>
    obtain rfl := Option.some.inj hw
    simp only [Slot.listener.injEq] at hslot
    obtain ⟨rfl, rfl⟩ := hslot
    exact ⟨false, ho⟩
  case addTcpListener l =>
    obtain rfl := Option.some.inj hw
    simp only [Obj.slot, Slot.listener.injEq] at hslot
    obtain ⟨rfl, rfl⟩ := hslot
    refine ⟨true, ?_⟩
    rw [← ho, l4Listener]
    exact congrArg (fun l => some (Obj.tcpListener l)) hstd.symm
  case addUdpListener l =>
    obtain rfl := Option.some.inj hw
    simp only [Obj.slot, Slot.listener.injEq] at hslot
    obtain ⟨rfl, rfl⟩ := hslot
    refine ⟨true, ?_⟩
    rw [← ho, l4Listener]
    exact congrArg (fun l => some (Obj.udpListener l)) hstd.symm
  case removeListener l =>
    obtain ⟨address', proxy'⟩ := l
    cases proxy' <;> simp [writeOf, RequestType.sets, RequestType.clears] at hw
    all_goals
      subst hw
      simp at ho
  all_goals
    simp [writeOf, RequestType.sets, RequestType.clears, Obj.slot] at hw
    try
      subst hw
      simp at hslot

/-- What one accepted dispatch leaves. -/
structure Applied (lib : Library) (s : ConfigState) (ws : List (Write Slot Obj))
    (s' : ConfigState) : Prop where
  wellFormed : WellFormed lib s'
  configured : Configured s'
  get : s'.get = run s.get ws

theorem Applied.refl {s : ConfigState} (hs : WellFormed lib s) (hconf : Configured s) :
    Applied lib s [] s := ⟨hs, hconf, rfl⟩

theorem Applied.trans {s s' s'' : ConfigState} {ws ws' : List (Write Slot Obj)}
    (h : Applied lib s ws s') (h' : Applied lib s' ws' s'') : Applied lib s (ws ++ ws') s'' :=
  ⟨h'.wellFormed, h'.configured, by rw [h'.get, h.get, run_append]⟩

/-- **A step is accepted, and its effect is its write.** -/
theorem Step.dispatch (hlib : lib.Documented) {s : ConfigState} {t : RequestType}
    (hstep : Step lib s t) (hs : WellFormed lib s) (hconf : Configured s) :
    ∃ s', lib.dispatch s t.into = .ok s' ∧ Applied lib s (writesOf lib [t.into]) s' := by
  obtain ⟨s', hdispatch, hagree⟩ := hlib.dispatch_fits s t hs hstep.fits
  obtain ⟨w, hw, hget⟩ := hstep.get_after hs hconf
  have hafter := hs.after hstep.fits hstep.raw
  have hget' : s'.get = w.apply s.get := by
    funext k
    rw [← hget, hagree.symm.get hafter]
  refine ⟨s', hdispatch, hagree.symm.wellFormed hafter, ?_, ?_⟩
  · intro proxy address o ho
    rw [hget'] at ho
    by_cases hslot : (.listener proxy address) = w.slot
    · rw [hslot, Write.apply_same] at ho
      exact writeOf_listener hw hstep.standard hslot.symm ho
    · rw [Write.apply_of_ne hslot] at ho
      exact hconf proxy address o ho
  · simp [hget', writesOf, RequestType.into, hw]

/-! ## Runs -/

/-- Dispatch the requests in order, up to the first refusal. -/
def dispatchAll (lib : Library) (s : ConfigState) (rs : List Request) :
    Except StateError ConfigState := rs.foldlM lib.dispatch s

theorem dispatchAll_nil (s : ConfigState) : dispatchAll lib s [] = .ok s := rfl

theorem dispatchAll_cons (s : ConfigState) (r : Request) (rs : List Request) :
    dispatchAll lib s (r :: rs) = (lib.dispatch s r).bind fun s' => dispatchAll lib s' rs := by
  unfold dispatchAll
  rw [List.foldlM_cons]
  rfl

theorem dispatchAll_append (s : ConfigState) (rs rs' : List Request) :
    dispatchAll lib s (rs ++ rs') =
      (dispatchAll lib s rs).bind fun s' => dispatchAll lib s' rs' := by
  unfold dispatchAll
  rw [List.foldlM_append]
  rfl

/-- A list is accepted when one it starts is. -/
theorem dispatchAll_ok_of_append {s s' : ConfigState} {rs rs' : List Request}
    (h : dispatchAll lib s (rs ++ rs') = .ok s') : ∃ s₁, dispatchAll lib s rs = .ok s₁ := by
  rw [dispatchAll_append] at h
  cases hrs : dispatchAll lib s rs with
  | error e =>
    rw [hrs] at h
    cases h
  | ok s₁ => exact ⟨s₁, rfl⟩

/-- **A list whose every request is a step is accepted**, and leaves the store its
writes leave.  The induction is on the list, the requests already dispatched
being carried as the list `done`. -/
theorem dispatchAll_of_steps (hlib : lib.Documented) {s₀ s : ConfigState} {done rs : List Request}
    (hdone : Applied lib s₀ (writesOf lib done) s)
    (hstep : ∀ p r rest, rs = p ++ r :: rest → ∀ s', Applied lib s₀ (writesOf lib (done ++ p)) s' →
      ∃ t, r = RequestType.into t ∧ Step lib s' t) :
    ∃ s', dispatchAll lib s rs = .ok s' ∧ Applied lib s₀ (writesOf lib (done ++ rs)) s' := by
  induction rs generalizing done s with
  | nil => exact ⟨s, rfl, by simpa using hdone⟩
  | cons r rs ih =>
    obtain ⟨t, rfl, ht⟩ := hstep [] r rs rfl s (by simpa using hdone)
    obtain ⟨s', hdispatch, happ⟩ := ht.dispatch hlib hdone.wellFormed hdone.configured
    have hnext : Applied lib s₀ (writesOf lib (done ++ [t.into])) s' := by
      rw [writesOf_append]
      exact hdone.trans happ
    obtain ⟨s'', hrest, hfinal⟩ := ih hnext fun p r rest hrs s' hs' =>
      hstep (t.into :: p) r rest (by rw [hrs]; rfl) s' (by simpa using hs')
    refine ⟨s'', ?_, by simpa using hfinal⟩
    rw [dispatchAll_cons, hdispatch]
    exact hrest

/-- **An accepted list was made of steps**, when each of its requests that is not
refused is one. -/
theorem dispatchAll_ok (hlib : lib.Documented) {s₀ s s' : ConfigState} {done rs : List Request}
    (hdone : Applied lib s₀ (writesOf lib done) s) (hok : dispatchAll lib s rs = .ok s')
    (hstep : ∀ p r rest, rs = p ++ r :: rest → ∀ s', Applied lib s₀ (writesOf lib (done ++ p)) s' →
      ∃ t, r = RequestType.into t ∧ (¬Refused lib s' t → Step lib s' t)) :
    Applied lib s₀ (writesOf lib (done ++ rs)) s' ∧
      ∀ p t rest, rs = p ++ RequestType.into t :: rest →
        ∃ s'', Applied lib s₀ (writesOf lib (done ++ p)) s'' ∧ ¬Refused lib s'' t := by
  induction rs generalizing done s with
  | nil =>
    obtain rfl := Except.ok.inj hok
    exact ⟨by simpa using hdone, by simp⟩
  | cons r rs ih =>
    obtain ⟨t, rfl, ht⟩ := hstep [] r rs rfl s (by simpa using hdone)
    have haccepted : ¬Refused lib s t := by
      intro hrefused
      obtain ⟨e, he⟩ := hlib.dispatch_refused s t hrefused
      rw [dispatchAll_cons, he] at hok
      cases hok
    obtain ⟨s₁, hdispatch, happ⟩ := (ht haccepted).dispatch hlib hdone.wellFormed hdone.configured
    have hnext : Applied lib s₀ (writesOf lib (done ++ [t.into])) s₁ := by
      rw [writesOf_append]
      exact hdone.trans happ
    rw [dispatchAll_cons, hdispatch] at hok
    obtain ⟨hfinal, hsteps⟩ := ih hnext hok fun p r rest hrs s' hs' =>
      hstep (t.into :: p) r rest (by rw [hrs]; rfl) s' (by simpa using hs')
    refine ⟨by simpa using hfinal, ?_⟩
    intro p t' rest hsplit
    cases p with
    | nil =>
      simp only [List.nil_append, List.cons.injEq, RequestType.into_inj] at hsplit
      obtain ⟨rfl, -⟩ := hsplit
      exact ⟨s, by simpa using hdone, haccepted⟩
    | cons r p =>
      simp only [List.cons_append, List.cons.injEq] at hsplit
      obtain ⟨rfl, hrest⟩ := hsplit
      obtain ⟨s'', happ', hnot⟩ := hsteps p t' rest hrest
      exact ⟨s'', by simpa using happ', hnot⟩

end Translator

end SozuGateway
