import SozuGateway.Translator.Reconcile

/-!
# A batch converges

The routing half of a batch, dispatched on the state it was diffed from.  Each
slot is written by few requests of the plan, in tiers that fit: what a request
needs is written before it.

* `Convergent` — what the two states of a reconcile satisfy.
* `Writer` — the requests of the plan that write a slot.
* `Before.step` — after any head of the half, the next request is a step.
* `converges` — the half is accepted and leads to the second state.
-/

set_option autoImplicit false

namespace SozuGateway

namespace Translator

open Lib Sozu

variable {lib : Library}

/-- What the two states of a reconcile satisfy, what makes the second one's objects
accepted included. -/
structure Convergent (lib : Library) (a b : ConfigState) : Prop extends Diffable lib a b where
  admits_cluster : ∀ c, Holds lib b (.cluster c) → lib.admits (.addCluster c)
  admits_front : ∀ https f, Holds lib b (.front https f) →
    lib.admits (.addFrontend (frontendVerb https f) f)
  tcp_apart : ∀ f f', Holds lib b (.tcp f) → Holds lib b (.tcp f') → f.address = f'.address → f = f'
  udp_apart : ∀ f f', Holds lib b (.udp f) → Holds lib b (.udp f') → f.address = f'.address → f = f'

/-- The two states of a successful reconcile. -/
theorem Reconciles.convergent [CharTable] (hlib : lib.Documented) {previous desired : Ir}
    {a b : ConfigState} {prev des : List KeyedCert}
    (h : Reconciles lib previous desired a b prev des) : Convergent lib a b := by
  have ha := routingState_ok hlib h.previousState
  have hb := routingState_ok hlib h.desiredState
  exact
    { wellFormed_left := ha.wellFormed
      wellFormed_right := hb.wellFormed
      listeners_left := fun proxy address o ho => ha.listener ho
      listeners_right := fun proxy address o ho => hb.listener ho
      closed := fun o id ho hid => hb.cluster_held h.references ho hid
      admits_cluster := fun c hc => hb.admits_cluster hc
      admits_front := fun https f hf => hb.admits_front hf
      tcp_apart := fun f f' hf hf' => hb.tcp_apart hf hf'
      udp_apart := fun f f' hf hf' => hb.udp_apart hf hf' }

/-! ## The requests that write a slot -/

/-- The requests of the plan by the slot they write, with what they leave there. -/
inductive Writer (lib : Library) (a b : ConfigState) :
    Slot → RequestType → Option Obj → Prop
  | addCluster {c : Sozu.Cluster} : Holds lib b (.cluster c) →
      Writer lib a b (.cluster c.clusterId) (.addCluster c) (some (.cluster c))
  | removeCluster {id : String} : b.get (.cluster id) = none →
      Writer lib a b (.cluster id) (.removeCluster id) none
  | addBackend {x : AddBackend} : Holds lib b (.backend x) →
      Writer lib a b (.backend x.clusterId x.backendId x.address) (.addBackend x)
        (some (.backend x))
  | removeBackend {id backendId : String} {address : SocketAddress} :
      b.get (.backend id backendId address) = none →
      Writer lib a b (.backend id backendId address) (.removeBackend ⟨id, backendId, address⟩) none
  | addFrontend {https : Bool} {f : RequestHttpFrontend} : Holds lib b (.front https f) →
      Writer lib a b (.front https (lib.display f)) (.addFrontend (frontendVerb https f) f)
        (some (.front https f))
  | removeFrontend {https : Bool} {f : RequestHttpFrontend} : Holds lib a (.front https f) →
      ¬Holds lib b (.front https f) →
      Writer lib a b (.front https (lib.display f)) (.removeFrontend (frontendVerb https f) f) none
  | addTcpFrontend {f : RequestTcpFrontend} : Holds lib b (.tcp f) →
      Writer lib a b (.tcp f.clusterId f.address) (.addTcpFrontend f) (some (.tcp f))
  | removeTcpFrontend {f : RequestTcpFrontend} : Holds lib a (.tcp f) → ¬Holds lib b (.tcp f) →
      Writer lib a b (.tcp f.clusterId f.address) (.removeTcpFrontend f) none
  | addUdpFrontend {f : RequestUdpFrontend} : Holds lib b (.udp f) →
      Writer lib a b (.udp f.clusterId f.address) (.addUdpFrontend f) (some (.udp f))
  | removeUdpFrontend {f : RequestUdpFrontend} : Holds lib a (.udp f) → ¬Holds lib b (.udp f) →
      Writer lib a b (.udp f.clusterId f.address) (.removeUdpFrontend f) none
  | addTcpListener {l : TcpListenerConfig} : Holds lib b (.tcpListener l) →
      a.get (.listener .tcp l.address) = none →
      Writer lib a b (.listener .tcp l.address) (.addTcpListener l) (some (.tcpListener l))
  | addUdpListener {l : UdpListenerConfig} : Holds lib b (.udpListener l) →
      a.get (.listener .udp l.address) = none →
      Writer lib a b (.listener .udp l.address) (.addUdpListener l) (some (.udpListener l))
  | activateListener {proxy : ListenerType} {address : SocketAddress} :
      a.get (.listener proxy address) = none → b.get (.listener proxy address) ≠ none →
      Writer lib a b (.listener proxy address) (.activateListener ⟨address, proxy, false⟩)
        (l4Listener proxy address true)
  | deactivateListener {proxy : ListenerType} {address : SocketAddress} :
      b.get (.listener proxy address) = none → a.get (.listener proxy address) ≠ none →
      Writer lib a b (.listener proxy address) (.deactivateListener ⟨address, proxy, false⟩)
        (l4Listener proxy address false)
  | removeListener {proxy : ListenerType} {address : SocketAddress} :
      b.get (.listener proxy address) = none → a.get (.listener proxy address) ≠ none →
      Writer lib a b (.listener proxy address) (.removeListener ⟨address, proxy⟩) none

/-- Each request of the plan writes one slot. -/
theorem Plan.writer {a b : ConfigState} {t : RequestType} (ht : Plan lib a b t) :
    ∃ w, writeOf lib t = some w ∧ Writer lib a b w.slot t w.value := by
  cases ht with
  | addCluster hb _ => exact ⟨_, rfl, .addCluster hb⟩
  | removeCluster _ hb => exact ⟨_, rfl, .removeCluster hb⟩
  | addBackend hb _ => exact ⟨_, rfl, .addBackend hb⟩
  | removeBackend _ hb => exact ⟨_, rfl, .removeBackend hb⟩
  | addFrontend hb _ => exact ⟨_, rfl, .addFrontend hb⟩
  | removeFrontend ha hb => exact ⟨_, rfl, .removeFrontend ha hb⟩
  | addTcpFrontend hb _ => exact ⟨_, rfl, .addTcpFrontend hb⟩
  | removeTcpFrontend ha hb => exact ⟨_, rfl, .removeTcpFrontend ha hb⟩
  | addUdpFrontend hb _ => exact ⟨_, rfl, .addUdpFrontend hb⟩
  | removeUdpFrontend ha hb => exact ⟨_, rfl, .removeUdpFrontend ha hb⟩
  | addTcpListener hb ha => exact ⟨_, rfl, .addTcpListener hb ha⟩
  | addUdpListener hb ha => exact ⟨_, rfl, .addUdpListener hb ha⟩
  | activateListener ha hb => exact ⟨_, rfl, .activateListener ha hb⟩
  | deactivateListener hb ha => exact ⟨_, rfl, .deactivateListener hb ha⟩
  | @removeListener proxy address hb ha =>
    -- a state holds listeners of the two layer-4 protocols only
    cases proxy
    case tcp => exact ⟨_, rfl, .removeListener hb ha⟩
    case udp => exact ⟨_, rfl, .removeListener hb ha⟩
    all_goals exact absurd rfl ha

theorem Plan.writer_of_writeOf {a b : ConfigState} {t : RequestType} (ht : Plan lib a b t)
    {w : Write Slot Obj} (hw : writeOf lib t = some w) : Writer lib a b w.slot t w.value := by
  obtain ⟨w', hw', hwriter⟩ := ht.writer
  obtain rfl := Option.some.inj (hw.symm.trans hw')
  exact hwriter

/-! ## The plan covers every difference -/

section Differences

variable {a b : ConfigState} (h : Convergent lib a b)

include h

/-- An object the second state gains is written. -/
theorem Convergent.written_of_gained {o : Obj} (hb : Holds lib b o) (ha : ¬Holds lib a o) :
    ∃ t w, Plan lib a b t ∧ writeOf lib t = some w ∧ w.slot = o.slot lib := by
  -- a listener both states hold is configured alike
  have hlistener : ∀ proxy address, o.slot lib = .listener proxy address →
      a.get (.listener proxy address) = none := by
    intro proxy address hslot
    have hgetb : b.get (.listener proxy address) = some o :=
      (get_eq_some_iff h.wellFormed_right).2 ⟨hb, hslot⟩
    by_contra hne
    obtain ⟨o', ho'⟩ := Option.ne_none_iff_exists'.1 hne
    have hsame := (h.listeners_left proxy address o' ho').symm.trans
      (h.listeners_right proxy address o hgetb)
    obtain rfl := Option.some.inj hsame
    exact ha ((get_eq_some_iff h.wellFormed_left).1 ho').1
  cases o with
  | cluster c => exact ⟨_, _, .addCluster hb ha, rfl, rfl⟩
  | backend x => exact ⟨_, _, .addBackend hb ha, rfl, rfl⟩
  | front https f => exact ⟨_, _, .addFrontend hb ha, rfl, rfl⟩
  | tcp f => exact ⟨_, _, .addTcpFrontend hb ha, rfl, rfl⟩
  | udp f => exact ⟨_, _, .addUdpFrontend hb ha, rfl, rfl⟩
  | tcpListener l => exact ⟨_, _, .addTcpListener hb (hlistener _ _ rfl), rfl, rfl⟩
  | udpListener l => exact ⟨_, _, .addUdpListener hb (hlistener _ _ rfl), rfl, rfl⟩

omit h in
/-- A slot the second state empties is written. -/
theorem written_of_emptied {o : Obj} (ha : Holds lib a o) (hb : b.get (o.slot lib) = none)
    (hwf : WellFormed lib a) (hwfb : WellFormed lib b) :
    ∃ t w, Plan lib a b t ∧ writeOf lib t = some w ∧ w.slot = o.slot lib := by
  have hgeta := (get_slot_iff hwf).2 ha
  have hnot : ¬Holds lib b o := fun hheld => by
    rw [(get_slot_iff hwfb).2 hheld] at hb
    cases hb
  have hne : a.get (o.slot lib) ≠ none := by simp [hgeta]
  cases o with
  | cluster c => exact ⟨_, _, .removeCluster hne hb, rfl, rfl⟩
  | backend x => exact ⟨_, _, .removeBackend ha hb, rfl, rfl⟩
  | front https f => exact ⟨_, _, .removeFrontend ha hnot, rfl, rfl⟩
  | tcp f => exact ⟨_, _, .removeTcpFrontend ha hnot, rfl, rfl⟩
  | udp f => exact ⟨_, _, .removeUdpFrontend ha hnot, rfl, rfl⟩
  | tcpListener l => exact ⟨_, _, @Plan.removeListener lib a b .tcp _ hb hne, rfl, rfl⟩
  | udpListener l => exact ⟨_, _, @Plan.removeListener lib a b .udp _ hb hne, rfl, rfl⟩

/-- **A slot nothing writes is alike in both states.** -/
theorem Convergent.get_eq_of_not_written {k : Slot}
    (hnone : ∀ t w, Plan lib a b t → writeOf lib t = some w → w.slot ≠ k) :
    a.get k = b.get k := by
  cases hb : b.get k with
  | some o =>
    obtain ⟨hheld, rfl⟩ := (get_eq_some_iff h.wellFormed_right).1 hb
    by_contra hne
    have ha : ¬Holds lib a o := fun hheld' => hne ((get_slot_iff h.wellFormed_left).2 hheld')
    obtain ⟨t, w, ht, hw, hslot⟩ := h.written_of_gained hheld ha
    exact hnone t w ht hw hslot
  | none =>
    by_contra hne
    obtain ⟨o, ho⟩ := Option.ne_none_iff_exists'.1 hne
    obtain ⟨hheld, rfl⟩ := (get_eq_some_iff h.wellFormed_left).1 ho
    obtain ⟨t, w, ht, hw, hslot⟩ := written_of_emptied hheld hb h.wellFormed_left h.wellFormed_right
    exact hnone t w ht hw hslot

/-- **The write of the highest tier at a slot leaves what the second state holds.** -/
theorem Convergent.value_of_top {k : Slot} {t : RequestType} {v : Option Obj}
    (hwriter : Writer lib a b k t v)
    (htop : ∀ t' w, Plan lib a b t' → writeOf lib t' = some w → w.slot = k →
      verbTier t' ≤ verbTier t) : v = b.get k := by
  have hget : ∀ {o : Obj}, Holds lib b o → b.get (o.slot lib) = some o := fun ho =>
    (get_slot_iff h.wellFormed_right).2 ho
  cases hwriter with
  | addCluster hb => exact (hget hb).symm
  | removeCluster hb => exact hb.symm
  | addBackend hb => exact (hget hb).symm
  | removeBackend hb => exact hb.symm
  | addFrontend hb => exact (hget hb).symm
  | @removeFrontend https f ha hb =>
    -- were the key taken again, its add would come later
    cases hkey : b.get (.front https (lib.display f)) with
    | none => rfl
    | some o =>
      obtain ⟨hheld, hslot⟩ := (get_eq_some_iff h.wellFormed_right).1 hkey
      cases o <;> simp only [Obj.slot, Slot.front.injEq, reduceCtorEq] at hslot
      rename_i https' f'
      obtain ⟨rfl, hdisplay⟩ := hslot
      have hfresh : ¬Holds lib a (.front https' f') := by
        intro ha'
        have heq := h.wellFormed_left.eq_of_slot ha' ha (by simp [Obj.slot, hdisplay])
        rw [heq] at hheld
        exact hb hheld
      have htier := htop _ _ (.addFrontend hheld hfresh) rfl (by simp [Obj.slot, hdisplay,
        frontendVerb])
      simp [verbTier] at htier
  | addTcpFrontend hb => exact (hget hb).symm
  | @removeTcpFrontend f ha hb =>
    cases hkey : b.get (.tcp f.clusterId f.address) with
    | none => rfl
    | some o =>
      obtain ⟨hheld, hslot⟩ := (get_eq_some_iff h.wellFormed_right).1 hkey
      cases o <;> simp only [Obj.slot, Slot.tcp.injEq, reduceCtorEq] at hslot
      rename_i f'
      have hraw := (h.wellFormed_left.tcp_keyed _ f ha).2
      have hraw' := (h.wellFormed_right.tcp_keyed _ f' hheld).2
      have heq : f' = f := by
        cases f
        cases f'
        simp_all
      exact absurd (heq ▸ hheld) hb
  | addUdpFrontend hb => exact (hget hb).symm
  | @removeUdpFrontend f ha hb =>
    cases hkey : b.get (.udp f.clusterId f.address) with
    | none => rfl
    | some o =>
      obtain ⟨hheld, hslot⟩ := (get_eq_some_iff h.wellFormed_right).1 hkey
      cases o <;> simp only [Obj.slot, Slot.udp.injEq, reduceCtorEq] at hslot
      rename_i f'
      have heq : f' = f := by
        cases f
        cases f'
        simp_all
      exact absurd (heq ▸ hheld) hb
  | addTcpListener hb _ => exact (hget hb).symm
  | addUdpListener hb _ => exact (hget hb).symm
  | @activateListener proxy address ha hb =>
    obtain ⟨o, ho⟩ := Option.ne_none_iff_exists'.1 hb
    rw [ho]
    exact h.listeners_right proxy address o ho
  | @deactivateListener proxy address hb ha =>
    -- the removal of the listener comes later
    have hremoval : Plan lib a b _ := .removeListener hb ha
    cases proxy
    case tcp =>
      have htier := htop _ _ hremoval rfl rfl
      simp [verbTier] at htier
    case udp =>
      have htier := htop _ _ hremoval rfl rfl
      simp [verbTier] at htier
    all_goals exact absurd rfl ha
  | removeListener hb _ => exact hb.symm

end Differences

/-! ## After a head of the half -/

section Heads

variable {a b s : ConfigState} {p : List Request}

/-- A sorted list of requests of the plan. -/
structure Head (lib : Library) (a b : ConfigState) (p : List Request) : Prop where
  plan : ∀ r ∈ p, ∃ t, r = RequestType.into t ∧ Plan lib a b t
  sorted : p.Pairwise fun r r' => tier r ≤ tier r'

/-- **What a slot holds after a head of the half**: what it held before, when nothing
in the head writes it, and otherwise what the request of the highest tier left
there. -/
theorem Head.get (hp : Head lib a b p) (happ : Applied lib a (writesOf lib p) s) (k : Slot) :
    (s.get k = a.get k ∧ ∀ t w, RequestType.into t ∈ p → writeOf lib t = some w → w.slot ≠ k) ∨
      ∃ t, RequestType.into t ∈ p ∧ Plan lib a b t ∧ Writer lib a b k t (s.get k) ∧
        ∀ t' w, RequestType.into t' ∈ p → writeOf lib t' = some w → w.slot = k →
          verbTier t' ≤ verbTier t := by
  rw [happ.get]
  rcases run_cases (fun r : Request => r.requestType.bind (writeOf lib)) a.get p k with
    ⟨hrun, hnone⟩ | ⟨p₁, r, p₂, w, hsplit, hw, hslot, hrun, hlast⟩
  · refine .inl ⟨hrun, fun t w ht hw => hnone _ ht w ?_⟩
    simpa [RequestType.into] using hw
  · obtain ⟨t, rfl, ht⟩ := hp.plan r (by rw [hsplit]; simp)
    have hw' : writeOf lib t = some w := by simpa [RequestType.into] using hw
    have hwriter := ht.writer_of_writeOf hw'
    rw [hslot, ← hrun] at hwriter
    refine .inr ⟨t, by rw [hsplit]; simp, ht, hwriter, ?_⟩
    intro t' w' ht' hwrite hslot'
    rw [hsplit, List.mem_append, List.mem_cons] at ht'
    have hsorted := hp.sorted
    rw [hsplit, List.pairwise_append, List.pairwise_cons] at hsorted
    rcases ht' with ht' | ht' | ht'
    · exact hsorted.2.2 _ ht' t.into (by simp)
    · rw [RequestType.into_inj.1 ht']
    · exact absurd hslot' (hlast _ ht' w' (by simpa [RequestType.into] using hwrite))

/-- **A slot all of whose writes are done holds what the second state holds.** -/
theorem Head.settled (hp : Head lib a b p) (h : Convergent lib a b)
    (happ : Applied lib a (writesOf lib p) s) {k : Slot}
    (hdone : ∀ t w, Plan lib a b t → writeOf lib t = some w → w.slot = k →
      RequestType.into t ∈ p) : s.get k = b.get k := by
  rcases hp.get happ k with ⟨hget, hnone⟩ | ⟨t, -, ht, hwriter, htop⟩
  · rw [hget]
    refine h.get_eq_of_not_written fun t w ht hw hslot => ?_
    exact hnone t w (hdone t w ht hw hslot) hw hslot
  · exact h.value_of_top hwriter fun t' w ht' hw hslot =>
      htop t' w (hdone t' w ht' hw hslot) hw hslot

/-- A head of the half and the request after it. -/
structure Before (lib : Library) (a b : ConfigState) (p : List Request) (t : RequestType) : Prop
    extends Head lib a b p where
  next : Plan lib a b t
  below : ∀ t', RequestType.into t' ∈ p → verbTier t' ≤ verbTier t
  fresh : RequestType.into t ∉ p
  done : ∀ t', Plan lib a b t' → verbTier t' < verbTier t → RequestType.into t' ∈ p

/-- Each split of the half is a head and the request after it. -/
theorem RoutingHalf.before {rs p rest : List Request} {r : Request} (hrs : RoutingHalf lib a b rs)
    (hsplit : rs = p ++ r :: rest) : ∃ t, r = RequestType.into t ∧ Before lib a b p t := by
  obtain ⟨t, rfl, ht⟩ := (hrs.mem_iff r).1 (by rw [hsplit]; simp)
  have hsorted := hrs.sorted
  have hnd := hrs.nodup
  rw [hsplit, List.pairwise_append, List.pairwise_cons] at hsorted
  rw [hsplit, List.nodup_append] at hnd
  refine ⟨t, rfl, ⟨fun r' hr' => (hrs.mem_iff r').1 (by rw [hsplit]; simp [hr']), hsorted.1⟩, ht,
    fun t' ht' => hsorted.2.2 _ ht' t.into (by simp), fun hmem => ?_, fun t' ht' hlt => ?_⟩
  · exact hnd.2.2 _ hmem t.into (by simp) rfl
  · have hmem := (hrs.mem_iff _).2 ⟨t', rfl, ht'⟩
    rw [hsplit, List.mem_append, List.mem_cons] at hmem
    rcases hmem with hmem | hmem | hmem
    · exact hmem
    · rw [RequestType.into_inj.1 hmem] at hlt
      exact absurd hlt (lt_irrefl _)
    · have hge : verbTier t ≤ verbTier t' := hsorted.2.1.1 _ hmem
      omega

namespace Before

variable {t : RequestType} (hbefore : Before lib a b p t) (h : Convergent lib a b)
  (happ : Applied lib a (writesOf lib p) s)

include hbefore happ

/-- A slot the next request is the first to write holds what it held before. -/
theorem get_of_first {k : Slot} (hfirst : ∀ t' v, Plan lib a b t' → Writer lib a b k t' v →
    verbTier t' ≤ verbTier t → t' = t) : s.get k = a.get k := by
  rcases hbefore.get happ k with ⟨hget, -⟩ | ⟨t', ht', hplan, hwriter, -⟩
  · exact hget
  · have heq := hfirst t' _ hplan hwriter (hbefore.below t' ht')
    rw [heq] at ht'
    exact absurd ht' hbefore.fresh

include h

/-- A cluster the second state holds is there once the clusters are added. -/
theorem cluster_held {id : String} (hid : b.get (.cluster id) ≠ none) (htier : 2 < verbTier t) :
    s.get (.cluster id) ≠ none := by
  rw [hbefore.settled h happ]
  · exact hid
  · intro t' w ht' hw hslot
    have hwriter := ht'.writer_of_writeOf hw
    rw [hslot] at hwriter
    refine hbefore.done t' ht' ?_
    generalize w.value = v at hwriter
    cases hwriter with
    | addCluster _ => exact htier
    | removeCluster hb => exact absurd hb hid

/-- A removed cluster has nothing naming it left: every other slot is settled by
then. -/
theorem freed {id : String} (ht : t = .removeCluster id) {o : Obj} (ho : Holds lib s o) :
    o.clusterId ≠ some id := by
  subst ht
  intro hid
  have hgone : b.get (.cluster id) = none := by
    cases hbefore.next with
    | removeCluster _ hb => exact hb
  have hslot : ∀ id', o.slot lib ≠ .cluster id' := by
    intro id' heq
    cases o <;> simp [Obj.slot, Obj.clusterId] at heq hid
  have hget : s.get (o.slot lib) = b.get (o.slot lib) := by
    refine hbefore.settled h happ fun t' w ht' hw hw' => hbefore.done t' ht' ?_
    -- only a cluster's removal runs as late
    have hwriter := ht'.writer_of_writeOf hw
    rw [hw'] at hwriter
    generalize o.slot lib = k at hwriter hslot
    generalize w.value = v at hwriter
    cases hwriter <;> simp [verbTier]
    exact absurd rfl (hslot _)
  rw [(get_slot_iff happ.wellFormed).2 ho] at hget
  have hheld := (get_slot_iff h.wellFormed_right).1 hget.symm
  exact h.closed o id hheld hid hgone

/-- An added frontend's key is free. -/
theorem key_free {https : Bool} {f : RequestHttpFrontend}
    (ht : t = .addFrontend (frontendVerb https f) f) :
    s.get (.front https (lib.display f)) = none := by
  subst ht
  obtain ⟨hheld, hnew⟩ : Holds lib b (.front https f) ∧ ¬Holds lib a (.front https f) := by
    generalize hverb : frontendVerb https f = v at hbefore
    cases hbefore.next with
    | addFrontend hb ha =>
      rename_i https'
      have hsame : https' = https := congrArg FrontendVerb.https hverb.symm
      exact hsame ▸ ⟨hb, ha⟩
  rcases hbefore.get happ (.front https (lib.display f)) with ⟨hget, hnone⟩ |
    ⟨t', ht', hplan, hwriter, -⟩
  · -- the key was free before: its holder's removal would be done
    rw [hget]
    by_contra hne
    obtain ⟨o, ho⟩ := Option.ne_none_iff_exists'.1 hne
    obtain ⟨hold, hslot⟩ := (get_eq_some_iff h.wellFormed_left).1 ho
    cases o <;> simp only [Obj.slot, Slot.front.injEq, reduceCtorEq] at hslot
    rename_i https' f'
    obtain ⟨rfl, hdisplay⟩ := hslot
    have hgone : ¬Holds lib b (.front https' f') := by
      intro hheld'
      have heq := h.wellFormed_right.eq_of_slot hheld' hheld (by simp [Obj.slot, hdisplay])
      rw [heq] at hold
      exact hnew hold
    have hremoval : Plan lib a b _ := .removeFrontend hold hgone
    refine hnone _ _ (hbefore.done _ hremoval (by simp [verbTier])) rfl ?_
    simp [hdisplay, frontendVerb]
  · generalize hkey : lib.display f = key at hwriter
    generalize hv : s.get (.front https key) = v at hwriter
    cases hwriter with
    | removeFrontend _ _ => rfl
    | @addFrontend _ f' hheld' =>
      -- another add of the key would be of the same frontend
      have heq := h.wellFormed_right.eq_of_slot hheld' hheld (by simp [Obj.slot, hkey])
      simp only [Obj.front.injEq, true_and] at heq
      rw [heq] at ht'
      exact absurd ht' hbefore.fresh

/-- An added TCP frontend's address is free. -/
theorem tcp_free {f : RequestTcpFrontend} (ht : t = .addTcpFrontend f) (id : String)
    {held : RequestTcpFrontend} (hmem : held ∈ s.tcpOf id) : held.address ≠ f.address := by
  subst ht
  intro haddr
  obtain ⟨hheld, hnew⟩ : Holds lib b (.tcp f) ∧ ¬Holds lib a (.tcp f) := by
    cases hbefore.next with
    | addTcpFrontend hb ha => exact ⟨hb, ha⟩
  obtain ⟨rfl, -⟩ := happ.wellFormed.tcp_keyed id held hmem
  have hget : s.get (.tcp held.clusterId held.address) = some (.tcp held) :=
    (get_slot_iff happ.wellFormed (o := .tcp held)).2 hmem
  rcases hbefore.get happ (.tcp held.clusterId held.address) with ⟨hsame, hnone⟩ |
    ⟨t', ht', hplan, hwriter, -⟩
  · rw [hget] at hsame
    have hold : Holds lib a (.tcp held) :=
      (get_slot_iff h.wellFormed_left (o := .tcp held)).1 hsame.symm
    have hgone : ¬Holds lib b (.tcp held) := by
      intro hheld'
      rw [h.tcp_apart _ _ hheld' hheld haddr] at hold
      exact hnew hold
    have hremoval : Plan lib a b _ := .removeTcpFrontend hold hgone
    exact hnone _ _ (hbefore.done _ hremoval (by simp [verbTier])) rfl rfl
  · rw [hget] at hwriter
    generalize hid : held.clusterId = id at hwriter
    generalize hx : held.address = x at hwriter
    cases hwriter with
    | addTcpFrontend hheld' =>
      rw [h.tcp_apart _ _ hheld' hheld haddr] at ht'
      exact hbefore.fresh ht'

/-- An added UDP frontend's address is free. -/
theorem udp_free {f : RequestUdpFrontend} (ht : t = .addUdpFrontend f) (id : String)
    {held : RequestUdpFrontend} (hmem : held ∈ s.udpOf id) : held.address ≠ f.address := by
  subst ht
  intro haddr
  obtain ⟨hheld, hnew⟩ : Holds lib b (.udp f) ∧ ¬Holds lib a (.udp f) := by
    cases hbefore.next with
    | addUdpFrontend hb ha => exact ⟨hb, ha⟩
  have hid := happ.wellFormed.udp_keyed id held hmem
  subst hid
  have hget : s.get (.udp held.clusterId held.address) = some (.udp held) :=
    (get_slot_iff happ.wellFormed (o := .udp held)).2 hmem
  rcases hbefore.get happ (.udp held.clusterId held.address) with ⟨hsame, hnone⟩ |
    ⟨t', ht', hplan, hwriter, -⟩
  · rw [hget] at hsame
    have hold : Holds lib a (.udp held) :=
      (get_slot_iff h.wellFormed_left (o := .udp held)).1 hsame.symm
    have hgone : ¬Holds lib b (.udp held) := by
      intro hheld'
      rw [h.udp_apart _ _ hheld' hheld haddr] at hold
      exact hnew hold
    have hremoval : Plan lib a b _ := .removeUdpFrontend hold hgone
    exact hnone _ _ (hbefore.done _ hremoval (by simp [verbTier])) rfl rfl
  · rw [hget] at hwriter
    generalize hid : held.clusterId = id at hwriter
    generalize hx : held.address = x at hwriter
    cases hwriter with
    | addUdpFrontend hheld' =>
      rw [h.udp_apart _ _ hheld' hheld haddr] at ht'
      exact hbefore.fresh ht'

omit h in
/-- A removed backend is still there. -/
theorem backend_held {x : AddBackend} (ha : Holds lib a (.backend x))
    (hb : b.get (.backend x.clusterId x.backendId x.address) = none)
    (ht : t = .removeBackend ⟨x.clusterId, x.backendId, x.address⟩) (hwf : WellFormed lib a)
    (hwfb : WellFormed lib b) : Holds lib s (.backend x) := by
  have hget : s.get (.backend x.clusterId x.backendId x.address) =
      a.get (.backend x.clusterId x.backendId x.address) := by
    refine hbefore.get_of_first happ fun t' v _ hwriter _ => ?_
    generalize x.clusterId = id at *
    generalize x.backendId = backendId at *
    generalize x.address = address at *
    cases hwriter with
    | addBackend hheld =>
      have hsome := (get_slot_iff hwfb).2 hheld
      simp [Obj.slot, hb] at hsome
    | removeBackend _ => exact ht.symm
  have hsome : a.get (.backend x.clusterId x.backendId x.address) = some (.backend x) :=
    (get_slot_iff hwf (o := .backend x)).2 ha
  rw [hsome] at hget
  exact (get_slot_iff happ.wellFormed (o := .backend x)).1 hget

omit h in
/-- A removed frontend is still there: its key's add comes later. -/
theorem front_held {https : Bool} {f : RequestHttpFrontend} (ha : Holds lib a (.front https f))
    (ht : t = .removeFrontend (frontendVerb https f) f) (hwf : WellFormed lib a) :
    Holds lib s (.front https f) := by
  subst ht
  have hget : s.get (.front https (lib.display f)) = a.get (.front https (lib.display f)) := by
    refine hbefore.get_of_first happ fun t' v _ hwriter hle => ?_
    generalize hkey : lib.display f = key at hwriter
    cases hwriter with
    | addFrontend _ => simp [verbTier] at hle
    | @removeFrontend _ f' ha' _ =>
      have heq := hwf.eq_of_slot ha' ha (by simp [Obj.slot, hkey])
      simp only [Obj.front.injEq, true_and] at heq
      rw [heq]
  have hsome : a.get (.front https (lib.display f)) = some (.front https f) :=
    (get_slot_iff hwf (o := .front https f)).2 ha
  rw [hsome] at hget
  exact (get_slot_iff happ.wellFormed (o := .front https f)).1 hget

omit h in
/-- A removed TCP frontend is still there. -/
theorem tcp_held {f : RequestTcpFrontend} (ha : Holds lib a (.tcp f))
    (ht : t = .removeTcpFrontend f) (hwf : WellFormed lib a) : Holds lib s (.tcp f) := by
  subst ht
  have hget : s.get (.tcp f.clusterId f.address) = a.get (.tcp f.clusterId f.address) := by
    refine hbefore.get_of_first happ fun t' v _ hwriter hle => ?_
    generalize hid : f.clusterId = id at hwriter
    generalize hx : f.address = x at hwriter
    cases hwriter with
    | addTcpFrontend _ => simp [verbTier] at hle
    | @removeTcpFrontend f' ha' _ =>
      have heq := hwf.eq_of_slot ha' ha (by simp [Obj.slot, hid, hx])
      rw [Obj.tcp.inj heq]
  have hsome : a.get (.tcp f.clusterId f.address) = some (.tcp f) :=
    (get_slot_iff hwf (o := .tcp f)).2 ha
  rw [hsome] at hget
  exact (get_slot_iff happ.wellFormed (o := .tcp f)).1 hget

omit h in
/-- A removed UDP frontend is still there. -/
theorem udp_held {f : RequestUdpFrontend} (ha : Holds lib a (.udp f))
    (ht : t = .removeUdpFrontend f) (hwf : WellFormed lib a) : Holds lib s (.udp f) := by
  subst ht
  have hget : s.get (.udp f.clusterId f.address) = a.get (.udp f.clusterId f.address) := by
    refine hbefore.get_of_first happ fun t' v _ hwriter hle => ?_
    generalize hid : f.clusterId = id at hwriter
    generalize hx : f.address = x at hwriter
    cases hwriter with
    | addUdpFrontend _ => simp [verbTier] at hle
    | @removeUdpFrontend f' ha' _ =>
      have heq := hwf.eq_of_slot ha' ha (by simp [Obj.slot, hid, hx])
      rw [Obj.udp.inj heq]
  have hsome : a.get (.udp f.clusterId f.address) = some (.udp f) :=
    (get_slot_iff hwf (o := .udp f)).2 ha
  rw [hsome] at hget
  exact (get_slot_iff happ.wellFormed (o := .udp f)).1 hget

omit h in
/-- An added TCP listener's address is free. -/
theorem tcpListener_free {l : TcpListenerConfig} (ht : t = .addTcpListener l)
    (hwfb : WellFormed lib b) : s.get (.listener .tcp l.address) = none := by
  subst ht
  obtain ⟨hheld, hfree⟩ : Holds lib b (.tcpListener l) ∧
      a.get (.listener .tcp l.address) = none := by
    cases hbefore.next with
    | addTcpListener hb ha => exact ⟨hb, ha⟩
  rw [← hfree]
  refine hbefore.get_of_first happ fun t' v _ hwriter hle => ?_
  generalize hx : l.address = x at hwriter
  cases hwriter with
  | @addTcpListener l' hheld' _ =>
    have heq := hwfb.eq_of_slot hheld' hheld (by simp [Obj.slot, hx])
    rw [Obj.tcpListener.inj heq]
  | _ => simp [verbTier] at hle

omit h in
/-- An added UDP listener's address is free. -/
theorem udpListener_free {l : UdpListenerConfig} (ht : t = .addUdpListener l)
    (hwfb : WellFormed lib b) : s.get (.listener .udp l.address) = none := by
  subst ht
  obtain ⟨hheld, hfree⟩ : Holds lib b (.udpListener l) ∧
      a.get (.listener .udp l.address) = none := by
    cases hbefore.next with
    | addUdpListener hb ha => exact ⟨hb, ha⟩
  rw [← hfree]
  refine hbefore.get_of_first happ fun t' v _ hwriter hle => ?_
  generalize hx : l.address = x at hwriter
  cases hwriter with
  | @addUdpListener l' hheld' _ =>
    have heq := hwfb.eq_of_slot hheld' hheld (by simp [Obj.slot, hx])
    rw [Obj.udpListener.inj heq]
  | _ => simp [verbTier] at hle

/-- An activated listener was added. -/
theorem listener_added {proxy : ListenerType} {address : SocketAddress}
    (ht : t = .activateListener ⟨address, proxy, false⟩) :
    s.get (.listener proxy address) ≠ none := by
  subst ht
  obtain ⟨hfree, hwanted⟩ :
      a.get (.listener proxy address) = none ∧ b.get (.listener proxy address) ≠ none := by
    cases hbefore.next with
    | activateListener ha hb => exact ⟨ha, hb⟩
  obtain ⟨o, ho⟩ := Option.ne_none_iff_exists'.1 hwanted
  obtain ⟨hheld, hslot⟩ := (get_eq_some_iff h.wellFormed_right).1 ho
  rcases hbefore.get happ (.listener proxy address) with ⟨-, hnone⟩ | ⟨t', -, -, hwriter, -⟩
  · -- its add would be done
    exfalso
    cases o <;> simp only [Obj.slot, Slot.listener.injEq, reduceCtorEq] at hslot
    all_goals obtain ⟨rfl, rfl⟩ := hslot
    · exact hnone _ _ (hbefore.done _ (.addTcpListener hheld hfree) (by simp [verbTier])) rfl rfl
    · exact hnone _ _ (hbefore.done _ (.addUdpListener hheld hfree) (by simp [verbTier])) rfl rfl
  · generalize s.get (.listener proxy address) = v at hwriter
    cases hwriter with
    | addTcpListener _ _ => simp
    | addUdpListener _ _ => simp
    | activateListener _ _ =>
      rw [h.listeners_right proxy address o ho]
      simp
    | deactivateListener hgone _ => exact absurd hgone hwanted
    | removeListener hgone _ => exact absurd hgone hwanted

omit h in
/-- A deactivated listener is still there. -/
theorem listener_held {proxy : ListenerType} {address : SocketAddress}
    (ht : t = .deactivateListener ⟨address, proxy, false⟩) :
    s.get (.listener proxy address) ≠ none := by
  subst ht
  have hold : a.get (.listener proxy address) ≠ none := by
    cases hbefore.next with
    | deactivateListener _ ha => exact ha
  rw [hbefore.get_of_first happ fun t' v _ hwriter hle => ?_]
  · exact hold
  · cases hwriter with
    | addTcpListener _ hfree => exact absurd hfree hold
    | addUdpListener _ hfree => exact absurd hfree hold
    | activateListener hfree _ => exact absurd hfree hold
    | deactivateListener _ _ => rfl
    | removeListener _ _ => simp [verbTier] at hle

/-- A removed listener is still there, deactivated. -/
theorem listener_inactive {proxy : ListenerType} {address : SocketAddress}
    (ht : t = .removeListener ⟨address, proxy⟩) : s.get (.listener proxy address) ≠ none := by
  subst ht
  have hold : a.get (.listener proxy address) ≠ none := by
    cases hbefore.next with
    | removeListener _ ha => exact ha
  rcases hbefore.get happ (.listener proxy address) with ⟨hget, -⟩ | ⟨t', ht', -, hwriter, -⟩
  · rwa [hget]
  · generalize s.get (.listener proxy address) = v at hwriter
    cases hwriter with
    | addTcpListener _ hfree => exact absurd hfree hold
    | addUdpListener _ hfree => exact absurd hfree hold
    | activateListener hfree _ => exact absurd hfree hold
    | deactivateListener _ _ =>
      obtain ⟨o, ho⟩ := Option.ne_none_iff_exists'.1 hold
      have hconf := h.listeners_left proxy address o ho
      cases proxy <;> simp [l4Listener] at hconf ⊢
    | removeListener _ _ => exact absurd ht' hbefore.fresh

/-- **The next request of the half is a step**: it is accepted, and its effect is
its write. -/
theorem step : Step lib s t where
  fits := by
    cases hnext : hbefore.next with
    | addCluster hb _ => exact h.admits_cluster _ hb
    | removeCluster ha hb =>
      rw [Fits, cluster_ne_none_iff, hbefore.get_of_first happ fun t' v _ hwriter _ => ?_]
      · exact ha
      · cases hwriter with
        | addCluster hheld =>
          have hsome := (get_slot_iff h.wellFormed_right).2 hheld
          exact absurd (hb.symm.trans hsome) (by simp)
        | removeCluster _ => rfl
    | @addBackend x hb _ =>
      rw [Fits, cluster_ne_none_iff]
      exact hbefore.cluster_held h happ (h.closed _ _ hb rfl) (by simp [verbTier])
    | @removeBackend x ha hb =>
      have hheld := hbefore.backend_held happ ha hb rfl h.wellFormed_left h.wellFormed_right
      exact ⟨x, hheld, by simp [sameBackend]⟩
    | @addFrontend https f hb _ =>
      refine ⟨h.admits_front https f hb, ?_⟩
      have hfree := hbefore.key_free h happ rfl
      simpa [ConfigState.get, frontendVerb] using hfree
    | @removeFrontend https f ha _ =>
      exact ⟨f, hbefore.front_held happ ha rfl h.wellFormed_left, rfl⟩
    | addTcpFrontend _ _ =>
      intro id held hmem
      exact hbefore.tcp_free h happ rfl id hmem
    | @removeTcpFrontend f ha _ =>
      have hraw := (h.wellFormed_left.tcp_keyed _ f ha).2
      refine ⟨f, hbefore.tcp_held happ ha rfl h.wellFormed_left, ?_⟩
      exact (RequestTcpFrontend.Raw.sameTcp_iff hraw hraw).2 rfl
    | addUdpFrontend _ _ =>
      intro id held hmem
      exact hbefore.udp_free h happ rfl id hmem
    | @removeUdpFrontend f ha _ =>
      exact ⟨f, hbefore.udp_held happ ha rfl h.wellFormed_left, rfl⟩
    | addTcpListener _ _ =>
      have hfree := hbefore.tcpListener_free happ rfl h.wellFormed_right
      simpa [Fits, ConfigState.get] using hfree
    | addUdpListener _ _ =>
      have hfree := hbefore.udpListener_free happ rfl h.wellFormed_right
      simpa [Fits, ConfigState.get] using hfree
    | activateListener _ _ => exact hasListener_iff.2 (hbefore.listener_added h happ rfl)
    | deactivateListener _ _ => exact hasListener_iff.2 (hbefore.listener_held happ rfl)
    | removeListener _ _ => exact hasListener_iff.2 (hbefore.listener_inactive h happ rfl)
  raw := by
    cases hbefore.next with
    | addTcpFrontend hb _ => exact (h.wellFormed_right.tcp_keyed _ _ hb).2
    | removeTcpFrontend ha _ => exact (h.wellFormed_left.tcp_keyed _ _ ha).2
    | _ => trivial
  standard := by
    cases hbefore.next with
    | @addTcpListener l hb _ =>
      have hconf := h.listeners_right .tcp l.address _ ((get_slot_iff h.wellFormed_right).2 hb)
      simp only [l4Listener, Option.some.injEq, Obj.tcpListener.injEq] at hconf
      exact hconf.symm
    | @addUdpListener l hb _ =>
      have hconf := h.listeners_right .udp l.address _ ((get_slot_iff h.wellFormed_right).2 hb)
      simp only [l4Listener, Option.some.injEq, Obj.udpListener.injEq] at hconf
      exact hconf.symm
    | _ => trivial
  freed := fun _ hid _ ho => hbefore.freed h happ hid ho

end Before

end Heads

/-! ## The whole half -/

/-- **Every head of the routing half is accepted**, and leaves the store its writes
leave. -/
theorem dispatchAll_head (hlib : lib.Documented) {a b : ConfigState} (h : Convergent lib a b)
    {rs p rest : List Request} (hrs : RoutingHalf lib a b rs) (hsplit : rs = p ++ rest) :
    ∃ s, dispatchAll lib a p = .ok s ∧ Applied lib a (writesOf lib p) s := by
  have hstart : Applied lib a (writesOf lib []) a :=
    .refl h.wellFormed_left h.listeners_left.configured
  have hrun := @dispatchAll_of_steps lib hlib a a [] p hstart fun p₁ r p₂ hp s happ => by
    have hsplit' : rs = p₁ ++ r :: (p₂ ++ rest) := by rw [hsplit, hp]; simp
    obtain ⟨t, rfl, hbefore⟩ := hrs.before hsplit'
    exact ⟨t, rfl, hbefore.step h (by simpa using happ)⟩
  simpa using hrun

/-- **The routing half converges**: dispatched on the first state it is accepted, and
leaves what the second state holds. -/
theorem converges (hlib : lib.Documented) {a b : ConfigState} (h : Convergent lib a b)
    {rs : List Request} (hrs : RoutingHalf lib a b rs) :
    ∃ s, dispatchAll lib a rs = .ok s ∧ s.Agrees b := by
  obtain ⟨s, hok, happ⟩ := dispatchAll_head hlib h hrs (List.append_nil rs).symm
  have hhead : Head lib a b rs := ⟨fun r hr => (hrs.mem_iff r).1 hr, hrs.sorted⟩
  refine ⟨s, hok, (agrees_iff_get happ.wellFormed h.wellFormed_right).2 fun k => ?_⟩
  exact hhead.settled h happ fun t w ht _ _ => (hrs.mem_iff _).2 ⟨t, rfl, ht⟩

end Translator

end SozuGateway
