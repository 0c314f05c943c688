import SozuGateway.Translator.CertificateConvergence
import SozuGateway.Translator.ReplayCertificates
import SozuGateway.Translator.ReplayRouting
import SozuGateway.Translator.Reorder

/-!
# The replay of an acknowledged head is exact

The two halves of a replay put together, for every head of a batch.

* `settleAll_of_dispatchAll` — a head Sōzu accepts is settled as it is dispatched.
* `Acknowledges` — a head of a batch, with the states and the certificates the batch
  was computed from; its routing state and its certificate store.
* `replay_exact` — an IR the replay adopts has the routing state and the certificates
  the head leaves, and without layer-4 routes it always adopts one.
-/

set_option autoImplicit false

namespace SozuGateway

namespace Translator

open Lib Sozu

variable {lib : Library}

/-! ## Settling what is accepted -/

/-- **A head Sōzu accepts is settled as it is dispatched.** -/
theorem settleAll_of_dispatchAll {s s' : ConfigState} {head : List Request}
    (htypes : ∀ r ∈ head, r.requestType ≠ none)
    (hok : dispatchAll lib s (head.filter fun r => !r.namesACertificate) = .ok s') :
    settleAll lib s head = some s' := by
  induction head generalizing s with
  | nil =>
    rw [List.filter_nil, dispatchAll_nil] at hok
    exact congrArg some (Except.ok.inj hok)
  | cons r head ih =>
    have hrest : ∀ r' ∈ head, r'.requestType ≠ none := fun r' hr' => htypes r' (by simp [hr'])
    unfold settleAll
    by_cases hr : r.namesACertificate = true
    · rw [List.filter_cons_of_neg (by simp [hr])] at hok
      rw [if_pos hr]
      exact ih hrest hok
    · rw [List.filter_cons_of_pos (by simp [hr]), dispatchAll_cons] at hok
      rw [if_neg hr]
      obtain ⟨t, ht⟩ := Option.ne_none_iff_exists'.1 (htypes r (by simp))
      cases hdispatch : lib.dispatch s r with
      | error e =>
        rw [hdispatch] at hok
        cases hok
      | ok s₁ =>
        rw [hdispatch] at hok
        have hsettle : settle lib s r = some (s₁, true) := by simp [settle, ht, hdispatch]
        rw [hsettle]
        exact ih hrest hok

/-- The writes of a list are those of its certificate requests. -/
theorem flatMap_certWrites_filter (rs : List Request) :
    (rs.filter Request.namesACertificate).flatMap (certWrites lib) =
      rs.flatMap (certWrites lib) := by
  induction rs with
  | nil => rfl
  | cons r rs ih =>
    by_cases hr : r.namesACertificate = true
    · rw [List.filter_cons_of_pos hr, List.flatMap_cons, List.flatMap_cons, ih]
    · rw [List.filter_cons_of_neg hr, List.flatMap_cons, ih,
        certWrites_eq_nil (by simpa using hr), List.nil_append]

theorem requestType_of_namesACertificate {r : Request} (hr : r.namesACertificate = true) :
    r.requestType ≠ none := by
  intro hnone
  simp [Request.namesACertificate, hnone] at hr

/-! ## A head of a batch -/

section Keys

variable [CharTable]

/-- A head of the batch of a successful reconcile. -/
structure Acknowledges (lib : Library) (previous desired : Ir) (a b : ConfigState)
    (prev des : List KeyedCert) (head rest : List Request) : Prop
    extends Reconciles lib previous desired a b prev des where
  batch : batchOf lib a b prev des = head ++ rest

theorem acknowledges_take {previous desired : Ir} {batch : List Request}
    (hok : reconcile lib previous desired = .ok batch) (k : ℕ) :
    ∃ a b prev des,
      Acknowledges lib previous desired a b prev des (batch.take k) (batch.drop k) := by
  obtain ⟨a, b, prev, des, h, rfl⟩ := reconcile_ok_iff.1 hok
  exact ⟨a, b, prev, des, { h with batch := (List.take_append_drop k _).symm }⟩

namespace Acknowledges

variable {previous desired : Ir} {a b : ConfigState} {prev des : List KeyedCert}
  {head rest : List Request} (h : Acknowledges lib previous desired a b prev des head rest)
  (hlib : lib.Documented)

include h hlib

theorem routingHalf :
    RoutingHalf lib a b (head.filter (fun r => !r.namesACertificate) ++
      rest.filter fun r => !r.namesACertificate) := by
  have hhalf := (h.convergent hlib).toDiffable.routingHalf hlib prev des
  rwa [h.batch, List.filter_append] at hhalf

/-- Each request of the head is one of the plan or names a certificate. -/
theorem planned {r : Request} (hr : r ∈ head) : Planned lib a b r := by
  by_cases hcert : r.namesACertificate = true
  · exact .inl hcert
  · refine .inr (((h.routingHalf hlib).mem_iff r).1 (List.mem_append_left _ ?_))
    exact List.mem_filter.2 ⟨hr, by simpa using hcert⟩

theorem requestType {r : Request} (hr : r ∈ head) : r.requestType ≠ none := by
  rcases h.planned hlib hr with hcert | ⟨t, rfl, -⟩
  · exact requestType_of_namesACertificate hcert
  · exact Option.some_ne_none _

/-- The head is accepted. -/
theorem dispatched : ∃ s, dispatchAll lib a (head.filter fun r => !r.namesACertificate) = .ok s ∧
    Cut lib a b (head.filter fun r => !r.namesACertificate) s := by
  obtain ⟨s, hs, happ⟩ := dispatchAll_head hlib (h.convergent hlib) (h.routingHalf hlib) rfl
  exact ⟨s, hs, (h.routingHalf hlib).cut rfl happ⟩

/-- The head is settled as it is dispatched. -/
theorem simulated {s : ConfigState}
    (hs : dispatchAll lib a (head.filter fun r => !r.namesACertificate) = .ok s) :
    simulate lib previous head = some (comparable lib s) := by
  unfold simulate
  rw [h.previousState]
  simp only
  rw [settleAll_of_dispatchAll (fun r hr => h.requestType hlib hr) hs]
  rfl

/-! ## The certificates of the head -/

/-- The head's certificate requests are requests of the diff. -/
theorem acknowledged (hplan : CertPlan lib prev des) : Acknowledged lib prev des head := by
  intro r hr hcert
  have hmem : r ∈ (batchOf lib a b prev des).filter Request.namesACertificate := by
    rw [h.batch]
    exact List.mem_filter.2 ⟨List.mem_append_left _ hr, hcert⟩
  rw [h.toReconciles.certificates_filter hlib hplan] at hmem
  exact (@canonicalizeRanked_perm lib _).mem_iff.1 hmem

/-- The certificate requests of the head come first among those of the batch. -/
theorem nodup_slots (hplan : CertPlan lib prev des) :
    ((head.flatMap (certWrites lib)).map Write.slot).Nodup := by
  have hnd := hplan.nodup_slots (@canonicalizeRanked_perm lib (certDiff lib prev des))
  rw [← h.toReconciles.certificates_filter hlib hplan, h.batch, List.filter_append,
    List.flatMap_append, List.map_append] at hnd
  rw [← flatMap_certWrites_filter]
  exact (List.nodup_append.1 hnd).1

/-- **The store of the replayed certificates** is the previous one with the certificate
requests of the head applied. -/
theorem certStore
    (hplain : ∀ c ∈ previous.certificates ++ desired.certificates, c.listener.IsPlain) :
    ∃ ks, keyedCerts lib (applyAcknowledged lib previous desired head).certificates = .ok ks ∧
      Translator.certStore ks = (head.filter Request.namesACertificate).foldl (CertStore.apply lib)
        (Translator.certStore prev) := by
  have hplan := certPlan_of_keyedCerts h.previousCerts h.desiredCerts hplain
  have hack := h.acknowledged hlib hplan
  have hnd := h.nodup_slots hlib hplan
  obtain ⟨ks, hks, hstore⟩ := certStore_replayed h.previousCerts h.desiredCerts hplain hack hnd
  refine ⟨ks, hks, hstore.trans ?_⟩
  rw [← flatMap_certWrites_filter] at hnd ⊢
  refine (foldl_apply hnd (addsFree_certDiff hplan.valid_right hplan.plain fun r hr => ?_)).symm
  obtain ⟨hmem, hcert⟩ := List.mem_filter.1 hr
  exact hack r hmem hcert

/-! ## The routes of the head -/

/-- Without layer-4 routes the replayed IR has the routing state the head left. -/
theorem routingState_replayed (hkeyed : RouteKeyed lib) (hprev : previous.l4Frontends = [])
    (hdes : desired.l4Frontends = []) (hne : head ≠ []) {s : ConfigState}
    (hcut : Cut lib a b (head.filter fun r => !r.namesACertificate) s) :
    ∃ s', routingState lib (applyAcknowledged lib previous desired head) = .ok s' ∧
      comparable lib s' = comparable lib s := by
  have hlayer : Layer7 lib previous desired a b :=
    ⟨hkeyed, routingState_ok hlib h.previousState, routingState_ok hlib h.desiredState, hprev, hdes⟩
  unfold applyAcknowledged
  rw [if_neg hne]
  simp only
  set flag := head.any Request.namesACertificate
  have hvalid : Replay.Valid lib desired flag (.new lib previous desired flag) := .new
  have hfollows := hlayer.follows_applyAll hvalid hlayer.follows_new
    (fun r hr => h.planned hlib hr) 1
  rw [List.nil_append] at hfollows
  obtain ⟨s', hs', hagrees⟩ := hfollows.routingState_replayed hlayer (h.convergent hlib) hcut
    (hvalid.applyAll 1 head) hlib
  exact ⟨s', hs', (comparable_eq_iff hlib).2 hagrees⟩

end Acknowledges

/-! ## Every head -/

/-- **The replay of an acknowledged head is exact.**  An IR it adopts has, up to what
it routes with, the routing state the head's requests leave, and the certificates their
requests leave; and between two IRs without layer-4 routes it always adopts one. -/
theorem replay_exact (hlib : lib.Documented) (hkeyed : RouteKeyed lib) {previous desired : Ir}
    {batch : List Request} (hok : reconcile lib previous desired = .ok batch)
    (hplain : ∀ c ∈ previous.certificates ++ desired.certificates, c.listener.IsPlain) (k : ℕ) :
    (∀ r, replayIfExact lib previous desired (batch.take k) = some r →
      ∃ a s s' prev ks, routingState lib previous = .ok a ∧
        dispatchAll lib a ((batch.take k).filter fun r => !r.namesACertificate) = .ok s ∧
        routingState lib r = .ok s' ∧ comparable lib s' = comparable lib s ∧
        keyedCerts lib previous.certificates = .ok prev ∧
        keyedCerts lib r.certificates = .ok ks ∧
        certStore ks = ((batch.take k).filter Request.namesACertificate).foldl
          (CertStore.apply lib) (certStore prev)) ∧
      (previous.l4Frontends = [] → desired.l4Frontends = [] →
        ∃ r, replayIfExact lib previous desired (batch.take k) = some r) := by
  obtain ⟨a, b, prev, des, h⟩ := acknowledges_take hok k
  obtain ⟨s, hs, hcut⟩ := h.dispatched hlib
  unfold replayIfExact
  by_cases hnil : batch.take k = []
  · rw [if_pos hnil]
    refine ⟨fun r hr => ?_, fun _ _ => ⟨_, rfl⟩⟩
    obtain rfl := Option.some.inj hr
    rw [hnil] at hs ⊢
    obtain rfl : a = s := Except.ok.inj hs
    exact ⟨a, a, a, prev, prev, h.previousState, rfl, h.previousState, rfl, h.previousCerts,
      h.previousCerts, rfl⟩
  · rw [if_neg hnil, h.simulated hlib hs]
    simp only
    constructor
    · intro r hr
      cases hstate : routingState lib (applyAcknowledged lib previous desired (batch.take k)) with
      | error e =>
        rw [hstate] at hr
        cases hr
      | ok s' =>
        rw [hstate] at hr
        simp only [Option.ite_none_right_eq_some, Option.some.injEq] at hr
        obtain ⟨hcmp, rfl⟩ := hr
        obtain ⟨ks, hks, hstore⟩ := h.certStore hlib hplain
        exact ⟨a, s, s', prev, ks, h.previousState, hs, hstate, hcmp, h.previousCerts, hks, hstore⟩
    · intro hprev hdes
      obtain ⟨s', hs', hcmp⟩ := h.routingState_replayed hlib hkeyed hprev hdes hnil hcut
      rw [hs']
      simp only
      rw [if_pos hcmp]
      exact ⟨_, rfl⟩

end Keys

attribute [local instance] asciiTable

/-- A route, with the certificates before a rotation and after it. -/
def securedRoute (cluster : String) (rotation : Ir) : Ir :=
  { oneRoute cluster with certificates := rotation.certificates }

/-- A route half moved to a new cluster, and one of two certificates changed. -/
theorem replay_exact_oneRoute :
    ∃ batch, reconcile reference (securedRoute "old" beforeRotation)
        (securedRoute "new" afterRotation) = .ok batch ∧
      (batch.take 3).filter Request.namesACertificate =
        [replaceCertificateRequest (sampleCertificate "C" ["z"]) "42"] ∧
      ∃ r, replayIfExact reference (securedRoute "old" beforeRotation)
          (securedRoute "new" afterRotation) (batch.take 3) = some r ∧
        ∃ a s s' prev ks, routingState reference (securedRoute "old" beforeRotation) = .ok a ∧
          dispatchAll reference a ((batch.take 3).filter fun r => !r.namesACertificate) = .ok s ∧
          routingState reference r = .ok s' ∧ comparable reference s' = comparable reference s ∧
          keyedCerts reference beforeRotation.certificates = .ok prev ∧
          keyedCerts reference r.certificates = .ok ks ∧
          certStore ks = ((batch.take 3).filter Request.namesACertificate).foldl
            (CertStore.apply reference) (certStore prev) := by
  have hhead : (reconcile reference (securedRoute "old" beforeRotation)
      (securedRoute "new" afterRotation)).toOption.map
        (fun batch => (batch.take 3).filter Request.namesACertificate) =
      some [replaceCertificateRequest (sampleCertificate "C" ["z"]) "42"] := by
    decide +kernel
  have hisOk : (reconcile reference (securedRoute "old" beforeRotation)
      (securedRoute "new" afterRotation)).isOk = true := by
    decide +kernel
  obtain ⟨batch, hok⟩ := exists_ok_of_isOk hisOk
  rw [hok] at hhead
  obtain ⟨hexact, hsome⟩ := replay_exact reference_documented reference_routeKeyed hok
    (by decide) 3
  obtain ⟨r, hr⟩ := hsome rfl rfl
  exact ⟨batch, hok, Option.some.inj hhead, r, hr, hexact r hr⟩

end Translator

end SozuGateway
