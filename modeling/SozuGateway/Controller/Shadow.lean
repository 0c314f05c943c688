import SozuGateway.Agent.Session
import SozuGateway.Translator.Redacted
import SozuGateway.Translator.ReplayExact

/-!
# The shadow of what Sōzu holds

`crates/controller/src/shadow.rs`: the last applied IR with the generation of the Sōzu that holds
it, its file, and what is kept of it.

* `Shadow`, `loadInitial`, `persist` — the baseline and its file.
* `shouldReset`, `checkRestartGeneration` — what a probe does to it.
* `replayAcknowledged` — what a batch that failed part-way does to it.
* `Established` — every object an IR describes was written by a request of a given kind; kept by
  every way the shadow comes by an IR.
-/

set_option autoImplicit false

namespace SozuGateway

namespace Controller

open Lib Sozu Agent Translator

/-! ## The baseline -/

/-- The last applied state, with the generation of the Sōzu it was applied to. -/
structure Shadow where
  generation : Option SozuGeneration := none
  ir : Ir := {}
  deriving DecidableEq

def Shadow.empty (generation : Option SozuGeneration) : Shadow := { generation, ir := {} }

/-- The initial shadow: the persisted one, when the Sōzu that answered has the socket it was
written against.  `persisted` is what the file reads as. -/
def loadInitial (shadowFile : String) (persisted : Option Shadow)
    (current : Option SozuGeneration) : Shadow :=
  let empty := Shadow.empty current
  if shadowFile.isEmpty then empty
  else
    match persisted with
    | none => empty
    | some persisted =>
        match persisted.generation, current with
        | some writtenAgainst, some current =>
            if writtenAgainst.socket = current.socket then
              { generation := some current, ir := persisted.ir }
            else empty
        | _, _ => empty

/-- What the file reads as after a write, which may fail: the shadow without its keys. -/
def persist (shadowFile : String) (written : Bool) (shadow : Shadow) (file : Option Shadow) :
    Option Shadow :=
  if shadowFile.isEmpty || !written then file
  else some { generation := shadow.generation, ir := redactPrivateKeys shadow.ir }

/-- What the file is trusted for. -/
theorem loadInitial_cases (shadowFile : String) (persisted : Option Shadow)
    (answer : Except QueryError SozuGeneration) :
    loadInitial shadowFile persisted answer.toOption = Shadow.empty answer.toOption ∨
      ∃ g file known, answer = .ok g ∧ persisted = some file ∧ file.generation = some known ∧
        known.socket = g.socket ∧
        loadInitial shadowFile persisted answer.toOption = ⟨some g, file.ir⟩ := by
  unfold loadInitial
  simp only
  split
  · exact .inl rfl
  · cases persisted with
    | none => exact .inl rfl
    | some file =>
      cases answer with
      | error e => cases hknown : file.generation <;> exact .inl (by simp [Except.toOption, hknown])
      | ok g =>
        cases hknown : file.generation with
        | none => exact .inl (by simp [hknown])
        | some known =>
          by_cases hsocket : known.socket = g.socket
          · exact .inr ⟨g, file, known, rfl, rfl, hknown, hsocket, by
              simp [Except.toOption, hknown, hsocket]⟩
          · exact .inl (by simp [Except.toOption, hknown, hsocket])

/-- What the file reads as after a write. -/
theorem persist_cases (shadowFile : String) (written : Bool) (shadow : Shadow)
    (file : Option Shadow) :
    persist shadowFile written shadow file = file ∨ persist shadowFile written shadow file =
      some ⟨shadow.generation, redactPrivateKeys shadow.ir⟩ := by
  unfold persist
  split
  · exact .inl rfl
  · exact .inr rfl

/-! ## A probe -/

/-- The outcome of a restart check. -/
inductive GenerationCheck where
  | unchanged
  | reset
  | probeFailed
  deriving DecidableEq, Repr

/-- Whether a probe resets the shadow. -/
def shouldReset (probe : Except QueryError SozuGeneration) (baseline : Option SozuGeneration)
    (shadow : Ir) : Bool :=
  match probe with
  | .error _ => false
  | .ok generation =>
      if shadow = {} then false
      else
        match baseline with
        | some known => known.socket ≠ generation.socket
        | none => true

/-- Check the restart generation against the one the shadow was applied to. -/
def checkRestartGeneration (probe : Except QueryError SozuGeneration) (shadow : Shadow) :
    GenerationCheck × Shadow :=
  match probe with
  | .error _ => (.probeFailed, shadow)
  | .ok generation =>
      if shouldReset probe shadow.generation shadow.ir then
        (.reset, { generation := some generation, ir := {} })
      else (.unchanged, { shadow with generation := some generation })

/-- What a probe does: nothing without an answer; a shadow that is kept is empty, or was written
against the socket that answered. -/
theorem checkRestartGeneration_cases (probe : Except QueryError SozuGeneration) (shadow : Shadow) :
    (∃ e, probe = .error e ∧ checkRestartGeneration probe shadow = (.probeFailed, shadow)) ∨
      ∃ g, probe = .ok g ∧
        (checkRestartGeneration probe shadow = (.reset, ⟨some g, {}⟩) ∨
          checkRestartGeneration probe shadow = (.unchanged, { shadow with generation := some g }) ∧
            (shadow.ir = {} ∨ ∃ known, shadow.generation = some known ∧
              known.socket = g.socket)) := by
  cases probe with
  | error e => exact .inl ⟨e, rfl, rfl⟩
  | ok g =>
    refine .inr ⟨g, rfl, ?_⟩
    unfold checkRestartGeneration
    by_cases hreset : shouldReset (.ok g) shadow.generation shadow.ir = true
    · exact .inl (by simp [hreset])
    · refine .inr ⟨by simp [hreset], ?_⟩
      by_cases hempty : shadow.ir = {}
      · exact .inl hempty
      · cases hknown : shadow.generation with
        | none => simp [shouldReset, hempty, hknown] at hreset
        | some known => exact .inr ⟨known, rfl, by simpa [shouldReset, hempty, hknown] using hreset⟩

/-! ## A batch that failed part-way -/

/-- The shadow with the acknowledged head of a batch replayed onto it, when that changes it. -/
def replayAcknowledged [CharTable] (lib : Library) (shadow : Shadow) (desired : Ir)
    (batch : List Request) (acknowledged : ℕ) : Option Shadow :=
  if batch.length < acknowledged then none
  else
    match replayIfExact lib shadow.ir desired (batch.take acknowledged) with
    | none => none
    | some replayed => if replayed = shadow.ir then none else some { shadow with ir := replayed }

theorem replayAcknowledged_eq_some [CharTable] {lib : Library} {shadow shadow' : Shadow}
    {desired : Ir} {batch : List Request} {acknowledged : ℕ}
    (h : replayAcknowledged lib shadow desired batch acknowledged = some shadow') :
    ∃ replayed, replayIfExact lib shadow.ir desired (batch.take acknowledged) = some replayed ∧
      shadow' = { shadow with ir := replayed } := by
  unfold replayAcknowledged at h
  split at h
  · cases h
  · split at h
    · cases h
    · rename_i replayed hreplay
      split at h
      · cases h
      · exact ⟨replayed, hreplay, (Option.some.inj h).symm⟩

/-! ## What a baseline is made of -/

variable {lib : Library}

theorem update_eq_some {S : CertStore} {key key' : CertKey} {v : Option Served} {served : Served}
    (h : Function.update S key v key' = some served) :
    S key' = some served ∨ key' = key ∧ v = some served := by
  by_cases hkey : key' = key
  · subst hkey
    rw [Function.update_self] at h
    exact .inr ⟨rfl, h⟩
  · rw [Function.update_of_ne hkey] at h
    exact .inl h

/-- A certificate request leaves what was there or what it loads. -/
theorem loads_of_apply {S : CertStore} {r : Request} {key : CertKey} {served : Served}
    (h : CertStore.apply lib S r key = some served) :
    S key = some served ∨ ⟨key, some served⟩ ∈ certWrites lib r := by
  obtain ⟨_ | t⟩ := r
  · exact .inl h
  cases t <;> try exact .inl h
  case addCertificate add =>
    simp only [CertStore.apply, certWrites] at h ⊢
    cases hloaded : loaded lib (payloadCertificate add.address add.certificate) with
    | none => exact .inl (by simpa [hloaded] using h)
    | some entry =>
      simp only [hloaded] at h ⊢
      split at h
      · rcases update_eq_some h with hbefore | ⟨rfl, hserved⟩
        · exact .inl hbefore
        · exact .inr (by simp [hserved])
      · exact .inl h
  case replaceCertificate replace =>
    simp only [CertStore.apply, certWrites] at h ⊢
    cases hloaded : loaded lib (payloadCertificate replace.address replace.newCertificate) with
    | none => exact .inl (by simpa [hloaded] using h)
    | some entry =>
      simp only [hloaded] at h ⊢
      rcases update_eq_some h with hbefore | ⟨rfl, hserved⟩
      · rcases update_eq_some hbefore with hbefore | ⟨-, hnone⟩
        · exact .inl hbefore
        · cases hnone
      · refine .inr ?_
        split <;> simp [hserved]
  case removeCertificate remove =>
    simp only [CertStore.apply] at h
    rcases update_eq_some h with hbefore | ⟨-, hnone⟩
    · exact .inl hbefore
    · cases hnone

/-- The certificate requests of a list leave what was there or what one of them loads. -/
theorem loads_of_foldl_apply {S : CertStore} {rs : List Request} {key : CertKey} {served : Served}
    (h : rs.foldl (CertStore.apply lib) S key = some served) :
    S key = some served ∨ ∃ r ∈ rs, ⟨key, some served⟩ ∈ certWrites lib r := by
  induction rs generalizing S with
  | nil => exact .inl h
  | cons r rs ih =>
    rcases ih h with hafter | ⟨r', hr', hloads⟩
    · rcases loads_of_apply hafter with hbefore | hloads
      · exact .inl hbefore
      · exact .inr ⟨r, List.mem_cons_self, hloads⟩
    · exact .inr ⟨r', List.mem_cons_of_mem _ hr', hloads⟩

/-- The writes of a head leave what was there or what one of them sets. -/
theorem writes_of_cut [CharTable] {a b s : ConfigState} {p : List Request} (hcut : Cut lib a b p s)
    {k : Slot} {o : Obj} (ho : s.get k = some o) :
    a.get k = some o ∨ ∃ t, RequestType.into t ∈ p ∧ writeOf lib t = some ⟨k, some o⟩ := by
  rw [hcut.applied.get, writesOf] at ho
  rcases run_cases (fun r : Request => r.requestType.bind (writeOf lib)) a.get p k with
    ⟨hrun, -⟩ | ⟨p₁, r, p₂, w, rfl, hw, rfl, hrun, -⟩
  · exact .inl (hrun ▸ ho)
  · obtain ⟨t, rfl, -⟩ := hcut.plan r (by simp)
    refine .inr ⟨t, by simp, ?_⟩
    have hvalue : w.value = some o := hrun ▸ ho
    rw [← hvalue]
    exact hw

/-- The store reads no material. -/
theorem certStore_bare (ks : List KeyedCert) :
    certStore (ks.map KeyedCert.bare) = certStore ks := by
  funext key
  unfold certStore
  rw [List.find?_map, Option.map_map]
  rfl

/-- Every object the IR describes was written by a request of `acked`: each slot of its routing
state, and each certificate. -/
structure Established [CharTable] (lib : Library) (acked : Request → Prop) (ir : Ir) : Prop where
  routing : ∃ s, routingState lib ir = .ok s ∧ ∀ k o, s.get k = some o →
    ∃ t : RequestType, acked t.into ∧ writeOf lib t = some ⟨k, some o⟩
  certificates : ∃ ks, keyedCerts lib ir.certificates = .ok ks ∧ ∀ key served,
    certStore ks key = some served → ∃ r, acked r ∧ ⟨key, some served⟩ ∈ certWrites lib r
  plain : ∀ c ∈ ir.certificates, c.listener.IsPlain

namespace Established

variable [CharTable] {acked acked' : Request → Prop} {ir previous desired : Ir}
  {batch : List Request}

theorem mono (h : Established lib acked ir) (hsub : ∀ r, acked r → acked' r) :
    Established lib acked' ir := by
  obtain ⟨s, hs, hrouting⟩ := h.routing
  obtain ⟨ks, hks, hcertificates⟩ := h.certificates
  refine ⟨⟨s, hs, fun k o ho => ?_⟩, ⟨ks, hks, fun key served hserved => ?_⟩, h.plain⟩
  · obtain ⟨t, ht, hwrite⟩ := hrouting k o ho
    exact ⟨t, hsub _ ht, hwrite⟩
  · obtain ⟨r, hr, hloads⟩ := hcertificates key served hserved
    exact ⟨r, hsub r hr, hloads⟩

/-- Nothing applied. -/
theorem empty : Established lib acked {} where
  routing := ⟨{}, rfl, fun k o ho => by simp [empty_get] at ho⟩
  certificates := ⟨[], rfl, fun key served hserved => by simp [certStore] at hserved⟩
  plain c hc := absurd hc List.not_mem_nil

/-- The file holds what the shadow holds: the identity of a certificate has no key in it. -/
theorem redacted (h : Established lib acked ir) :
    Established lib acked (redactPrivateKeys ir) := by
  obtain ⟨ks, hks, hcertificates⟩ := h.certificates
  have hbare : (keyedCerts lib (ir.certificates.map redactCertificate)).map
      (List.map KeyedCert.bare) = (keyedCerts lib ir.certificates).map (List.map KeyedCert.bare) :=
    bare_keyedCerts_redacted ir.certificates
  rw [hks] at hbare
  refine ⟨h.routing, ?_, fun c hc => ?_⟩
  · cases hredacted : keyedCerts lib (ir.certificates.map redactCertificate) with
    | error e =>
      rw [hredacted] at hbare
      cases hbare
    | ok ks' =>
      rw [hredacted] at hbare
      have hstore : certStore ks' = certStore ks := by
        rw [← certStore_bare ks', ← certStore_bare ks]
        exact congrArg certStore (Except.ok.inj hbare)
      exact ⟨ks', hredacted, fun key served hserved => hcertificates key served (hstore ▸ hserved)⟩
  · obtain ⟨live, hlive, rfl⟩ := List.mem_map.1 hc
    exact h.plain live hlive

section Batch

variable (h : Established lib acked previous)

include h

theorem plain_append (hplain : ∀ c ∈ desired.certificates, c.listener.IsPlain) :
    ∀ c ∈ previous.certificates ++ desired.certificates, c.listener.IsPlain := by
  intro c hc
  rcases List.mem_append.1 hc with hc | hc
  · exact h.plain c hc
  · exact hplain c hc

variable (hlib : lib.Documented)

include hlib

/-- **What a head of the batch leaves** was there before, or a request of the head wrote it. -/
theorem head {n : ℕ} (hacked : ∀ r ∈ batch.take n, acked r) {a b : ConfigState}
    {prev des : List KeyedCert}
    (hhead : Acknowledges lib previous desired a b prev des (batch.take n) (batch.drop n)) :
    (∃ s, dispatchAll lib a ((batch.take n).filter fun r => !r.namesACertificate) = .ok s ∧
        ∀ k o, s.get k = some o →
          ∃ t : RequestType, acked t.into ∧ writeOf lib t = some ⟨k, some o⟩) ∧
      ∀ key served, ((batch.take n).filter Request.namesACertificate).foldl (CertStore.apply lib)
          (certStore prev) key = some served →
        ∃ r, acked r ∧ ⟨key, some served⟩ ∈ certWrites lib r := by
  obtain ⟨s₀, hs₀, hrouting⟩ := h.routing
  obtain ⟨ks, hks, hcertificates⟩ := h.certificates
  obtain rfl : a = s₀ := Except.ok.inj (hhead.previousState.symm.trans hs₀)
  obtain rfl : prev = ks := Except.ok.inj (hhead.previousCerts.symm.trans hks)
  obtain ⟨s, hs, hcut⟩ := hhead.dispatched hlib
  refine ⟨⟨s, hs, fun k o ho => ?_⟩, fun key served hserved => ?_⟩
  · rcases writes_of_cut hcut ho with hbefore | ⟨t, ht, hwrite⟩
    · exact hrouting k o hbefore
    · exact ⟨t, hacked _ (List.mem_filter.1 ht).1, hwrite⟩
  · rcases loads_of_foldl_apply hserved with hbefore | ⟨r, hr, hloads⟩
    · exact hcertificates key served hbefore
    · exact ⟨r, hacked r (List.mem_filter.1 hr).1, hloads⟩

variable (hplain : ∀ c ∈ desired.certificates, c.listener.IsPlain)
  (hok : reconcile lib previous desired = .ok batch)

include hplain hok

/-- **A head Sōzu acknowledged, replayed.** -/
theorem replayed {n : ℕ} (hacked : ∀ r ∈ batch.take n, acked r) {replayed : Ir}
    (hreplay : replayIfExact lib previous desired (batch.take n) = some replayed) :
    Established lib acked replayed := by
  unfold replayIfExact at hreplay
  split at hreplay
  · exact Option.some.inj hreplay ▸ h
  · rename_i hne
    obtain ⟨a, b, prev, des, hhead⟩ := acknowledges_take hok n
    obtain ⟨⟨s, hs, hrouting⟩, hcertificates⟩ := h.head hlib hacked hhead
    rw [hhead.simulated hlib hs] at hreplay
    simp only at hreplay
    cases hstate : routingState lib (applyAcknowledged lib previous desired (batch.take n)) with
    | error e =>
      rw [hstate] at hreplay
      cases hreplay
    | ok s' =>
      rw [hstate] at hreplay
      simp only [Option.ite_none_right_eq_some, Option.some.injEq] at hreplay
      obtain ⟨hcmp, rfl⟩ := hreplay
      have hplainBoth := h.plain_append hplain
      obtain ⟨ks, hks, hstore⟩ := hhead.certStore hlib hplainBoth
      have hagrees := (comparable_eq_iff hlib).1 hcmp
      have hget := hagrees.get (Translator.routingState_ok hlib hstate).wellFormed
      refine ⟨⟨s', hstate, fun k o ho => hrouting k o (hget k ▸ ho)⟩,
        ⟨ks, hks, fun key served hserved => hcertificates key served (hstore ▸ hserved)⟩,
        fun c hc => hplainBoth c ?_⟩
      have hplan := certPlan_of_keyedCerts hhead.previousCerts hhead.desiredCerts hplainBoth
      exact mem_replayed hplan hhead.desiredCerts (hhead.acknowledged hlib hplan) hc

/-- **A batch Sōzu acknowledged.** -/
theorem applied (hacked : ∀ r ∈ batch, acked r) : Established lib acked desired := by
  obtain ⟨a, b, prev, des, hhead⟩ := acknowledges_take hok batch.length
  have hplainBoth := h.plain_append hplain
  have hplan := certPlan_of_keyedCerts hhead.previousCerts hhead.desiredCerts hplainBoth
  obtain ⟨⟨s, hs, hrouting⟩, hcertificates⟩ :=
    h.head hlib (n := batch.length) (by simpa using hacked) hhead
  rw [List.take_length] at hs hcertificates
  have hbatch : batchOf lib a b prev des = batch := by
    rw [hhead.batch, List.take_append_drop]
  have hconv := hhead.toReconciles.convergent hlib
  obtain ⟨final, hfinal, hfinalAgrees⟩ :=
    converges hlib hconv (hconv.toDiffable.routingHalf hlib prev des)
  have hb := hhead.desiredState
  rw [hbatch] at hfinal
  obtain rfl : s = final := Except.ok.inj (hs.symm.trans hfinal)
  have hget := hfinalAgrees.symm.get (Translator.routingState_ok hlib hb).wellFormed
  have hstore : (batch.filter Request.namesACertificate).foldl (CertStore.apply lib)
      (certStore prev) = certStore des := by
    rw [← hbatch, hhead.toReconciles.certificates_filter hlib hplan]
    exact hplan.foldl_apply_certDiff (canonicalizeRanked_perm _)
  exact ⟨⟨b, hb, fun k o ho => hrouting k o (hget k ▸ ho)⟩,
    ⟨des, hhead.desiredCerts, fun key served hserved =>
      hcertificates key served (by rwa [hstore])⟩, hplain⟩

end Batch

end Established

end Controller

end SozuGateway
