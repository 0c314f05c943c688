import SozuGateway.Translator.Convergence
import SozuGateway.Sozu.Reference
import Mathlib.Data.List.MinMax

/-!
# The certificate half of a batch

The certificate requests of a reconcile, applied in order to the store of the
previous certificates.

* `namesKey` — the requests that name a key; `CertPlan.namesKey_iff` — the keys a
  request of the diff names are those it writes.
* `CertPlan` — two lists of groups a reconcile can diff, and the facts the results
  share: the requests are distinct and each key is written by one of them.
* `storeOf` — the store a list of certificates asks for, entry by entry;
  `certStore_eq_storeOf` — the groups of the list are that store.
* `reconcile_certificates` — the requests turn the store of the previous
  certificates into that of the desired ones, are none exactly when the two stores
  are equal, and name each key at most once.
-/

set_option autoImplicit false

namespace SozuGateway

namespace Translator

open Lib Sozu

/-! ## The keys a request names -/

/-- The fingerprint of a payload's leaf is `fp`. -/
def payloadHas (lib : Library) (c : CertificateAndKey) (fp : String) : Bool :=
  match lib.calculateFingerprint c.certificate with
  | .ok bytes => hex bytes = fp
  | .error _ => false

/-- The request names the certificate `key`: adds it, removes it, or replaces it or
by it. -/
def namesKey (lib : Library) (key : CertKey) (r : Request) : Bool :=
  match r.requestType with
  | some (.addCertificate add) => add.address = key.1 ∧ payloadHas lib add.certificate key.2
  | some (.replaceCertificate replace) =>
      replace.address = key.1 ∧
        (replace.oldFingerprint = key.2 ∨ payloadHas lib replace.newCertificate key.2)
  | some (.removeCertificate remove) => remove.address = key.1 ∧ remove.fingerprint = key.2
  | _ => false

variable {lib : Library}

theorem payloadHas_iff {k : KeyedCert} (hk : k.Valid lib) {fp : String} :
    payloadHas lib (certificateAndKey k.cert) fp = true ↔ k.fingerprint = fp := by
  have hparse := hk.parses.fingerprint
  unfold fingerprint at hparse
  unfold payloadHas certificateAndKey
  cases hfp : lib.calculateFingerprint k.cert.certificate with
  | error e => simp [hfp] at hparse
  | ok bytes =>
    have hhex : hex bytes = k.fingerprint := by simpa [hfp] using hparse
    simp [hhex]

theorem namesKey_replace {k : KeyedCert} (hk : k.Valid lib) {old : String} {key : CertKey} :
    namesKey lib key (replaceCertificateRequest k.cert old) = true ↔
      k.listener.toWire = key.1 ∧ (old = key.2 ∨ k.fingerprint = key.2) := by
  unfold namesKey replaceCertificateRequest RequestType.into
  simp only [decide_eq_true_eq, payloadHas_iff hk, hk.listener]

theorem namesKey_add {k : KeyedCert} (hk : k.Valid lib) {key : CertKey} :
    namesKey lib key (addCertificateRequest k.cert) = true ↔
      k.listener.toWire = key.1 ∧ k.fingerprint = key.2 := by
  unfold namesKey addCertificateRequest RequestType.into
  simp only [decide_eq_true_eq, payloadHas_iff hk, hk.listener]

/-! ## Two lists of groups -/

/-- Two lists of groups a reconcile diffs: each keyed once, parsed, and on
listeners Sōzu's wire address carries whole. -/
structure CertPlan (lib : Library) (prev des : List KeyedCert) : Prop where
  nodup_left : (prev.map KeyedCert.key).Nodup
  nodup_right : (des.map KeyedCert.key).Nodup
  valid_left : AllValid lib prev
  valid_right : AllValid lib des
  plain : AllPlain (prev ++ des)

/-- The groups of two certificate lists on plain addresses. -/
theorem certPlan_of_keyedCerts {previous desired : List Certificate} {prev des : List KeyedCert}
    (hprev : keyedCerts lib previous = .ok prev) (hdes : keyedCerts lib desired = .ok des)
    (hplain : ∀ c ∈ previous ++ desired, c.listener.IsPlain) : CertPlan lib prev des := by
  have hgprev := keyedCerts_ok hprev
  have hgdes := keyedCerts_ok hdes
  refine ⟨hgprev.nodup, hgdes.nodup, fun k hk => hgprev.valid hk, fun k hk => hgdes.valid hk, ?_⟩
  intro k hk
  rcases List.mem_append.1 hk with hk | hk
  · obtain ⟨c, hc, hin, -⟩ := hgprev.source k hk
    exact hin.1 ▸ hplain c (List.mem_append_left _ hc)
  · obtain ⟨c, hc, hin, -⟩ := hgdes.source k hk
    exact hin.1 ▸ hplain c (List.mem_append_right _ hc)

namespace CertPlan

variable {prev des : List KeyedCert} (h : CertPlan lib prev des)

include h

/-- The keys a request of the diff names are those it writes. -/
theorem namesKey_iff {r : Request} (hr : r ∈ (certDiff lib prev des).map Prod.snd)
    {key : CertKey} : namesKey lib key r = true ↔ key ∈ (certWrites lib r).map Write.slot := by
  obtain ⟨address, fp⟩ := key
  have hmem := (certDiff_perm lib prev des).mem_iff.1 hr
  simp only [List.mem_append, List.mem_map] at hmem
  rcases hmem with (⟨u, hu, rfl⟩ | ⟨pair, hpair, rfl⟩) | ⟨old, hold, rfl⟩
  · have hvalid := h.valid_right u.2 (mem_updates.1 hu).1
    rw [updateRequest, namesKey_replace hvalid, certWrites_update hvalid]
    simp [KeyedCert.load, KeyedCert.certKey, eq_comm]
  · rw [certWrites_addRequest h.valid_right hpair]
    have hnew : pair.1 ∈ addedCerts prev des := fst_mem_of_mem_pairRotations hpair
    have hvalid := h.valid_right _ (mem_addedCerts.1 hnew).1
    obtain ⟨new, old⟩ := pair
    cases old with
    | none =>
      rw [addRequest, namesKey_add hvalid]
      simp [KeyedCert.load, KeyedCert.certKey, eq_comm]
    | some old =>
      obtain ⟨-, -, hrot⟩ := rotates_of_mem_pairRotations hpair
      rw [addRequest, namesKey_replace hvalid]
      simp only [KeyedCert.load, KeyedCert.unload, KeyedCert.certKey, (rotates_iff.1 hrot).1,
        Option.toList_some, List.map_cons, List.map_nil, List.cons_append, List.nil_append,
        List.mem_cons, List.not_mem_nil, or_false, Prod.mk.injEq]
      tauto
  · rw [certWrites_remove]
    have hiff : namesKey lib (address, fp) (removeRequest old) = true ↔
        old.listener.toWire = address ∧ old.fingerprint = fp := by
      simp [namesKey, removeRequest, removeCertificateRequest, RequestType.into]
    rw [hiff]
    simp [KeyedCert.unload, KeyedCert.certKey, eq_comm]

/-- Every request of the diff writes a key. -/
theorem certWrites_ne_nil {r : Request} (hr : r ∈ (certDiff lib prev des).map Prod.snd) :
    certWrites lib r ≠ [] := by
  have hmem := (certDiff_perm lib prev des).mem_iff.1 hr
  simp only [List.mem_append, List.mem_map] at hmem
  rcases hmem with (⟨u, hu, rfl⟩ | ⟨pair, hpair, rfl⟩) | ⟨old, hold, rfl⟩
  · rw [updateRequest, certWrites_update (h.valid_right u.2 (mem_updates.1 hu).1)]
    simp
  · rw [certWrites_addRequest h.valid_right hpair]
    simp
  · rw [certWrites_remove]
    simp

/-- Any order of the requests writes each key once. -/
theorem nodup_slots {rs : List Request} (hrs : rs.Perm ((certDiff lib prev des).map Prod.snd)) :
    ((rs.flatMap (certWrites lib)).map Write.slot).Nodup := by
  have hperm := (hrs.flatMap_right (certWrites lib)).trans (certWrites_certDiff h.valid_right)
  exact (hperm.map Write.slot).nodup_iff.2
    (nodup_slot_planWrites h.nodup_left h.nodup_right h.plain)

/-- No key is written by two requests. -/
theorem disjoint_slots {rs : List Request}
    (hrs : rs.Perm ((certDiff lib prev des).map Prod.snd)) :
    rs.Pairwise fun r r' => ((certWrites lib r).map Write.slot).Disjoint
      ((certWrites lib r').map Write.slot) := by
  have hnd := h.nodup_slots hrs
  rw [List.map_flatMap] at hnd
  exact (List.nodup_flatMap.1 hnd).2

/-- **The requests of the diff are distinct.** -/
theorem nodup_certDiff : ((certDiff lib prev des).map Prod.snd).Nodup := by
  refine (h.disjoint_slots (.refl _)).imp_of_mem fun {r r'} hr _ hdisj heq => ?_
  subst heq
  have hne : (certWrites lib r).map Write.slot ≠ [] := by
    simpa using h.certWrites_ne_nil hr
  obtain ⟨k, hk⟩ := List.exists_mem_of_ne_nil _ hne
  exact hdisj hk hk

/-- **Each key is named by at most one request.** -/
theorem countP_namesKey_le_one {rs : List Request}
    (hrs : rs.Perm ((certDiff lib prev des).map Prod.snd)) (key : CertKey) :
    rs.countP (namesKey lib key) ≤ 1 := by
  have hmem : ∀ r ∈ rs, r ∈ (certDiff lib prev des).map Prod.snd := fun r => hrs.mem_iff.1
  have hdisj := h.disjoint_slots hrs
  clear hrs
  induction rs with
  | nil => simp
  | cons r rs ih =>
    rw [List.pairwise_cons] at hdisj
    rw [List.countP_cons]
    by_cases hr : namesKey lib key r = true
    · have hrest : rs.countP (namesKey lib key) = 0 := by
        rw [List.countP_eq_zero]
        intro r' hr' hnames
        have hslot := (h.namesKey_iff (hmem r (by simp))).1 hr
        have hslot' := (h.namesKey_iff (hmem r' (by simp [hr']))).1 hnames
        exact hdisj.1 r' hr' hslot hslot'
      simp [hr, hrest]
    · have hstep := ih (fun r' hr' => hmem r' (by simp [hr'])) hdisj.2
      simpa [hr] using hstep

/-- **The requests turn the previous store into the desired one**, in any order. -/
theorem foldl_apply_certDiff {rs : List Request}
    (hrs : rs.Perm ((certDiff lib prev des).map Prod.snd)) :
    rs.foldl (CertStore.apply lib) (certStore prev) = certStore des := by
  rw [foldl_apply (h.nodup_slots hrs)
    (addsFree_certDiff h.valid_right h.plain fun r => hrs.mem_iff.1)]
  exact run_planWrites h.nodup_left h.nodup_right h.plain
    ((hrs.flatMap_right (certWrites lib)).trans (certWrites_certDiff h.valid_right))

/-- A request of the diff changes the store. -/
theorem ne_of_mem_certDiff {r : Request} (hr : r ∈ (certDiff lib prev des).map Prod.snd) :
    certStore prev ≠ certStore des := by
  have hpprev : AllPlain prev := fun k hk => h.plain k (List.mem_append_left _ hk)
  have hpdes : AllPlain des := fun k hk => h.plain k (List.mem_append_right _ hk)
  have hadded : ∀ d ∈ addedCerts prev des, certStore prev d.certKey = none := by
    intro d hd
    obtain ⟨hdmem, hnone⟩ := mem_addedCerts.1 hd
    refine certStore_eq_none fun p hp heq => hnone p hp ?_
    exact (certKey_eq_iff (hpprev p hp) (hpdes d hdmem)).1 heq
  intro heq
  have hmem := (certDiff_perm lib prev des).mem_iff.1 hr
  simp only [List.mem_append, List.mem_map] at hmem
  rcases hmem with (⟨u, hu, -⟩ | ⟨pair, hpair, -⟩) | ⟨old, hold, -⟩
  · obtain ⟨hd, hpartner, hchanged⟩ := mem_updates.1 hu
    obtain ⟨hp, hkey⟩ := partner_eq_some hpartner
    have hcert := (certKey_eq_iff (hpprev _ hp) (hpdes _ hd)).2 hkey
    have hget := congrFun heq u.2.certKey
    rw [certStore_eq_some h.nodup_right hpdes hd, ← hcert,
      certStore_eq_some h.nodup_left hpprev hp] at hget
    exact changed_iff.1 hchanged (Option.some.inj hget)
  · have hnew : pair.1 ∈ addedCerts prev des := fst_mem_of_mem_pairRotations hpair
    have hget := congrFun heq pair.1.certKey
    rw [hadded _ hnew, certStore_eq_some h.nodup_right hpdes (mem_addedCerts.1 hnew).1] at hget
    cases hget
  · have hremoved : old ∈ removedCerts prev des := by
      rw [← (pairRotations_perm (addedCerts prev des) (removedCerts prev des)).mem_iff]
      exact List.mem_append_right _ hold
    obtain ⟨hp, hnone⟩ := mem_removedCerts.1 hremoved
    have hgone : certStore des old.certKey = none :=
      certStore_eq_none fun d hd hkey =>
        hnone d hd ((certKey_eq_iff (hpdes d hd) (hpprev old hp)).1 hkey)
    have hget := congrFun heq old.certKey
    rw [hgone, certStore_eq_some h.nodup_left hpprev hp] at hget
    cases hget

end CertPlan

/-! ## The store a list asks for -/

/-- What a chain is chosen by: the longest first, then the least. -/
def Served.rank (s : Served) : ℕᵒᵈ ×ₗ List Der :=
  toLex (OrderDual.toDual s.chain.length, s.chain)

/-- What the entries of a list with the key `key` load, each by itself. -/
def loadedAt (lib : Library) (certs : List Certificate) (key : CertKey) : List Served :=
  certs.filterMap fun c =>
    (loaded lib c).bind fun entry =>
      if (c.listener.toWire, entry.1) = key then some entry.2 else none

/-- The store a list of certificates asks for: at each key the names of all its entries, and
of their chains the one chosen. -/
def storeOf (lib : Library) (certs : List Certificate) : CertStore := fun key =>
  ((loadedAt lib certs key).argmin Served.rank).map fun least =>
    ⟨.ofList ((loadedAt lib certs key).flatMap fun s => s.names.toList), least.chain⟩

theorem mem_loadedAt {certs : List Certificate} {key : CertKey} {s : Served} :
    s ∈ loadedAt lib certs key ↔
      ∃ c ∈ certs, ∃ fp, loaded lib c = some (fp, s) ∧ (c.listener.toWire, fp) = key := by
  unfold loadedAt
  simp only [List.mem_filterMap, Option.bind_eq_some_iff, Option.ite_none_right_eq_some,
    Option.some.injEq, Prod.exists]
  constructor
  · rintro ⟨c, hc, fp, s', hload, hkey, rfl⟩
    exact ⟨c, hc, fp, hload, hkey⟩
  · rintro ⟨c, hc, fp, hload, hkey⟩
    exact ⟨c, hc, fp, s, hload, hkey, rfl⟩

/-- Less material is a chain chosen no later. -/
theorem rank_le_of_material_le {s s' : Served} {c c' : Certificate}
    (h : KeyedCert.material s.chain c ≤ KeyedCert.material s'.chain c') : s.rank ≤ s'.rank := by
  unfold KeyedCert.material at h
  unfold Served.rank
  rw [Prod.Lex.le_iff] at h ⊢
  refine h.imp_right fun ⟨hlength, hrest⟩ => ⟨hlength, ?_⟩
  rw [Prod.Lex.le_iff] at hrest
  rcases hrest with hlt | ⟨heq, -⟩
  · exact hlt.le
  · exact heq.le

section Groups

variable {certs : List Certificate} {ks : List KeyedCert} (h : Grouped lib certs ks)
  (hplain : ∀ c ∈ certs, c.listener.IsPlain)

include h

theorem Grouped.allPlain (hplain : ∀ c ∈ certs, c.listener.IsPlain) : AllPlain ks := by
  intro k hk
  obtain ⟨c, hc, hin, -⟩ := h.source k hk
  exact hin.1 ▸ hplain c hc

include hplain

/-- The entries of a group are those with its key. -/
theorem Grouped.mem_loadedAt_certKey {k : KeyedCert} (hk : k ∈ ks) {s : Served} :
    s ∈ loadedAt lib certs k.certKey ↔
      ∃ c ∈ certs, InGroup lib c k ∧ servedChain lib c = .ok s.chain ∧ s.names = namesSet c := by
  rw [mem_loadedAt]
  constructor
  · rintro ⟨c, hc, fp, hload, hkey⟩
    obtain ⟨hparses, hnames⟩ := loaded_eq_some.1 hload
    obtain ⟨hwire, rfl⟩ := Prod.mk.inj hkey
    have hlistener : c.listener = k.listener := by
      rw [SocketAddress.toWire_eq_iff, hplain c hc, h.allPlain hplain k hk] at hwire
      exact hwire
    exact ⟨c, hc, ⟨hlistener, hparses.fingerprint⟩, hparses.chain, hnames⟩
  · rintro ⟨c, hc, hin, hchain, hnames⟩
    exact ⟨c, hc, k.fingerprint, loaded_eq_some.2 ⟨⟨hin.2, hchain⟩, hnames⟩,
      congrArg (fun x : SocketAddr => (x.toWire, k.fingerprint)) hin.1⟩

/-- What the store holds for a group is what the group serves. -/
theorem Grouped.storeOf_certKey {k : KeyedCert} (hk : k ∈ ks) :
    storeOf lib certs k.certKey = some k.served := by
  have hmem := @Grouped.mem_loadedAt_certKey lib certs ks h hplain k hk
  obtain ⟨c, hc, hin, hchain, -⟩ := h.source k hk
  have hsource : (⟨namesSet c, k.chain⟩ : Served) ∈ loadedAt lib certs k.certKey :=
    hmem.2 ⟨c, hc, hin, hchain, rfl⟩
  cases hleast : (loadedAt lib certs k.certKey).argmin Served.rank with
  | none =>
    rw [List.argmin_eq_none] at hleast
    rw [hleast] at hsource
    cases hsource
  | some least =>
    have hchosen : least.chain = k.chain := by
      obtain ⟨c', hc', hin', hchain', -⟩ := hmem.1 (List.argmin_mem hleast)
      have hle : Served.rank ⟨namesSet c, k.chain⟩ ≤ least.rank :=
        rank_le_of_material_le (h.least k hk c' hc' hin' _ hchain')
      have heq := le_antisymm (List.le_of_mem_argmin hsource hleast) hle
      exact (Prod.mk.inj (toLex_inj.1 heq)).2
    have hnames : BTreeSet.ofList
        ((loadedAt lib certs k.certKey).flatMap fun s => s.names.toList) = namesSet k.cert := by
      refine BTreeSet.ext fun n => ?_
      rw [namesSet, BTreeSet.mem_ofList, BTreeSet.mem_ofList, h.names k hk, List.mem_flatMap]
      constructor
      · rintro ⟨s, hs, hn⟩
        obtain ⟨c', hc', hin', -, heq⟩ := hmem.1 hs
        rw [heq, namesSet, BTreeSet.mem_toList, BTreeSet.mem_ofList] at hn
        exact ⟨c', hc', hin', hn⟩
      · rintro ⟨c', hc', hin', hn⟩
        obtain ⟨chain', hchain'⟩ := h.parses c' hc'
        refine ⟨⟨namesSet c', chain'⟩, hmem.2 ⟨c', hc', hin', hchain', rfl⟩, ?_⟩
        rwa [namesSet, BTreeSet.mem_toList, BTreeSet.mem_ofList]
    rw [storeOf, hleast, Option.map_some, hnames, hchosen]
    rfl

/-- **The groups of a list are the store it asks for.** -/
theorem certStore_eq_storeOf : certStore ks = storeOf lib certs := by
  funext key
  by_cases hkey : ∃ k ∈ ks, k.certKey = key
  · obtain ⟨k, hk, rfl⟩ := hkey
    rw [certStore_eq_some h.nodup (h.allPlain hplain) hk, h.storeOf_certKey hplain hk]
  · have hnone : loadedAt lib certs key = [] := by
      refine List.eq_nil_iff_forall_not_mem.2 fun s hs => hkey ?_
      obtain ⟨c, hc, fp, hload, heq⟩ := mem_loadedAt.1 hs
      obtain ⟨k, hk, hin⟩ := h.covers c hc
      have hfp : k.fingerprint = fp :=
        Except.ok.inj (hin.2.symm.trans (loaded_eq_some.1 hload).1.fingerprint)
      exact ⟨k, hk, by rw [← heq, KeyedCert.certKey, hin.1, hfp]⟩
    rw [certStore_eq_none fun k hk heq => hkey ⟨k, hk, heq⟩, storeOf, hnone]
    rfl

end Groups

/-! ## The certificate requests of a reconcile -/

/-- The certificate half of a batch: the requests of the diff, by rank. -/
theorem Reconciles.certificates_filter [CharTable] (hlib : lib.Documented) {previous desired : Ir}
    {a b : ConfigState} {prev des : List KeyedCert}
    (h : Reconciles lib previous desired a b prev des) (hplan : CertPlan lib prev des) :
    (batchOf lib a b prev des).filter Request.namesACertificate =
      canonicalizeRanked lib (certDiff lib prev des) :=
  (h.convergent hlib).toDiffable.certificates_filter hlib hplan.nodup_certDiff

/-- **The certificate diff converges and is minimal.**  The certificate requests of
a reconcile turn the store the previous certificates ask for into that of the desired
ones; there are none exactly when the two stores are equal; and each key is named by
at most one of them. -/
theorem reconcile_certificates [CharTable] (hlib : lib.Documented) {previous desired : Ir}
    {a b : ConfigState} (hrefs : checkClusterReferences desired = .ok ())
    (ha : routingState lib previous = .ok a) (hb : routingState lib desired = .ok b)
    (hparses : ∀ c ∈ previous.certificates ++ desired.certificates, (loaded lib c).isSome)
    (hplain : ∀ c ∈ previous.certificates ++ desired.certificates, c.listener.IsPlain) :
    ∃ batch, reconcile lib previous desired = .ok batch ∧
      (batch.filter Request.namesACertificate).foldl (CertStore.apply lib)
        (storeOf lib previous.certificates) = storeOf lib desired.certificates ∧
      (batch.filter Request.namesACertificate = [] ↔
        storeOf lib previous.certificates = storeOf lib desired.certificates) ∧
      ∀ key, (batch.filter Request.namesACertificate).countP (namesKey lib key) ≤ 1 := by
  have hparse : ∀ c ∈ previous.certificates ++ desired.certificates,
      ∃ fp chain, Parses lib c fp chain := by
    intro c hc
    obtain ⟨⟨fp, served⟩, hload⟩ := Option.isSome_iff_exists.1 (hparses c hc)
    exact ⟨fp, served.chain, (loaded_eq_some.1 hload).1⟩
  obtain ⟨prev, hprev⟩ := keyedCerts_isOk_iff.2 fun c hc => hparse c (List.mem_append_left _ hc)
  obtain ⟨des, hdes⟩ := keyedCerts_isOk_iff.2 fun c hc => hparse c (List.mem_append_right _ hc)
  have hrec : Reconciles lib previous desired a b prev des := ⟨hrefs, ha, hb, hprev, hdes⟩
  have hplan := certPlan_of_keyedCerts hprev hdes hplain
  have hfilter := hrec.certificates_filter hlib hplan
  have hperm := @canonicalizeRanked_perm lib (certDiff lib prev des)
  rw [← certStore_eq_storeOf (keyedCerts_ok hprev) fun c hc => hplain c (List.mem_append_left _ hc),
    ← certStore_eq_storeOf (keyedCerts_ok hdes) fun c hc => hplain c (List.mem_append_right _ hc)]
  refine ⟨_, reconcile_of_reconciles hrec, ?_, ?_, ?_⟩
  · rw [hfilter]
    exact hplan.foldl_apply_certDiff hperm
  · rw [hfilter]
    constructor
    · intro hnil
      have hfold := hplan.foldl_apply_certDiff hperm
      rw [hnil] at hfold
      exact hfold
    · intro heq
      rw [List.eq_nil_iff_forall_not_mem]
      intro r hr
      exact hplan.ne_of_mem_certDiff (hperm.mem_iff.1 hr) heq
  · intro key
    rw [hfilter]
    exact hplan.countP_namesKey_le_one hperm key

/-- A certificate of one HTTPS listener. -/
def sampleCertificate (pem : String) (names : List String) : Certificate where
  listener := .v4 ⟨0, 0, 0, 0⟩ 443
  certificate := pem
  chain := []
  key := "key"
  names := names

attribute [local instance] asciiTable

/-- The certificates before: `A` for two names, `B` for a third, listed twice. -/
def beforeRotation : Ir where
  certificates := [sampleCertificate "A" ["x", "y"], sampleCertificate "B" ["z"],
    sampleCertificate "B" []]

/-- `A` has lost a name, and `C` stands for `B`. -/
def afterRotation : Ir where
  certificates := [sampleCertificate "A" ["x"], sampleCertificate "C" ["z"]]

/-- One certificate loses a name, another is rotated: two requests, and no more. -/
theorem reconcile_certificates_rotation :
    ∃ batch, reconcile reference beforeRotation afterRotation = .ok batch ∧
      batch.filter Request.namesACertificate =
        [replaceCertificateRequest (sampleCertificate "C" ["z"]) "42",
          replaceCertificateRequest (sampleCertificate "A" ["x"]) "41"] ∧
      (batch.filter Request.namesACertificate).foldl (CertStore.apply reference)
        (storeOf reference beforeRotation.certificates) =
          storeOf reference afterRotation.certificates ∧
      (batch.filter Request.namesACertificate = [] ↔
        storeOf reference beforeRotation.certificates =
          storeOf reference afterRotation.certificates) ∧
      ∀ key, (batch.filter Request.namesACertificate).countP (namesKey reference key) ≤ 1 := by
  obtain ⟨batch, hbatch, hfold, hnil, hkeys⟩ := @reconcile_certificates reference asciiTable
    reference_documented beforeRotation afterRotation {} {} rfl rfl rfl (by decide) (by decide)
  refine ⟨batch, hbatch, ?_, hfold, hnil, hkeys⟩
  have hsent : (reconcile reference beforeRotation afterRotation).toOption.map
      (List.filter Request.namesACertificate) = some
        [replaceCertificateRequest (sampleCertificate "C" ["z"]) "42",
          replaceCertificateRequest (sampleCertificate "A" ["x"]) "41"] := by
    decide +kernel
  rw [hbatch] at hsent
  exact Option.some.inj hsent

end Translator

end SozuGateway
