import SozuGateway.Translator.CertificateConvergence

/-!
# A reordering is never a change

The lists of an IR are assembled from hash and tree iteration: their order, the order
of a frontend's header matches and of a certificate's names, and how many entries one
certificate is spread over carry no meaning.

* `Reordered` — the IRs that say the same in another order.
* `Reordered.routingState_eq` — they have one routing state;
  `SameEntries.certDiff_eq_nil` — and nothing to change among their certificates.
* `reconcile_reordered` — a reconcile between them is empty.
-/

set_option autoImplicit false

namespace SozuGateway

namespace Translator

open Lib Sozu

/-! ## The reordering -/

/-- Two frontends that differ in the order of their header matches at most. -/
structure SameFrontend (f f' : Frontend) : Prop where
  headerMatches : f.headerMatches.Perm f'.headerMatches
  rest : { f with headerMatches := [] } = { f' with headerMatches := [] }

/-- The entries a certificate is spread over: each of the same material, with the
names of all of them together. -/
structure Split (c : Certificate) (parts : List Certificate) : Prop where
  ne_nil : parts ≠ []
  material : ∀ c' ∈ parts, { c' with names := [] } = { c with names := [] }
  names : ∀ n, n ∈ c.names ↔ ∃ c' ∈ parts, n ∈ c'.names

/-- The same IR, listed in another order. -/
structure Reordered (a b : Ir) : Prop where
  clusters : a.clusters.Perm b.clusters
  backends : a.backends.Perm b.backends
  l4Frontends : a.l4Frontends.Perm b.l4Frontends
  frontends : ∃ fs, List.Forall₂ SameFrontend a.frontends fs ∧ fs.Perm b.frontends
  certificates : ∃ parts, List.Forall₂ Split a.certificates parts ∧
    parts.flatten.Perm b.certificates

/-- No two objects of the IR claim one key. -/
structure Distinct [CharTable] (a : Ir) : Prop where
  clusters : (a.clusters.map Cluster.id).Nodup
  backends : (a.backends.map fun b => (b.clusterId, b.backendId, b.address)).Nodup
  frontends : (a.frontends.map Frontend.sozuRouteKey).Nodup
  l4Frontends : (a.l4Frontends.map fun f => (f.protocol, f.listener)).Nodup

variable {lib : Library}

/-! ## One routing state -/

section Routing

variable [CharTable]

theorem SameFrontend.sozuRouteKey_eq {f f' : Frontend} (h : SameFrontend f f') :
    f.sozuRouteKey = f'.sozuRouteKey := by
  obtain ⟨hostname, path, method, clusterId, tls, listener, filters, headerMatches⟩ := f
  obtain ⟨hostname', path', method', clusterId', tls', listener', filters', headerMatches'⟩ := f'
  have hrest := h.rest
  simp only [Frontend.mk.injEq, and_true] at hrest
  obtain ⟨rfl, rfl, rfl, rfl, rfl, rfl, rfl⟩ := hrest
  have hcanonical : HeaderMatch.canonical headerMatches = HeaderMatch.canonical headerMatches' :=
    HeaderMatch.canonical_perm h.headerMatches
  simp only [Frontend.sozuRouteKey, Frontend.matchSuffix, hcanonical]

omit [CharTable] in
theorem SameFrontend.tls_eq {f f' : Frontend} (h : SameFrontend f f') : f.tls = f'.tls :=
  (Frontend.mk.inj h.rest).2.2.2.2.1

omit [CharTable] in
theorem SameFrontend.clusterId_eq {f f' : Frontend} (h : SameFrontend f f') :
    f.clusterId = f'.clusterId := (Frontend.mk.inj h.rest).2.2.2.1

omit [CharTable] in
/-- What both lists of a `Forall₂` map to alike. -/
theorem map_eq_of_forall₂ {α β γ : Type} {R : α → β → Prop} {f : α → γ} {g : β → γ} {l : List α}
    {m : List β} (h : List.Forall₂ R l m) (hfg : ∀ a b, R a b → f a = g b) : l.map f = m.map g := by
  induction h with
  | nil => rfl
  | cons hab _ ih => rw [List.map_cons, List.map_cons, hfg _ _ hab, ih]

/-- The routing requests of an IR without clashes: one for each object. -/
theorem routingRequests_of_distinct (hkeyed : RouteKeyed lib) {a : Ir}
    (hfronts : (a.frontends.map Frontend.sozuRouteKey).Nodup)
    (hl4 : (a.l4Frontends.map fun f => (f.protocol, f.listener)).Nodup) :
    routingRequests lib a = clusterRequests a ++ a.backends.map backendRequest ++
      a.frontends.map (fun f => frontendRequest f.tls (frontendPayload f)) ++
      a.l4Frontends.map l4ListenerAdd ++ a.l4Frontends.map l4FrontendRequest := by
  have hunique : uniqueFrontends a = a.frontends := uniqueBy_eq_self hfronts
  have hpayloads : httpFrontendPayloads lib a =
      a.frontends.map fun f => (f.tls, frontendPayload f) := by
    rw [httpFrontendPayloads, hunique]
    refine uniqueBy_eq_self ?_
    rw [List.map_map]
    refine List.Nodup.map_on (fun f hf f' hf' heq => ?_) (List.Nodup.of_map _ hfronts)
    simp only [Function.comp_apply, Prod.mk.injEq, hkeyed f, hkeyed f'] at heq
    refine inj_of_nodup_map hfronts hf hf' ?_
    exact SozuRouteKey.mk.injEq .. ▸ heq
  have hclaims : (a.l4Frontends.map fun f => (f.protocol, f.listener, f.clusterId)).Nodup := by
    refine List.Nodup.map_on (fun f hf f' hf' heq => ?_) (List.Nodup.of_map _ hl4)
    simp only [Prod.mk.injEq] at heq
    exact inj_of_nodup_map hl4 hf hf' (by simp [heq])
  have hl4unique : uniqueL4Frontends a.l4Frontends = a.l4Frontends := uniqueBy_eq_self hclaims
  have hlisteners : l4Listeners a.l4Frontends = a.l4Frontends := uniqueBy_eq_self hl4
  rw [routingRequests, httpFrontendRequests, hpayloads, l4ListenerAdds, hlisteners, hl4unique,
    List.map_map]
  rfl

namespace Reordered

variable {a b : Ir} (h : Reordered a b)

include h

theorem nodup_routeKeys (hnd : (a.frontends.map Frontend.sozuRouteKey).Nodup) :
    (b.frontends.map Frontend.sozuRouteKey).Nodup := by
  obtain ⟨fs, hsame, hperm⟩ := h.frontends
  rw [map_eq_of_forall₂ hsame fun f f' hff' => hff'.sozuRouteKey_eq] at hnd
  exact (hperm.map _).nodup_iff.1 hnd

omit [CharTable] in
theorem nodup_l4Addresses (hnd : (a.l4Frontends.map fun f => (f.protocol, f.listener)).Nodup) :
    (b.l4Frontends.map fun f => (f.protocol, f.listener)).Nodup :=
  (h.l4Frontends.map _).nodup_iff.1 hnd

omit [CharTable] in
theorem udpClusters_eq : udpClusters a = udpClusters b := by
  refine BTreeSet.ofList_eq_ofList.2 fun id => ?_
  exact ((h.l4Frontends.filter _).map _).mem_iff

omit [CharTable] in
theorem clusterRequests_perm : (clusterRequests a).Perm (clusterRequests b) := by
  unfold clusterRequests
  rw [h.udpClusters_eq]
  exact h.clusters.map _

omit [CharTable] in
theorem frontendRequests_perm :
    (a.frontends.map fun f => frontendRequest f.tls (frontendPayload f)).Perm
      (b.frontends.map fun f => frontendRequest f.tls (frontendPayload f)) := by
  obtain ⟨fs, hsame, hperm⟩ := h.frontends
  rw [map_eq_of_forall₂ hsame fun f f' hff' => ?_]
  · exact hperm.map _
  · rw [hff'.tls_eq, frontendPayload_perm hff'.headerMatches hff'.rest]

/-- **The two IRs have one routing state.** -/
theorem routingState_eq (hlib : lib.Documented) (hkeyed : RouteKeyed lib) (hdistinct : Distinct a) :
    routingState lib b = routingState lib a := by
  have hreq : (routingRequests lib a).Perm (routingRequests lib b) := by
    rw [routingRequests_of_distinct hkeyed hdistinct.frontends hdistinct.l4Frontends,
      routingRequests_of_distinct hkeyed (h.nodup_routeKeys hdistinct.frontends)
        (h.nodup_l4Addresses hdistinct.l4Frontends)]
    exact (((h.clusterRequests_perm.append (h.backends.map _)).append
      h.frontendRequests_perm).append (h.l4Frontends.map _)).append (h.l4Frontends.map _)
  have hcheck : ∀ ir : Ir, (ir.l4Frontends.map fun f => (f.protocol, f.listener)).Nodup →
      checkL4Conflicts (uniqueL4Frontends ir.l4Frontends) = .ok () := fun ir hnd =>
    checkL4Conflicts_ok.2 (hnd.sublist ((uniqueBy_sublist _ _).map _))
  unfold routingState
  rw [hcheck a hdistinct.l4Frontends, hcheck b (h.nodup_l4Addresses hdistinct.l4Frontends),
    canonicalize_eq_of_perm hlib.json_injective hreq]

omit [CharTable] in
/-- Both IRs name declared clusters, or neither does. -/
theorem references (hrefs : checkClusterReferences a = .ok ()) :
    checkClusterReferences b = .ok () := by
  obtain ⟨hbackends, hfronts, hl4⟩ := checkClusterReferences_ok.1 hrefs
  have hdeclares : ∀ id, Declares a id → Declares b id := by
    rintro id ⟨c, hc, hid⟩
    exact ⟨c, h.clusters.mem_iff.1 hc, hid⟩
  refine checkClusterReferences_ok.2 ⟨?_, ?_, ?_⟩
  · intro x hx
    exact hdeclares _ (hbackends x (h.backends.mem_iff.2 hx))
  · intro f hf id hid
    obtain ⟨fs, hsame, hperm⟩ := h.frontends
    have hids : a.frontends.map Frontend.clusterId = fs.map Frontend.clusterId :=
      map_eq_of_forall₂ hsame fun f f' hff' => hff'.clusterId_eq
    have hmem : f.clusterId ∈ a.frontends.map Frontend.clusterId := by
      rw [hids]
      exact List.mem_map_of_mem (hperm.mem_iff.2 hf)
    obtain ⟨f₀, hf₀, heq⟩ := List.mem_map.1 hmem
    exact hdeclares id (hfronts f₀ hf₀ id (heq.trans hid))
  · intro f hf
    exact hdeclares _ (hl4 f (h.l4Frontends.mem_iff.2 hf))

end Reordered

end Routing

/-! ## One set of certificates -/

/-- The entries of two lists that stand for each other. -/
structure SameEntries (certs certs' : List Certificate) : Prop where
  left : ∀ c ∈ certs, ∃ c' ∈ certs', { c' with names := [] } = { c with names := [] }
  right : ∀ c' ∈ certs', ∃ c ∈ certs, { c' with names := [] } = { c with names := [] }
  /-- A name of an entry is one of an entry of the same material. -/
  names_left : ∀ c ∈ certs, ∀ n ∈ c.names,
    ∃ c' ∈ certs', { c' with names := [] } = { c with names := [] } ∧ n ∈ c'.names
  names_right : ∀ c' ∈ certs', ∀ n ∈ c'.names,
    ∃ c ∈ certs, { c' with names := [] } = { c with names := [] } ∧ n ∈ c.names

theorem SameEntries.symm {certs certs' : List Certificate} (h : SameEntries certs certs') :
    SameEntries certs' certs where
  left c' hc' := by
    obtain ⟨c, hc, heq⟩ := h.right c' hc'
    exact ⟨c, hc, heq.symm⟩
  right c hc := by
    obtain ⟨c', hc', heq⟩ := h.left c hc
    exact ⟨c', hc', heq.symm⟩
  names_left c' hc' n hn := by
    obtain ⟨c, hc, heq, hmem⟩ := h.names_right c' hc' n hn
    exact ⟨c, hc, heq.symm, hmem⟩
  names_right c hc n hn := by
    obtain ⟨c', hc', heq, hmem⟩ := h.names_left c hc n hn
    exact ⟨c', hc', heq.symm, hmem⟩

/-- Each list of a `Forall₂` holds what stands for a member of the other. -/
theorem exists_of_forall₂ {α β : Type} {R : α → β → Prop} {l : List α} {m : List β}
    (h : List.Forall₂ R l m) : (∀ a ∈ l, ∃ b ∈ m, R a b) ∧ ∀ b ∈ m, ∃ a ∈ l, R a b := by
  induction h with
  | nil => simp
  | cons hab _ ih =>
    refine ⟨?_, ?_⟩
    · intro a ha
      rcases List.mem_cons.1 ha with rfl | ha
      · exact ⟨_, by simp, hab⟩
      · obtain ⟨b, hb, hR⟩ := ih.1 a ha
        exact ⟨b, by simp [hb], hR⟩
    · intro b hb
      rcases List.mem_cons.1 hb with rfl | hb
      · exact ⟨_, by simp, hab⟩
      · obtain ⟨a, ha, hR⟩ := ih.2 b hb
        exact ⟨a, by simp [ha], hR⟩

theorem Reordered.sameEntries {a b : Ir} (h : Reordered a b) :
    SameEntries a.certificates b.certificates := by
  obtain ⟨parts, hsplit, hperm⟩ := h.certificates
  obtain ⟨hleft, hright⟩ := exists_of_forall₂ hsplit
  have hmem : ∀ part ∈ parts, ∀ c' ∈ part, c' ∈ b.certificates := fun part hpart c' hc' =>
    hperm.mem_iff.1 (List.mem_flatten.2 ⟨part, hpart, hc'⟩)
  refine ⟨?_, ?_, ?_, ?_⟩
  · intro c hc
    obtain ⟨part, hpart, hs⟩ := hleft c hc
    obtain ⟨c', hc'⟩ := List.exists_mem_of_ne_nil _ hs.ne_nil
    exact ⟨c', hmem part hpart c' hc', hs.material c' hc'⟩
  · intro c' hc'
    obtain ⟨part, hpart, hc'⟩ := List.mem_flatten.1 (hperm.mem_iff.2 hc')
    obtain ⟨c, hc, hs⟩ := hright part hpart
    exact ⟨c, hc, hs.material c' hc'⟩
  · intro c hc n hn
    obtain ⟨part, hpart, hs⟩ := hleft c hc
    obtain ⟨c', hc', hn'⟩ := (hs.names n).1 hn
    exact ⟨c', hmem part hpart c' hc', hs.material c' hc', hn'⟩
  · intro c' hc' n hn
    obtain ⟨part, hpart, hc'⟩ := List.mem_flatten.1 (hperm.mem_iff.2 hc')
    obtain ⟨c, hc, hs⟩ := hright part hpart
    exact ⟨c, hc, hs.material c' hc', (hs.names n).2 ⟨c', hc', hn⟩⟩

section Material

variable {c c' : Certificate} (h : { c' with names := [] } = { c with names := [] })

include h

theorem fingerprint_eq_of_material : fingerprint lib c' = fingerprint lib c := by
  have hpem : c'.certificate = c.certificate := (Certificate.mk.inj h).2.1
  simp only [fingerprint, hpem]

theorem servedChain_eq_of_material : servedChain lib c' = servedChain lib c := by
  have hpem : c'.certificate = c.certificate := (Certificate.mk.inj h).2.1
  have hchain : c'.chain = c.chain := (Certificate.mk.inj h).2.2.1
  simp only [servedChain, hpem, hchain]

theorem inGroup_iff_of_material (k : KeyedCert) : InGroup lib c' k ↔ InGroup lib c k := by
  have hlistener : c'.listener = c.listener := (Certificate.mk.inj h).1
  unfold InGroup
  rw [hlistener, fingerprint_eq_of_material h]

theorem material_eq_of_material (chain : List Der) :
    KeyedCert.material chain c' = KeyedCert.material chain c := by
  have hkey : c'.key = c.key := (Certificate.mk.inj h).2.2.2.1
  have hpem : c'.certificate = c.certificate := (Certificate.mk.inj h).2.1
  simp only [KeyedCert.material, hkey, hpem]

end Material

/-- The entries of a reordered list parse too. -/
theorem SameEntries.keyedCerts {certs certs' : List Certificate} (h : SameEntries certs certs')
    {ks : List KeyedCert} (hok : keyedCerts lib certs = .ok ks) :
    ∃ ks', Translator.keyedCerts lib certs' = .ok ks' := by
  refine keyedCerts_isOk_iff.2 fun c' hc' => ?_
  obtain ⟨c, hc, heq⟩ := h.right c' hc'
  obtain ⟨fp, chain, hparses⟩ := keyedCerts_isOk_iff.1 ⟨ks, hok⟩ c hc
  exact ⟨fp, chain, (fingerprint_eq_of_material heq).trans hparses.fingerprint,
    (servedChain_eq_of_material heq).trans hparses.chain⟩

section Groups

variable {certs certs' : List Certificate} (h : SameEntries certs certs') {ks ks' : List KeyedCert}
  (hks : Grouped lib certs ks) (hks' : Grouped lib certs' ks')

include h hks hks'

/-- A group of one list has its like in the other. -/
theorem SameEntries.exists_partner {k : KeyedCert} (hk : k ∈ ks) : ∃ k' ∈ ks', k'.key = k.key := by
  obtain ⟨c, hc, hin, -⟩ := hks.source k hk
  obtain ⟨c', hc', heq⟩ := h.left c hc
  obtain ⟨k', hk', hin'⟩ := hks'.covers c' hc'
  exact ⟨k', hk', hin'.key_eq ((inGroup_iff_of_material heq k).2 hin)⟩

/-- The smallest material of a group is not above that of its like. -/
theorem SameEntries.material_le {k k' : KeyedCert} (hk : k ∈ ks) (hk' : k' ∈ ks')
    (hkey : k'.key = k.key) :
    KeyedCert.material k'.chain k'.cert ≤ KeyedCert.material k.chain k.cert := by
  obtain ⟨c, hc, hin, hserved, hsame⟩ := hks.source k hk
  obtain ⟨c', hc', heq⟩ := h.left c hc
  have hin' : InGroup lib c' k' := (inGroup_congr hkey).2 ((inGroup_iff_of_material heq k).2 hin)
  have hserved' : servedChain lib c' = .ok k.chain :=
    (servedChain_eq_of_material heq).trans hserved
  have hle := hks'.least k' hk' c' hc' hin' k.chain hserved'
  rw [material_eq_of_material heq, ← material_names k.chain c k.cert.names, hsame] at hle
  exact hle

theorem SameEntries.names_subset {k k' : KeyedCert} (hk : k ∈ ks) (hk' : k' ∈ ks')
    (hkey : k'.key = k.key) {n : String} (hn : n ∈ k.cert.names) : n ∈ k'.cert.names := by
  obtain ⟨c, hc, hin, hnc⟩ := (hks.names k hk n).1 hn
  obtain ⟨c', hc', heq, hnc'⟩ := h.names_left c hc n hnc
  refine (hks'.names k' hk' n).2 ⟨c', hc', ?_, hnc'⟩
  exact (inGroup_congr hkey).2 ((inGroup_iff_of_material heq k).2 hin)

/-- **A group and its like serve the same.** -/
theorem SameEntries.not_changed {k k' : KeyedCert} (hk : k ∈ ks) (hk' : k' ∈ ks')
    (hkey : k'.key = k.key) : changed k k' = false := by
  have hmaterial := le_antisymm (h.symm.material_le hks' hks hk' hk hkey.symm)
    (h.material_le hks hks' hk hk' hkey)
  have hchain : k.chain = k'.chain := by
    simp only [KeyedCert.material, EmbeddingLike.apply_eq_iff_eq, Prod.mk.injEq] at hmaterial
    exact hmaterial.2.1
  have hnames : namesSet k.cert = namesSet k'.cert := by
    refine BTreeSet.ofList_eq_ofList.2 fun n => ⟨fun hn => ?_, fun hn => ?_⟩
    · exact h.names_subset hks hks' hk hk' hkey hn
    · exact h.symm.names_subset hks' hks hk' hk hkey.symm hn
  simp [changed, hnames, hchain]

/-- **There is nothing to change between the two lists.** -/
theorem SameEntries.certDiff_eq_nil : certDiff lib ks ks' = [] := by
  have hupdates : updates ks ks' = [] := by
    rw [List.eq_nil_iff_forall_not_mem]
    intro u hu
    obtain ⟨hu2, hpartner, hchanged⟩ := mem_updates.1 hu
    obtain ⟨hu1, hkey⟩ := partner_eq_some hpartner
    rw [h.not_changed hks hks' hu1 hu2 hkey.symm] at hchanged
    cases hchanged
  have hadded : addedCerts ks ks' = [] := by
    rw [List.eq_nil_iff_forall_not_mem]
    intro d hd
    obtain ⟨hdmem, hnone⟩ := mem_addedCerts.1 hd
    obtain ⟨p, hp, hkey⟩ := h.symm.exists_partner hks' hks hdmem
    exact hnone p hp hkey
  have hremoved : removedCerts ks ks' = [] := by
    rw [List.eq_nil_iff_forall_not_mem]
    intro p hp
    obtain ⟨hpmem, hnone⟩ := mem_removedCerts.1 hp
    obtain ⟨d, hd, hkey⟩ := h.exists_partner hks hks' hpmem
    exact hnone d hd hkey
  simp [certDiff, tradesOf, hupdates, hadded, hremoved, pairRotations]

end Groups

/-! ## The reconcile -/

/-- Nothing is emitted between a state and itself. -/
theorem Diffable.routingBatch_self (hlib : lib.Documented) {s : ConfigState}
    (h : Diffable lib s s) : routingBatch lib s s = [] := by
  have hheld : ∀ {o : Obj}, Holds lib s o → s.get (o.slot lib) ≠ none := fun ho => by
    rw [(get_slot_iff h.wellFormed_left).2 ho]
    exact Option.some_ne_none _
  rw [List.eq_nil_iff_forall_not_mem]
  intro r hr
  obtain ⟨t, -, ht⟩ := (h.mem_routingBatch hlib).1 hr
  cases ht with
  | addCluster hb ha => exact ha hb
  | removeCluster ha hb => exact ha hb
  | addBackend hb ha => exact ha hb
  | removeBackend ha hb => exact hheld ha hb
  | addFrontend hb ha => exact ha hb
  | removeFrontend ha hb => exact hb ha
  | addTcpFrontend hb ha => exact ha hb
  | removeTcpFrontend ha hb => exact hb ha
  | addUdpFrontend hb ha => exact ha hb
  | removeUdpFrontend ha hb => exact hb ha
  | addTcpListener hb ha => exact hheld hb ha
  | addUdpListener hb ha => exact hheld hb ha
  | activateListener ha hb => exact hb ha
  | deactivateListener hb ha => exact ha hb
  | removeListener hb ha => exact ha hb

/-- Two IRs of one routing state and of the same certificates have nothing to
reconcile. -/
theorem Reconciles.eq_nil [CharTable] (hlib : lib.Documented) {a b : Ir} {s : ConfigState}
    {ks ks' : List KeyedCert} (h : Reconciles lib a b s s ks ks')
    (hsame : SameEntries a.certificates b.certificates) : reconcile lib a b = .ok [] := by
  have hrouting := (h.convergent hlib).toDiffable.routingBatch_self hlib
  have hcerts :=
    hsame.certDiff_eq_nil (keyedCerts_ok h.previousCerts) (keyedCerts_ok h.desiredCerts)
  rw [reconcile_of_reconciles h, batchOf, rankedBatch, hrouting, hcerts]
  rfl

/-- **Reordering is never a change.** -/
theorem reconcile_reordered [CharTable] (hlib : lib.Documented) (hkeyed : RouteKeyed lib) {a b : Ir}
    (hdistinct : Distinct a) (hok : ∃ batch, reconcile lib a a = .ok batch) (h : Reordered a b) :
    reconcile lib a b = .ok [] ∧ reconcile lib b a = .ok [] := by
  obtain ⟨batch, hbatch⟩ := hok
  obtain ⟨s, s', ks, ks', hself, -⟩ := reconcile_ok_iff.1 hbatch
  have hsame := h.sameEntries
  obtain ⟨ksb, hksb⟩ := hsame.keyedCerts hself.previousCerts
  have hstate : routingState lib b = .ok s :=
    (h.routingState_eq hlib hkeyed hdistinct).trans hself.previousState
  have hab : Reconciles lib a b s s ks ksb :=
    ⟨h.references hself.references, hself.previousState, hstate, hself.previousCerts, hksb⟩
  have hba : Reconciles lib b a s s ksb ks :=
    ⟨hself.references, hstate, hself.previousState, hksb, hself.previousCerts⟩
  exact ⟨hab.eq_nil hlib hsame, hba.eq_nil hlib hsame.symm⟩

/-! ## The reference library files frontends under their route key -/

theorem spelledPredicate_headerPredicate [CharTable] (m : HeaderMatch) :
    spelledPredicate (headerPredicate m) = predicateSuffix m := by
  obtain ⟨name, kind⟩ := m
  cases kind <;> rfl

theorem displayed_applyFilters [CharTable] (payload : RequestHttpFrontend)
    (filters : SozuGateway.FrontendFilters) :
    displayed (applyFilters payload filters) = displayed payload := by
  unfold applyFilters
  cases filters.redirect <;> cases filters.rewrite <;> rfl

theorem reference_routeKeyed [CharTable] : RouteKeyed reference := by
  intro f
  show displayed (frontendPayload f) = _
  rw [frontendPayload, displayed_applyFilters]
  unfold displayed Frontend.sozuRouteKey Frontend.matchSuffix SozuPathRule.spelled pathRule
  simp only [headerPredicates, List.flatMap_map, spelledPredicate_headerPredicate,
    SocketAddress.toAddr_toWire]
  cases f.path.sozuRule <;> rfl

/-- A route with two header matches to a cluster of two backends, and a certificate. -/
def listedRoute : Ir where
  clusters := [⟨"web", .roundRobin, false, false, none, none, false, none⟩]
  frontends := [⟨"a.example.com", .pathPrefix "/", none, some "web", false,
    .v4 ⟨0, 0, 0, 0⟩ 80, {}, [⟨"X-A", .exact "1"⟩, ⟨"X-B", .exact "2"⟩]⟩]
  backends := [⟨"web", "b1", .v4 ⟨10, 0, 0, 1⟩ 8080, none, none⟩,
    ⟨"web", "b2", .v4 ⟨10, 0, 0, 2⟩ 8080, none, none⟩]
  certificates := [sampleCertificate "A" ["x", "y"]]

/-- The same, with backends and header matches swapped and the certificate spread
over two entries. -/
def relistedRoute : Ir :=
  { listedRoute with
    frontends := [⟨"a.example.com", .pathPrefix "/", none, some "web", false,
      .v4 ⟨0, 0, 0, 0⟩ 80, {}, [⟨"X-B", .exact "2"⟩, ⟨"X-A", .exact "1"⟩]⟩]
    backends := [⟨"web", "b2", .v4 ⟨10, 0, 0, 2⟩ 8080, none, none⟩,
      ⟨"web", "b1", .v4 ⟨10, 0, 0, 1⟩ 8080, none, none⟩]
    certificates := [sampleCertificate "A" ["y"], sampleCertificate "A" ["x"]] }

theorem relistedRoute_reordered : Reordered listedRoute relistedRoute where
  clusters := .refl _
  backends := .swap _ _ _
  l4Frontends := .refl _
  frontends := ⟨relistedRoute.frontends, .cons ⟨.swap _ _ _, rfl⟩ .nil, .refl _⟩
  certificates := by
    refine ⟨[relistedRoute.certificates], .cons ⟨by decide, by decide, ?_⟩ .nil, .refl _⟩
    simp [relistedRoute, sampleCertificate, or_comm]

attribute [local instance] asciiTable

/-- The two listings have nothing to reconcile. -/
theorem reconcile_relistedRoute :
    reconcile reference listedRoute relistedRoute = .ok [] ∧
      reconcile reference relistedRoute listedRoute = .ok [] := by
  have hok : (reconcile reference listedRoute listedRoute).isOk = true := by decide +kernel
  exact reconcile_reordered reference_documented reference_routeKeyed
    ⟨by decide, by decide, by decide, by decide⟩ (exists_ok_of_isOk hok) relistedRoute_reordered

end Translator

end SozuGateway
