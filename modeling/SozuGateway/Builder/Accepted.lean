import SozuGateway.Builder.Grounded
import SozuGateway.Builder.Backends

/-!
# What the shared reconcile is given

The translator refuses an IR as a whole, so an object of one tenant must not make it refuse
what the build emits for the others.

* `SemicolonFree` — the hostnames of the inputs have no `;`.
* `Sockets.Single` — a layer-4 socket has one frontend.
* `leafFingerprint`, `nodup_leaves` — a leaf of a listener has one certificate.
* `build_never_refused` — no check of the translator fails, and no frontend is dropped as
  a duplicate of another.
-/

set_option autoImplicit false

namespace SozuGateway

namespace Builder

open Lib Sozu Translator

/-! ## Hostnames -/

/-- No hostname of the inputs has a `;`, the mark between the parts of a route key. -/
structure SemicolonFree (inputs : Inputs) : Prop where
  ingresses : ∀ ingress ∈ inputs.ingresses, ∀ spec ∈ ingress.spec, ∀ rule ∈ spec.rules.getD [],
    ∀ host ∈ rule.host, ';' ∉ host.toList
  routes : ∀ route ∈ inputs.httpRoutes, ∀ hosts ∈ route.spec.hostnames, ∀ host ∈ hosts,
    ';' ∉ host.toList
  listeners : ∀ gw ∈ inputs.gateways, ∀ l ∈ gw.spec.listeners, ∀ host ∈ l.hostname,
    ';' ∉ host.toList

/-- A hostname a route serves is the route's own, the listener's, or any. -/
theorem mem_effectiveHostnames {route : Option (List String)} {listener : Option String}
    {host : String} (h : host ∈ effectiveHostnames route listener) :
    (∃ hosts ∈ route, host ∈ hosts) ∨ host ∈ listener ∨ host = "*" := by
  cases route with
  | none =>
    cases listener with
    | none => exact .inr (.inr (List.mem_singleton.1 h))
    | some l => exact .inr (.inl (congrArg some (List.mem_singleton.1 h).symm))
  | some hosts =>
    cases listener with
    | none => exact .inl ⟨hosts, rfl, h⟩
    | some l =>
      obtain ⟨x, hx, hmeet⟩ := List.mem_filterMap.1 h
      unfold hostIntersection at hmeet
      split at hmeet
      · exact .inl ⟨hosts, rfl, Option.some.inj hmeet ▸ hx⟩
      split at hmeet
      · exact .inr (.inl hmeet)
      · cases hmeet

section Accepted

variable [External] [CharTable] {cfg : BuildConfig} {inputs : Inputs} {index : Index}

/-- **The frontends of the walks are on addresses Sōzu listens on**, for hostnames a route
key tells. -/
theorem placeable_walks {walk : IngressWalk} (hfree : SemicolonFree inputs)
    (h : ingressWalk cfg inputs index = some walk) {sf : SourcedFrontend}
    (hsf : .frontend sf ∈ walk.emissions ++ (gatewayWalk cfg inputs index).emissions) :
    Placeable sf.frontend := by
  rcases List.mem_append.1 hsf with hsf | hsf
  · obtain ⟨ingress, hlisted, -, emissions, hemissions, hmem, -⟩ := exists_ingress_of_mem h hsf
    exact (grounded_ingressEmissions (hfree.ingresses ingress hlisted) hemissions sf hmem).1
  · rcases traced_of_gatewayWalk hsf with hreport | ⟨cert, heq, -⟩ |
      ⟨sf', heq, route, pref, gw, l, protocol, entry, hfrom⟩
    · exact absurd hreport Emission.IsReport.not_frontend
    · cases heq
    obtain rfl := Emission.frontend.inj heq
    refine ⟨?_, hfrom.bind ▸ rfl⟩
    obtain ⟨info, hattached⟩ := hfrom.attached
    rcases mem_effectiveHostnames hfrom.hostname with ⟨hosts, hhosts, hmem⟩ | hlistener | hany
    · exact hfree.routes route hfrom.listed hosts hhosts _ hmem
    · exact hfree.listeners gw (List.mem_of_mem_filter hattached.carries.gateway) l
        hattached.carries.declared _ hlistener
    · rw [hany]
      decide

/-! ## Clusters -/

/-- Every cluster the walks' frontends name is given by them. -/
theorem gives_walks {walk : IngressWalk} (hfree : SemicolonFree inputs)
    (h : ingressWalk cfg inputs index = some walk) {sf : SourcedFrontend}
    (hsf : .frontend sf ∈ walk.emissions ++ (gatewayWalk cfg inputs index).emissions) {id : String}
    (hid : sf.frontend.clusterId = some id) :
    Gives (walk.emissions ++ (gatewayWalk cfg inputs index).emissions) id := by
  rcases List.mem_append.1 hsf with hsf | hsf
  · obtain ⟨ingress, hlisted, -, emissions, hemissions, hmem, hsub⟩ := exists_ingress_of_mem h hsf
    have hgives := (grounded_ingressEmissions (hfree.ingresses ingress hlisted) hemissions
      sf hmem).2 id hid
    exact (hgives.mono hsub).mono (List.subset_append_left _ _)
  · exact ((grounded_gatewayWalk sf hsf).2 id hid).mono (List.subset_append_right _ _)

omit [CharTable] in
/-- A cluster that is given is in the table, under its own id. -/
theorem declares_of_gives {l : List Emission} {traffic : Traffic} {id : String} (h : Gives l id) :
    ∃ c ∈ (settledClusters (tables l).clusters traffic).toList.map Prod.snd, c.id = id := by
  obtain ⟨r, hr, hid⟩ := h
  have hfound := clusters_tables l id
  obtain ⟨first, hfirst⟩ : ∃ first, ((routes l).find? fun r => r.cluster.id = id) = some first := by
    rw [← Option.isSome_iff_exists, List.find?_isSome]
    exact ⟨r, mem_routes.2 hr, decide_eq_true hid⟩
  rw [hfirst] at hfound
  obtain ⟨c, hc, hsame⟩ := Option.map_eq_some_iff.1 hfound
  have hfirstId : first.cluster.id = id := by simpa using List.find?_some hfirst
  have hcid : c.id = id := (congrArg Cluster.id hsame).trans hfirstId
  refine ⟨if traffic.runsCheck id then c else { c with healthCheck := none },
    List.mem_map.2 ⟨(id, _), Std.ExtTreeMap.mem_toList_iff_getElem?_eq_some.2 ?_, rfl⟩, ?_⟩
  · rw [settledClusters, Std.ExtTreeMap.getElem?_map, hc]
    rfl
  · split <;> exact hcid

omit [CharTable] in
/-- **The ids of the clusters are distinct.** -/
theorem nodup_clusterIds (l : List Emission) (traffic : Traffic) :
    (((settledClusters (tables l).clusters traffic).toList.map Prod.snd).map Cluster.id).Nodup := by
  have hown : ∀ x ∈ (settledClusters (tables l).clusters traffic).toList, x.2.id = x.1 := by
    intro x hx
    have hat := Std.ExtTreeMap.mem_toList_iff_getElem?_eq_some.1 hx
    rw [settledClusters, Std.ExtTreeMap.getElem?_map] at hat
    obtain ⟨c, hc, hsettled⟩ := Option.map_eq_some_iff.1 hat
    obtain ⟨r, -, hid, http2, rfl⟩ := exists_of_clusters_tables hc
    rw [← hsettled]
    split <;> exact hid
  rw [List.map_map, List.nodup_iff_pairwise_ne, List.pairwise_map]
  refine Std.ExtTreeMap.distinct_keys_toList.imp_of_mem fun {x y} hx hy hdistinct heq => ?_
  refine hdistinct (Std.LawfulEqOrd.compare_eq_iff_eq.2 ?_)
  rw [← hown x hx, ← hown y hy]
  exact heq

omit [CharTable] in
/-- A backend of the table is for a cluster that is given. -/
theorem gives_of_backends {l : List Emission} {id : String} {b : Backend}
    (h : (tables l).backends[id]? = some b) : Gives l b.clusterId := by
  induction l using List.reverseRecOn with
  | nil =>
    have hempty : (tables []).backends[id]? = none := BTreeMap.getElem?_empty id
    rw [hempty] at h
    cases h
  | append_singleton l e ih =>
    rw [tables_append] at h
    have hkept : (tables l).backends[id]? = some b → Gives (l ++ [e]) b.clusterId :=
      fun hold => (ih hold).mono (List.subset_append_left _ _)
    cases e with
    | service r =>
      have hfold : ((Table.backendsOf r _).foldl (fun backends b =>
        Table.orInsert backends b.backendId b) (tables l).backends)[id]? = some b := h
      rw [getElem?_foldl_orInsert, Option.or_eq_some_iff] at hfold
      rcases hfold with hold | ⟨-, hnew⟩
      · exact hkept hold
      · have hcluster := (mem_backendsOf (List.mem_of_find?_eq_some hnew)).1
        exact ⟨r, List.mem_append_right _ (List.mem_singleton_self _), hcluster.symm⟩
    | _ => exact hkept h

/-! ## Layer-4 sockets -/

/-- A frontend of its own for each socket that has one. -/
structure Sockets.Single (sockets : Sockets) : Prop where
  taken : ∀ f ∈ sockets.frontends,
    (sockets.winners[(toLex (f.protocol, f.listener) : L4Protocol ×ₗ SocketAddr)]?).isSome
  nodup : (sockets.frontends.map fun f => (f.protocol, f.listener)).Nodup

omit [External] [CharTable] in
theorem Sockets.Single.settle {sockets : Sockets} (h : sockets.Single) (claim : L4Claim) :
    (sockets.settle claim).Single := by
  unfold Sockets.settle
  cases hwinner : sockets.winners[claim.socket]? with
  | none =>
    refine ⟨fun f hf => ?_, ?_⟩
    · rw [BTreeMap.getElem?_insert]
      split
      · rfl
      rename_i hother
      rcases List.mem_append.1 hf with hf | hf
      · exact h.taken f hf
      · obtain rfl := List.mem_singleton.1 hf
        exact absurd rfl hother
    · rw [List.map_append, List.map_singleton]
      refine List.nodup_append.2 ⟨h.nodup, List.nodup_singleton _, ?_⟩
      rintro socket hsocket _ hlast rfl
      obtain ⟨f, hf, hsame⟩ := List.mem_map.1 hsocket
      have htaken := h.taken f hf
      have hclaimed : (toLex (f.protocol, f.listener) : L4Protocol ×ₗ SocketAddr) =
          claim.socket := congrArg toLex (hsame.trans (List.mem_singleton.1 hlast))
      rw [hclaimed, hwinner] at htaken
      cases htaken
  | some winner =>
    dsimp only
    split <;> exact ⟨h.taken, h.nodup⟩

omit [External] [CharTable] in
/-- **A layer-4 socket has one frontend.** -/
theorem nodup_l4Frontends (claims : List L4Claim) :
    ((settleSockets claims).l4Frontends.map fun f => (f.protocol, f.listener)).Nodup := by
  have hfold : ∀ (l : List L4Claim) (sockets : Sockets), sockets.Single →
      (l.foldl Sockets.settle sockets).Single := by
    intro l
    induction l with
    | nil => exact fun _ h => h
    | cons claim l ih => exact fun sockets h => ih _ (h.settle claim)
  have hempty : Sockets.Single {} := ⟨fun _ hf => absurd hf List.not_mem_nil, List.nodup_nil⟩
  have hsingle : (settleSockets claims).Single := hfold _ _ hempty
  exact ((sortBy_perm _ _).map _).nodup_iff.2 hsingle.nodup

/-! ## Certificates -/

/-- The fingerprint of the leaf of a certificate of the IR. -/
def leafFingerprint (c : Certificate) : Option Fingerprint :=
  (External.parsePem c.certificate).toOption.map External.fingerprint

omit [CharTable] in
/-- A certificate read from a Secret has the fingerprint of its leaf. -/
theorem leafFingerprint_of_extractCert {secret : Secret} {listener : SocketAddr}
    {names : List String} {cert : FingerprintedCert}
    (h : extractCert secret listener names = .ok cert) :
    leafFingerprint cert.cert = some cert.fingerprint := by
  unfold extractCert at h
  obtain ⟨data, -, h⟩ := bind_eq_ok h
  obtain ⟨crt, -, h⟩ := bind_eq_ok h
  obtain ⟨key, -, h⟩ := bind_eq_ok h
  obtain ⟨crt, -, h⟩ := bind_eq_ok h
  obtain ⟨key, -, h⟩ := bind_eq_ok h
  split at h
  · cases h
  rename_i leaf chain _
  obtain ⟨der, hder, h⟩ := bind_eq_ok h
  obtain ⟨inferred, -, h⟩ := bind_eq_ok h
  obtain ⟨kept, -, h⟩ := bind_eq_ok h
  obtain ⟨-, -, h⟩ := bind_eq_ok h
  obtain ⟨signing, -, h⟩ := bind_eq_ok h
  obtain ⟨-, -, h⟩ := bind_eq_ok h
  obtain rfl := Except.ok.inj h
  unfold leafFingerprint
  cases hparsed : External.parsePem leaf with
  | ok der' =>
    rw [hparsed] at hder
    obtain rfl := Except.ok.inj hder
    rfl
  | error reason =>
    rw [hparsed] at hder
    cases hder

omit [External] [CharTable] in
theorem nodup_mergedLeaves (certs : List FingerprintedCert) :
    ((mergedLeaves certs).map Prod.fst).Nodup := by
  unfold mergedLeaves
  rw [List.map_map, List.nodup_iff_pairwise_ne, List.pairwise_map]
  refine (Std.ExtTreeMap.distinct_keys_toList.sublist List.filter_sublist).imp
    fun hdistinct heq => ?_
  exact hdistinct (compare_eq_iff_eq.2 heq)

omit [External] [CharTable] in
/-- A merged leaf keeps a name. -/
theorem names_ne_nil_of_mergedLeaves {certs : List FingerprintedCert} {leaf : LeafKey}
    {cert : Certificate} (h : (leaf, cert) ∈ mergedLeaves certs) : cert.names ≠ [] := by
  obtain ⟨entry, hentry, heq⟩ := List.mem_map.1 h
  obtain ⟨-, rfl⟩ := Prod.mk.inj heq
  have hnames := (List.mem_filter.1 hentry).2
  intro hnil
  simp only [BTreeSet.isEmpty, Bool.not_eq_true', List.isEmpty_eq_false_iff] at hnames
  exact hnames hnil

/-- **A leaf of a listener has one certificate**, with a name. -/
theorem nodup_leaves {emissions : List Emission}
    (hread : ∀ c, .certificate c ∈ emissions →
      leafFingerprint c.cert.cert = some c.cert.fingerprint) :
    ((arbitrate cfg inputs emissions).irCertificates.map fun c =>
      (c.listener, leafFingerprint c)).Nodup ∧
        ∀ c ∈ (arbitrate cfg inputs emissions).irCertificates,
          c.names ≠ [] ∧ (leafFingerprint c).isSome := by
  have hleaf : ∀ x ∈ mergedLeaves (arbitrate cfg inputs emissions).certificates,
      (x.2.listener, leafFingerprint x.2) = ((ofLex x.1).1, some (ofLex x.1).2) := by
    rintro ⟨leaf, cert⟩ hx
    obtain ⟨⟨fc, hfc, hkey, hserved⟩, -⟩ := mem_mergedLeaves hx
    obtain ⟨c, hc, rfl⟩ := List.mem_map.1 hfc
    obtain ⟨e, he, hemitted⟩ := List.mem_filterMap.1 hc
    have hcert : e = .certificate c := by
      cases e <;> cases hemitted
      rfl
    have hfingerprint : leafFingerprint cert = leafFingerprint c.cert.cert :=
      congrArg (fun text => (External.parsePem text).toOption.map External.fingerprint)
        (congrArg Certificate.certificate hserved).symm
    refine Prod.ext ?_ ?_
    · rw [← hkey]
      exact (congrArg Certificate.listener hserved).symm
    · rw [← hkey]
      exact hfingerprint.trans (hread c (hcert ▸ he))
  constructor
  · refine ((sortBy_perm _ (mergeCertificates _)).map _).nodup_iff.2 ?_
    have hkeys : ((mergeCertificates (arbitrate cfg inputs emissions).certificates).map fun c =>
        (c.listener, leafFingerprint c)) =
          ((mergedLeaves (arbitrate cfg inputs emissions).certificates).map Prod.fst).map
            fun leaf => ((ofLex leaf).1, some (ofLex leaf).2) := by
      rw [mergeCertificates, List.map_map, List.map_map]
      exact List.map_congr_left hleaf
    rw [hkeys]
    refine (nodup_mergedLeaves _).map fun leaf leaf' heq => ?_
    obtain ⟨hlistener, hfingerprint⟩ := Prod.mk.inj heq
    exact ofLex.injective (Prod.ext hlistener (Option.some.inj hfingerprint))
  · intro c hc
    obtain ⟨⟨leaf, cert⟩, hmem, rfl⟩ := List.mem_map.1 (mem_sortBy.1 hc)
    have hat := congrArg Prod.snd (hleaf _ hmem)
    exact ⟨names_ne_nil_of_mergedLeaves hmem, Option.isSome_iff_exists.2 ⟨_, hat⟩⟩

/-! ## The IR is accepted -/

omit [External] in
/-- Where the route keys are distinct, neither deduplication drops a frontend. -/
theorem httpFrontendPayloads_of_nodup {lib : Library} (hlib : RouteKeyed lib) {ir : Ir}
    (h : (ir.frontends.map routeKey).Nodup) :
    httpFrontendPayloads lib ir = ir.frontends.map fun f => (f.tls, frontendPayload f) := by
  have hfirst : uniqueFrontends ir = ir.frontends := uniqueBy_eq_self h
  have hinjective : Function.Injective fun key : SozuRouteKey => (key.https, key.key) := by
    rintro ⟨https, key⟩ ⟨https', key'⟩ heq
    obtain ⟨rfl, rfl⟩ := Prod.mk.inj heq
    rfl
  have hkeys : ∀ f : Frontend, (f.tls, lib.display (frontendPayload f)) =
      ((routeKey f).https, (routeKey f).key) := fun f => Prod.ext rfl (hlib f)
  unfold httpFrontendPayloads
  rw [hfirst]
  refine uniqueBy_eq_self ?_
  have hnodup := h.map hinjective
  rw [List.map_map] at hnodup ⊢
  exact (List.map_congr_left fun f _ => hkeys f : _ = List.map _ _) ▸ hnodup

variable {out : BuildOutput}

/-- **What the build emits, the translator never refuses.** Where no hostname has a `;`:
the route keys of the frontends are distinct, copies included, and so are the ids of the
clusters, the sockets of the layer-4 frontends and the leaves of each listener; every
cluster an object names is declared, every certificate has a name. So no check fails, and
neither deduplication drops a frontend. -/
theorem build_never_refused (h : build cfg inputs = some out) (hfree : SemicolonFree inputs) :
    (out.ir.frontends.map routeKey).Nodup ∧ (out.ir.clusters.map Cluster.id).Nodup ∧
      checkClusterReferences out.ir = .ok () ∧ checkL4Conflicts out.ir.l4Frontends = .ok () ∧
      (∀ lib : Library, RouteKeyed lib → httpFrontendPayloads lib out.ir =
        out.ir.frontends.map fun f => (f.tls, frontendPayload f)) ∧
      (out.ir.certificates.map fun c => (c.listener, leafFingerprint c)).Nodup ∧
        ∀ c ∈ out.ir.certificates, c.names ≠ [] ∧ (leafFingerprint c).isSome := by
  obtain ⟨walk, hwalk, rfl⟩ := Option.map_eq_some_iff.1 h
  set emissions := walk.emissions ++
    (gatewayWalk cfg inputs (Index.build inputs cfg.healthCheck)).emissions with hemissions
  set arbitrated := arbitrate cfg inputs emissions
  have hkept : (resolveFrontendCollisions (emissions.filterMap Emission.frontend?)
      (ownerClaims cfg inputs)).kept = uniqueBy SourcedFrontend.key
        (settled (ownerClaims cfg inputs) (emissions.filterMap Emission.frontend?)) :=
    kept_resolve _ _
  have hroutes : ((arbitrated.lifted.kept.map SourcedFrontend.frontend ++
      arbitrated.lifted.copies).map routeKey).Nodup := by
    refine nodup_routeKeys_lift ?_ fun sf hsf => ?_
    · rw [hkept]
      exact nodup_map_uniqueBy SourcedFrontend.key _
    · rw [hkept] at hsf
      obtain ⟨e, he, hfrontend⟩ := List.mem_filterMap.1 (mem_settled.1 (mem_of_mem_uniqueBy hsf))
      have hcert : e = .frontend sf := by
        cases e <;> cases hfrontend
        rfl
      exact placeable_walks hfree hwalk (hcert ▸ he)
  have hfrontends : ∀ f ∈ arbitrated.lifted.kept.map SourcedFrontend.frontend ++
      arbitrated.lifted.copies, ∀ id, f.clusterId = some id → Gives emissions id := by
    intro f hf id hid
    obtain ⟨sf, hsf, hsame⟩ := mem_irFrontends hf
    refine gives_walks hfree hwalk hsf ?_
    rcases hsame with rfl | ⟨-, p, -, rfl⟩
    · exact hid
    · exact hid
  set index := Index.build inputs cfg.healthCheck
  have hl4 : ∀ f ∈ (gatewayWalk cfg inputs index).sockets.l4Frontends,
      Gives emissions f.clusterId := fun f hf =>
    (gives_l4Frontends hf).mono (List.subset_append_right _ _)
  have hread : ∀ c, .certificate c ∈ emissions →
      leafFingerprint c.cert.cert = some c.cert.fingerprint := by
    intro c hc
    have hloaded : Loaded cfg inputs c := ⟨walk, hwalk, hc⟩
    rcases hloaded.readByOwner with ⟨-, -, -, -, secret, -, -, listener, names, hextract⟩ |
      ⟨-, -, -, -, -, secret, -, -, listener, names, hextract⟩
    · exact leafFingerprint_of_extractCert hextract
    · exact leafFingerprint_of_extractCert hextract
  refine ⟨hroutes, nodup_clusterIds emissions _, checkClusterReferences_ok.2 ⟨fun b hb => ?_,
    fun f hf id hid => declares_of_gives (hfrontends f hf id hid), fun f hf =>
      declares_of_gives (hl4 f hf)⟩, checkL4Conflicts_ok.2 (nodup_l4Frontends _),
      fun lib hlib => ?_, nodup_leaves hread⟩
  · obtain ⟨⟨id, b⟩, hmem, rfl⟩ := List.mem_map.1 hb
    exact declares_of_gives
      (gives_of_backends (Std.ExtTreeMap.mem_toList_iff_getElem?_eq_some.1 hmem))
  · exact httpFrontendPayloads_of_nodup hlib hroutes

end Accepted

/-! ## A copy -/

/-- A header match on every path of a host, and a plain route to one of its paths that
outranks it. -/
def canaryInputs : Inputs where
  services := [{ metadata := { name := some "web" }, ports := some [{ port := 80 }] }]
  gatewayClasses := [⟨{ name := some "sozu" }, "sozu.io/gateway-controller"⟩]
  gateways := [{
    metadata := { name := some "gw" }
    spec := {
      gatewayClassName := "sozu"
      listeners := [{ name := "web", port := 80, protocol := "HTTP" }] } }]
  httpRoutes := [{
    metadata := { name := some "site" }
    spec := {
      hostnames := some ["example.test"]
      parentRefs := some [{ name := "gw" }]
      rules := some [
        { backendRefs := some [{ name := "web", port := some 80 }]
          matches_ := some [{ path := some { value := some "/api" } }] },
        { backendRefs := some [{ name := "web", port := some 80 }]
          matches_ := some [{ headers := some [{ name := "x-canary", value := "1" }] }] }] } }]

attribute [local instance] External.plain Sozu.asciiTable in
/-- The copy of the plain route is a frontend of its own. -/
theorem build_never_refused_canary :
    ∃ out, build {} canaryInputs = some out ∧ out.ir.frontends.length = 3 ∧
      (out.ir.frontends.map routeKey).Nodup ∧ checkClusterReferences out.ir = .ok () := by
  have hout : ((build {} canaryInputs).any fun out =>
      decide (out.ir.frontends.length = 3)) = true := by
    decide +kernel
  obtain ⟨out, hbuild, hlength⟩ := (Option.any_eq_true _ _).1 hout
  have hfree : SemicolonFree canaryInputs := by
    refine ⟨fun ingress hingress => absurd hingress List.not_mem_nil,
      fun route hroute hosts hhosts host hhost => ?_, fun gw hgw l hl host hhost => ?_⟩
    · obtain rfl := List.mem_singleton.1 hroute
      obtain rfl := Option.some.inj hhosts
      obtain rfl := List.mem_singleton.1 hhost
      decide
    · obtain rfl := List.mem_singleton.1 hgw
      obtain rfl := List.mem_singleton.1 hl
      cases hhost
  have haccepted := build_never_refused hbuild hfree
  exact ⟨out, hbuild, of_decide_eq_true hlength, haccepted.1, haccepted.2.2.1⟩

end Builder

end SozuGateway
