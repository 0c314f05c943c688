import SozuGateway.Builder.Accepted
import SozuGateway.Builder.Http2
import SozuGateway.Builder.Reordered

/-!
# The build does not depend on the order of the objects

The caches list their objects in no order to rely on, so the same objects must give the
same IR.

* `clusters_perm`, `backends_perm_eq` — the clusters and the backends, from the emissions in
  any order.
* `mergedLeaves_congr`, `arbitrated_congr` — the certificates, from those loaded.
* `settled_eq`, `settled_reordered` — the frontends, by claim and then as their object
  lists them.
* `frontends_settleSockets_eq`, `l4Frontends_reordered` — the layer-4 frontends.
* `build_order_free` — **the IR and the referenced Services are the same.**
-/

set_option autoImplicit false

namespace SozuGateway

namespace Builder

open Lib

/-! ## The tables -/

section Tables

variable [External] {l l' : List Emission}

omit [External] in
theorem routes_perm (h : l.Perm l') : (routes l).Perm (routes l') := h.filterMap _

omit [External] in
theorem ReferencesApart.perm (hapart : ReferencesApart l) (h : l.Perm l') : ReferencesApart l' where
  unique r hr r' hr' :=
    hapart.unique r ((routes_perm h).mem_iff.2 hr) r' ((routes_perm h).mem_iff.2 hr')
  plain r hr := hapart.plain r ((routes_perm h).mem_iff.2 hr)
  nodup r hr := hapart.nodup r ((routes_perm h).mem_iff.2 hr)

theorem clusters_perm (h : l.Perm l') (hapart : ReferencesApart l)
    (hplain : ∀ r ∈ routes l, r.cluster.http2 = false) (hl : Preceded l) (hl' : Preceded l') :
    (tables l).clusters = (tables l').clusters := by
  have hplain' : ∀ r ∈ routes l', r.cluster.http2 = false := fun r hr =>
    hplain r ((routes_perm h).mem_iff.2 hr)
  refine BTreeMap.ext fun id => ?_
  have hsame : (tables l).clusters[id]?.map withoutHttp2 =
      (tables l').clusters[id]?.map withoutHttp2 := by
    rw [clusters_tables, clusters_tables, find?_perm (routes_perm h)]
    intro r hr r' hr' hid hid'
    exact hapart.unique r hr r' hr' ((of_decide_eq_true hid).trans (of_decide_eq_true hid').symm)
  cases hc : (tables l).clusters[id]? with
  | none =>
      rw [hc] at hsame
      exact (Option.map_eq_none_iff.1 hsame.symm).symm
  | some c =>
      rw [hc] at hsame
      obtain ⟨c', hc', hcleared⟩ := Option.map_eq_some_iff.1 hsame.symm
      obtain ⟨http2, rfl⟩ := exists_of_withoutHttp2 hcleared
      have hasked := http2_clusters_tables hl hplain hc
      have hasked' := http2_clusters_tables hl' hplain' hc'
      have hhttp2 : http2 = c.http2 := by
        rw [Bool.eq_iff_iff, hasked, h.mem_iff]
        exact hasked'
      rw [hc', hhttp2]

theorem backends_perm_eq (h : l.Perm l') (hapart : ReferencesApart l) :
    (tables l).backends = (tables l').backends := by
  have hsub : ∀ {m m' : List Emission}, ReferencesApart m → ReferencesApart m' → m.Perm m' →
      ∀ (id : String) (b : Backend), (tables m).backends[id]? = some b →
        (tables m').backends[id]? = some b := by
    intro m m' hm hm' hperm id b hb
    obtain ⟨rfl, r, hr, hmem⟩ := exists_of_backends_tables hm hb
    exact getElem?_backends_tables hm' ((routes_perm hperm).mem_iff.1 hr) hmem
  have hapart' := hapart.perm h
  refine BTreeMap.ext fun id => Option.ext fun b => ?_
  exact ⟨hsub hapart hapart' h id b, hsub hapart' hapart h.symm id b⟩

end Tables

/-! ## The certificates -/

/-- Leaf keys compare by their linear order. -/
instance (priority := 1100) transCmp_leafKey :
    Std.TransCmp (@compare LeafKey LinearOrder.toOrd) := Lib.transCmp

/-- No copy of the leaf is served before the one that is. -/
def ServedFirst (certs : List FingerprintedCert)
    (merged : BTreeMap LeafKey (Certificate × BTreeSet String)) (key : LeafKey) : Prop :=
  ∀ entry, merged[key]? = some entry →
    ∀ fc ∈ certs, fc.leafKey = key → servedRank entry.1 ≤ servedRank fc.cert

theorem ServedFirst.mergeOne {certs : List FingerprintedCert}
    {merged : BTreeMap LeafKey (Certificate × BTreeSet String)} {key : LeafKey}
    (h : ServedFirst certs merged key) (hmerged : Merged certs merged key)
    (fc : FingerprintedCert) : ServedFirst (certs ++ [fc]) (mergeOne merged fc) key := by
  intro entry hentry fc' hfc' hkey'
  unfold Builder.mergeOne at hentry
  unfold Merged at hmerged
  by_cases hkey : fc.leafKey = key
  · subst hkey
    cases hm : merged[fc.leafKey]? with
    | none =>
        rw [hm] at hentry hmerged
        rw [BTreeMap.getElem?_insert, if_pos rfl] at hentry
        obtain rfl := Option.some.inj hentry
        rcases List.mem_append.1 hfc' with hold | hnew
        · exact absurd hkey' (hmerged fc' hold)
        · rw [List.mem_singleton.1 hnew]
    | some current =>
        rw [hm] at hentry
        rw [BTreeMap.getElem?_insert, if_pos rfl] at hentry
        obtain rfl := Option.some.inj hentry
        have hcurrent := h current hm
        dsimp only
        split
        · rename_i hfirst
          have hlt : servedRank fc.cert < servedRank current.1 := of_decide_eq_true hfirst
          rcases List.mem_append.1 hfc' with hold | hnew
          · exact hlt.le.trans (hcurrent fc' hold hkey')
          · rw [List.mem_singleton.1 hnew]
        · rename_i hlast
          have hle : servedRank current.1 ≤ servedRank fc.cert :=
            not_lt.1 fun hlt => hlast (decide_eq_true hlt)
          rcases List.mem_append.1 hfc' with hold | hnew
          · exact hcurrent fc' hold hkey'
          · rwa [List.mem_singleton.1 hnew]
  · have hold : merged[key]? = some entry := by
      split at hentry <;>
        exact ((BTreeMap.getElem?_insert _ _ _ _).trans (if_neg hkey)).symm.trans hentry
    rcases List.mem_append.1 hfc' with hmem | hnew
    · exact h entry hold fc' hmem hkey'
    · exact absurd (List.mem_singleton.1 hnew ▸ hkey') hkey

theorem servedFirst_foldl (certs : List FingerprintedCert) (key : LeafKey) :
    ServedFirst certs (certs.foldl mergeOne ∅) key := by
  induction certs using List.reverseRecOn with
  | nil => exact fun _ _ _ hfc => absurd hfc List.not_mem_nil
  | append_singleton certs fc ih =>
      rw [List.foldl_append]
      exact ih.mergeOne (merged certs key) fc

/-- A leaf's certificate as it is served, with the names of all its copies. -/
def servedEntry (entry : Certificate × BTreeSet String) : Certificate × BTreeSet String :=
  ({ entry.1 with names := entry.2.toList }, entry.2)

/-- The material of a certificate is told by its listener and its rank. -/
theorem eq_of_servedRank {c d : Certificate} {names : List String}
    (hlistener : c.listener = d.listener) (h : servedRank c = servedRank d) :
    { c with names := names } = { d with names := names } := by
  have hchain : c.chain = d.chain := congrArg (fun r => (ofLex (ofLex r).2).1) h
  have hkey : c.key = d.key := congrArg (fun r => (ofLex (ofLex (ofLex r).2).2).1) h
  have hleaf : c.certificate = d.certificate :=
    congrArg (fun r => (ofLex (ofLex (ofLex r).2).2).2) h
  cases c
  cases d
  simp_all

/-- **The leaves served depend on the copies alone**, not on their order. -/
theorem mergedLeaves_congr {certs certs' : List FingerprintedCert}
    (h : ∀ fc, fc ∈ certs ↔ fc ∈ certs') : mergedLeaves certs = mergedLeaves certs' := by
  have hserved : ∀ certs : List FingerprintedCert, mergedLeaves certs =
      (((certs.foldl mergeOne ∅).map fun _ => servedEntry).toList.filter fun entry =>
        !entry.2.2.isEmpty).map fun entry => (entry.1, entry.2.1) := by
    intro certs
    rw [Std.ExtTreeMap.toList_map, List.filter_map, List.map_map]
    rfl
  have hsub : ∀ {certs certs' : List FingerprintedCert}, (∀ fc, fc ∈ certs ↔ fc ∈ certs') →
      ∀ (key : LeafKey) (entry : Certificate × BTreeSet String),
        (certs.foldl mergeOne ∅)[key]?.map servedEntry = some entry →
          (certs'.foldl mergeOne ∅)[key]?.map servedEntry = some entry := by
    intro certs certs' h key entry hentry
    obtain ⟨⟨served, names⟩, hat, rfl⟩ := Option.map_eq_some_iff.1 hentry
    have hmerged := merged certs key
    rw [Merged, hat] at hmerged
    obtain ⟨⟨fc, hfc, hkey, rfl⟩, hnames⟩ := hmerged
    have hmerged' := merged certs' key
    rw [Merged] at hmerged'
    cases hat' : (certs'.foldl mergeOne ∅)[key]? with
    | none =>
        rw [hat'] at hmerged'
        exact absurd hkey (hmerged' fc ((h fc).1 hfc))
    | some entry' =>
        obtain ⟨served', names'⟩ := entry'
        rw [hat'] at hmerged'
        obtain ⟨⟨fc', hfc', hkey', rfl⟩, hnames'⟩ := hmerged'
        have hsame : names' = names := by
          refine BTreeSet.ext fun name => ?_
          rw [hnames, hnames']
          simp only [h]
        subst hsame
        have hle := servedFirst_foldl certs key _ hat fc' ((h fc').2 hfc') hkey'
        have hge := servedFirst_foldl certs' key _ hat' fc ((h fc).1 hfc) hkey
        have hlistener : fc'.cert.listener = fc.cert.listener :=
          congrArg (fun k => (ofLex k).1) (hkey'.trans hkey.symm)
        refine congrArg some (Prod.ext ?_ rfl)
        exact eq_of_servedRank hlistener (le_antisymm hge hle)
  rw [hserved, hserved]
  have htable : ((certs.foldl mergeOne ∅).map fun _ => servedEntry) =
      (certs'.foldl mergeOne ∅).map fun _ => servedEntry := by
    refine BTreeMap.ext fun key => ?_
    rw [Std.ExtTreeMap.getElem?_map, Std.ExtTreeMap.getElem?_map]
    refine Option.ext fun entry => ?_
    exact ⟨hsub h key entry, hsub (fun fc => (h fc).symm) key entry⟩
  rw [htable]

/-- **The names a certificate keeps depend on the certificates alone.** -/
theorem arbitrated_congr {claims : BTreeMap OwnerIdent OwnerClaim} {certs certs' : List ClaimedCert}
    (h : ∀ c, c ∈ certs ↔ c ∈ certs') {c : ClaimedCert} (hc : c ∈ certs) :
    c.arbitrated claims certs = c.arbitrated claims certs' := by
  have hkept : ∀ name ∈ c.names,
      keepsName claims certs c name = keepsName claims certs' c name := by
    intro name hname
    obtain ⟨w, -, hw⟩ := @exists_owner claims certs _ c hc (List.mem_map_of_mem hname)
    have hw' : IsOwner claims certs' (c.nameKey name) w :=
      ⟨⟨(h w).1 hw.1.1, hw.1.2⟩, fun d hd => hw.2 d ((h d).2 hd)⟩
    have hloaded : loadedBy certs w.owner (c.nameKey name) =
        loadedBy certs' w.owner (c.nameKey name) := by
      unfold loadedBy
      simp only [h]
    rw [Bool.eq_iff_iff, keepsName_iff hc hname hw, keepsName_iff ((h c).1 hc) hname hw', hloaded]
  unfold ClaimedCert.arbitrated
  rw [List.filter_congr hkept]

/-- The certificates served depend on those loaded, not on their order. -/
theorem mergeCertificates_congr {claims : BTreeMap OwnerIdent OwnerClaim}
    {certs certs' : List ClaimedCert} (h : ∀ c, c ∈ certs ↔ c ∈ certs') :
    mergeCertificates (arbitrateCertificateNames certs claims).1 =
      mergeCertificates (arbitrateCertificateNames certs' claims).1 := by
  refine congrArg (List.map Prod.snd) (mergedLeaves_congr fun fc => ?_)
  simp only [arbitrateCertificateNames, List.mem_map]
  constructor
  · rintro ⟨c, hc, rfl⟩
    exact ⟨c, (h c).1 hc, (arbitrated_congr h hc).symm⟩
  · rintro ⟨c, hc, rfl⟩
    exact ⟨c, (h c).2 hc, arbitrated_congr h ((h c).2 hc)⟩

/-! ## The frontends -/

/-- The frontends are settled by claim, each object's in its own order. -/
theorem settled_eq (claims : BTreeMap OwnerIdent OwnerClaim) (frontends : List SourcedFrontend) :
    settled claims frontends = sortBy (fun sf => claimOf sf.source claims) frontends :=
  sortBy_index (fun sf : SourcedFrontend => claimOf sf.source claims) frontends

/-- The frontends emitted. -/
def sourced (l : List Emission) : List SourcedFrontend := l.filterMap Emission.frontend?

theorem sourced_append (l l' : List Emission) : sourced (l ++ l') = sourced l ++ sourced l' :=
  List.filterMap_append

theorem sourced_flatMap {α : Type} (l : List α) (f : α → List Emission) :
    sourced (l.flatMap f) = l.flatMap fun a => sourced (f a) := List.filterMap_flatMap

/-! ## The claims -/

theorem recordClaims_perm {kind : OwnerKind} {claims : BTreeMap OwnerIdent OwnerClaim}
    {objects objects' : List ObjectMeta} (h : objects.Perm objects')
    (hnames : (objects.map ObjectMeta.nn).Nodup) :
    recordClaims kind claims objects = recordClaims kind claims objects' := by
  show fill (fun m : ObjectMeta => ownerIdent kind m.nn.1 m.nn.2)
      (fun m => ownerClaim m.nn.1 m.nn.2 (creationKey m)) claims objects =
    fill (fun m : ObjectMeta => ownerIdent kind m.nn.1 m.nn.2)
      (fun m => ownerClaim m.nn.1 m.nn.2 (creationKey m)) claims objects'
  refine fill_perm ?_ h
  have hinj : Function.Injective fun nn : String × String => ownerIdent kind nn.1 nn.2 := by
    intro nn nn' heq
    exact congrArg (fun ident : OwnerIdent => ofLex (ofLex ident).2) heq
  have hmap := hnames.map hinj
  rwa [List.map_map] at hmap

/-- The claims end in the `namespace/name` of their object. -/
def Slashed (claims : BTreeMap OwnerIdent OwnerClaim) : Prop :=
  ∀ (ident : OwnerIdent) (claim : OwnerClaim), claims[ident]? = some claim →
    (ofLex (ofLex claim).2).2 = slashed (ofLex (ofLex ident).2).1 (ofLex (ofLex ident).2).2

theorem slashed_recordClaims {kind : OwnerKind} {claims : BTreeMap OwnerIdent OwnerClaim}
    (h : Slashed claims) (objects : List ObjectMeta) :
    Slashed (recordClaims kind claims objects) := by
  intro ident claim hclaim
  have hfill : (fill (fun m : ObjectMeta => ownerIdent kind m.nn.1 m.nn.2)
      (fun m => ownerClaim m.nn.1 m.nn.2 (creationKey m)) claims objects)[ident]? =
        some claim := hclaim
  rcases exists_of_fill hfill with hold | ⟨m, -, rfl, rfl⟩
  · exact h ident claim hold
  · rfl

theorem slashed_ownerClaims (cfg : BuildConfig) (inputs : Inputs) :
    Slashed (ownerClaims cfg inputs) := by
  have hempty : Slashed ∅ := by
    intro ident claim hclaim
    rw [BTreeMap.getElem?_empty] at hclaim
    cases hclaim
  exact slashed_recordClaims (slashed_recordClaims (slashed_recordClaims hempty _) _) _

theorem name_claimFor {claims : BTreeMap OwnerIdent OwnerClaim} (h : Slashed claims)
    (ident : OwnerIdent) : (ofLex (ofLex (claimFor ident claims)).2).2 =
      slashed (ofLex (ofLex ident).2).1 (ofLex (ofLex ident).2).2 := by
  unfold claimFor
  split
  · rename_i claim hclaim
    exact h ident claim hclaim
  · rfl

section Reordered

variable {cfg : BuildConfig} {inputs inputs' : Inputs}

theorem ownerClaims_reordered (h : Reordered inputs inputs') (hnames : ToldByName inputs) :
    ownerClaims cfg inputs = ownerClaims cfg inputs' := by
  unfold ownerClaims
  dsimp only
  rw [recordClaims_perm ((h.ingresses.filter _).map Ingress.metadata),
    recordClaims_perm (h.httpRoutes.map HttpRoute.metadata),
    recordClaims_perm (h.gateways.map Gateway.metadata)]
  · rw [List.map_map]
    exact hnames.gateways
  · rw [List.map_map]
    exact hnames.httpRoutes
  · rw [List.map_map]
    exact hnames.ingresses.sublist (List.filter_sublist.map _)

variable [External] [CharTable]

/-- An Ingress's frontends carry its claim. -/
theorem source_of_emittedBy {index : Index} {ingress : Ingress} {sf : SourcedFrontend}
    (hsome : ingressEmissions cfg index ingress = some (emittedBy cfg index ingress))
    (hsf : sf ∈ sourced (emittedBy cfg index ingress)) :
    sf.source.ownerIdent = ownerIdent .ingress ingress.metadata.nn.1 ingress.metadata.nn.2 := by
  obtain ⟨e, he, hfrontend⟩ := List.mem_filterMap.1 hsf
  have hemitted : e = .frontend sf := by
    cases e <;> cases hfrontend
    rfl
  rw [((traced_of_ingressEmissions hsome).1 sf (hemitted ▸ he)).source]
  rfl

omit [External] [CharTable] in
/-- Only the HTTPRoutes of the Gateway API give frontends. -/
theorem sourced_eq_nil {l : List Emission} (h : ∀ sf, .frontend sf ∉ l) : sourced l = [] := by
  refine List.filterMap_eq_nil_iff.2 fun e he => ?_
  cases e with
  | frontend sf => exact absurd he (h sf)
  | _ => rfl

theorem sourced_gatewayWalk (index : Index) : sourced (gatewayWalk cfg inputs index).emissions =
    sourced ((httpBound cfg inputs index
      (gatewayListeners (builtGateways cfg inputs index))).flatMap
        fun b => b.2.flatMap BoundParent.emissions) := by
  simp only [gatewayWalk]
  rw [sourced_append, sourced_append, sourced_eq_nil (l := List.flatMap _ (builtGateways _ _ _)),
    sourced_eq_nil (l := List.flatMap _ (l4Bound _ _ _)), List.nil_append, List.append_nil]
  · intro sf hsf
    obtain ⟨b, hb, hsf⟩ := List.mem_flatMap.1 hsf
    obtain ⟨bound, hbound, hsf⟩ := List.mem_flatMap.1 hsf
    obtain ⟨view, -, rfl⟩ := List.mem_map.1 hb
    obtain ⟨pref, -, hparent⟩ := List.mem_filterMap.1 hbound
    unfold l4Parent at hparent
    split at hparent
    · cases hparent
    dsimp only at hparent
    obtain ⟨infos, -, rfl⟩ := Option.map_eq_some_iff.1 hparent
    split at hsf
    · exact absurd hsf List.not_mem_nil
    split at hsf
    · exact absurd hsf List.not_mem_nil
    · exact Emission.IsReport.not_frontend ((traced_of_resolveL4Backend view).1 _ hsf)
  · intro sf hsf
    obtain ⟨b, hb, hsf⟩ := List.mem_flatMap.1 hsf
    obtain ⟨gw, -, rfl⟩ := List.mem_map.1 hb
    rcases traced_of_buildOneGateway hsf with hreport | ⟨cert, heq, -⟩
    · exact hreport.not_frontend
    · cases heq

/-- **The frontends are settled in the same order.** -/
theorem settled_reordered (h : Reordered inputs inputs') (hnames : ToldByName inputs)
    (hslash : Slashless inputs) {walk walk' : IngressWalk}
    (hwalk : ingressWalk cfg inputs (Index.build inputs cfg.healthCheck) = some walk)
    (hwalk' : walk'.emissions = (ourIngresses cfg inputs').flatMap
      (emittedBy cfg (Index.build inputs cfg.healthCheck))) :
    settled (ownerClaims cfg inputs) (sourced (walk'.emissions ++
        (gatewayWalk cfg inputs' (Index.build inputs' cfg.healthCheck)).emissions)) =
      settled (ownerClaims cfg inputs) (sourced (walk.emissions ++
        (gatewayWalk cfg inputs (Index.build inputs cfg.healthCheck)).emissions)) := by
  obtain ⟨hemissions, hsome⟩ := emissions_ingressWalk hwalk
  rw [settled_eq, settled_eq]
  refine sortBy_congr_filter fun claim => ?_
  rw [sourced_append, sourced_append, sourced_gatewayWalk, sourced_gatewayWalk,
    gatewayListeners_reordered h hnames, httpBound_reordered h hnames hslash, hwalk', hemissions,
    sourced_flatMap (ourIngresses cfg inputs'), sourced_flatMap (ourIngresses cfg inputs),
    List.filter_append, List.filter_append]
  refine congrArg (· ++ _) (Eq.symm ?_)
  have hours : ∀ ingress ∈ ourIngresses cfg inputs, ingress ∈ inputs.ingresses :=
    fun _ hingress => List.mem_of_mem_filter hingress
  refine @filter_flatMap_perm _ _ _ _ _ (fun sf : SourcedFrontend =>
      claimOf sf.source (ownerClaims cfg inputs))
    (fun ingress : Ingress =>
      claimFor (ownerIdent .ingress ingress.metadata.nn.1 ingress.metadata.nn.2)
      (ownerClaims cfg inputs)) _ _ (h.ingresses.filter _) (fun ingress hingress sf hsf => ?_) ?_ _
  · rw [claimOf, source_of_emittedBy (hsome ingress hingress) hsf]
  · refine @nodup_of_slashed _ _ Ingress.metadata _ _ (fun a _ b _ heq => ?_)
      (fun ingress hingress => hslash.ingresses ingress (hours ingress hingress))
      (hnames.ingresses.sublist (List.filter_sublist.map _))
    have hname := congrArg (fun claim : OwnerClaim => (ofLex (ofLex claim).2).2) heq
    simp only [name_claimFor (slashed_ownerClaims cfg inputs)] at hname
    exact hname

/-! ## The layer-4 frontends -/

omit [External] [CharTable] in
/-- The frontends of a run of settlements: those of the first claim of each socket. -/
theorem frontends_foldl_settle (l : List L4Claim) {sockets : Sockets}
    {seen : List (L4Protocol ×ₗ SocketAddr)}
    (hseen : ∀ socket : L4Protocol ×ₗ SocketAddr,
      sockets.winners[socket]? ≠ none ↔ socket ∈ seen) :
    (l.foldl Sockets.settle sockets).frontends =
      sockets.frontends ++ (uniqueFrom L4Claim.socket seen l).map L4Claim.frontend := by
  induction l generalizing sockets seen with
  | nil => simp [uniqueFrom]
  | cons claim l ih =>
      rw [List.foldl_cons, uniqueFrom]
      have hclaim := hseen claim.socket
      cases hwinner : sockets.winners[claim.socket]? with
      | none =>
          have hclaimed : ∀ socket, (Sockets.settle sockets claim).winners[socket]? ≠ none ↔
              socket ∈ claim.socket :: seen := by
            intro socket
            simp only [Sockets.settle, hwinner, BTreeMap.getElem?_insert, List.mem_cons]
            by_cases hsocket : claim.socket = socket
            · simp [hsocket]
            · rw [if_neg hsocket, hseen]
              simp [Ne.symm hsocket]
          rw [if_neg fun hmem => hclaim.2 hmem hwinner, ih hclaimed]
          simp [Sockets.settle, hwinner]
      | some winner =>
          have hkept : ∀ socket, (Sockets.settle sockets claim).winners[socket]? ≠ none ↔
              socket ∈ seen := by
            intro socket
            simp only [Sockets.settle, hwinner]
            split <;> exact hseen socket
          rw [if_pos (hclaim.1 (by simp [hwinner])), ih hkept]
          simp only [Sockets.settle, hwinner]
          split <;> rfl

/-- A claim without the places its reports go to. -/
def L4Claim.placeless (claim : L4Claim) : L4Claim := { claim with route := 0, parent := 0 }

omit [External] [CharTable] in
/-- **The layer-4 frontends depend on the claims by age**, not on where they are reported. -/
theorem frontends_settleSockets_eq (claims : List L4Claim) : (settleSockets claims).frontends =
    (uniqueBy L4Claim.socket (sortBy L4Claim.order (claims.map L4Claim.placeless))).map
      L4Claim.frontend := by
  have hempty : ∀ socket : L4Protocol ×ₗ SocketAddr,
      ({} : Sockets).winners[socket]? ≠ none ↔ socket ∈ ([] : List _) := by
    intro socket
    rw [BTreeMap.getElem?_empty]
    simp
  have hsort : sortBy L4Claim.order (claims.map L4Claim.placeless) =
      (sortBy L4Claim.order claims).map L4Claim.placeless := (map_sortBy (fun _ => rfl) _).symm
  rw [settleSockets, frontends_foldl_settle _ hempty, hsort, uniqueBy, uniqueFrom_map,
    List.map_map]
  rfl

omit [External] [CharTable] in
theorem flatMap_filter_of_nil {α β : Type} (p : α → Bool) {f : α → List β}
    (h : ∀ a, p a = false → f a = []) (l : List α) : (l.filter p).flatMap f = l.flatMap f := by
  induction l with
  | nil => rfl
  | cons a l ih =>
      rw [List.filter_cons, List.flatMap_cons]
      cases ha : p a with
      | true => rw [if_pos rfl, List.flatMap_cons, ih]
      | false => rw [if_neg Bool.false_ne_true, ih, h a ha, List.nil_append]

omit [External] [CharTable] in
theorem flatMap_zipIdx {α β : Type} (f : α → List β) (l : List α) (n : ℕ) :
    ((l.zipIdx n).flatMap fun x => f x.1) = l.flatMap f := by
  rw [← List.flatMap_map Prod.fst, List.zipIdx_map_fst]

/-- The claims of a bound route, without their places. -/
def claimsOf (bound : L4RouteView × List L4BoundParent) : List L4Claim :=
  bound.2.flatMap fun parent => parent.claims.map L4Claim.placeless

omit [External] [CharTable] in
theorem placeless_placedClaims (first : ℕ) (bound : List (L4RouteView × List L4BoundParent)) :
    (placedClaims first bound).map L4Claim.placeless = bound.flatMap claimsOf := by
  have hparents : ∀ (parents : List L4BoundParent) (route : ℕ),
      (parents.zipIdx.flatMap fun x =>
        x.1.claims.map fun claim => { claim with route := route, parent := x.2 }).map
          L4Claim.placeless =
        parents.flatMap fun parent => parent.claims.map L4Claim.placeless := by
    intro parents route
    rw [List.map_flatMap, ← flatMap_zipIdx _ parents 0]
    refine List.flatMap_congr fun x _ => ?_
    rw [List.map_map]
    rfl
  have hroutes : ∀ b : L4RouteView × List L4BoundParent,
      decide (b.2 ≠ []) = false → claimsOf b = [] := by
    intro b hb
    rw [claimsOf, not_not.1 (of_decide_eq_false hb)]
    rfl
  rw [placedClaims, List.map_flatMap, ← flatMap_filter_of_nil _ hroutes bound,
    ← flatMap_zipIdx claimsOf _ first]
  exact List.flatMap_congr fun (x : (L4RouteView × List L4BoundParent) × ℕ) _ =>
    hparents x.1.2 x.2

/-- Where a layer-4 route's claims go among the others. -/
def L4RouteView.order (view : L4RouteView) : L4Order :=
  toLex (view.creation.isNone, toLex (view.creation.getD "", view.key))

theorem order_of_claimsOf {index : Index} {gwListeners : GatewayListenersMap} {view : L4RouteView}
    {claim : L4Claim} (h : claim ∈ claimsOf (l4BoundOf inputs index gwListeners view)) :
    claim.order = view.order := by
  obtain ⟨parent, hparent, h⟩ := List.mem_flatMap.1 h
  obtain ⟨original, horiginal, rfl⟩ := List.mem_map.1 h
  obtain ⟨pref, -, hbuilt⟩ := List.mem_filterMap.1 hparent
  unfold l4Parent at hbuilt
  split at hbuilt
  · cases hbuilt
  dsimp only at hbuilt
  obtain ⟨infos, -, rfl⟩ := Option.map_eq_some_iff.1 hbuilt
  split at horiginal
  · exact absurd horiginal List.not_mem_nil
  split at horiginal
  · exact absurd horiginal List.not_mem_nil
  dsimp only at horiginal
  split at horiginal
  · exact absurd horiginal List.not_mem_nil
  obtain ⟨info, -, hmap⟩ := List.mem_filterMap.1 horiginal
  obtain ⟨bind, -, rfl⟩ := Option.map_eq_some_iff.1 hmap
  rfl

/-- The claims of the routes of one kind, each route's in its own order. -/
theorem filter_claims_reordered {index : Index} {gwListeners : GatewayListenersMap}
    {kind : RouteKind} {protocol : L4Protocol} {routes routes' : List L4Route}
    (h : routes.Perm routes') (hnames : (routes.map fun o => o.metadata.nn).Nodup)
    (hslash : ∀ o ∈ routes, '/' ∉ o.metadata.nn.1.toList) (order : L4Order) :
    ((routes.map (L4RouteView.of kind protocol)).flatMap fun view =>
        claimsOf (l4BoundOf inputs index gwListeners view)).filter
          (fun claim => claim.order = order) =
      ((routes'.map (L4RouteView.of kind protocol)).flatMap fun view =>
        claimsOf (l4BoundOf inputs index gwListeners view)).filter
          fun claim => claim.order = order := by
  refine filter_flatMap_perm (h.map _)
    (fun view _ claim hclaim => order_of_claimsOf hclaim) ?_ order
  rw [List.map_map]
  refine @nodup_of_slashed _ _ L4Route.metadata _ _ (fun a _ b _ heq => ?_) hslash hnames
  exact congrArg (fun o : L4Order => (ofLex (ofLex o).2).2) heq

/-- **The layer-4 frontends are the same.** -/
theorem l4Frontends_reordered (h : Reordered inputs inputs') (hnames : ToldByName inputs)
    (hslash : Slashless inputs) :
    (gatewayWalk cfg inputs' (Index.build inputs' cfg.healthCheck)).sockets.l4Frontends =
      (gatewayWalk cfg inputs (Index.build inputs cfg.healthCheck)).sockets.l4Frontends := by
  have hclaims : ∀ first first' : ℕ, ∀ gwListeners : GatewayListenersMap,
      (settleSockets (placedClaims first' ((l4Views inputs').map
        (l4BoundOf inputs (Index.build inputs cfg.healthCheck) gwListeners)))).frontends =
      (settleSockets (placedClaims first ((l4Views inputs).map
        (l4BoundOf inputs (Index.build inputs cfg.healthCheck) gwListeners)))).frontends := by
    intro first first' gwListeners
    rw [frontends_settleSockets_eq, frontends_settleSockets_eq, placeless_placedClaims,
      placeless_placedClaims, List.flatMap_map, List.flatMap_map]
    refine congrArg (fun l => List.map L4Claim.frontend (uniqueBy L4Claim.socket l))
      (sortBy_congr_filter fun order => ?_)
    rw [l4Views, l4Views, List.flatMap_append, List.flatMap_append, List.filter_append,
      List.filter_append]
    exact congrArg₂ (· ++ ·)
      (filter_claims_reordered h.tcpRoutes hnames.tcpRoutes hslash.tcpRoutes order).symm
      (filter_claims_reordered h.udpRoutes hnames.udpRoutes hslash.udpRoutes order).symm
  unfold Sockets.l4Frontends
  simp only [gatewayWalk]
  rw [l4Bound_reordered h hnames, gatewayListeners_reordered h hnames]
  exact congrArg (sortBy _) (hclaims _ _ _)

/-! ## The build -/

/-- A reference asks for no HTTP/2 itself. -/
theorem FromReference.http2 {index : Index} {r : ServiceRoute} (h : FromReference index r) :
    r.cluster.http2 = false := by
  obtain ⟨ns, service, portRef, port, -, heq⟩ := h
  rw [heq]
  rfl

omit [External] [CharTable] in
theorem Slashless.reordered (hslash : Slashless inputs) (h : Reordered inputs inputs') :
    Slashless inputs' where
  ingresses o ho := hslash.ingresses o (h.ingresses.mem_iff.2 ho)
  httpRoutes o ho := hslash.httpRoutes o (h.httpRoutes.mem_iff.2 ho)
  tcpRoutes o ho := hslash.tcpRoutes o (h.tcpRoutes.mem_iff.2 ho)
  udpRoutes o ho := hslash.udpRoutes o (h.udpRoutes.mem_iff.2 ho)

omit [External] [CharTable] in
theorem PortsApart.reordered (hports : PortsApart inputs) (h : Reordered inputs inputs') :
    PortsApart inputs' where
  unique svc hsvc := hports.unique svc (h.services.mem_iff.2 hsvc)
  protocols svc hsvc := hports.protocols svc (h.services.mem_iff.2 hsvc)

/-- The folded frontends only take reports: the kept ones decide what is served. -/
theorem frontends_assemble (walk : IngressWalk) (gw : GatewayWalk) :
    (assemble cfg inputs walk gw).ir.frontends =
      (liftHeaderMatches (arbitrate cfg inputs (walk.emissions ++ gw.emissions)).resolved.kept
          []).kept.map SourcedFrontend.frontend ++
        (liftHeaderMatches (arbitrate cfg inputs (walk.emissions ++ gw.emissions)).resolved.kept
          []).copies := rfl

/-- **A build of the same objects in another order** has the same IR and references the same
Services. -/
theorem build_reordered (h : Reordered inputs inputs') (hnames : ToldByName inputs)
    (hslash : Slashless inputs) (hports : PortsApart inputs) (hdotless : Dotless inputs)
    {out : BuildOutput} (hout : build cfg inputs = some out) :
    ∃ out', build cfg inputs' = some out' ∧ out'.ir = out.ir ∧
      out'.referencedServices = out.referencedServices := by
  obtain ⟨walk, hwalk, rfl⟩ := Option.map_eq_some_iff.1 hout
  obtain ⟨walk', hwalk', hemissions'⟩ := ingressWalk_reordered h hnames hwalk
  have hbuild : build cfg inputs' = some (assemble cfg inputs' walk'
      (gatewayWalk cfg inputs' (Index.build inputs' cfg.healthCheck))) :=
    Option.map_eq_some_iff.2 ⟨walk', hwalk', rfl⟩
  refine ⟨_, hbuild, ?_⟩
  generalize hgw : gatewayWalk cfg inputs (Index.build inputs cfg.healthCheck) = gw
  generalize hgw' : gatewayWalk cfg inputs' (Index.build inputs' cfg.healthCheck) = gw'
  have hperm : (walk.emissions ++ gw.emissions).Perm (walk'.emissions ++ gw'.emissions) := by
    rw [(emissions_ingressWalk hwalk).1, hemissions', ← hgw, ← hgw']
    exact (perm_ingressWalk h).append (perm_gatewayWalk h hnames hslash)
  -- the tables
  have hprograms := hgw ▸ programs_walks hwalk
  have hapart := referencesApart_of_programs hports hdotless hprograms
  have hclusters := clusters_perm hperm hapart
    (fun r hr => (hprograms r (mem_routes.1 hr)).http2) (hgw ▸ preceded_walks hwalk)
    (hgw' ▸ preceded_walks hwalk')
  have hbackends := backends_perm_eq hperm hapart
  -- the frontends, and those of layer 4
  have hkept : (arbitrate cfg inputs' (walk'.emissions ++ gw'.emissions)).resolved.kept =
      (arbitrate cfg inputs (walk.emissions ++ gw.emissions)).resolved.kept := by
    show (resolveFrontendCollisions (sourced _) (ownerClaims cfg inputs')).kept =
      (resolveFrontendCollisions (sourced _) (ownerClaims cfg inputs)).kept
    rw [kept_resolve, kept_resolve, ← ownerClaims_reordered h hnames, ← hgw, ← hgw',
      settled_reordered h hnames hslash hwalk hemissions']
  have hfrontends : (assemble cfg inputs' walk' gw').ir.frontends =
      (assemble cfg inputs walk gw).ir.frontends := by
    rw [frontends_assemble, frontends_assemble, hkept]
  have hl4 : (assemble cfg inputs' walk' gw').ir.l4Frontends =
      (assemble cfg inputs walk gw).ir.l4Frontends := by
    show gw'.sockets.l4Frontends = gw.sockets.l4Frontends
    rw [← hgw, ← hgw']
    exact l4Frontends_reordered h hnames hslash
  -- the checks are settled by the frontends
  have hsettled : gw.sockets.Settled := hgw ▸ settled_settleSockets _
  have hsettled' : gw'.sockets.Settled := hgw' ▸ settled_settleSockets _
  have hchecks : (assemble cfg inputs' walk' gw').ir.clusters =
      (assemble cfg inputs walk gw).ir.clusters := by
    have hruns : ∀ id, ((arbitrate cfg inputs' (walk'.emissions ++ gw'.emissions)).traffic
        gw'.sockets).runsCheck id =
          ((arbitrate cfg inputs (walk.emissions ++ gw.emissions)).traffic gw.sockets).runsCheck
            id := by
      intro id
      rw [Bool.eq_iff_iff, runsCheck_iff hsettled, runsCheck_iff hsettled']
      unfold Proxies CarriesL4
      rw [hfrontends, hl4]
    show (settledClusters (tables _).clusters _).toList.map Prod.snd =
      (settledClusters (tables _).clusters _).toList.map Prod.snd
    rw [← hclusters]
    unfold settledClusters
    simp only [hruns]
  have hcertificates : (assemble cfg inputs' walk' gw').ir.certificates =
      (assemble cfg inputs walk gw).ir.certificates := by
    refine congrArg (sortBy _) ?_
    show mergeCertificates (arbitrateCertificateNames _ (ownerClaims cfg inputs')).1 =
      mergeCertificates (arbitrateCertificateNames _ (ownerClaims cfg inputs)).1
    rw [← ownerClaims_reordered h hnames]
    exact mergeCertificates_congr fun c => (hperm.filterMap _).symm.mem_iff
  have hirBackends : (assemble cfg inputs' walk' gw').ir.backends =
      (assemble cfg inputs walk gw).ir.backends :=
    congrArg (fun m : BTreeMap String Backend => m.toList.map Prod.snd) hbackends.symm
  refine ⟨?_, BTreeSet.ofList_eq_ofList.2 fun service => (hperm.filterMap _).symm.mem_iff⟩
  generalize (assemble cfg inputs' walk' gw').ir = ir' at *
  generalize (assemble cfg inputs walk gw).ir = ir at *
  cases ir
  cases ir'
  simp_all

/-- **The build does not depend on the order of the objects.**  Where objects of a kind are
told by namespace and name, without a slash in the one or a dot in a Service's, and Services
list a number once for each protocol: listing the objects in another order changes neither the
IR nor the Services it references. -/
theorem build_order_free (cfg : BuildConfig) (inputs inputs' : Inputs)
    (h : Reordered inputs inputs') (hnames : ToldByName inputs) (hslash : Slashless inputs)
    (hports : PortsApart inputs) (hdotless : Dotless inputs) :
    (build cfg inputs').map (fun out => (out.ir, out.referencedServices)) =
      (build cfg inputs).map fun out => (out.ir, out.referencedServices) := by
  cases hout : build cfg inputs with
  | some out =>
      obtain ⟨out', hout', hir, hservices⟩ := build_reordered h hnames hslash hports hdotless hout
      rw [hout', Option.map_some, Option.map_some, hir, hservices]
  | none =>
      cases hout' : build cfg inputs' with
      | none => rfl
      | some out' =>
          have hdotless' : Dotless inputs' := fun svc hsvc =>
            hdotless svc (h.services.mem_iff.2 hsvc)
          obtain ⟨out, hsome, -⟩ := build_reordered h.symm (hnames.reordered h)
            (hslash.reordered h) (hports.reordered h) hdotless' hout'
          rw [hout] at hsome
          cases hsome

end Reordered

/-- An Ingress of the namespace `default` for all of `example.test`. -/
def rivalIngress (name service created : String) : Ingress where
  metadata := { name := some name, creationTimestamp := some created }
  spec := some {
    ingressClassName := some "sozu"
    rules := some [{
      host := some "example.test"
      http := some [{
        path := some "/"
        pathType := "Prefix"
        backend := { service := some {
          name := service
          port := some { number := some 80, name := none } } } }] }] }

/-- Two Ingresses that claim one route, for a Service each, the newer one listed first. -/
def rivalInputs : Inputs where
  ingresses := [rivalIngress "new" "api" "2025-01-01T00:00:00Z",
    rivalIngress "old" "web" "2024-01-01T00:00:00Z"]
  services := [{ metadata := { name := some "web" }, ports := some [{ port := 80 }] },
    { metadata := { name := some "api" }, ports := some [{ port := 80 }] }]
  endpointslices := [readySlice "web-1" "web" "10.0.0.1", readySlice "api-1" "api" "10.0.0.2"]

/-- The same, each collection listed the other way round. -/
def rivalInputs.reversed : Inputs where
  ingresses := rivalInputs.ingresses.reverse
  services := rivalInputs.services.reverse
  endpointslices := rivalInputs.endpointslices.reverse

attribute [local instance] External.plain Sozu.asciiTable in
/-- The older Ingress's route is the one served, either way. -/
theorem build_order_free_rivals :
    ∃ out, build {} rivalInputs = some out ∧
      out.ir.frontends.map Frontend.clusterId = [some "default.web.80"] ∧
      (build {} rivalInputs.reversed).map (fun out => (out.ir, out.referencedServices)) =
        some (out.ir, out.referencedServices) := by
  have hout : ((build {} rivalInputs).any fun out =>
      decide (out.ir.frontends.map Frontend.clusterId = [some "default.web.80"])) = true := by
    decide +kernel
  have hreordered : Reordered rivalInputs rivalInputs.reversed := by
    constructor <;> exact (List.reverse_perm _).symm
  have hnames : ToldByName rivalInputs := by constructor <;> decide
  have hslash : Slashless rivalInputs := by constructor <;> decide
  have hports : PortsApart rivalInputs := by constructor <;> decide
  have hdotless : Dotless rivalInputs := by
    unfold Dotless
    decide
  obtain ⟨out, hbuild, hroute⟩ := (Option.any_eq_true _ _).1 hout
  refine ⟨out, hbuild, of_decide_eq_true hroute, ?_⟩
  rw [build_order_free {} rivalInputs rivalInputs.reversed hreordered hnames hslash hports hdotless,
    hbuild]
  rfl

end Builder

end SozuGateway
