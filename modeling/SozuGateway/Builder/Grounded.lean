import SozuGateway.Builder.CopyKeys
import SozuGateway.Builder.Isolation
import SozuGateway.Builder.References

/-!
# The clusters frontends name

Every cluster a frontend of a walk names, given by the same walk.

* `Gives`, `Grounded` — a list of emissions gives a cluster, and every one its frontends
  name.
* `grounded_ingressEmissions`, `grounded_gatewayWalk` — so do the walks.
* `gives_l4Frontends` — and the clusters of the layer-4 frontends are given too.
-/

set_option autoImplicit false

namespace SozuGateway

namespace Builder

open Lib

section Grounded

variable [External] [CharTable]

/-! ## Clusters that are given -/

/-- A reference of the list gives the cluster. -/
def Gives (l : List Emission) (id : String) : Prop := ∃ r, .service r ∈ l ∧ r.cluster.id = id

omit [External] [CharTable] in
theorem Gives.mono {l l' : List Emission} {id : String} (h : Gives l id) (hsub : l ⊆ l') :
    Gives l' id := by
  obtain ⟨r, hr, hid⟩ := h
  exact ⟨r, hsub hr, hid⟩

/-- The frontends of the list satisfy `P`, and name clusters the list gives. -/
def Grounded (P : Frontend → Prop) (l : List Emission) : Prop :=
  ∀ sf, .frontend sf ∈ l → P sf.frontend ∧
    ∀ id, sf.frontend.clusterId = some id → Gives l id

variable {P : Frontend → Prop}

omit [External] [CharTable] in
theorem Grounded.nil : Grounded P [] := fun _ h => absurd h List.not_mem_nil

omit [External] [CharTable] in
theorem Grounded.append {l l' : List Emission} (h : Grounded P l) (h' : Grounded P l') :
    Grounded P (l ++ l') := by
  intro sf hsf
  rcases List.mem_append.1 hsf with hsf | hsf
  · exact ⟨(h sf hsf).1, fun id hid =>
      ((h sf hsf).2 id hid).mono (List.subset_append_left _ _)⟩
  · exact ⟨(h' sf hsf).1, fun id hid =>
      ((h' sf hsf).2 id hid).mono (List.subset_append_right _ _)⟩

omit [External] [CharTable] in
theorem Grounded.flatten {l : List (List Emission)} (h : ∀ a ∈ l, Grounded P a) :
    Grounded P l.flatten := by
  induction l with
  | nil => exact .nil
  | cons a l ih =>
    exact (h a List.mem_cons_self).append (ih fun b hb => h b (List.mem_cons_of_mem _ hb))

omit [External] [CharTable] in
theorem Grounded.flatMap {α : Type} {l : List α} {f : α → List Emission}
    (h : ∀ a ∈ l, Grounded P (f a)) : Grounded P (l.flatMap f) := by
  rw [List.flatMap_def]
  refine .flatten fun emissions hemissions => ?_
  obtain ⟨a, ha, rfl⟩ := List.mem_map.1 hemissions
  exact h a ha

omit [External] [CharTable] in
/-- A list with no frontend. -/
theorem Grounded.of_no_frontend {l : List Emission} (h : ∀ sf, .frontend sf ∉ l) :
    Grounded P l := fun sf hsf => absurd hsf (h sf)

omit [External] [CharTable] in
theorem Reports.grounded {l : List Emission} (h : Reports l) : Grounded P l :=
  .of_no_frontend fun _ hsf => (h _ hsf).not_frontend

/-- **A reference that resolved gives its cluster.** -/
theorem gives_addServiceRoute {index : Index} {ns service clusterId : String} {portRef : PortRef}
    {hasEndpoints : Bool}
    (h : (addServiceRoute index ns service portRef).result = .ok (clusterId, hasEndpoints)) :
    Gives (addServiceRoute index ns service portRef).emissions clusterId := by
  unfold addServiceRoute at h ⊢
  split at h
  · cases h
  · rename_i id addrs hresolved
    obtain ⟨rfl, -⟩ := Prod.mk.inj (Except.ok.inj h)
    exact ⟨_, List.mem_append_right _ (List.mem_singleton_self _), rfl⟩

/-! ## Ingresses -/

section Ingress

variable {cfg : BuildConfig} {index : Index} {nn : String × String}

omit [External] [CharTable] in
/-- The frontends of a path are on the addresses Sōzu listens on, for its host. -/
theorem placeable_ingressFrontends {source : FrontendSource} {host : String} {path : PathMatch}
    {clusterId : String} {hostHasTls redirect : Bool} {emissions : List Emission}
    (hhost : ';' ∉ host.toList)
    (h : ingressFrontends cfg source host path clusterId hostHasTls redirect = some emissions)
    {sf : SourcedFrontend} (hsf : .frontend sf ∈ emissions) :
    Placeable sf.frontend ∧ sf.frontend.clusterId = some clusterId := by
  have hplain : ∀ {protocol : ExposedProtocol} {bind : SocketAddr},
      cfg.bindFor protocol = some bind → bind.IsPlain := by
    intro protocol bind hbind
    obtain ⟨entry, -, rfl⟩ := Option.map_eq_some_iff.1 hbind
    rfl
  unfold ingressFrontends at h
  obtain ⟨http, hhttp, h⟩ := Option.bind_eq_some_iff.1 h
  cases hostHasTls with
  | false =>
    obtain rfl : [_] = emissions := Option.some.inj h
    obtain rfl := Emission.frontend.inj (List.mem_singleton.1 hsf)
    exact ⟨⟨hhost, hplain hhttp⟩, rfl⟩
  | true =>
    obtain ⟨https, hhttps, h⟩ := Option.bind_eq_some_iff.1 h
    obtain rfl : [_, _] = emissions := Option.some.inj h
    rcases List.mem_cons.1 hsf with hsf | hsf
    · obtain rfl := Emission.frontend.inj hsf
      exact ⟨⟨hhost, hplain hhttp⟩, rfl⟩
    · obtain rfl := Emission.frontend.inj (List.mem_singleton.1 hsf)
      exact ⟨⟨hhost, hplain hhttps⟩, rfl⟩

theorem grounded_ingressPath {host : String} {hostHasTls redirect : Bool} {path : HttpIngressPath}
    {emissions : List Emission} (hhost : ';' ∉ host.toList)
    (h : ingressPath cfg index nn host hostHasTls redirect path = some emissions) :
    Grounded Placeable emissions := by
  unfold ingressPath at h
  split at h
  · exact Option.some.inj h ▸ (reports_problem _).grounded
  split at h
  · exact Option.some.inj h ▸ (reports_problem _).grounded
  rename_i svc _
  split at h
  · exact Option.some.inj h ▸ (reports_problem _).grounded
  rename_i portRef _
  dsimp only at h
  have hresolved := (remarks_warn ((HttpBackendProtocol.of index nn.1 svc.name portRef).problem
    svc.name)).reports.append (reports_addServiceRoute index nn.1 svc.name portRef)
  split at h
  · exact Option.some.inj h ▸ (hresolved.append (reports_problem _)).grounded
  · rename_i clusterId hasEndpoints hresult
    obtain ⟨frontends, hfrontends, rfl⟩ := Option.map_eq_some_iff.1 h
    intro sf hsf
    rcases List.mem_append.1 hsf with hsf | hsf
    · refine absurd ((hresolved.append (reports_configure _ _)).append ?_ _ hsf)
        Emission.IsReport.not_frontend
      exact remarks_ite.reports
    · obtain ⟨hplaced, hcluster⟩ := placeable_ingressFrontends hhost hfrontends hsf
      refine ⟨hplaced, fun id hid => ?_⟩
      obtain rfl := Option.some.inj (hcluster.symm.trans hid)
      refine (gives_addServiceRoute hresult).mono fun e he => ?_
      simp only [List.mem_append]
      exact .inl (.inl (.inl (.inr he)))

theorem grounded_ingressEmissions {ingress : Ingress} {emissions : List Emission}
    (hhosts : ∀ spec ∈ ingress.spec, ∀ rule ∈ spec.rules.getD [], ∀ host ∈ rule.host,
      ';' ∉ host.toList)
    (h : ingressEmissions cfg index ingress = some emissions) : Grounded Placeable emissions := by
  unfold ingressEmissions at h
  split at h
  · exact Option.some.inj h ▸ .nil
  rename_i spec hspec
  obtain ⟨entries, hentries, h⟩ := Option.bind_eq_some_iff.1 h
  obtain ⟨rules, hrules, h⟩ := Option.bind_eq_some_iff.1 h
  obtain rfl := Option.some.inj h
  refine Grounded.append (Grounded.append ?_ (.flatMap fun entry hentry => ?_))
    (.flatten fun emitted hemitted => ?_)
  · split
    · exact (reports_problem _).grounded
    · exact .nil
  · obtain ⟨tls, -, htls⟩ := exists_of_mem_mapM hentries hentry
    exact .of_no_frontend (ingressTls_traced htls).frontends
  · obtain ⟨rule, hrule, hdeclared⟩ := exists_of_mem_mapM hrules hemitted
    unfold ingressRule at hdeclared
    split at hdeclared
    · exact Option.some.inj hdeclared ▸ .nil
    dsimp only at hdeclared
    split at hdeclared
    · exact Option.some.inj hdeclared ▸ (remarks_warn (some _)).reports.grounded
    · obtain ⟨paths, hpaths, rfl⟩ := Option.map_eq_some_iff.1 hdeclared
      refine .flatten fun emitted hemitted => ?_
      obtain ⟨path, -, hpath⟩ := exists_of_mem_mapM hpaths hemitted
      refine grounded_ingressPath ?_ hpath
      cases hhost : rule.host with
      | none => decide
      | some host => exact hhosts spec hspec rule hrule host hhost

end Ingress

/-! ## HTTPRoutes -/

section Routes

variable {cfg : BuildConfig} {inputs : Inputs} {index : Index}

/-- The cluster a rule resolves to, if it proxies, is one it gives. -/
theorem gives_ruleBackend {routeNs : String} {rule : HttpRouteRules} {filters : FrontendFilters}
    {id : String}
    (h : (ruleBackend inputs index routeNs rule filters).clusterId = some (some id)) :
    Gives (ruleBackend inputs index routeNs rule filters).emissions id := by
  unfold ruleBackend at h ⊢
  split at h
  · split at h
    · cases h
    · cases h
  · rename_i br _
    unfold httpBackendRef at h ⊢
    split at h
    · cases h
    rename_i hkind
    rw [if_neg hkind]
    split at h
    · cases h
    rename_i hweight
    rw [if_neg hweight]
    dsimp only at h ⊢
    split at h
    · cases h
    rename_i hgrant
    rw [if_neg hgrant]
    split at h
    · cases h
    rename_i port _
    split at h
    · cases h
    rename_i cid hasEndpoints hresult
    obtain rfl := Option.some.inj (Option.some.inj h)
    refine (gives_addServiceRoute hresult).mono fun e he => ?_
    simp only [List.mem_append]
    exact .inl (.inl (.inl (.inr he)))
  · cases h

theorem grounded_attachRule (sozuHeaders : SozuRequestHeaders) (routeNs : String)
    (routeHostnames : Option (List String)) (infos : List ListenerInfo) (source : FrontendSource)
    (rule : HttpRouteRules) : Grounded (fun _ => True)
      (attachRule inputs index sozuHeaders routeNs routeHostnames infos source rule) := by
  have hparsed := remarks_parseFilters (rule.filters.getD [])
  unfold attachRule
  dsimp only
  split
  · exact (hparsed.append (.singleton (e := .override _) trivial)).reports.grounded
  have hbackend : Reports (ruleBackend inputs index routeNs rule
      (parseFilters (rule.filters.getD [])).filters).emissions := reports_ruleBackend routeNs rule _
  have hhead := (hparsed.append (remarks_timeouts rule)).reports.append hbackend
  cases hcluster : (ruleBackend inputs index routeNs rule
      (parseFilters (rule.filters.getD [])).filters).clusterId with
  | none => exact (hhead.append .nil).grounded
  | some clusterId =>
    intro sf hsf
    refine ⟨trivial, fun id hid => ?_⟩
    rcases List.mem_append.1 hsf with hsf | hsf
    · exact absurd (hhead _ hsf) Emission.IsReport.not_frontend
    rcases List.mem_append.1 hsf with hsf | hsf
    · exact absurd ((remarks_parseMatches _ _).reports _ hsf) Emission.IsReport.not_frontend
    obtain ⟨routeMatch, -, hsf⟩ := List.mem_flatMap.1 hsf
    obtain ⟨info, -, hsf⟩ := List.mem_flatMap.1 hsf
    have htarget : sf.frontend.clusterId = clusterId := by
      unfold listenerFrontends at hsf
      split at hsf
      · exact absurd hsf List.not_mem_nil
      split at hsf
      · obtain ⟨hostname, -, heq⟩ := List.mem_map.1 hsf
        split at heq
        · cases heq
        · exact Emission.frontend.inj heq ▸ rfl
      · exact absurd hsf List.not_mem_nil
    rw [← htarget, hid] at hcluster
    refine (gives_ruleBackend hcluster).mono fun e he => ?_
    exact List.mem_append_left _ (List.mem_append_right _ he)

theorem grounded_httpParent {gwListeners : GatewayListenersMap} {route : HttpRoute}
    {pref : ParentRef} {bound : BoundParent}
    (h : httpParent cfg inputs index gwListeners route pref = some bound) :
    Grounded (fun _ => True) bound.emissions := by
  unfold httpParent at h
  split at h
  · cases h
  dsimp only at h
  obtain ⟨infos, -, rfl⟩ := Option.map_eq_some_iff.1 h
  split
  · exact .nil
  split
  · exact .nil
  split
  · exact .nil
  · exact .flatMap fun rule _ => grounded_attachRule _ _ _ _ _ _

/-! ## Layer-4 routes -/

theorem gives_resolveL4Backend {view : L4RouteView} {id : String}
    (h : (resolveL4Backend inputs index view).2 = some id) :
    Gives (resolveL4Backend inputs index view).1 id := by
  unfold resolveL4Backend at h ⊢
  split at h
  · cases h
  · rename_i br _
    dsimp only
    split at h
    · cases h
    rename_i hkind
    rw [if_neg hkind]
    split at h
    · cases h
    rename_i hweight
    rw [if_neg hweight]
    dsimp only at h ⊢
    split at h
    · cases h
    rename_i hgrant
    rw [if_neg hgrant]
    split at h
    · cases h
    rename_i port _
    split at h
    · cases h
    rename_i cid hasEndpoints hresult
    obtain rfl := Option.some.inj h
    exact (gives_addServiceRoute hresult).mono (List.subset_append_left _ _)
  · cases h

/-- **The claims of a layer-4 route are for the cluster it gives.** -/
theorem gives_l4Parent {gwListeners : GatewayListenersMap} {view : L4RouteView} {pref : ParentRef}
    {bound : L4BoundParent} (h : l4Parent inputs index gwListeners view pref = some bound) :
    ∀ claim ∈ bound.claims, Gives bound.emissions claim.clusterId := by
  unfold l4Parent at h
  split at h
  · cases h
  dsimp only at h
  obtain ⟨infos, -, rfl⟩ := Option.map_eq_some_iff.1 h
  split
  · exact fun _ hclaim => absurd hclaim List.not_mem_nil
  split
  · exact fun _ hclaim => absurd hclaim List.not_mem_nil
  intro claim hclaim
  dsimp only at hclaim ⊢
  split at hclaim
  · exact absurd hclaim List.not_mem_nil
  rename_i clusterId hcluster
  obtain ⟨info, -, hmap⟩ := List.mem_filterMap.1 hclaim
  obtain ⟨bind, -, rfl⟩ := Option.map_eq_some_iff.1 hmap
  exact gives_resolveL4Backend hcluster

/-- Every layer-4 frontend names a cluster the walk gives. -/
theorem gives_l4Frontends {f : L4Frontend}
    (h : f ∈ (gatewayWalk cfg inputs index).sockets.l4Frontends) :
    Gives (gatewayWalk cfg inputs index).emissions f.clusterId := by
  obtain ⟨claim, hclaim, rfl⟩ := frontends_settleSockets h
  obtain ⟨⟨b, place⟩, hb, hclaim⟩ := List.mem_flatMap.1 hclaim
  obtain ⟨⟨parent, at_⟩, hparent, hclaim⟩ := List.mem_flatMap.1 hclaim
  obtain ⟨original, horiginal, rfl⟩ := List.mem_map.1 hclaim
  have hbound := List.mem_of_mem_filter (List.fst_mem_of_mem_zipIdx hb)
  have hparent := List.fst_mem_of_mem_zipIdx hparent
  obtain ⟨view, hview, rfl⟩ := List.mem_map.1 hbound
  obtain ⟨pref, -, hbuilt⟩ := List.mem_filterMap.1 hparent
  refine (gives_l4Parent hbuilt original horiginal).mono fun e he => ?_
  exact List.mem_append_right _ (List.mem_flatMap.2
    ⟨_, hbound, List.mem_flatMap.2 ⟨parent, hparent, he⟩⟩)

/-! ## The walks -/

theorem grounded_gatewayWalk :
    Grounded (fun _ => True) (gatewayWalk cfg inputs index).emissions := by
  refine Grounded.append (Grounded.append (.flatMap fun built hbuilt => ?_)
    (.flatMap fun b hb => .flatMap fun bound hbound => ?_))
      (.flatMap fun b hb => .flatMap fun bound hbound => ?_)
  · obtain ⟨gw, -, rfl⟩ := List.mem_map.1 hbuilt
    refine .of_no_frontend fun sf hsf => ?_
    rcases traced_of_buildOneGateway hsf with hreport | ⟨cert, heq, -⟩
    · exact hreport.not_frontend
    · cases heq
  · obtain ⟨route, -, rfl⟩ := List.mem_map.1 hb
    obtain ⟨pref, -, hparent⟩ := List.mem_filterMap.1 hbound
    exact grounded_httpParent hparent
  · obtain ⟨view, hview, rfl⟩ := List.mem_map.1 hb
    obtain ⟨pref, hpref, hparent⟩ := List.mem_filterMap.1 hbound
    unfold l4Parent at hparent
    split at hparent
    · cases hparent
    dsimp only at hparent
    obtain ⟨infos, -, rfl⟩ := Option.map_eq_some_iff.1 hparent
    split
    · exact .nil
    split
    · exact .nil
    · exact (traced_of_resolveL4Backend view).1.grounded

end Routes

end Grounded

end Builder

end SozuGateway
