import SozuGateway.Builder.Build
import SozuGateway.Lib.Traverse

/-!
# The slices a build reads

Which EndpointSlices a build depends on: those of the Services its own output names as
referenced.

* `AgreeOn` — two sets of objects that differ, among the Services some emissions refer to,
  in the order of their slices at most.
* `addServiceRoute_agree` — the one place that reads slices, and the reference it
  records before reading them.
* `ingressWalk_agree`, `gatewayWalk_agree` — a walk emits the same over objects that
  agree on what it emits.
* `build_unreferenced_slices` — **slices of unreferenced Services change nothing.**
-/

set_option autoImplicit false

namespace SozuGateway

namespace Builder

open Lib

/-! ## Agreement -/

/-- Two sets of objects a walk cannot tell apart as long as it reads the slices of no
Service but those the emissions refer to. -/
structure AgreeOn (inputs inputs' : Inputs) (index index' : Index) (emissions : List Emission) :
    Prop where
  grants : referenceGranted inputs' = referenceGranted inputs
  services : index'.services = index.services
  namespaceLabels : index'.namespaceLabels = index.namespaceLabels
  secrets : index'.secrets = index.secrets
  healthCheck : index'.healthCheck = index.healthCheck
  slices : ∀ namespace_ service, .referenced (slashed namespace_ service) ∈ emissions →
    (index'.slicesFor namespace_ service).Perm (index.slicesFor namespace_ service)

namespace AgreeOn

variable {inputs inputs' : Inputs} {index index' : Index} {emissions emissions' : List Emission}

/-- Agreement on more emissions is agreement on fewer. -/
theorem mono (h : AgreeOn inputs inputs' index index' emissions)
    (hsub : ∀ e ∈ emissions', e ∈ emissions) : AgreeOn inputs inputs' index index' emissions' where
  grants := h.grants
  services := h.services
  namespaceLabels := h.namespaceLabels
  secrets := h.secrets
  healthCheck := h.healthCheck
  slices := fun ns service he => h.slices ns service (hsub _ he)

theorem left {more : List Emission} (h : AgreeOn inputs inputs' index index' (emissions ++ more)) :
    AgreeOn inputs inputs' index index' emissions :=
  h.mono fun _ he => List.mem_append_left _ he

theorem right {more : List Emission} (h : AgreeOn inputs inputs' index index' (more ++ emissions)) :
    AgreeOn inputs inputs' index index' emissions :=
  h.mono fun _ he => List.mem_append_right _ he

/-- Agreement on everything some objects emit is agreement on what each of them emits. -/
theorem of_flatMap {α : Type} {objects : List α} {emit : α → List Emission}
    (h : AgreeOn inputs inputs' index index' (objects.flatMap emit)) {a : α} (ha : a ∈ objects) :
    AgreeOn inputs inputs' index index' (emit a) :=
  h.mono fun _ he => List.mem_flatMap.2 ⟨a, ha, he⟩

/-- Agreement on everything the kept objects emit is agreement on what each emits. -/
theorem of_filterMap {α β : Type} {objects : List α} {f : α → Option β}
    {emit : β → List Emission}
    (h : AgreeOn inputs inputs' index index' ((objects.filterMap f).flatMap emit)) {a : α}
    (ha : a ∈ objects) : AgreeOn inputs inputs' index index' ((f a).elim [] emit) := by
  cases hf : f a with
  | none => exact h.mono fun _ he => absurd he List.not_mem_nil
  | some b => exact h.of_flatMap (List.mem_filterMap.2 ⟨a, ha, hf⟩)

end AgreeOn

section Walks

variable [External] [CharTable]

variable {inputs inputs' : Inputs} {index index' : Index} {emissions : List Emission}

/-! ## One reference -/

omit [External] [CharTable] in
/-- A Service's port does not depend on any slice. -/
theorem servicePort_agree (h : AgreeOn inputs inputs' index index' emissions)
    (ns service : String) (portRef : PortRef) :
    servicePort index' ns service portRef = servicePort index ns service portRef := by
  simp only [servicePort, h.services]

omit [External] [CharTable] in
theorem protocol_agree (h : AgreeOn inputs inputs' index index' emissions)
    (ns service : String) (portRef : PortRef) :
    HttpBackendProtocol.of index' ns service portRef =
      HttpBackendProtocol.of index ns service portRef := by
  simp only [HttpBackendProtocol.of, servicePort_agree h]

omit [External] [CharTable] in
/-- Sets made of the same slices are the same. -/
theorem sortedDedup_flatMap_perm {α β : Type} [LinearOrder β] {l l' : List α} (h : l'.Perm l)
    (f : α → List β) :
    BTreeSet.sortedDedup (l'.flatMap f) = BTreeSet.sortedDedup (l.flatMap f) := by
  have hset : BTreeSet.ofList (l'.flatMap f) = BTreeSet.ofList (l.flatMap f) :=
    BTreeSet.ofList_eq_ofList.2 fun b => (h.flatMap_right f).mem_iff
  exact congrArg BTreeSet.toList hset

omit [External] [CharTable] in
/-- The reference is recorded before anything is read. -/
theorem referenced_mem_addServiceRoute [External] [CharTable] (index : Index)
    (ns service : String) (portRef : PortRef) :
    .referenced (slashed ns service) ∈ (addServiceRoute index ns service portRef).emissions := by
  unfold addServiceRoute
  split
  · exact List.mem_cons_self
  · simp

omit [External] [CharTable] in
theorem resolveBackends_agree (h : AgreeOn inputs inputs' index index' emissions)
    {ns service : String}
    (hslices : (index'.slicesFor ns service).Perm (index.slicesFor ns service))
    (portRef : PortRef) :
    resolveBackends index' ns service portRef = resolveBackends index ns service portRef := by
  unfold resolveBackends
  rw [servicePort_agree h]
  split
  · rfl
  · exact congrArg (fun addrs => Except.ok (_, addrs))
      (sortedDedup_flatMap_perm (hslices.filter _) _)

omit [External] [CharTable] in
/-- One report for each FQDN slice, all alike. -/
theorem fqdnReports_agree {ns service : String}
    (hslices : (index'.slicesFor ns service).Perm (index.slicesFor ns service)) :
    fqdnReports index' ns service = fqdnReports index ns service := by
  have hlength := (hslices.filter fun slice => decide (slice.addressType = "FQDN")).length_eq
  simp only [fqdnReports, List.map_const', hlength]

/-- **A reference resolves alike over objects that agree on what it emits.** -/
theorem addServiceRoute_agree {ns service : String} {portRef : PortRef}
    (h : AgreeOn inputs inputs' index index'
      (addServiceRoute index ns service portRef).emissions) :
    addServiceRoute index' ns service portRef = addServiceRoute index ns service portRef := by
  have hslices := h.slices ns service (referenced_mem_addServiceRoute index ns service portRef)
  simp only [addServiceRoute, resolveBackends_agree h hslices, fqdnReports_agree hslices,
    h.services, h.healthCheck]

/-! ## Ingresses -/

omit [CharTable] in
theorem ingressTls_agree (h : AgreeOn inputs inputs' index index' emissions) (cfg : BuildConfig)
    (nn : String × String) : ingressTls cfg index' nn = ingressTls cfg index nn := by
  funext tls
  simp only [ingressTls, h.secrets]

/-- What resolving a path's backend emits is among what the path emits. -/
theorem addServiceRoute_of_ingressPath {cfg : BuildConfig} {nn : String × String} {host : String}
    {hostHasTls redirect : Bool} {path : HttpIngressPath} {pm : PathMatch}
    {svc : IngressServiceBackend} {portRef : PortRef}
    (hpm : ingressPathMatch path.pathType path.path = .ok pm)
    (hsvc : path.backend.service = some svc) (hport : ingressPortRef svc.port = some portRef)
    (hpath : ingressPath cfg index nn host hostHasTls redirect path = some emissions) :
    ∀ e ∈ (addServiceRoute index nn.1 svc.name portRef).emissions, e ∈ emissions := by
  intro e he
  simp only [ingressPath, hpm, hsvc, hport] at hpath
  split at hpath
  · obtain rfl := Option.some.inj hpath
    simp [he]
  · obtain ⟨frontends, -, rfl⟩ := Option.map_eq_some_iff.1 hpath
    simp [he]

theorem ingressPath_agree {cfg : BuildConfig} {nn : String × String} {host : String}
    {hostHasTls redirect : Bool} {path : HttpIngressPath}
    (hpath : ingressPath cfg index nn host hostHasTls redirect path = some emissions)
    (h : AgreeOn inputs inputs' index index' emissions) :
    ingressPath cfg index' nn host hostHasTls redirect path = some emissions := by
  rw [← hpath]
  cases hpm : ingressPathMatch path.pathType path.path with
  | error problem => simp only [ingressPath, hpm]
  | ok pm =>
      cases hsvc : path.backend.service with
      | none => simp only [ingressPath, hpm, hsvc]
      | some svc =>
          cases hport : ingressPortRef svc.port with
          | none => simp only [ingressPath, hpm, hsvc, hport]
          | some portRef =>
              have hroute := addServiceRoute_agree
                (h.mono (addServiceRoute_of_ingressPath hpm hsvc hport hpath))
              simp only [ingressPath, hpm, hsvc, hport, hroute, protocol_agree h]

theorem ingressRule_agree {cfg : BuildConfig} {nn : String × String} {tlsReadyHosts : List String}
    {redirect : Bool} {rule : IngressRule}
    (hrule : ingressRule cfg index nn tlsReadyHosts redirect rule = some emissions)
    (h : AgreeOn inputs inputs' index index' emissions) :
    ingressRule cfg index' nn tlsReadyHosts redirect rule = some emissions := by
  unfold ingressRule at hrule ⊢
  split at hrule
  · exact hrule
  · dsimp only at hrule ⊢
    split at hrule
    · exact hrule
    · obtain ⟨emitted, hemitted, rfl⟩ := Option.map_eq_some_iff.1 hrule
      rw [mapM_agree (P := AgreeOn inputs inputs' index index') (fun _ _ hsub h => h.mono hsub)
        (fun _ _ => ingressPath_agree) hemitted h]
      rfl

theorem ingressEmissions_agree {cfg : BuildConfig} {ingress : Ingress}
    (hingress : ingressEmissions cfg index ingress = some emissions)
    (h : AgreeOn inputs inputs' index index' emissions) :
    ingressEmissions cfg index' ingress = some emissions := by
  unfold ingressEmissions at hingress ⊢
  split at hingress
  · exact hingress
  · simp only [Option.bind_eq_bind, Option.bind_eq_some_iff, Option.pure_def] at hingress
    obtain ⟨entries, hentries, rules, hrules, heq⟩ := hingress
    obtain rfl := Option.some.inj heq
    have hrules' := mapM_agree (P := AgreeOn inputs inputs' index index')
      (fun _ _ hsub h => h.mono hsub) (fun _ _ => ingressRule_agree) hrules h.right
    simp only [ingressTls_agree h, hentries, hrules', Option.bind_eq_bind, Option.bind_some,
      Option.pure_def]

/-- **The walk over the Ingresses** is the same over objects that agree on what it emits. -/
theorem ingressWalk_agree {cfg : BuildConfig} {walk : IngressWalk}
    (hwalk : ingressWalk cfg inputs index = some walk)
    (h : AgreeOn inputs inputs' index index' walk.emissions)
    (hingresses : inputs'.ingresses = inputs.ingresses) :
    ingressWalk cfg inputs' index' = some walk := by
  unfold ingressWalk at hwalk ⊢
  obtain ⟨emitted, hemitted, rfl⟩ := Option.map_eq_some_iff.1 hwalk
  rw [hingresses]
  dsimp only
  rw [mapM_agree (P := AgreeOn inputs inputs' index index') (fun _ _ hsub h => h.mono hsub)
    (fun _ _ => ingressEmissions_agree) hemitted h]
  rfl

/-! ## HTTPRoutes -/

/-- What resolving a backendRef emits is among what the reference emits. -/
theorem addServiceRoute_of_httpBackendRef {routeNs : String} {br : HttpRouteRulesBackendRefs}
    {port : Int32} (hport : br.port = some port)
    (hkind : ¬(br.group.getD "" ≠ "" ∨ br.kind.getD "Service" ≠ "Service"))
    (hweight : ¬br.weight = some 0)
    (hgrant : ¬(br.namespace_.getD routeNs ≠ routeNs ∧
      !referenceGranted inputs (br.namespace_.getD routeNs) "" "Service" br.name routeNs gwGroup
        "HTTPRoute")) :
    ∀ e ∈ (addServiceRoute index (br.namespace_.getD routeNs) br.name (.httpNumber port)).emissions,
      e ∈ (httpBackendRef inputs index routeNs br).emissions := by
  intro e he
  simp only [httpBackendRef, if_neg hkind, if_neg hweight, if_neg hgrant, hport]
  split <;> simp [he]

theorem httpBackendRef_agree {routeNs : String} {br : HttpRouteRulesBackendRefs}
    (h : AgreeOn inputs inputs' index index' (httpBackendRef inputs index routeNs br).emissions) :
    httpBackendRef inputs' index' routeNs br = httpBackendRef inputs index routeNs br := by
  cases hport : br.port with
  | none => simp only [httpBackendRef, hport, h.grants]
  | some port =>
      by_cases hkind : br.group.getD "" ≠ "" ∨ br.kind.getD "Service" ≠ "Service"
      · simp only [httpBackendRef, if_pos hkind]
      by_cases hweight : br.weight = some 0
      · simp only [httpBackendRef, if_neg hkind, if_pos hweight]
      by_cases hgrant : br.namespace_.getD routeNs ≠ routeNs ∧
          !referenceGranted inputs (br.namespace_.getD routeNs) "" "Service" br.name routeNs gwGroup
            "HTTPRoute"
      · simp only [httpBackendRef, if_neg hkind, if_neg hweight, h.grants, if_pos hgrant]
      have hroute := addServiceRoute_agree
        (h.mono (addServiceRoute_of_httpBackendRef hport hkind hweight hgrant))
      simp only [httpBackendRef, if_neg hkind, if_neg hweight, if_neg hgrant, h.grants, hport,
        hroute, protocol_agree h]

theorem ruleBackend_agree {routeNs : String} {rule : HttpRouteRules} {filters : FrontendFilters}
    (h : AgreeOn inputs inputs' index index'
      (ruleBackend inputs index routeNs rule filters).emissions) :
    ruleBackend inputs' index' routeNs rule filters =
      ruleBackend inputs index routeNs rule filters := by
  unfold ruleBackend at h ⊢
  split
  · rfl
  · rename_i br hrefs
    rw [hrefs] at h
    exact httpBackendRef_agree h
  · rfl

theorem attachRule_agree {sozuHeaders : SozuRequestHeaders} {routeNs : String}
    {routeHostnames : Option (List String)} {listeners : List ListenerInfo}
    {source : FrontendSource} {rule : HttpRouteRules}
    (h : AgreeOn inputs inputs' index index'
      (attachRule inputs index sozuHeaders routeNs routeHostnames listeners source rule)) :
    attachRule inputs' index' sozuHeaders routeNs routeHostnames listeners source rule =
      attachRule inputs index sozuHeaders routeNs routeHostnames listeners source rule := by
  unfold attachRule at h ⊢
  dsimp only at h ⊢
  split
  · rfl
  · rename_i hprogrammable
    rw [if_neg hprogrammable] at h
    rw [ruleBackend_agree h.left.right]

omit [External] [CharTable] in
theorem candidates_agree (h : AgreeOn inputs inputs' index index' emissions) (kind : RouteKind)
    (routeNs gwNs : String) (addressed : List ListenerInfo) :
    candidates index' kind routeNs gwNs addressed =
      candidates index kind routeNs gwNs addressed := by
  have hadmits : ∀ allowed : AllowedFrom,
      allowed.admits routeNs gwNs index' = allowed.admits routeNs gwNs index := by
    intro allowed
    cases allowed <;> simp only [AllowedFrom.admits, h.namespaceLabels]
  simp only [candidates, hadmits]

/-- **A route under one parentRef** is bound alike over objects that agree on what it
emits. -/
theorem httpParent_agree {cfg : BuildConfig} {gwListeners : GatewayListenersMap}
    {route : HttpRoute} {pref : ParentRef}
    (h : AgreeOn inputs inputs' index index'
      ((httpParent cfg inputs index gwListeners route pref).elim [] BoundParent.emissions)) :
    httpParent cfg inputs' index' gwListeners route pref =
      httpParent cfg inputs index gwListeners route pref := by
  unfold httpParent at h ⊢
  split
  · rfl
  · rename_i hgateway
    rw [if_neg hgateway] at h
    dsimp only at h ⊢
    cases hlisteners : gwListeners[objectKey (pref.namespace_.getD route.metadata.nn.1) pref.name]?
      with
    | none => rfl
    | some listeners =>
        rw [hlisteners] at h
        simp only [Option.map_some, Option.elim_some, candidates_agree h] at h ⊢
        split
        · rfl
        split
        · rfl
        split
        · rfl
        rename_i h1 h2 h3
        simp only [if_neg h1, if_neg h2, if_neg h3] at h
        have hrules : ∀ rule ∈ route.spec.rules.getD [], _ := fun rule hrule =>
          attachRule_agree (h.of_flatMap hrule)
        rw [List.flatMap_congr hrules]

theorem httpRouteParents_agree {cfg : BuildConfig} {gwListeners : GatewayListenersMap}
    {route : HttpRoute}
    (h : AgreeOn inputs inputs' index index'
      ((httpRouteParents cfg inputs index gwListeners route).flatMap BoundParent.emissions)) :
    httpRouteParents cfg inputs' index' gwListeners route =
      httpRouteParents cfg inputs index gwListeners route :=
  List.filterMap_congr fun _ hpref => httpParent_agree (h.of_filterMap hpref)

/-! ## Layer-4 routes -/

/-- What resolving a backendRef emits is among what its route emits. -/
theorem addServiceRoute_of_resolveL4Backend {view : L4RouteView} {br : BackendRef} {port : Int32}
    (hrefs : view.backendRefs = [br]) (hport : br.port = some port)
    (hkind : ¬(br.group.getD "" ≠ "" ∨ br.kind.getD "Service" ≠ "Service"))
    (hweight : ¬br.weight = some 0)
    (hgrant : ¬(br.namespace_.getD view.namespace_ ≠ view.namespace_ ∧
      !referenceGranted inputs (br.namespace_.getD view.namespace_) "" "Service" br.name
        view.namespace_ gwGroup view.kind.asStr)) :
    ∀ e ∈ (addServiceRoute index (br.namespace_.getD view.namespace_) br.name
        (.number port)).emissions,
      e ∈ (resolveL4Backend inputs index view).1 := by
  intro e he
  simp only [resolveL4Backend, hrefs, if_neg hkind, if_neg hweight, if_neg hgrant, hport]
  split <;> simp [he]

theorem resolveL4Backend_agree {view : L4RouteView}
    (h : AgreeOn inputs inputs' index index' (resolveL4Backend inputs index view).1) :
    resolveL4Backend inputs' index' view = resolveL4Backend inputs index view := by
  match hrefs : view.backendRefs with
  | [] => simp only [resolveL4Backend, hrefs]
  | _ :: _ :: _ => simp only [resolveL4Backend, hrefs]
  | [br] =>
      by_cases hkind : br.group.getD "" ≠ "" ∨ br.kind.getD "Service" ≠ "Service"
      · simp only [resolveL4Backend, hrefs, if_pos hkind]
      by_cases hweight : br.weight = some 0
      · simp only [resolveL4Backend, hrefs, if_neg hkind, if_pos hweight]
      by_cases hgrant : br.namespace_.getD view.namespace_ ≠ view.namespace_ ∧
          !referenceGranted inputs (br.namespace_.getD view.namespace_) "" "Service" br.name
            view.namespace_ gwGroup view.kind.asStr
      · simp only [resolveL4Backend, hrefs, if_neg hkind, if_neg hweight, h.grants, if_pos hgrant]
      cases hport : br.port with
      | none =>
          simp only [resolveL4Backend, hrefs, if_neg hkind, if_neg hweight, if_neg hgrant,
            h.grants, hport]
      | some port =>
          have hroute := addServiceRoute_agree
            (h.mono (addServiceRoute_of_resolveL4Backend hrefs hport hkind hweight hgrant))
          simp only [resolveL4Backend, hrefs, if_neg hkind, if_neg hweight, if_neg hgrant,
            h.grants, hport, hroute]

theorem l4Parent_agree {gwListeners : GatewayListenersMap} {view : L4RouteView} {pref : ParentRef}
    (h : AgreeOn inputs inputs' index index'
      ((l4Parent inputs index gwListeners view pref).elim [] L4BoundParent.emissions)) :
    l4Parent inputs' index' gwListeners view pref =
      l4Parent inputs index gwListeners view pref := by
  unfold l4Parent at h ⊢
  split
  · rfl
  · rename_i hgateway
    rw [if_neg hgateway] at h
    dsimp only at h ⊢
    cases hlisteners : gwListeners[objectKey (pref.namespace_.getD view.namespace_) pref.name]? with
    | none => rfl
    | some listeners =>
        rw [hlisteners] at h
        simp only [Option.map_some, Option.elim_some, candidates_agree h] at h ⊢
        split
        · rfl
        split
        · rfl
        rename_i h1 h2
        simp only [if_neg h1, if_neg h2] at h
        rw [resolveL4Backend_agree h]
        simp only [l4Claims, h.services]

theorem l4RouteParents_agree {gwListeners : GatewayListenersMap} {view : L4RouteView}
    (h : AgreeOn inputs inputs' index index'
      ((l4RouteParents inputs index gwListeners view).flatMap L4BoundParent.emissions)) :
    l4RouteParents inputs' index' gwListeners view = l4RouteParents inputs index gwListeners view :=
  List.filterMap_congr fun _ hpref => l4Parent_agree (h.of_filterMap hpref)

/-! ## Gateways -/

omit [CharTable] in
theorem loadListenerCerts_agree (h : AgreeOn inputs inputs' index index' emissions)
    (gw : String × String) (l : GatewayListeners) (bind : SocketAddr) :
    loadListenerCerts inputs' index' gw l bind = loadListenerCerts inputs index gw l bind := by
  have href : loadCertificateRef inputs' index' gw l bind =
      loadCertificateRef inputs index gw l bind := by
    funext cref
    simp only [loadCertificateRef, h.grants, h.secrets]
  simp only [loadListenerCerts, href]

/-- No Gateway depends on any slice. -/
theorem buildOneGateway_agree (h : AgreeOn inputs inputs' index index' emissions)
    (cfg : BuildConfig) (gw : Gateway) :
    buildOneGateway cfg inputs' index' gw = buildOneGateway cfg inputs index gw := by
  have hlistener : buildListener cfg inputs' index' gw.metadata.nn =
      buildListener cfg inputs index gw.metadata.nn := by
    funext l
    simp only [buildListener, loadListenerCerts_agree h]
  simp only [buildOneGateway, hlistener]

/-! ## The walk over the Gateway API -/

theorem httpBound_agree {cfg : BuildConfig} {gwListeners : GatewayListenersMap}
    (hroutes : inputs'.httpRoutes = inputs.httpRoutes)
    (h : AgreeOn inputs inputs' index index' ((httpBound cfg inputs index gwListeners).flatMap
      fun b => b.2.flatMap BoundParent.emissions)) :
    httpBound cfg inputs' index' gwListeners = httpBound cfg inputs index gwListeners := by
  rw [httpBound, List.flatMap_map] at h
  rw [httpBound, httpBound, hroutes]
  refine List.map_congr_left fun route hroute => ?_
  rw [httpRouteParents_agree (h.of_flatMap hroute)]

theorem l4Bound_agree {gwListeners : GatewayListenersMap}
    (htcp : inputs'.tcpRoutes = inputs.tcpRoutes) (hudp : inputs'.udpRoutes = inputs.udpRoutes)
    (h : AgreeOn inputs inputs' index index' ((l4Bound inputs index gwListeners).flatMap
      fun b => b.2.flatMap L4BoundParent.emissions)) :
    l4Bound inputs' index' gwListeners = l4Bound inputs index gwListeners := by
  rw [l4Bound, List.flatMap_map] at h
  rw [l4Bound, l4Bound, l4Views, htcp, hudp]
  refine List.map_congr_left fun view hview => ?_
  rw [l4RouteParents_agree (h.of_flatMap hview)]

/-- **The walk over the Gateway API** is the same over objects that agree on what it
emits. -/
theorem gatewayWalk_agree {cfg : BuildConfig}
    (hclasses : inputs'.gatewayClasses = inputs.gatewayClasses)
    (hgateways : inputs'.gateways = inputs.gateways)
    (hhttp : inputs'.httpRoutes = inputs.httpRoutes)
    (htcp : inputs'.tcpRoutes = inputs.tcpRoutes) (hudp : inputs'.udpRoutes = inputs.udpRoutes)
    (h : AgreeOn inputs inputs' index index' (gatewayWalk cfg inputs index).emissions) :
    gatewayWalk cfg inputs' index' = gatewayWalk cfg inputs index := by
  have hresults : gatewayClassResults cfg inputs' = gatewayClassResults cfg inputs := by
    rw [gatewayClassResults, gatewayClassResults, hclasses]
  have hbuilt : builtGateways cfg inputs' index' = builtGateways cfg inputs index := by
    simp only [builtGateways, ourGateways, hresults, hgateways, buildOneGateway_agree h]
  simp only [gatewayWalk] at h
  simp only [gatewayWalk, hbuilt, hresults, httpBound_agree hhttp h.left.right,
    l4Bound_agree htcp hudp h.right]

end Walks

/-! ## The build -/

/-- One more slice goes behind those of its Service. -/
theorem getElem?_indexSlice (indexed : BTreeMap ObjectKey (List EndpointSlice))
    (slice : EndpointSlice) (key : ObjectKey) :
    (match sliceService slice with
      | some fed => indexed.insert fed ((indexed[fed]?.getD []) ++ [slice])
      | none => indexed)[key]?.getD [] =
        indexed[key]?.getD [] ++ [slice].filter fun slice => sliceService slice = some key := by
  cases hservice : sliceService slice with
  | none => simp [hservice]
  | some fed =>
      by_cases hkey : fed = key
      · simp [hservice, hkey]
      · simp [BTreeMap.getElem?_insert, hservice, hkey]

/-- The slices of a Service, in the order they are listed. -/
theorem slicesFor_build (inputs : Inputs) (healthCheck : HealthCheckDefault) (ns service : String) :
    (Index.build inputs healthCheck).slicesFor ns service =
      inputs.endpointslices.filter fun slice =>
        sliceService slice = some (objectKey ns service) := by
  have hfold : ∀ (slices : List EndpointSlice) (indexed : BTreeMap ObjectKey (List EndpointSlice)),
      (slices.foldl (fun indexed slice =>
        match sliceService slice with
        | some fed => indexed.insert fed ((indexed[fed]?.getD []) ++ [slice])
        | none => indexed) indexed)[objectKey ns service]?.getD [] =
          indexed[objectKey ns service]?.getD [] ++
            slices.filter fun slice => sliceService slice = some (objectKey ns service) := by
    intro slices
    induction slices with
    | nil => intro indexed; simp
    | cons slice slices ih =>
        intro indexed
        rw [List.foldl_cons, ih]
        refine (congrArg (· ++ _) (getElem?_indexSlice indexed slice _)).trans ?_
        rw [List.append_assoc, ← List.filter_append, List.singleton_append]
  exact (hfold inputs.endpointslices ∅).trans (by simp)

/-- The slice feeds one of the referenced Services. -/
def feeds (referenced : BTreeSet String) (slice : EndpointSlice) : Bool :=
  (sliceServiceKey slice).any fun key => key ∈ referenced

/-- The slices of a referenced Service are among those that feed one. -/
theorem filter_feeds {referenced : BTreeSet String} {ns service : String}
    (h : slashed ns service ∈ referenced) (slices : List EndpointSlice) :
    (slices.filter (feeds referenced)).filter
        (fun slice => sliceService slice = some (objectKey ns service)) =
      slices.filter fun slice => sliceService slice = some (objectKey ns service) := by
  rw [List.filter_filter]
  refine List.filter_congr fun slice _ => ?_
  by_cases hkey : sliceService slice = some (objectKey ns service)
  · have hfeeds : feeds referenced slice = true := by
      simp only [feeds, sliceServiceKey, hkey, Option.map_some, Option.any_some, decide_eq_true_eq]
      exact h
    simp [hkey, hfeeds]
  · simp [hkey]

section Build

variable [External] [CharTable]

/-- Two lists of slices that hold the same ones of each referenced Service give one build. -/
theorem build_agree {cfg : BuildConfig} {inputs : Inputs} {slices : List EndpointSlice}
    {out : BuildOutput} (hout : build cfg inputs = some out)
    (hslices : ∀ ns service, slashed ns service ∈ out.referencedServices →
      (slices.filter fun slice => sliceService slice = some (objectKey ns service)).Perm
        (inputs.endpointslices.filter fun slice =>
          sliceService slice = some (objectKey ns service))) :
    build cfg { inputs with endpointslices := slices } = some out := by
  obtain ⟨walk, hwalk, hassemble⟩ := Option.map_eq_some_iff.1 hout
  have hagree : AgreeOn inputs { inputs with endpointslices := slices }
      (Index.build inputs cfg.healthCheck)
      (Index.build { inputs with endpointslices := slices } cfg.healthCheck)
      (walk.emissions ++
        (gatewayWalk cfg inputs (Index.build inputs cfg.healthCheck)).emissions) :=
    { grants := rfl
      services := rfl
      namespaceLabels := rfl
      secrets := rfl
      healthCheck := rfl
      slices := by
        intro ns service hreferenced
        have hmem : slashed ns service ∈ out.referencedServices := by
          rw [← hassemble]
          exact BTreeSet.mem_ofList.2 (List.mem_filterMap.2 ⟨_, hreferenced, rfl⟩)
        rw [slicesFor_build, slicesFor_build]
        exact hslices ns service hmem }
  have hgateways : gatewayWalk cfg { inputs with endpointslices := slices }
      (Index.build { inputs with endpointslices := slices } cfg.healthCheck) =
        gatewayWalk cfg inputs (Index.build inputs cfg.healthCheck) :=
    gatewayWalk_agree rfl rfl rfl rfl rfl hagree.right
  have hingresses : ingressWalk cfg { inputs with endpointslices := slices }
      (Index.build { inputs with endpointslices := slices } cfg.healthCheck) = some walk :=
    ingressWalk_agree hwalk hagree.left rfl
  rw [build, hingresses, hgateways, ← hassemble]
  rfl

/-- **Slices of unreferenced Services change nothing.**  Two inputs that hold the same
slices of the Services the first build references, in any order, give equal outputs. -/
theorem build_unreferenced_slices (cfg : BuildConfig) (inputs : Inputs)
    (slices : List EndpointSlice) (out : BuildOutput) (hout : build cfg inputs = some out)
    (hslices : (slices.filter (feeds out.referencedServices)).Perm
      (inputs.endpointslices.filter (feeds out.referencedServices))) :
    build cfg { inputs with endpointslices := slices } = some out := by
  refine build_agree hout fun ns service hmem => ?_
  rw [← filter_feeds hmem slices, ← filter_feeds hmem inputs.endpointslices]
  exact hslices.filter _

end Build

/-! An Ingress to the Service `default/web`, and a slice of the Service `default/other`. -/

/-- A slice of a Service of the namespace `default`, with one ready address. -/
def readySlice (name service address : String) : EndpointSlice where
  metadata := {
    name := some name
    labels := some ((∅ : BTreeMap String String).insert "kubernetes.io/service-name" service) }
  addressType := "IPv4"
  endpoints := some [{ addresses := [address], ready := some true }]
  ports := some [{ port := some 8080 }]

/-- An Ingress to the Service `default/web`. -/
def webInputs : Inputs where
  ingresses :=
    [{ metadata := { name := some "site" }
       spec := some {
        ingressClassName := some "sozu"
        rules := some [{
          host := some "example.test"
          http := some [{
            path := some "/"
            pathType := "Prefix"
            backend := {
              service := some {
                name := "web"
                port := some { number := some 80, name := none } } } }] }] } }]
  services := [{ metadata := { name := some "web" }, ports := some [{ port := 80 }] }]
  endpointslices := [readySlice "web-1" "web" "10.0.0.1"]

attribute [local instance] External.plain Sozu.asciiTable in
/-- A slice of another Service, added to the objects, changes nothing. -/
theorem build_unreferenced_slices_other :
    ∃ out, build {} webInputs = some out ∧ out.ir.backends ≠ [] ∧
      build {} { webInputs with
        endpointslices := readySlice "other-1" "other" "10.0.0.2" :: webInputs.endpointslices } =
          some out := by
  have hout : ((build {} webInputs).any fun out =>
      decide (out.ir.backends ≠ []) &&
        decide (out.referencedServices = BTreeSet.ofList ["default/web"])) = true := by
    decide +kernel
  obtain ⟨out, hbuild, hout⟩ := (Option.any_eq_true _ _).1 hout
  obtain ⟨hbackends, hreferenced⟩ := Bool.and_eq_true_iff.1 hout
  have hother : feeds (BTreeSet.ofList ["default/web"]) (readySlice "other-1" "other" "10.0.0.2") =
      false := by decide +kernel
  refine ⟨out, hbuild, of_decide_eq_true hbackends,
    build_unreferenced_slices _ _ _ out hbuild ?_⟩
  rw [of_decide_eq_true hreferenced, List.filter_cons_of_neg (by simp [hother])]

end Builder

end SozuGateway
