import SozuGateway.Builder.Isolation
import SozuGateway.Builder.Tables

/-!
# Where clusters come from

Every cluster a walk gives, traced back to the reference to a Service port behind it.

* `serviceRouteOf` — what a reference gives, from the Service and the port alone.
* `FromReference`, `Programs` — a cluster is given by a reference that resolved;
  `Denotes` — to a port of a Service.
* `programs_walks` — so are all those of the walks.
-/

set_option autoImplicit false

namespace SozuGateway

namespace Builder

open Lib

section References

variable [External] [CharTable]

/-! ## References -/

/-- The ready addresses behind a port of a Service. -/
def readyAddrs (index : Index) (ns service : String) (port : ServicePort) : List SocketAddr :=
  BTreeSet.sortedDedup (((index.slicesFor ns service).filter fun slice =>
    slice.addressType ≠ "FQDN").flatMap (sliceAddrs port))

/-- What a reference to a port of a Service gives. -/
def serviceRouteOf (index : Index) (ns service : String) (port : ServicePort) (clusterId : String) :
    ServiceRoute :=
  let svc := index.services[objectKey ns service]?
  let s := clusterSettings ns service svc index.healthCheck
  { cluster := {
      id := clusterId
      loadBalancing := s.loadBalancing
      stickySession := s.stickySession
      httpsRedirect := false
      maxConnectionsPerIp := s.maxConnectionsPerIp
      retryAfter := s.retryAfter
      http2 := false
      healthCheck := s.healthCheck.toOption.join }
    serviceUid := (svc.bind fun s => s.metadata.uid).getD ""
    addrs := readyAddrs index ns service port }

/-- A reference that resolved gives the cluster. -/
def FromReference (index : Index) (r : ServiceRoute) : Prop :=
  ∃ ns service portRef port, servicePort index ns service portRef = .ok (port, r.cluster.id) ∧
    r = serviceRouteOf index ns service port r.cluster.id

/-- The cluster is that of a port of a Service: a reference to it resolves so. -/
structure Denotes (index : Index) (clusterId ns service : String) (svc : Service)
    (port : ServicePort) : Prop where
  found : index.services[objectKey ns service]? = some svc
  resolved : ∃ portRef, servicePort index ns service portRef = .ok (port, clusterId)

omit [External] [CharTable] in
/-- The Service is one of the inputs, under its own name, and the port one of its own. -/
theorem Denotes.isClusterOf {inputs : Inputs} {healthCheck : HealthCheckDefault}
    {clusterId ns service : String} {svc : Service} {port : ServicePort}
    (h : Denotes (Index.build inputs healthCheck) clusterId ns service svc port) :
    IsClusterOf inputs ns service clusterId := by
  obtain ⟨portRef, hresolved⟩ := h.resolved
  obtain ⟨svc, hsvc, hfound, rfl⟩ := servicePort_eq_ok hresolved
  obtain ⟨hlisted, hkey⟩ := mem_of_byKey hsvc
  exact ⟨svc, hlisted, congrArg ofLex hkey, port, PortRef.mem_of_find hfound, rfl⟩

theorem FromReference.denotes {index : Index} {r : ServiceRoute}
    (h : FromReference index r) : ∃ ns service svc port,
      Denotes index r.cluster.id ns service svc port ∧
        r = serviceRouteOf index ns service port r.cluster.id := by
  obtain ⟨ns, service, portRef, port, hport, heq⟩ := h
  obtain ⟨svc, hsvc, -⟩ := servicePort_eq_ok hport
  exact ⟨ns, service, svc, port, ⟨hsvc, portRef, hport⟩, heq⟩

/-- Nothing but clusters of references. -/
def Programs (index : Index) (l : List Emission) : Prop :=
  ∀ r, .service r ∈ l → FromReference index r

variable {index : Index}

theorem Programs.nil : Programs index [] := fun _ h => absurd h List.not_mem_nil

theorem Programs.append {l l' : List Emission} (h : Programs index l) (h' : Programs index l') :
    Programs index (l ++ l') := fun r hr => (List.mem_append.1 hr).elim (h r) (h' r)

/-- An emission that gives no cluster. -/
theorem Programs.singleton {e : Emission} (h : e.service? = none) : Programs index [e] := by
  intro r hr
  rw [← List.mem_singleton.1 hr] at h
  cases h

theorem Programs.flatMap {α : Type} {l : List α} {f : α → List Emission}
    (h : ∀ a ∈ l, Programs index (f a)) : Programs index (l.flatMap f) := by
  intro r hr
  obtain ⟨a, ha, hr⟩ := List.mem_flatMap.1 hr
  exact h a ha r hr

theorem Programs.flatten {l : List (List Emission)} (h : ∀ a ∈ l, Programs index a) :
    Programs index l.flatten := by
  intro r hr
  obtain ⟨a, ha, hr⟩ := List.mem_flatten.1 hr
  exact h a ha r hr

theorem Remarks.programs {l : List Emission} (h : Remarks l) : Programs index l :=
  fun r hr => (h (.service r) hr).elim

theorem programs_problem (p : Problem) : Programs index [.problem p] := (remarks_problem p).programs

theorem programs_failRef (p : Problem) (reason : String) : Programs index (failRef p reason) :=
  (remarks_failRef p reason).programs

/-- **A reference gives the cluster of the port it resolved to**, or none. -/
theorem programs_addServiceRoute (index : Index) (ns service : String) (portRef : PortRef) :
    Programs index (addServiceRoute index ns service portRef).emissions := by
  unfold addServiceRoute resolveBackends
  cases hport : servicePort index ns service portRef with
  | error problem => exact .singleton rfl
  | ok found =>
      obtain ⟨port, clusterId⟩ := found
      have hreferenced : Programs index [.referenced (slashed ns service)] := .singleton rfl
      have hfqdn : Programs index (fqdnReports index ns service) := by
        intro r hr
        obtain ⟨_, -, hother⟩ := List.mem_map.1 hr
        cases hother
      refine ((hreferenced.append hfqdn).append ?_).append fun r hr => ?_
      · split
        · exact .nil
        · exact .singleton rfl
      · obtain rfl := Emission.service.inj (List.mem_singleton.1 hr)
        exact ⟨ns, service, portRef, port, hport, rfl⟩

theorem programs_configure (protocol : HttpBackendProtocol) (clusterId : String) :
    Programs index (protocol.configure clusterId) := by
  unfold HttpBackendProtocol.configure
  split
  · exact .singleton rfl
  · exact .nil

/-! ## Ingresses -/

section Ingress

variable {cfg : BuildConfig} {nn : String × String}

theorem programs_ingressTls {tls : IngressTls} {entry : TlsEntry}
    (h : ingressTls cfg index nn tls = some entry) : Programs index entry.emissions := by
  unfold ingressTls at h
  dsimp only at h
  split at h
  · exact Option.some.inj h ▸ programs_problem _
  split at h
  · exact Option.some.inj h ▸ programs_problem _
  split at h
  · exact Option.some.inj h ▸ programs_problem _
  obtain ⟨bind, -, rfl⟩ := Option.map_eq_some_iff.1 h
  split
  · exact .singleton rfl
  · exact programs_problem _

theorem programs_ingressFrontends {source : FrontendSource} {host : String} {path : PathMatch}
    {clusterId : String} {hostHasTls redirect : Bool} {emissions : List Emission}
    (h : ingressFrontends cfg source host path clusterId hostHasTls redirect = some emissions) :
    Programs index emissions := by
  intro r hr
  obtain ⟨sf, hfrontend, -⟩ := frontend_of_ingressFrontends h hr
  cases hfrontend

theorem programs_ingressPath {host : String} {hostHasTls redirect : Bool} {path : HttpIngressPath}
    {emissions : List Emission}
    (h : ingressPath cfg index nn host hostHasTls redirect path = some emissions) :
    Programs index emissions := by
  unfold ingressPath at h
  split at h
  · exact Option.some.inj h ▸ programs_problem _
  split at h
  · exact Option.some.inj h ▸ programs_problem _
  rename_i svc _
  split at h
  · exact Option.some.inj h ▸ programs_problem _
  rename_i portRef _
  dsimp only at h
  have hresolved := (remarks_warn ((HttpBackendProtocol.of index nn.1 svc.name portRef).problem
    svc.name)).programs.append (programs_addServiceRoute index nn.1 svc.name portRef)
  split at h
  · exact Option.some.inj h ▸ hresolved.append (programs_problem _)
  · obtain ⟨frontends, hfrontends, rfl⟩ := Option.map_eq_some_iff.1 h
    exact ((hresolved.append (programs_configure _ _)).append remarks_ite.programs).append
      (programs_ingressFrontends hfrontends)

theorem programs_ingressRule {tlsReadyHosts : List String} {redirect : Bool} {rule : IngressRule}
    {emissions : List Emission}
    (h : ingressRule cfg index nn tlsReadyHosts redirect rule = some emissions) :
    Programs index emissions := by
  unfold ingressRule at h
  split at h
  · exact Option.some.inj h ▸ .nil
  dsimp only at h
  split at h
  · exact Option.some.inj h ▸ .singleton rfl
  · obtain ⟨paths, hpaths, rfl⟩ := Option.map_eq_some_iff.1 h
    refine .flatten fun emitted hemitted => ?_
    obtain ⟨path, -, hpath⟩ := exists_of_mem_mapM hpaths hemitted
    exact programs_ingressPath hpath

theorem programs_ingressEmissions {ingress : Ingress} {emissions : List Emission}
    (h : ingressEmissions cfg index ingress = some emissions) : Programs index emissions := by
  unfold ingressEmissions at h
  split at h
  · exact Option.some.inj h ▸ .nil
  obtain ⟨entries, hentries, h⟩ := Option.bind_eq_some_iff.1 h
  obtain ⟨rules, hrules, h⟩ := Option.bind_eq_some_iff.1 h
  obtain rfl := Option.some.inj h
  refine Programs.append (Programs.append ?_ (.flatMap fun entry hentry => ?_))
    (.flatten fun rule hrule => ?_)
  · split
    · exact programs_problem _
    · exact .nil
  · obtain ⟨tls, -, htls⟩ := exists_of_mem_mapM hentries hentry
    exact programs_ingressTls htls
  · obtain ⟨declared, -, hdeclared⟩ := exists_of_mem_mapM hrules hrule
    exact programs_ingressRule hdeclared

/-- **The walk over the Ingresses gives clusters of references.** -/
theorem programs_ingressWalk {inputs : Inputs} {walk : IngressWalk}
    (h : ingressWalk cfg inputs index = some walk) : Programs index walk.emissions := by
  obtain ⟨emitted, hemitted, rfl⟩ := Option.map_eq_some_iff.1 h
  refine .flatten fun emissions hemissions => ?_
  obtain ⟨ingress, -, hingress⟩ := exists_of_mem_mapM hemitted hemissions
  exact programs_ingressEmissions hingress

end Ingress

/-! ## Listeners -/

section Routes

variable {cfg : BuildConfig} {inputs : Inputs} {gw : String × String} {l : GatewayListeners}

theorem programs_loadListenerCerts {bind : SocketAddr} :
    Programs index (loadListenerCerts inputs index gw l bind).emissions := by
  unfold loadListenerCerts
  split
  · exact programs_problem _
  dsimp only
  split
  · exact programs_problem _
  refine .flatMap fun outcome houtcome => ?_
  obtain ⟨cref, -, rfl⟩ := List.mem_map.1 houtcome
  unfold loadCertificateRef
  split
  · exact programs_problem _
  dsimp only
  split
  · exact programs_problem _
  split
  · exact programs_problem _
  split
  · exact .singleton rfl
  · exact programs_problem _

theorem programs_buildListener :
    Programs index (buildListener cfg inputs index gw l).emissions := by
  have hreported : Programs index ((selectorUnevaluable l).toList.map fun reason =>
      Emission.problem (.namespaceSelectorInvalid l.name reason)) := by
    intro r hr
    obtain ⟨reason, -, hother⟩ := List.mem_map.1 hr
    cases hother
  unfold buildListener
  dsimp only
  split
  · exact hreported.append (programs_problem _)
  split
  · exact hreported.append (programs_problem _)
  split
  · exact hreported.append (programs_problem _)
  split
  · exact hreported.append (programs_problem _)
  split
  · exact hreported
  split
  · exact hreported.append programs_loadListenerCerts
  · exact hreported

theorem programs_buildOneGateway {gw : Gateway} :
    Programs index (buildOneGateway cfg inputs index gw).emissions := by
  have hunsupported : ∀ (present : Bool) (field : String), Programs index
      (if present then [Emission.problem (.gatewaySpecUnsupported field)] else []) := by
    intro present field
    split
    · exact programs_problem _
    · exact .nil
  have hemitted := ((hunsupported gw.spec.hasTls "spec.tls").append
    (hunsupported gw.spec.hasAllowedListeners "spec.allowedListeners")).append
      (.flatMap (l := gw.spec.listeners.map (buildListener cfg inputs index gw.metadata.nn))
        (f := BuiltListener.emissions) fun built hbuilt => by
          obtain ⟨l, -, rfl⟩ := List.mem_map.1 hbuilt
          exact programs_buildListener)
  unfold buildOneGateway
  dsimp only
  split
  · exact Programs.append (fun r hr => hemitted r (List.mem_of_mem_filter hr)) (programs_problem _)
  · exact hemitted

/-! ## HTTPRoutes -/

theorem programs_httpBackendRef (routeNs : String) (br : HttpRouteRulesBackendRefs) :
    Programs index (httpBackendRef inputs index routeNs br).emissions := by
  have hfiltered : Programs index (if 0 < br.filters.getD 0 then
      [.problem (.filterUnsupported ("filters on backendRef " ++ br.name))] else []) := by
    split
    · exact programs_problem _
    · exact .nil
  unfold httpBackendRef
  split
  · exact programs_failRef _ _
  split
  · exact programs_failRef _ _
  dsimp only
  split
  · exact hfiltered.append (programs_failRef _ _)
  split
  · exact hfiltered.append (programs_failRef _ _)
  split
  · exact (hfiltered.append (programs_addServiceRoute _ _ _ _)).append (programs_failRef _ _)
  · refine (((hfiltered.append (programs_addServiceRoute _ _ _ _)).append
      (programs_configure _ _)).append ?_).append remarks_ite.programs
    split
    · exact (Programs.singleton (e := .problemOnce _) rfl).append
        (.singleton (e := .failRef _) rfl)
    · exact .nil

theorem programs_ruleBackend (routeNs : String) (rule : HttpRouteRules)
    (filters : FrontendFilters) :
    Programs index (ruleBackend inputs index routeNs rule filters).emissions := by
  unfold ruleBackend
  split
  · split
    · exact .nil
    · exact programs_failRef _ _
  · exact programs_httpBackendRef _ _
  · exact programs_failRef _ _

theorem programs_listenerFrontends (target : RuleTarget) (routeHostnames : Option (List String))
    (routeMatch : RouteMatch) (info : ListenerInfo) :
    Programs index (listenerFrontends target routeHostnames routeMatch info) := by
  unfold listenerFrontends
  split
  · exact .nil
  split
  · intro r hr
    obtain ⟨hostname, -, hother⟩ := List.mem_map.1 hr
    split at hother <;> cases hother
  · exact .nil

theorem programs_attachRule (sozuHeaders : SozuRequestHeaders) (routeNs : String)
    (routeHostnames : Option (List String)) (infos : List ListenerInfo) (source : FrontendSource)
    (rule : HttpRouteRules) :
    Programs index
      (attachRule inputs index sozuHeaders routeNs routeHostnames infos source rule) := by
  have hparsed := remarks_parseFilters (rule.filters.getD [])
  unfold attachRule
  dsimp only
  split
  · exact hparsed.programs.append (.singleton rfl)
  refine ((hparsed.append (remarks_timeouts rule)).programs.append
    (programs_ruleBackend _ _ _)).append ?_
  split
  · exact .nil
  · exact (remarks_parseMatches _ _).programs.append (.flatMap fun routeMatch _ =>
      .flatMap fun info _ => programs_listenerFrontends _ _ _ _)

theorem programs_httpParent {gwListeners : GatewayListenersMap} {route : HttpRoute}
    {pref : ParentRef} {bound : BoundParent}
    (h : httpParent cfg inputs index gwListeners route pref = some bound) :
    Programs index bound.emissions := by
  unfold httpParent at h
  split at h
  · cases h
  dsimp only at h
  obtain ⟨infos, -, rfl⟩ := Option.map_eq_some_iff.1 h
  split
  · exact .nil
  split
  · exact .nil
  split
  · exact .nil
  · exact .flatMap fun rule _ => programs_attachRule _ _ _ _ _ _

/-! ## Layer-4 routes -/

theorem programs_resolveL4Backend (view : L4RouteView) :
    Programs index (resolveL4Backend inputs index view).1 := by
  unfold resolveL4Backend
  split
  · exact programs_failRef _ _
  · split
    · exact programs_failRef _ _
    split
    · exact programs_failRef _ _
    dsimp only
    split
    · exact programs_failRef _ _
    split
    · exact programs_failRef _ _
    split
    · exact (programs_addServiceRoute _ _ _ _).append (programs_failRef _ _)
    · exact (programs_addServiceRoute _ _ _ _).append remarks_ite.programs
  · exact programs_failRef _ _

theorem programs_l4Parent {gwListeners : GatewayListenersMap} {view : L4RouteView}
    {pref : ParentRef} {bound : L4BoundParent}
    (h : l4Parent inputs index gwListeners view pref = some bound) :
    Programs index bound.emissions := by
  unfold l4Parent at h
  split at h
  · cases h
  dsimp only at h
  obtain ⟨infos, -, rfl⟩ := Option.map_eq_some_iff.1 h
  split
  · exact .nil
  split
  · exact .nil
  · exact programs_resolveL4Backend view

/-- **The walk over the Gateway API gives clusters of references.** -/
theorem programs_gatewayWalk : Programs index (gatewayWalk cfg inputs index).emissions := by
  refine Programs.append (Programs.append (.flatMap fun built hbuilt => ?_)
    (.flatMap fun b hb => .flatMap fun bound hbound => ?_))
      (.flatMap fun b hb => .flatMap fun bound hbound => ?_)
  · obtain ⟨gw, -, rfl⟩ := List.mem_map.1 hbuilt
    exact programs_buildOneGateway
  · obtain ⟨route, -, rfl⟩ := List.mem_map.1 hb
    obtain ⟨pref, -, hparent⟩ := List.mem_filterMap.1 hbound
    exact programs_httpParent hparent
  · obtain ⟨view, -, rfl⟩ := List.mem_map.1 hb
    obtain ⟨pref, -, hparent⟩ := List.mem_filterMap.1 hbound
    exact programs_l4Parent hparent

/-- **A build's clusters are those of references.** -/
theorem programs_walks {walk : IngressWalk} (h : ingressWalk cfg inputs index = some walk) :
    Programs index (walk.emissions ++ (gatewayWalk cfg inputs index).emissions) :=
  (programs_ingressWalk h).append programs_gatewayWalk

end Routes

end References

end Builder

end SozuGateway
