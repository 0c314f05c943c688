import SozuGateway.Builder.L4Routes
import SozuGateway.Builder.Lift

/-!
# The build

`build` of `crates/builder/src/lib.rs`: Kubernetes objects to the IR and the results.

* `ingressWalk`, `gatewayWalk` — the walks over the inputs: what they emit, and the
  results they leave.
* `ownerClaims` — the age of every object that may own a frontend or a certificate.
* `applyReport`, `applyLostName` — a report on the result of the object it is about.
* `settleHealthChecks` — the checks Sōzu would run, and the reports on the others.
* `build` — the walks, then the arbitration; nothing where the source panics.
-/

set_option autoImplicit false

namespace SozuGateway

namespace Builder

open Lib

/-! ## Results -/

/-- Acceptance of one of our GatewayClasses. -/
structure GatewayClassResult where
  name : String
  accepted : Bool
  deriving DecidableEq, Repr

/-- Status of one listener. -/
structure ListenerStatus where
  name : String
  supportedKinds : List String
  attachedRoutes : ℕ
  accepted : Bool
  acceptedReason : String
  programmed : Bool
  programmedReason : String
  resolvedRefs : Bool
  resolvedRefsReason : String
  deriving DecidableEq, Repr

/-- Status of one Gateway we own. -/
structure GatewayResult where
  namespace_ : String
  name : String
  uid : Option String
  accepted : Bool
  acceptedReason : String
  programmed : Bool
  problems : List Problem
  listeners : List ListenerStatus
  deriving DecidableEq, Repr

/-- What the build gives. -/
structure BuildOutput where
  ir : Ir
  results : List IngressResult
  gatewayClasses : List GatewayClassResult
  gateways : List GatewayResult
  routes : List RouteResult
  /-- `namespace/name` of every Service some route referenced. -/
  referencedServices : BTreeSet String
  deriving DecidableEq

/-! ## The walk over the Ingresses -/

/-- What a walk emits, and the results it leaves. -/
structure IngressWalk where
  emissions : List Emission
  results : List IngressResult

section Walks

variable [External] [CharTable]

/-- The Ingresses of our class, in order. -/
def ingressWalk (cfg : BuildConfig) (inputs : Inputs) (index : Index) : Option IngressWalk :=
  let ours := inputs.ingresses.filter fun ingress => isOurs ingress cfg
  (ours.mapM (ingressEmissions cfg index)).map fun emitted =>
    ⟨emitted.flatten, List.zipWith ingressResult ours emitted⟩

/-! ## The walk over the Gateway API -/

/-- The GatewayClasses with a name, and whether they are ours. -/
def gatewayClassResults (cfg : BuildConfig) (inputs : Inputs) : List GatewayClassResult :=
  inputs.gatewayClasses.filterMap fun gc =>
    gc.metadata.name.map fun name => ⟨name, gc.controllerName = cfg.controllerName⟩

/-- The Gateways of our classes. -/
def ourGateways (cfg : BuildConfig) (inputs : Inputs) : List Gateway :=
  inputs.gateways.filter fun gw =>
    (gatewayClassResults cfg inputs).any fun c => c.accepted && c.name = gw.spec.gatewayClassName

/-- The Gateways of our classes, built. -/
def builtGateways (cfg : BuildConfig) (inputs : Inputs) (index : Index) :
    List (Gateway × BuiltGateway) :=
  (ourGateways cfg inputs).map fun gw => (gw, buildOneGateway cfg inputs index gw)

/-- The listeners of our Gateways. -/
def gatewayListeners (built : List (Gateway × BuiltGateway)) : GatewayListenersMap :=
  built.foldl (fun listeners (gw, b) => listeners.insert (toLex gw.metadata.nn) b.listeners) ∅

/-- Every HTTPRoute with its parents, oldest first. -/
def httpBound (cfg : BuildConfig) (inputs : Inputs) (index : Index)
    (gwListeners : GatewayListenersMap) : List (HttpRoute × List BoundParent) :=
  (orderedHttpRoutes inputs.httpRoutes).map fun route =>
    (route, httpRouteParents cfg inputs index gwListeners route)

/-- Every layer-4 route with its parents. -/
def l4Bound (inputs : Inputs) (index : Index) (gwListeners : GatewayListenersMap) :
    List (L4RouteView × List L4BoundParent) :=
  (l4Views inputs).map fun view => (view, l4RouteParents inputs index gwListeners view)

/-- The result of an HTTPRoute, unless it has no parent of ours. -/
def httpRouteResult (bound : HttpRoute × List BoundParent) : Option RouteResult :=
  if bound.2 = [] then none
  else some {
    kind := .httpRoute
    namespace_ := bound.1.metadata.nn.1
    name := bound.1.metadata.nn.2
    uid := objUid bound.1.metadata
    parents := bound.2.map BoundParent.result }

/-- The result of a layer-4 route, unless it has no parent of ours. -/
def l4RouteResult (bound : L4RouteView × List L4BoundParent) : Option RouteResult :=
  if bound.2 = [] then none
  else some {
    kind := bound.1.kind
    namespace_ := bound.1.namespace_
    name := bound.1.name
    uid := bound.1.uid
    parents := bound.2.map L4BoundParent.result }

/-- The claims of the layer-4 routes, each with the places of its route's result and of
its parent; `first` results come before. -/
def placedClaims (first : ℕ) (bound : List (L4RouteView × List L4BoundParent)) : List L4Claim :=
  ((bound.filter fun b => b.2 ≠ []).zipIdx first).flatMap fun (b, route) =>
    b.2.zipIdx.flatMap fun (parent, place) =>
      parent.claims.map fun claim => { claim with route := route, parent := place }

/-- A listener of a Gateway, by the Gateway's key and the listener's name. -/
abbrev ListenerKey := ObjectKey ×ₗ String

/-- The listeners a bound parent is attached to. -/
def attachedTo (result : RouteParentResult) (listeners : List String) : List ListenerKey :=
  listeners.map fun l => toLex (objectKey result.gatewayNamespace result.gatewayName, l)

/-- Every attachment: one for each HTTPRoute parent and listener, and one for each layer-4
route and listener. -/
def attachments (http : List (HttpRoute × List BoundParent))
    (l4 : List (L4RouteView × List L4BoundParent)) : List ListenerKey :=
  (http.flatMap fun b => b.2.flatMap fun p => attachedTo p.result p.attached) ++
    l4.flatMap fun b => (b.2.flatMap fun p => attachedTo p.result p.attached).dedup

/-- The status of a listener. -/
def listenerStatus (attached : List ListenerKey) (gw : ObjectKey) (l : ListenerInfo) :
    ListenerStatus where
  name := l.name
  supportedKinds := l.supportedKinds
  attachedRoutes := attached.count (toLex (gw, l.name))
  accepted := l.accepted
  acceptedReason := l.acceptedReason
  programmed := l.programmed
  programmedReason := l.programmedReason
  resolvedRefs := l.resolvedRefs
  resolvedRefsReason := l.resolvedRefsReason

/-- The result of a Gateway. -/
def gatewayResult (gwListeners : GatewayListenersMap) (attached : List ListenerKey)
    (built : Gateway × BuiltGateway) : GatewayResult where
  namespace_ := built.1.metadata.nn.1
  name := built.1.metadata.nn.2
  uid := objUid built.1.metadata
  accepted := built.2.accepted
  acceptedReason := built.2.acceptedReason
  programmed := built.2.listeners.any ListenerInfo.programmed
  problems := Emission.problems built.2.emissions
  listeners :=
    (gwListeners[(toLex built.1.metadata.nn : ObjectKey)]?.getD []).map
      (listenerStatus attached (toLex built.1.metadata.nn))

/-- What the walk over the Gateway API gives. -/
structure GatewayWalk where
  emissions : List Emission
  classes : List GatewayClassResult
  gateways : List GatewayResult
  routes : List RouteResult
  sockets : Sockets

/-- Push a problem on one parent of one result, unless it is already there. -/
def pushOnParent (routes : List RouteResult) (route parent : ℕ) (problem : Problem) :
    List RouteResult :=
  routes.modify route fun r =>
    { r with parents := r.parents.modify parent fun p =>
        { p with problems := pushOnce p.problems problem } }

/-- The Gateways, the HTTPRoutes and the layer-4 routes. -/
def gatewayWalk (cfg : BuildConfig) (inputs : Inputs) (index : Index) : GatewayWalk :=
  let built := builtGateways cfg inputs index
  let gwListeners := gatewayListeners built
  let http := httpBound cfg inputs index gwListeners
  let l4 := l4Bound inputs index gwListeners
  let httpResults := http.filterMap httpRouteResult
  let sockets := settleSockets (placedClaims httpResults.length l4)
  let routes := sockets.conflicts.foldl
    (fun routes (route, parent, problem) => pushOnParent routes route parent problem)
    (httpResults ++ l4.filterMap l4RouteResult)
  { emissions := (built.flatMap fun b => b.2.emissions) ++
      (http.flatMap fun b => b.2.flatMap BoundParent.emissions) ++
        l4.flatMap fun b => b.2.flatMap L4BoundParent.emissions
    classes := gatewayClassResults cfg inputs
    gateways := built.map (gatewayResult gwListeners (attachments http l4))
    routes := routes
    sockets := sockets }

end Walks

/-! ## Claims -/

/-- Record the claims of some objects. -/
def recordClaims (kind : OwnerKind) (claims : BTreeMap OwnerIdent OwnerClaim)
    (objects : List ObjectMeta) : BTreeMap OwnerIdent OwnerClaim :=
  objects.foldl (fun claims metadata =>
    claims.insert (ownerIdent kind metadata.nn.1 metadata.nn.2)
      (ownerClaim metadata.nn.1 metadata.nn.2 (creationKey metadata))) claims

/-- The claim of every object that may own a frontend or a certificate. -/
def ownerClaims (cfg : BuildConfig) (inputs : Inputs) : BTreeMap OwnerIdent OwnerClaim :=
  let ingresses := recordClaims .ingress ∅
    ((inputs.ingresses.filter fun ingress => isOurs ingress cfg).map Ingress.metadata)
  let routes := recordClaims .httpRoute ingresses (inputs.httpRoutes.map HttpRoute.metadata)
  recordClaims .gateway routes (inputs.gateways.map Gateway.metadata)

/-! ## Reports -/

/-- The results being reported on. -/
structure Results where
  ingresses : List IngressResult
  gateways : List GatewayResult
  routes : List RouteResult

/-- Change the first element that satisfies `p`. -/
def updateFirst {α : Type} (p : α → Bool) (f : α → α) : List α → List α
  | [] => []
  | a :: l => if p a then f a :: l else a :: updateFirst p f l

/-- The parent is the one a frontend's source names. -/
def RouteParentResult.isFor (p : RouteParentResult) (gatewayNamespace gatewayName : String)
    (sectionName : Option String) (port : Option Int32) : Bool :=
  p.gatewayNamespace = gatewayNamespace && p.gatewayName = gatewayName &&
    p.sectionName = sectionName && p.port = port

namespace Results

/-- Change the result of an Ingress. -/
def onIngress (results : Results) (namespace_ name : String) (f : IngressResult → IngressResult) :
    Results :=
  { results with
    ingresses := updateFirst (fun r => r.namespace_ = namespace_ && r.name = name) f
      results.ingresses }

/-- Change one parent of the first result of a kind that has the namespace and name. -/
def onParent (results : Results) (kind : RouteResult → Bool) (namespace_ name : String)
    (isParent : RouteParentResult → Bool) (f : RouteParentResult → RouteParentResult) : Results :=
  let onRoute (r : RouteResult) : RouteResult :=
    { r with parents := updateFirst isParent f r.parents }
  { results with
    routes := updateFirst (fun r => kind r && r.namespace_ = namespace_ && r.name = name) onRoute
      results.routes }

/-- Tell an object a problem of one of its frontends; a collision takes an HTTPRoute's
acceptance. -/
def applyReport (results : Results) (collision : Bool) (report : FrontendSource × Problem) :
    Results :=
  match report.1 with
  | .ingress namespace_ name =>
      results.onIngress namespace_ name fun r =>
        { r with problems := pushOnce r.problems report.2 }
  | .httpRoute namespace_ name gatewayNamespace gatewayName sectionName port =>
      results.onParent (fun _ => true) namespace_ name
        (fun p => p.isFor gatewayNamespace gatewayName sectionName port) fun p =>
          { p with
            accepted := if collision then false else p.accepted
            acceptedReason := if collision then "RouteCollision" else p.acceptedReason
            problems := pushOnce p.problems report.2 }

/-- Tell an object the names one of its certificates lost. -/
def applyLostName (results : Results) (report : CertificateSource × Problem) : Results :=
  match report.1 with
  | .ingress namespace_ name =>
      results.onIngress namespace_ name fun r => { r with problems := r.problems ++ [report.2] }
  | .gateway namespace_ name _ =>
      { results with
        gateways := updateFirst (fun g => g.namespace_ = namespace_ && g.name = name)
          (fun g => { g with problems := g.problems ++ [report.2] }) results.gateways }

end Results

/-! ## Health checks -/

/-- The clusters programmed HTTP(S) frontends proxy to, each with the frontend's source. -/
def proxied (frontends : List SourcedFrontend) : List (String × FrontendSource) :=
  (frontends.filter fun sf => sf.frontend.filters.redirect.isNone).filterMap fun sf =>
    sf.frontend.clusterId.map fun clusterId => (clusterId, sf.source)

/-- What the health-check settlement weighs. -/
structure Traffic where
  proxied : List (String × FrontendSource)
  carriers : List L4Carrier

namespace Traffic

/-- The first UDPRoute routing to a cluster. -/
def udp (traffic : Traffic) (clusterId : String) : Option L4Carrier :=
  traffic.carriers.find? fun c => c.protocol = .udp && c.clusterId = clusterId

/-- A TCPRoute routes to the cluster. -/
def tcp (traffic : Traffic) (clusterId : String) : Bool :=
  traffic.carriers.any fun c => c.protocol = .tcp && c.clusterId = clusterId

/-- An HTTP(S) frontend proxies to the cluster. -/
def http (traffic : Traffic) (clusterId : String) : Bool :=
  traffic.proxied.any fun x => x.1 = clusterId

/-- Sōzu would run a check for the cluster. -/
def runsCheck (traffic : Traffic) (clusterId : String) : Bool :=
  (traffic.http clusterId || traffic.tcp clusterId) && (traffic.udp clusterId).isNone

end Traffic

def hasCheck (clusters : BTreeMap String Cluster) (clusterId : String) : Bool :=
  clusters[clusterId]?.any fun cluster => cluster.healthCheck.isSome

/-- Why a cluster shared with a UDPRoute is not checked. -/
def lostTo (udpRoute : String) : String :=
  "UDPRoute " ++ udpRoute ++ " routes the same Service port over UDP, so Sōzu holds one UDP " ++
    "cluster for both and runs no TCP health check on it"

/-- Why a layer-4 route loses its check, if it does. -/
def carrierReason (clusters : BTreeMap String Cluster) (traffic : Traffic) (carrier : L4Carrier) :
    Option String :=
  match traffic.udp carrier.clusterId with
  | none => none
  | some udpRoute =>
      if !hasCheck clusters carrier.clusterId then none
      else
        match carrier.protocol with
        | .tcp => some (lostTo udpRoute.routeName)
        | .udp =>
            if traffic.tcp carrier.clusterId || traffic.http carrier.clusterId then
              some ("this route makes the Service port's cluster a UDP one, which runs no TCP " ++
                "health check, so its TCP or HTTP traffic goes unchecked too")
            else if carrier.asksForHealthCheck then
              some "Sōzu's TCP health check does not run on UDP traffic"
            else none

/-- Report a check a layer-4 route lost. -/
def reportCarrier (clusters : BTreeMap String Cluster) (traffic : Traffic)
    (routes : List RouteResult) (carrier : L4Carrier) : List RouteResult :=
  match carrierReason clusters traffic carrier with
  | none => routes
  | some reason =>
      pushOnParent routes carrier.route carrier.parent
        (.healthCheckNotApplied carrier.service reason)

/-- Report a check an HTTP(S) frontend's owner lost. -/
def reportProxied (clusters : BTreeMap String Cluster) (traffic : Traffic) (results : Results)
    (entry : String × FrontendSource) : Results :=
  match traffic.udp entry.1 with
  | none => results
  | some udp =>
      if !hasCheck clusters entry.1 then results
      else
        let problem := Problem.healthCheckNotApplied udp.service (lostTo udp.routeName)
        match entry.2 with
        | .ingress namespace_ name =>
            results.onIngress namespace_ name fun r =>
              { r with problems := pushOnce r.problems problem }
        | .httpRoute namespace_ name gatewayNamespace gatewayName sectionName port =>
            results.onParent (fun r => r.kind = .httpRoute) namespace_ name
              (fun p => p.isFor gatewayNamespace gatewayName sectionName port) fun p =>
                { p with problems := pushOnce p.problems problem }

/-- Leave a check only on a cluster Sōzu would run it for. -/
def settledClusters (clusters : BTreeMap String Cluster) (traffic : Traffic) :
    BTreeMap String Cluster :=
  clusters.map fun id cluster =>
    if traffic.runsCheck id then cluster else { cluster with healthCheck := none }

/-- The reports of the settlement. -/
def settleHealthChecks (clusters : BTreeMap String Cluster) (traffic : Traffic)
    (results : Results) : Results :=
  let routes := traffic.carriers.foldl (reportCarrier clusters traffic) results.routes
  traffic.proxied.foldl (reportProxied clusters traffic) { results with routes := routes }

/-! ## The build -/

section Build

variable [External] [CharTable]

/-- The frontends kept, those folded into one of them, the copies, and the certificates,
with all their reports. -/
structure Arbitrated where
  resolved : Resolved
  lifted : Lifted
  certificates : List FingerprintedCert
  lostNames : List (CertificateSource × Problem)

/-- Settle who owns each route key, the header matches' precedence, and who owns each
SNI name. -/
def arbitrate (cfg : BuildConfig) (inputs : Inputs) (emissions : List Emission) : Arbitrated :=
  let claims := ownerClaims cfg inputs
  let resolved := resolveFrontendCollisions (emissions.filterMap Emission.frontend?) claims
  let certs := arbitrateCertificateNames (emissions.filterMap Emission.certificate?) claims
  { resolved := resolved
    lifted := liftHeaderMatches resolved.kept resolved.folded
    certificates := certs.1
    lostNames := certs.2 }

/-- The folded frontends whose route key is still served. -/
def Arbitrated.folded (a : Arbitrated) : List SourcedFrontend :=
  a.resolved.folded.filter fun sf =>
    a.lifted.kept.any fun k => routeKey k.frontend = routeKey sf.frontend

/-- The traffic of every cluster. -/
def Arbitrated.traffic (a : Arbitrated) (sockets : Sockets) : Traffic where
  proxied := proxied (a.lifted.kept ++ a.folded)
  carriers := sockets.routing.map L4Claim.carrier

/-- Every report on the results, in order. -/
def Arbitrated.report (a : Arbitrated) (results : Results) : Results :=
  let results := a.resolved.collisions.foldl (Results.applyReport · true) results
  let results := a.lifted.problems.foldl (Results.applyReport · false) results
  a.lostNames.foldl Results.applyLostName results

/-- The certificates of the IR, in order. -/
def Arbitrated.irCertificates (a : Arbitrated) : List Certificate :=
  sortBy (fun c => (toLex (c.listener, toLex (c.names, c.certificate)) :
    SocketAddr ×ₗ (List String ×ₗ String))) (mergeCertificates a.certificates)

/-- What the walks leave, put together. -/
def assemble (cfg : BuildConfig) (inputs : Inputs) (ingresses : IngressWalk) (gw : GatewayWalk) :
    BuildOutput :=
  let emissions := ingresses.emissions ++ gw.emissions
  let table : Table := emissions.foldl Table.apply ⟨∅, ∅⟩
  let a := arbitrate cfg inputs emissions
  let traffic := a.traffic gw.sockets
  let results := settleHealthChecks table.clusters traffic
    (a.report ⟨ingresses.results, gw.gateways, gw.routes⟩)
  { ir := {
      clusters := (settledClusters table.clusters traffic).toList.map Prod.snd
      frontends := a.lifted.kept.map SourcedFrontend.frontend ++ a.lifted.copies
      backends := table.backends.toList.map Prod.snd
      certificates := a.irCertificates
      l4Frontends := gw.sockets.l4Frontends }
    results := results.ingresses
    gatewayClasses := gw.classes
    gateways := results.gateways
    routes := results.routes
    referencedServices := BTreeSet.ofList (emissions.filterMap Emission.referencedService?) }

/-- Compile all our-class Ingresses and Gateway API objects into the IR. -/
def build (cfg : BuildConfig) (inputs : Inputs) : Option BuildOutput :=
  let index := Index.build inputs cfg.healthCheck
  (ingressWalk cfg inputs index).map fun ingresses =>
    assemble cfg inputs ingresses (gatewayWalk cfg inputs index)

end Build

end Builder

end SozuGateway
