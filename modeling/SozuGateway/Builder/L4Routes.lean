import SozuGateway.Builder.HttpRoutes

/-!
# Layer-4 routes

TCPRoutes and UDPRoutes on the layer-4 listeners, from `crates/builder/src/gateway.rs`.

* `L4RouteView` — the one shape the two kinds share.
* `resolveL4Backend`, `l4Parent`, `l4RouteParents` — a route's backend, and the route
  under one parentRef and under all.
* `L4Claim` — a route parent's claim on a socket.
* `settleSockets` — one cluster for each socket: the oldest claim's. The claims that
  route are the carriers, the others are told.
-/

set_option autoImplicit false

namespace SozuGateway

namespace Builder

open Lib

/-! ## Views -/

/-- A TCPRoute or UDPRoute flattened into the one shape they share. -/
structure L4RouteView where
  kind : RouteKind
  protocol : L4Protocol
  namespace_ : String
  name : String
  uid : Option String
  creation : Option String
  parentRefs : List ParentRef
  backendRefs : List BackendRef

namespace L4RouteView

/-- The view of a route of either kind. -/
def of (kind : RouteKind) (protocol : L4Protocol) (route : L4Route) : L4RouteView where
  kind := kind
  protocol := protocol
  namespace_ := route.metadata.nn.1
  name := route.metadata.nn.2
  uid := objUid route.metadata
  creation := creationKey route.metadata
  parentRefs := route.parentRefs.getD []
  backendRefs := route.rules.flatten

def ofTcp (route : TcpRoute) : L4RouteView := of .tcpRoute .tcp route

def ofUdp (route : UdpRoute) : L4RouteView := of .udpRoute .udp route

/-- How a conflict names the route that won. -/
def key (view : L4RouteView) : String := slashed view.namespace_ view.name

/-- Namespace and name of the Service the route's backendRef names. -/
def backendService (view : L4RouteView) : String × String :=
  match view.backendRefs.head? with
  | some br => (br.namespace_.getD view.namespace_, br.name)
  | none => ("", "")

end L4RouteView

/-- The views of all layer-4 routes, TCPRoutes first. -/
def l4Views (inputs : Inputs) : List L4RouteView :=
  inputs.tcpRoutes.map L4RouteView.ofTcp ++ inputs.udpRoutes.map L4RouteView.ofUdp

/-! ## Attachment -/

/-- Oldest first, absent last, then by name. -/
abbrev L4Order := Bool ×ₗ (String ×ₗ String)

/-- One claim a route parent makes on a layer-4 socket. -/
structure L4Claim where
  protocol : L4Protocol
  listener : SocketAddr
  /-- The port the listener declares. -/
  advertised : UInt16
  clusterId : String
  /-- `namespace/name` of the backend Service. -/
  service : String
  asksForHealthCheck : Bool
  /-- Where a loss is reported: the place of the route's result, and of the parent in
  it. -/
  route : ℕ
  parent : ℕ
  order : L4Order
  deriving DecidableEq

/-- What a layer-4 route under one parentRef emits, its result, the listeners it is
attached to, and its claims, whose places are not known yet. -/
structure L4BoundParent where
  emissions : List Emission
  result : RouteParentResult
  attached : List String
  claims : List L4Claim

section Attachment

variable [External] [CharTable]

/-- Resolve a layer-4 route's backendRef down to a cluster id. -/
def resolveL4Backend (inputs : Inputs) (index : Index) (view : L4RouteView) :
    List Emission × Option String :=
  match view.backendRefs with
  | [] => (failRef (.noReadyEndpoints "<none>") "BackendNotFound", none)
  | [br] =>
      if br.group.getD "" ≠ "" ∨ br.kind.getD "Service" ≠ "Service" then
        (failRef .nonServiceBackend "InvalidKind", none)
      else if br.weight = some 0 then
        (failRef (.zeroWeightBackendUnsupported br.name) "BackendNotFound", none)
      else
        let backendNs := br.namespace_.getD view.namespace_
        if backendNs ≠ view.namespace_ ∧
            !referenceGranted inputs backendNs "" "Service" br.name view.namespace_ gwGroup
              view.kind.asStr then
          (failRef (.backendRefNotPermitted ("Service " ++ slashed backendNs br.name))
            "RefNotPermitted", none)
        else
          match br.port with
          | none => (failRef (.servicePortNotFound br.name "<unspecified>") "BackendNotFound", none)
          | some port =>
              let route := addServiceRoute index backendNs br.name (.number port)
              match route.result with
              | .error problem => (route.emissions ++ failRef problem "BackendNotFound", none)
              | .ok (cid, hasEndpoints) =>
                  (route.emissions ++
                    (if hasEndpoints then [] else [.problem (.noReadyEndpoints br.name)]), some cid)
  | _ => (failRef .weightedBackendsUnsupported "BackendNotFound", none)

/-- The claims of a route on the programmed listeners among its candidates. -/
def l4Claims (index : Index) (view : L4RouteView) (clusterId : String)
    (admitted : List ListenerInfo) : List L4Claim :=
  (admitted.filter ListenerInfo.programmed).filterMap fun l =>
    l.bind.map fun bind =>
      { protocol := view.protocol
        listener := bind
        advertised := (toPort l.port).getD 0
        clusterId := clusterId
        service := slashed view.backendService.1 view.backendService.2
        asksForHealthCheck := serviceAsksForHealthCheck
          index.services[objectKey view.backendService.1 view.backendService.2]?
        route := 0
        parent := 0
        order := toLex (view.creation.isNone, toLex (view.creation.getD "", view.key)) }

/-- A parentRef of a layer-4 route that binds to no listener. -/
def l4Unbound (pref : ParentRef) (gwNs reason : String) : L4BoundParent :=
  ⟨[], parentResult pref gwNs false reason [], [], []⟩

/-- A layer-4 route under one parentRef, unless it names none of our Gateways. -/
def l4Parent (inputs : Inputs) (index : Index) (gwListeners : GatewayListenersMap)
    (view : L4RouteView) (pref : ParentRef) : Option L4BoundParent :=
  if !pref.isGateway then none
  else
    let gwNs := pref.namespace_.getD view.namespace_
    gwListeners[objectKey gwNs pref.name]?.map fun listeners =>
      let addressed := addressable pref listeners
      let admitted := candidates index view.kind view.namespace_ gwNs addressed
      if addressed = [] then l4Unbound pref gwNs "NoMatchingParent"
      else if admitted = [] then l4Unbound pref gwNs "NotAllowedByListeners"
      else
        let backend := resolveL4Backend inputs index view
        { emissions := backend.1
          result := parentResult pref gwNs true "Accepted" backend.1
          attached := admitted.map ListenerInfo.name
          claims :=
            match backend.2 with
            | none => []
            | some clusterId => l4Claims index view clusterId admitted }

/-- A layer-4 route under all its parentRefs. -/
def l4RouteParents (inputs : Inputs) (index : Index) (gwListeners : GatewayListenersMap)
    (view : L4RouteView) : List L4BoundParent :=
  view.parentRefs.filterMap (l4Parent inputs index gwListeners view)

end Attachment

/-! ## Sockets -/

/-- A layer-4 route parent whose claim ended up routing. -/
structure L4Carrier where
  protocol : L4Protocol
  clusterId : String
  service : String
  asksForHealthCheck : Bool
  route : ℕ
  parent : ℕ
  /-- `namespace/name` of the route. -/
  routeName : String
  deriving DecidableEq

namespace L4Claim

/-- The socket a claim is about. -/
def socket (claim : L4Claim) : L4Protocol ×ₗ SocketAddr := toLex (claim.protocol, claim.listener)

/-- `namespace/name` of the route. -/
def routeName (claim : L4Claim) : String := (ofLex (ofLex claim.order).2).2

def frontend (claim : L4Claim) : L4Frontend := ⟨claim.protocol, claim.listener, claim.clusterId⟩

def carrier (claim : L4Claim) : L4Carrier where
  protocol := claim.protocol
  clusterId := claim.clusterId
  service := claim.service
  asksForHealthCheck := claim.asksForHealthCheck
  route := claim.route
  parent := claim.parent
  routeName := claim.routeName

end L4Claim

/-- How a conflict spells a protocol. -/
def L4Protocol.spelled : L4Protocol → String
  | .tcp => "TCP"
  | .udp => "UDP"

/-- The sockets settled so far: their winners, the claims that route, and the
conflicts. -/
structure Sockets where
  winners : BTreeMap (L4Protocol ×ₗ SocketAddr) L4Claim := ∅
  frontends : List L4Frontend := []
  routing : List L4Claim := []
  conflicts : List (ℕ × ℕ × Problem) := []

/-- Settle one claim. -/
def Sockets.settle (sockets : Sockets) (claim : L4Claim) : Sockets :=
  match sockets.winners[claim.socket]? with
  | none =>
      { sockets with
        winners := sockets.winners.insert claim.socket claim
        frontends := sockets.frontends ++ [claim.frontend]
        routing := sockets.routing ++ [claim] }
  | some winner =>
      -- the same cluster: a benign overlap
      if winner.clusterId = claim.clusterId then
        { sockets with routing := sockets.routing ++ [claim] }
      else
        { sockets with
          conflicts := sockets.conflicts ++
            [(claim.route, claim.parent,
              .l4RouteConflict claim.advertised (L4Protocol.spelled claim.protocol)
                winner.routeName)] }

/-- Settle all claims, the oldest first. -/
def settleSockets (claims : List L4Claim) : Sockets :=
  (sortBy L4Claim.order claims).foldl Sockets.settle {}

/-- The frontends of the settled sockets, in order. -/
def Sockets.l4Frontends (sockets : Sockets) : List L4Frontend :=
  sortBy (fun f => (toLex (f.protocol, f.listener) : L4Protocol ×ₗ SocketAddr)) sockets.frontends

end Builder

end SozuGateway
