import SozuGateway.Ir
import SozuGateway.Lib.BTreeMap

/-!
# Kubernetes objects

The objects `build` of `crates/builder/src/lib.rs` reads, with the fields it reads:
the core ones of `k8s_openapi` and the Gateway API ones of `crates/gateway-api`.

* `ObjectMeta` — names, labels, annotations and age; `metaNn` — the namespace and name
  the builder uses.
* `Ingress`, `Namespace`, `Service`, `EndpointSlice`, `Secret` — core objects.
* `GatewayClass`, `Gateway`, `HttpRoute`, `ReferenceGrant`, `TcpRoute`, `UdpRoute` —
  Gateway API objects.
* `Inputs` — everything the controller has cached.
-/

set_option autoImplicit false

namespace SozuGateway

namespace Builder

/-! ## Metadata -/

/-- `metadata` of an object. -/
structure ObjectMeta where
  name : Option String := none
  namespace_ : Option String := none
  labels : Option (BTreeMap String String) := none
  annotations : Option (BTreeMap String String) := none
  /-- Its RFC 3339 spelling, which sorts chronologically. -/
  creationTimestamp : Option String := none
  uid : Option String := none

/-- Namespace and name of an object. -/
def metaNn (namespace_ name : Option String) : String × String :=
  (namespace_.getD "default", name.getD "")

/-- Namespace and name of the object `metadata` describes. -/
def ObjectMeta.nn (metadata : ObjectMeta) : String × String :=
  metaNn metadata.namespace_ metadata.name

/-- `metadata.uid` of an object. -/
def objUid (metadata : ObjectMeta) : Option String := metadata.uid

/-- `metadata.creationTimestamp` of an object. -/
def creationKey (metadata : ObjectMeta) : Option String := metadata.creationTimestamp

/-! ## Core objects -/

structure ServiceBackendPort where
  name : Option String
  number : Option Int32

structure IngressServiceBackend where
  name : String
  port : Option ServiceBackendPort

structure IngressBackend where
  /-- Absent for a backend that is not a Service. -/
  service : Option IngressServiceBackend

structure HttpIngressPath where
  path : Option String
  pathType : String
  backend : IngressBackend

structure IngressRule where
  host : Option String
  /-- The paths of `http`, when the rule has one. -/
  http : Option (List HttpIngressPath)

structure IngressTls where
  hosts : Option (List String)
  secretName : Option String

structure IngressSpec where
  ingressClassName : Option String := none
  defaultBackend : Option IngressBackend := none
  tls : Option (List IngressTls) := none
  rules : Option (List IngressRule) := none

structure Ingress where
  metadata : ObjectMeta
  spec : Option IngressSpec

structure Namespace where
  metadata : ObjectMeta

structure ServicePort where
  name : Option String := none
  port : Int32
  protocol : Option String := none
  appProtocol : Option String := none

structure Service where
  metadata : ObjectMeta
  /-- The ports of `spec`, when there are any. -/
  ports : Option (List ServicePort)

structure EndpointPort where
  name : Option String := none
  port : Option Int32
  protocol : Option String := none

structure Endpoint where
  addresses : List String
  /-- `conditions.ready`. -/
  ready : Option Bool

structure EndpointSlice where
  metadata : ObjectMeta
  addressType : String
  ports : Option (List EndpointPort)
  endpoints : Option (List Endpoint)

structure Secret where
  metadata : ObjectMeta
  data : Option (BTreeMap String ByteArray)

/-! ## Gateway API objects -/

structure GatewayClass where
  metadata : ObjectMeta
  controllerName : String

structure GatewayInfrastructureParametersRef where
  group : String
  kind : String
  name : String

structure GatewayListenersAllowedRoutesKinds where
  group : Option String
  kind : String

inductive GatewayListenersAllowedRoutesNamespacesFrom where
  | all
  | selector
  | same
  | unknown
  deriving DecidableEq, Repr

structure GatewayListenersSelectorMatchExpressions where
  key : String
  operator : String
  values : Option (List String)

structure GatewayListenersSelector where
  matchExpressions : Option (List GatewayListenersSelectorMatchExpressions) := none
  matchLabels : Option (BTreeMap String String) := none

structure GatewayListenersAllowedRoutesNamespaces where
  from_ : Option GatewayListenersAllowedRoutesNamespacesFrom := none
  selector : Option GatewayListenersSelector := none

structure GatewayListenersAllowedRoutes where
  kinds : Option (List GatewayListenersAllowedRoutesKinds) := none
  namespaces : Option GatewayListenersAllowedRoutesNamespaces := none

inductive GatewayListenersTlsMode where
  | terminate
  | passthrough
  | unknown
  deriving DecidableEq, Repr

structure GatewayListenersTlsCertificateRefs where
  group : Option String := none
  kind : Option String := none
  name : String
  namespace_ : Option String := none

structure GatewayListenersTls where
  certificateRefs : Option (List GatewayListenersTlsCertificateRefs)
  mode : Option GatewayListenersTlsMode := none

structure GatewayListeners where
  name : String
  port : Int32
  protocol : String
  hostname : Option String := none
  allowedRoutes : Option GatewayListenersAllowedRoutes := none
  tls : Option GatewayListenersTls := none

structure GatewaySpec where
  gatewayClassName : String
  listeners : List GatewayListeners
  /-- `infrastructure.parametersRef`. -/
  parametersRef : Option GatewayInfrastructureParametersRef := none
  /-- Whether `spec.tls` and `spec.allowedListeners` are set. -/
  hasTls : Bool := false
  hasAllowedListeners : Bool := false

structure Gateway where
  metadata : ObjectMeta
  spec : GatewaySpec

/-- A parentRef of a route of any kind. -/
structure ParentRef where
  group : Option String := none
  kind : Option String := none
  name : String
  namespace_ : Option String := none
  port : Option Int32 := none
  sectionName : Option String := none

/-- A backendRef of a route of any kind. -/
structure BackendRef where
  group : Option String := none
  kind : Option String := none
  name : String
  namespace_ : Option String := none
  port : Option Int32 := none
  weight : Option Int32 := none

structure HttpRouteRulesBackendRefs extends BackendRef where
  /-- How many filters it carries of its own. -/
  filters : Option ℕ := none

structure HeaderEdit where
  name : String
  value : String

/-- `requestHeaderModifier` or `responseHeaderModifier`. -/
structure HeaderModifier where
  add : Option (List HeaderEdit) := none
  remove : Option (List String) := none
  set : Option (List HeaderEdit) := none

inductive RequestRedirectPathType where
  | replaceFullPath
  | replacePrefixMatch
  | unknown
  deriving DecidableEq, Repr

structure RequestRedirectPath where
  type : RequestRedirectPathType
  replaceFullPath : Option String

inductive RequestRedirectScheme where
  | http
  | https
  | unknown
  deriving DecidableEq, Repr

structure RequestRedirect where
  hostname : Option String := none
  path : Option RequestRedirectPath := none
  port : Option Int32 := none
  scheme : Option RequestRedirectScheme := none
  statusCode : Option Int64 := none

inductive HttpRouteRulesFiltersType where
  | requestHeaderModifier
  | responseHeaderModifier
  | requestMirror
  | requestRedirect
  | urlRewrite
  | extensionRef
  | cors
  | unknown
  deriving DecidableEq, Repr

structure HttpRouteRulesFilters where
  type : HttpRouteRulesFiltersType
  requestHeaderModifier : Option HeaderModifier := none
  responseHeaderModifier : Option HeaderModifier := none
  requestRedirect : Option RequestRedirect := none

inductive HttpRouteRulesMatchesHeadersType where
  | exact
  | regularExpression
  | unknown
  deriving DecidableEq, Repr

structure HttpRouteRulesMatchesHeaders where
  name : String
  type : Option HttpRouteRulesMatchesHeadersType := none
  value : String

inductive HttpRouteRulesMatchesMethod where
  | get
  | head
  | post
  | put
  | delete
  | connect
  | options
  | trace
  | patch
  | unknown
  deriving DecidableEq, Repr

inductive HttpRouteRulesMatchesPathType where
  | exact
  | pathPrefix
  | regularExpression
  | unknown
  deriving DecidableEq, Repr

structure HttpRouteRulesMatchesPath where
  type : Option HttpRouteRulesMatchesPathType := none
  value : Option String := none

structure HttpRouteRulesMatches where
  headers : Option (List HttpRouteRulesMatchesHeaders) := none
  method : Option HttpRouteRulesMatchesMethod := none
  path : Option HttpRouteRulesMatchesPath := none
  /-- How many query parameters it matches. -/
  queryParams : Option ℕ := none

structure HttpRouteRulesTimeouts where
  request : Option String := none
  backendRequest : Option String := none

structure HttpRouteRules where
  backendRefs : Option (List HttpRouteRulesBackendRefs) := none
  filters : Option (List HttpRouteRulesFilters) := none
  matches_ : Option (List HttpRouteRulesMatches) := none
  timeouts : Option HttpRouteRulesTimeouts := none

structure HttpRouteSpec where
  hostnames : Option (List String) := none
  parentRefs : Option (List ParentRef) := none
  rules : Option (List HttpRouteRules) := none

structure HttpRoute where
  metadata : ObjectMeta
  spec : HttpRouteSpec

structure ReferenceGrantFrom where
  group : String
  kind : String
  namespace_ : String

structure ReferenceGrantTo where
  group : String
  kind : String
  name : Option String

structure ReferenceGrant where
  metadata : ObjectMeta
  from_ : List ReferenceGrantFrom
  to_ : List ReferenceGrantTo

/-- A TCPRoute or a UDPRoute: the two have one shape. -/
structure L4Route where
  metadata : ObjectMeta
  parentRefs : Option (List ParentRef)
  /-- The backendRefs of each rule. -/
  rules : List (List BackendRef)

abbrev TcpRoute := L4Route
abbrev UdpRoute := L4Route

/-! ## Inputs -/

/-- Already-fetched cluster objects. -/
structure Inputs where
  ingresses : List Ingress := []
  namespaces : List Namespace := []
  services : List Service := []
  endpointslices : List EndpointSlice := []
  secrets : List Secret := []
  gatewayClasses : List GatewayClass := []
  gateways : List Gateway := []
  httpRoutes : List HttpRoute := []
  referenceGrants : List ReferenceGrant := []
  tcpRoutes : List TcpRoute := []
  udpRoutes : List UdpRoute := []

end Builder

end SozuGateway
