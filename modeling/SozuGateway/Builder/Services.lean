import SozuGateway.Builder.Certificates
import SozuGateway.Builder.Names

/-!
# Services

A backend reference resolved to a cluster and its backends, from
`crates/builder/src/lib.rs`.

* `Index` — the cached objects by namespace and name.
* `servicePort` — the Service port a reference names, and its cluster's id.
* `resolveBackends` — the ready addresses behind it.
* `clusterSettings` — what the Service's annotations ask of the cluster.
* `Emission` — what a walk over an object reports, in order: its problems, and its
  writes to the accumulators all walks share.
* `addServiceRoute` — a reference as emissions; `Table.apply` — what its writes do to the
  clusters and the backends.
-/

set_option autoImplicit false

namespace SozuGateway

namespace Builder

open Lib

/-! ## The index -/

/-- A namespace and a name. -/
abbrev ObjectKey := String ×ₗ String

instance (priority := 1100) transCmp_objectKey :
    Std.TransCmp (compare : ObjectKey → ObjectKey → Ordering) := Lib.transCmp

def objectKey (namespace_ name : String) : ObjectKey := toLex (namespace_, name)

/-- The namespace and Service an EndpointSlice feeds, per its label. -/
def sliceService (slice : EndpointSlice) : Option ObjectKey :=
  (slice.metadata.labels.bind fun labels =>
    labels["kubernetes.io/service-name"]?).map fun service =>
    objectKey (slice.metadata.namespace_.getD "default") service

/-- The key of the Service an EndpointSlice feeds, as `referencedServices` spells it. -/
def sliceServiceKey (slice : EndpointSlice) : Option String :=
  (sliceService slice).map fun key => slashed (ofLex key).1 (ofLex key).2

/-- The cached objects, by namespace and name. -/
structure Index where
  services : BTreeMap ObjectKey Service
  namespaceLabels : BTreeMap String (BTreeMap String String)
  secrets : BTreeMap ObjectKey Secret
  slices : BTreeMap ObjectKey (List EndpointSlice)
  healthCheck : HealthCheckDefault

namespace Index

/-- Index the objects `nn` gives a key. -/
def byKey {α : Type} (metadata : α → ObjectMeta) (objects : List α) : BTreeMap ObjectKey α :=
  objects.foldl (fun index object => index.insert (toLex (metadata object).nn) object) ∅

/-- The labels of every named namespace. -/
def labelsOf (namespaces : List Namespace) : BTreeMap String (BTreeMap String String) :=
  namespaces.foldl (fun labels ns =>
    match ns.metadata.name with
    | some name => labels.insert name (ns.metadata.labels.getD ∅)
    | none => labels) ∅

/-- The slices of every Service. -/
def slicesOf (endpointslices : List EndpointSlice) : BTreeMap ObjectKey (List EndpointSlice) :=
  endpointslices.foldl (fun slices slice =>
    match sliceService slice with
    | some key => slices.insert key ((slices[key]?.getD []) ++ [slice])
    | none => slices) ∅

/-- Index the inputs. -/
def build (inputs : Inputs) (healthCheck : HealthCheckDefault) : Index where
  services := byKey Service.metadata inputs.services
  namespaceLabels := labelsOf inputs.namespaces
  secrets := byKey Secret.metadata inputs.secrets
  slices := slicesOf inputs.endpointslices
  healthCheck := healthCheck

end Index

/-! ## The Service port -/

/-- A reference to a Service port from a route's backend. -/
inductive PortRef where
  /-- The first port carrying the number. -/
  | number (n : Int32)
  /-- The TCP port carrying the number, or else the first one. -/
  | httpNumber (n : Int32)
  | name (n : String)
  deriving DecidableEq, Repr

/-- An `i32` in decimal. -/
def intText (n : Int32) : String :=
  if n.toInt < 0 then "-" ++ natText n.toInt.natAbs else natText n.toInt.natAbs

/-- The text of a port reference. -/
def PortRef.text : PortRef → String
  | number n | httpNumber n => intText n
  | name n => n

/-- A Service port's protocol, `TCP` when unset. -/
def portProtocol (port : ServicePort) : String := port.protocol.getD "TCP"

/-- The first port carrying a number. -/
def firstWith (ports : List ServicePort) (n : Int32) : Option ServicePort :=
  ports.find? fun p => p.port = n

/-- The port a reference names. -/
def PortRef.find (ports : List ServicePort) : PortRef → Option ServicePort
  | number n => firstWith ports n
  | httpNumber n =>
    (ports.find? fun p => p.port = n ∧ portProtocol p = "TCP").or (firstWith ports n)
  | name n => ports.find? fun p => p.name = some n

/-- The id of the cluster a port maps to: a later port carrying the same number gets its
protocol appended. -/
def clusterIdOf (ports : List ServicePort) (namespace_ service : String) (port : ServicePort) :
    String :=
  let id := namespace_ ++ "." ++ service ++ "." ++ intText port.port
  if (firstWith ports port.port).map portProtocol = some (portProtocol port) then id
  else id ++ "." ++ toAsciiLowercase (portProtocol port)

/-- The Service port a backend reference names, and the id of its cluster. -/
def servicePort (index : Index) (namespace_ service : String) (portRef : PortRef) :
    Except Problem (ServicePort × String) :=
  match index.services[objectKey namespace_ service]? with
  | none => .error (.serviceNotFound service)
  | some svc =>
      let ports := svc.ports.getD []
      match portRef.find ports with
      | none => .error (.servicePortNotFound service portRef.text)
      | some port => .ok (port, clusterIdOf ports namespace_ service port)

/-- What a Service port's `appProtocol` asks of an HTTP route's connection. -/
inductive HttpBackendProtocol where
  | http1
  | h2c
  | unsupported (port : Int32) (appProtocol : String)
  deriving DecidableEq, Repr

namespace HttpBackendProtocol

/-- Classify the port a backend reference names. -/
def of (index : Index) (namespace_ service : String) (portRef : PortRef) : HttpBackendProtocol :=
  match servicePort index namespace_ service portRef with
  | .error _ => http1
  | .ok (port, _) =>
      if port.appProtocol = some "kubernetes.io/h2c" then h2c
      else if port.appProtocol = some "kubernetes.io/wss" then
        unsupported port.port "kubernetes.io/wss"
      else http1

/-- What to report about a route to the Service's port. -/
def problem (service : String) : HttpBackendProtocol → Option Problem
  | unsupported port appProtocol => some (.unsupportedAppProtocol service port appProtocol)
  | http1 | h2c => none

end HttpBackendProtocol

/-! ## The addresses behind it -/

/-- The port of one slice that carries a Service port's pods: the one of its name, or a
sole unnamed one of its protocol. -/
def slicePort (ports : List EndpointPort) (svcPort : ServicePort) : Option EndpointPort :=
  match ports.find? fun p => p.name.getD "" = svcPort.name.getD "" with
  | some named => some named
  | none =>
      match ports with
      | [sole] =>
          if sole.name.getD "" = "" ∧ sole.protocol.getD "TCP" = portProtocol svcPort then some sole
          else none
      | _ => none

/-- `u16::try_from`. -/
def toPort (n : Int32) : Option UInt16 :=
  if 0 ≤ n.toInt ∧ n.toInt < 65536 then some (.ofNat n.toInt.toNat) else none

/-- The addresses of the endpoints of one slice that are ready, or not known not to be. -/
def sliceAddrs (svcPort : ServicePort) (slice : EndpointSlice) : List SocketAddr :=
  match ((slice.ports.bind fun ports => slicePort ports svcPort).bind EndpointPort.port).bind
      toPort with
  | none => []
  | some podPort =>
      ((slice.endpoints.getD []).filter fun endpoint => endpoint.ready.getD true).flatMap
        fun endpoint => endpoint.addresses.filterMap fun addr =>
          (parseIpAddr addr).map fun ip => ip.socket podPort

/-- The slices of a Service. -/
def Index.slicesFor (index : Index) (namespace_ service : String) : List EndpointSlice :=
  index.slices[objectKey namespace_ service]?.getD []

/-! ## Settings -/

/-- Parse the load-balancing annotation; round-robin when it is not understood. -/
def parseLbAlgorithm (value : String) : LbAlgorithm :=
  let value := String.ofList
    ((toAsciiLowercase (trimText value)).toList.map fun c => if c = ' ' ∨ c = '_' then '-' else c)
  if value = "random" then .random
  else if value = "least-loaded" then .leastLoaded
  else if value = "power-of-two" then .powerOfTwo
  else .roundRobin

/-- Cluster-level settings read from the Service's annotations. -/
structure ClusterSettings where
  loadBalancing : LbAlgorithm
  stickySession : Bool
  maxConnectionsPerIp : Option UInt64
  retryAfter : Option UInt32
  /-- A problem when the health-check annotations are unusable. -/
  healthCheck : Except Problem (Option HealthCheck)

/-- An annotation of a Service, without the white space around it. -/
def annotationOf (svc : Option Service) (key : String) : Option String :=
  ((svc.bind fun s => s.metadata.annotations).bind fun a => a[key]?).map trimText

/-- `str::eq_ignore_ascii_case`. -/
def eqIgnoreAsciiCase (a b : String) : Bool := toAsciiLowercase a = toAsciiLowercase b

/-- The Service turns its health check on itself. -/
def serviceAsksForHealthCheck (svc : Option Service) : Bool :=
  (annotationOf svc "sozu.io/health-check").any fun v => eqIgnoreAsciiCase v "tcp"

section Resolution

variable [CharTable] [External]

/-- A text quoted as `Debug` quotes it. -/
def quoted (text : String) : String := String.ofList (debugStr text)

/-- A whole number an annotation gives, or the default. -/
def wholeNumber (svc : Option Service) (key : String) (default : UInt32) : Except String UInt32 :=
  match annotationOf svc key with
  | none => .ok default
  | some value =>
      match parseUnsigned (2 ^ 32) value with
      | some n => .ok (.ofNat n)
      | none => .error (key ++ " is " ++ quoted (displayPath value) ++ ", not a whole number")

/-- The probe port an annotation gives, or the default. -/
def probePort (svc : Option Service) (default : Option UInt16) : Except String (Option UInt16) :=
  match annotationOf svc "sozu.io/health-check-port" with
  | none => .ok default
  | some value =>
      match parseUnsigned (2 ^ 16) value with
      | some n => .ok (some (.ofNat n))
      | none =>
          .error ("sozu.io/health-check-port is " ++ quoted (displayPath value) ++
            ", not a port number")

/-- Whether a Service's check is on. -/
def healthCheckMode (svc : Option Service) (default : HealthCheckDefault) : Except String Bool :=
  match annotationOf svc "sozu.io/health-check" with
  | none => .ok default.enabled
  | some mode =>
      if eqIgnoreAsciiCase mode "tcp" then .ok true
      else if eqIgnoreAsciiCase mode "off" then .ok false
      else .error ("sozu.io/health-check is " ++ quoted (displayPath mode) ++
        "; expected \"tcp\" or \"off\"")

/-- Why Sōzu would refuse a check, if it would. -/
def healthCheckRefusal (check : HealthCheck) : Option String := External.healthCheckError check

/-- The health check a Service's cluster runs. -/
def serviceHealthCheck (svc : Option Service) (default : HealthCheckDefault) :
    Except String (Option HealthCheck) := do
  if !(← healthCheckMode svc default) then return none
  let intervalSecs ←
    wholeNumber svc "sozu.io/health-check-interval" default.check.intervalSecs
  let timeoutSecs ←
    wholeNumber svc "sozu.io/health-check-timeout" default.check.timeoutSecs
  let healthyThreshold ←
    wholeNumber svc "sozu.io/health-check-healthy-threshold" default.check.healthyThreshold
  let unhealthyThreshold ←
    wholeNumber svc "sozu.io/health-check-unhealthy-threshold" default.check.unhealthyThreshold
  let port ← probePort svc default.check.port
  let check : HealthCheck :=
    { intervalSecs, timeoutSecs, healthyThreshold, unhealthyThreshold, port }
  match healthCheckRefusal check with
  | none => return some check
  | some reason => throw ("Sōzu refuses it: " ++ reason)

/-- What a Service's annotations ask of its cluster. -/
def clusterSettings (namespace_ service : String) (svc : Option Service)
    (default : HealthCheckDefault) : ClusterSettings where
  loadBalancing := (annotationOf svc "sozu.io/load-balancing").elim .roundRobin parseLbAlgorithm
  stickySession :=
    (annotationOf svc "sozu.io/sticky-sessions").any fun v => eqIgnoreAsciiCase v "true"
  maxConnectionsPerIp :=
    ((annotationOf svc "sozu.io/max-connections-per-ip").bind (parseUnsigned (2 ^ 64))).map .ofNat
  retryAfter := ((annotationOf svc "sozu.io/retry-after").bind (parseUnsigned (2 ^ 32))).map .ofNat
  healthCheck :=
    match serviceHealthCheck svc default with
    | .ok check => .ok check
    | .error reason => .error (.invalidHealthCheck (slashed namespace_ service) reason)

/-! ## Emissions -/

/-- A Service port as a route refers to it: the cluster to have and its backends. -/
structure ServiceRoute where
  cluster : Cluster
  serviceUid : String
  addrs : List SocketAddr

/-- What a walk over one object reports. -/
inductive Emission where
  /-- Push a problem. -/
  | problem (p : Problem)
  /-- Push a problem unless it is already there. -/
  | problemOnce (p : Problem)
  /-- A reference did not resolve: the first reason is kept. -/
  | failRef (reason : String)
  /-- The route stops reading accepted. -/
  | override (reason : String)
  /-- A Service some route referenced. -/
  | referenced (service : String)
  /-- A cluster and its backends, unless they are already there. -/
  | service (route : ServiceRoute)
  /-- The cluster speaks HTTP/2 to its backends. -/
  | http2 (clusterId : String)
  | frontend (sf : SourcedFrontend)
  | certificate (cert : ClaimedCert)

/-- The ready addresses behind a reference, with the cluster's id; an FQDN slice is
reported and skipped. -/
def resolveBackends (index : Index) (namespace_ service : String) (portRef : PortRef) :
    Except Problem (String × List SocketAddr) :=
  match servicePort index namespace_ service portRef with
  | .error problem => .error problem
  | .ok (svcPort, clusterId) =>
      let slices := (index.slicesFor namespace_ service).filter fun slice =>
        slice.addressType ≠ "FQDN"
      .ok (clusterId, BTreeSet.sortedDedup (slices.flatMap (sliceAddrs svcPort)))

/-- The reports on the FQDN slices of a Service. -/
def fqdnReports (index : Index) (namespace_ service : String) : List Emission :=
  ((index.slicesFor namespace_ service).filter fun slice => slice.addressType = "FQDN").map
    fun _ => .problemOnce (.fqdnEndpointsUnsupported service)

/-- What resolving a reference emits, and the cluster's id with whether it has ready
endpoints. -/
structure Resolution where
  emissions : List Emission
  result : Except Problem (String × Bool)

/-- Resolve a Service and port into its cluster and backends. -/
def addServiceRoute (index : Index) (namespace_ service : String) (portRef : PortRef) :
    Resolution :=
  -- recorded before resolution, success or failure alike
  let referenced : Emission := .referenced (slashed namespace_ service)
  match resolveBackends index namespace_ service portRef with
  | .error problem => ⟨[referenced], .error problem⟩
  | .ok (clusterId, addrs) =>
      let svc := index.services[objectKey namespace_ service]?
      let s := clusterSettings namespace_ service svc index.healthCheck
      let cluster : Cluster := {
        id := clusterId
        loadBalancing := s.loadBalancing
        stickySession := s.stickySession
        httpsRedirect := false
        maxConnectionsPerIp := s.maxConnectionsPerIp
        retryAfter := s.retryAfter
        http2 := false
        healthCheck := s.healthCheck.toOption.join }
      let unusable :=
        match s.healthCheck with
        | .ok _ => []
        | .error problem => [Emission.problemOnce problem]
      ⟨referenced :: fqdnReports index namespace_ service ++ unusable ++
          [.service ⟨cluster, (svc.bind fun s => s.metadata.uid).getD "", addrs⟩],
        .ok (clusterId, !addrs.isEmpty)⟩

/-- The protocol applied to the cluster an HTTP route resolved to. -/
def HttpBackendProtocol.configure (protocol : HttpBackendProtocol) (clusterId : String) :
    List Emission :=
  if protocol = .h2c then [.http2 clusterId] else []

/-! ## Clusters and backends -/

/-- A byte in hexadecimal, on two digits. -/
def hexByte (b : Fin 256) : List Char :=
  [Nat.digitChar (b.val / 16), Nat.digitChar (b.val % 16)]

/-- The big-endian bytes of a `u32`. -/
def beBytes (n : ℕ) : ByteArray :=
  ⟨#[.ofNat (n / 2 ^ 24), .ofNat (n / 2 ^ 16), .ofNat (n / 2 ^ 8), .ofNat n]⟩

/-- The value one attempt gives a backend's cookie. -/
def stickyCandidate (key : String) (bytes : ℕ) (backendId : String) (attempt : ℕ) : String :=
  let message :=
    if attempt = 0 then backendId.toByteArray
    else backendId.toByteArray ++ ⟨#[0]⟩ ++ beBytes attempt
  String.ofList (((External.hmac key.toByteArray message).take bytes).flatMap hexByte)

/-- The first attempt whose value is free, within `fuel` attempts. -/
def freshCandidate (key : String) (bytes : ℕ) (backendId : String) (taken : List String) :
    ℕ → ℕ → Option String
  | 0, _ => none
  | fuel + 1, attempt =>
      let candidate := stickyCandidate key bytes backendId attempt
      if candidate ∈ taken then freshCandidate key bytes backendId taken fuel (attempt + 1)
      else some candidate

/-- Values for a cluster's backends, no two alike; the attempts are a `u32`. -/
def uniqueTruncatedHmacs (key : String) (bytes : ℕ) :
    List String → List String → List (Option String)
  | _, [] => []
  | taken, backendId :: rest =>
      let id := freshCandidate key bytes backendId taken (2 ^ 32) 0
      id :: uniqueTruncatedHmacs key bytes (id.toList ++ taken) rest

/-- Sticky-session cookie values for one cluster's backends: eight bytes of the HMAC. -/
def stickyIds (serviceUid : String) (backendIds : List String) : List (Option String) :=
  uniqueTruncatedHmacs serviceUid 8 [] backendIds

/-- The clusters and the backends, by id. -/
structure Table where
  clusters : BTreeMap String Cluster
  backends : BTreeMap String Backend

namespace Table

/-- `entry(key).or_insert(value)`. -/
def orInsert {V : Type} (map : BTreeMap String V) (key : String) (value : V) : BTreeMap String V :=
  match map[key]? with
  | some _ => map
  | none => map.insert key value

/-- The backends a reference asks for; `sticky` is the cluster's own setting. -/
def backendsOf (route : ServiceRoute) (sticky : Bool) : List Backend :=
  let ids := route.addrs.map fun addr =>
    route.cluster.id ++ "#" ++ String.ofList addr.display
  let stickyIds := if sticky then stickyIds route.serviceUid ids else ids.map fun _ => none
  (route.addrs.zip (ids.zip stickyIds)).map fun entry =>
    { clusterId := route.cluster.id
      backendId := entry.2.1
      address := entry.1
      weight := none
      stickyId := entry.2.2 }

/-- Upsert a cluster and its backends. -/
def addService (table : Table) (route : ServiceRoute) : Table :=
  let clusters := orInsert table.clusters route.cluster.id route.cluster
  -- the first reference to a cluster fixes its setting
  let sticky := clusters[route.cluster.id]?.any fun cluster => cluster.stickySession
  { clusters := clusters
    backends := (backendsOf route sticky).foldl
      (fun backends b => orInsert backends b.backendId b) table.backends }

/-- What one emission does to the clusters and the backends. -/
def apply (table : Table) : Emission → Table
  | .service route => table.addService route
  | .http2 clusterId =>
      { table with clusters := table.clusters.modify clusterId fun c => { c with http2 := true } }
  | _ => table

end Table

end Resolution

/-! ## Reading emissions -/

namespace Emission

/-- The problems of an object, in order. -/
def problems (emissions : List Emission) : List Problem :=
  emissions.foldl (fun problems e =>
    match e with
    | problem p => problems ++ [p]
    | problemOnce p => pushOnce problems p
    | _ => problems) []

/-- The first reason a reference did not resolve. -/
def failedRef (emissions : List Emission) : Option String :=
  emissions.findSome? fun
    | failRef reason => some reason
    | _ => none

/-- The last reason the route stops reading accepted. -/
def overridden (emissions : List Emission) : Option String :=
  emissions.foldl (fun overridden e =>
    match e with
    | override reason => some reason
    | _ => overridden) none

def referencedService? : Emission → Option String
  | referenced key => some key
  | _ => none

def frontend? : Emission → Option SourcedFrontend
  | frontend sf => some sf
  | _ => none

def certificate? : Emission → Option ClaimedCert
  | certificate cert => some cert
  | _ => none

end Emission

end Builder

end SozuGateway
