import SozuGateway.Ir

/-!
# Sōzu's command vocabulary

The protobuf messages of `sozu_command_lib::proto::command` that the translator
builds and the agent sends, with the fields this repository sets or reads.

* `SocketAddress` — the wire address: IP and port only.
* `RequestType` — the verbs.  The HTTP and HTTPS frontend verbs, plain or with
  header predicates, share the constructors `addFrontend` and `removeFrontend`:
  `AddHttpsFrontendWithHeaderPredicates` is `addFrontend ⟨true, true⟩`.
* `RequestType.isTeardown` — the verbs Sōzu refuses for an object it does not hold.
-/

namespace SozuGateway

namespace Sozu

/-! ## Addresses -/

/-- An IP address of either family. -/
inductive IpAddr where
  | v4 (ip : Ipv4Addr)
  | v6 (ip : Ipv6Addr)
  deriving DecidableEq, Repr

/-- The wire form of a socket address. -/
structure SocketAddress where
  ip : IpAddr
  port : UInt16
  deriving DecidableEq, Repr

/-- The socket address a wire address reads back as. -/
def SocketAddress.toAddr (w : SocketAddress) : SocketAddr :=
  match w.ip with
  | .v4 ip => .v4 ip w.port
  | .v6 ip => .v6 ip w.port 0 0

end Sozu

/-- The wire form of an address: an IPv6 flow label and scope are dropped. -/
def SocketAddr.toWire : SocketAddr → Sozu.SocketAddress
  | .v4 ip port => ⟨.v4 ip, port⟩
  | .v6 ip port _ _ => ⟨.v6 ip, port⟩

namespace Sozu

namespace SocketAddress

@[simp] theorem toWire_toAddr (w : SocketAddress) : w.toAddr.toWire = w := by
  obtain ⟨ip | ip, port⟩ := w <;> rfl

@[simp] theorem toAddr_toWire (x : SocketAddr) : x.toWire.toAddr = x.plain := by
  cases x <;> rfl

@[simp] theorem plain_toWire (x : SocketAddr) : x.plain.toWire = x.toWire := by
  cases x <;> rfl

theorem toWire_eq_iff {x y : SocketAddr} : x.toWire = y.toWire ↔ x.plain = y.plain := by
  constructor
  · intro h
    rw [← toAddr_toWire, ← toAddr_toWire, h]
  · intro h
    rw [← toWire_toAddr x.toWire, ← toWire_toAddr y.toWire, toAddr_toWire, toAddr_toWire, h]

theorem toAddr_injective : Function.Injective toAddr := fun w w' h => by
  rw [← toWire_toAddr w, ← toWire_toAddr w', h]

@[simp] theorem plain_toAddr (w : SocketAddress) : w.toAddr.plain = w.toAddr := by
  obtain ⟨ip | ip, port⟩ := w <;> rfl

instance : LinearOrder SocketAddress := LinearOrder.lift' toAddr toAddr_injective

end SocketAddress

/-! ## Clusters and backends -/

/-- What a UDP flow is kept on one backend by. -/
inductive UdpAffinityKey where
  | sourceIp
  | sourceIpPort
  deriving DecidableEq, Repr

/-- A cluster's UDP settings. -/
structure UdpClusterConfig where
  affinityKey : Option UdpAffinityKey
  deriving DecidableEq, Repr

/-- How a health check probes. -/
inductive HealthCheckMode where
  | http
  | tcp
  deriving DecidableEq, Repr

/-- The wire form of a health check. -/
structure HealthCheckConfig where
  uri : String
  interval : UInt32
  timeout : UInt32
  healthyThreshold : UInt32
  unhealthyThreshold : UInt32
  expectedStatus : UInt32
  mode : HealthCheckMode
  acceptedStatuses : List UInt32
  port : Option UInt32
  headers : List (String × String)
  deriving DecidableEq, Repr

/-- The payload of `AddCluster`. -/
structure Cluster where
  clusterId : String
  stickySession : Bool
  httpsRedirect : Bool
  loadBalancing : LbAlgorithm
  maxConnectionsPerIp : Option UInt64
  retryAfter : Option UInt32
  udp : Option UdpClusterConfig
  http2 : Option Bool
  healthCheck : Option HealthCheckConfig
  deriving DecidableEq, Repr

/-- The payload of `AddBackend`. -/
structure AddBackend where
  clusterId : String
  backendId : String
  address : SocketAddress
  stickyId : Option String
  /-- The weight of the load-balancing parameters. -/
  loadBalancingParameters : Option Int32
  backup : Option Bool
  deriving DecidableEq, Repr

/-- The payload of `RemoveBackend`. -/
structure RemoveBackend where
  clusterId : String
  backendId : String
  address : SocketAddress
  deriving DecidableEq, Repr

/-! ## Frontends -/

/-- How a path rule is matched. -/
inductive PathRuleKind where
  | plainPrefix
  | regex
  deriving DecidableEq, Repr

/-- A path rule. -/
structure PathRule where
  kind : PathRuleKind
  value : String
  deriving DecidableEq, Repr

/-- Where a rule stands among the others of its listener. -/
inductive RulePosition where
  | tree
  | post
  deriving DecidableEq, Repr

/-- A header edit: an empty value deletes the header. -/
structure Header where
  position : HeaderTarget
  key : String
  val : String
  deriving DecidableEq, Repr

/-- The kind of a header predicate. -/
inductive PredicateKind where
  | exact
  | regex
  deriving DecidableEq, Repr

/-- A header predicate. -/
structure HeaderPredicate where
  name : String
  kind : PredicateKind
  value : Option String
  deriving DecidableEq, Repr

/-- Whether a frontend forwards or answers a redirect, and which. -/
inductive RedirectPolicy where
  | permanent
  | found
  | permanentRedirect
  deriving DecidableEq, Repr

/-- The scheme a redirect sends the client to. -/
inductive RedirectScheme where
  | useHttp
  | useHttps
  deriving DecidableEq, Repr

/-- An HTTP or HTTPS frontend. -/
structure RequestHttpFrontend where
  clusterId : Option String
  address : SocketAddress
  hostname : String
  path : PathRule
  method : Option String
  position : RulePosition
  headerPredicates : List HeaderPredicate
  headers : List Header
  redirect : Option RedirectPolicy
  redirectScheme : Option RedirectScheme
  rewriteHost : Option String
  rewritePath : Option String
  rewritePort : Option UInt32
  deriving DecidableEq, Repr

/-- A TCP frontend. -/
structure RequestTcpFrontend where
  clusterId : String
  address : SocketAddress
  sni : Option String
  alpn : List String
  deriving DecidableEq, Repr

/-- A UDP frontend. -/
structure RequestUdpFrontend where
  clusterId : String
  address : SocketAddress
  deriving DecidableEq, Repr

/-! ## Listeners -/

/-- The protocol of a listener. -/
inductive ListenerType where
  | http
  | https
  | tcp
  | udp
  deriving DecidableEq, Repr

/-- A TCP listener. -/
structure TcpListenerConfig where
  address : SocketAddress
  publicAddress : Option SocketAddress
  expectProxy : Bool
  frontTimeout : UInt32
  backTimeout : UInt32
  connectTimeout : UInt32
  active : Bool
  deriving DecidableEq, Repr

/-- A UDP listener. -/
structure UdpListenerConfig where
  address : SocketAddress
  publicAddress : Option SocketAddress
  frontTimeout : UInt32
  backTimeout : UInt32
  maxRxDatagramSize : UInt32
  maxFlows : UInt32
  active : Bool
  deriving DecidableEq, Repr

/-- The payload of `ActivateListener`. -/
structure ActivateListener where
  address : SocketAddress
  proxy : ListenerType
  fromScm : Bool
  deriving DecidableEq, Repr

/-- The payload of `DeactivateListener`. -/
structure DeactivateListener where
  address : SocketAddress
  proxy : ListenerType
  toScm : Bool
  deriving DecidableEq, Repr

/-- The payload of `RemoveListener`. -/
structure RemoveListener where
  address : SocketAddress
  proxy : ListenerType
  deriving DecidableEq, Repr

/-! ## Certificates -/

/-- A TLS version. -/
inductive TlsVersion where
  | tlsV12
  | tlsV13
  deriving DecidableEq, Repr

/-- A certificate with its chain, key and SNI names. -/
structure CertificateAndKey where
  certificate : String
  certificateChain : List String
  key : String
  versions : List TlsVersion
  names : List String
  deriving DecidableEq, Repr

/-- The payload of `AddCertificate`. -/
structure AddCertificate where
  address : SocketAddress
  certificate : CertificateAndKey
  expiredAt : Option Int64
  deriving DecidableEq, Repr

/-- The payload of `RemoveCertificate`. -/
structure RemoveCertificate where
  address : SocketAddress
  fingerprint : String
  deriving DecidableEq, Repr

/-- The payload of `ReplaceCertificate`. -/
structure ReplaceCertificate where
  address : SocketAddress
  newCertificate : CertificateAndKey
  oldFingerprint : String
  newExpiredAt : Option Int64
  deriving DecidableEq, Repr

/-! ## Queries -/

/-- Which frontends a listing asks for. -/
structure FrontendFilters where
  http : Bool
  https : Bool
  tcp : Bool
  domain : Option String
  clusterId : Option String
  deriving DecidableEq, Repr

/-! ## Requests -/

/-- Which of the four HTTP frontend verbs a request goes out on. -/
structure FrontendVerb where
  https : Bool
  /-- The dedicated verb a frontend with header predicates goes out on. -/
  withHeaderPredicates : Bool
  deriving DecidableEq, Repr

/-- A request, by verb. -/
inductive RequestType where
  | addTcpListener (listener : TcpListenerConfig)
  | addUdpListener (listener : UdpListenerConfig)
  | activateListener (activate : ActivateListener)
  | addCluster (cluster : Cluster)
  | addBackend (backend : AddBackend)
  | addCertificate (add : AddCertificate)
  | replaceCertificate (replace : ReplaceCertificate)
  | removeFrontend (verb : FrontendVerb) (front : RequestHttpFrontend)
  | removeTcpFrontend (front : RequestTcpFrontend)
  | removeUdpFrontend (front : RequestUdpFrontend)
  | addFrontend (verb : FrontendVerb) (front : RequestHttpFrontend)
  | addTcpFrontend (front : RequestTcpFrontend)
  | addUdpFrontend (front : RequestUdpFrontend)
  | removeBackend (backend : RemoveBackend)
  | removeCertificate (remove : RemoveCertificate)
  | deactivateListener (deactivate : DeactivateListener)
  | removeListener (listener : RemoveListener)
  | removeCluster (clusterId : String)
  | listFrontends (filters : FrontendFilters)
  | status
  | queryMetrics (metricNames : List String)
  | saveState (path : String)
  | loadState (path : String)
  deriving DecidableEq, Repr

/-- A request as it goes on the wire. -/
structure Request where
  requestType : Option RequestType
  deriving DecidableEq, Repr

/-- `impl From<RequestType> for Request`. -/
def RequestType.into (r : RequestType) : Request := ⟨some r⟩

@[simp] theorem RequestType.into_inj {r r' : RequestType} : r.into = r'.into ↔ r = r' := by
  simp [RequestType.into]

/-- The verb Sōzu's helper picks for a frontend: the dedicated one as soon as it
carries header predicates. -/
def frontendVerb (https : Bool) (front : RequestHttpFrontend) : FrontendVerb :=
  ⟨https, !front.headerPredicates.isEmpty⟩

namespace RequestType

/-- `RequestType::add_http_frontend` and `add_https_frontend`. -/
def addHttpFrontend (https : Bool) (front : RequestHttpFrontend) : RequestType :=
  .addFrontend (frontendVerb https front) front

/-- `RequestType::remove_http_frontend` and `remove_https_frontend`. -/
def removeHttpFrontend (https : Bool) (front : RequestHttpFrontend) : RequestType :=
  .removeFrontend (frontendVerb https front) front

/-- A teardown verb: `Remove*` or `DeactivateListener`. -/
def isTeardown : RequestType → Bool
  | .removeCluster _ | .removeBackend _ | .removeFrontend _ _ | .removeTcpFrontend _
  | .removeUdpFrontend _ | .removeListener _ | .removeCertificate _
  | .deactivateListener _ => true
  | _ => false

/-- The request names a certificate. -/
def namesACertificate : RequestType → Bool
  | .addCertificate _ | .removeCertificate _ | .replaceCertificate _ => true
  | _ => false

end RequestType

/-- The request names a certificate. -/
def Request.namesACertificate (r : Request) : Bool :=
  match r.requestType with
  | some t => t.namesACertificate
  | none => false

@[simp] theorem RequestType.namesACertificate_into (t : RequestType) :
    t.into.namesACertificate = t.namesACertificate := rfl

end Sozu

end SozuGateway
