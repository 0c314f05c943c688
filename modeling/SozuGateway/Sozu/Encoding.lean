import SozuGateway.Lib.Json
import SozuGateway.Sozu.Command

/-!
# The JSON of a request

`serde_json::to_string` of the command vocabulary, with the field names and the
numbering of `sozu_command_lib::proto::command`.  A field the repository never sets
reads the same in every payload of its verb and is left out.

* `Request.json`, `AddBackend.json`, `RequestTcpFrontend.json`,
  `RequestUdpFrontend.json` — the values.
* `Tells`, `tells_request` — a value tells the message; `Request.json_injective`.
-/

set_option autoImplicit false

namespace SozuGateway

namespace Sozu

open Lib

/-! ## Fields -/

/-- A number. -/
def natJson (n : ℕ) : Json := .num n

@[simp] theorem natJson_inj {m n : ℕ} : natJson m = natJson n ↔ m = n := by simp [natJson]

/-- An optional field. -/
def optJson {α : Type} (enc : α → Json) : Option α → Json
  | none => .null
  | some a => enc a

/-- An encoding that tells its values apart, and from an absent one. -/
structure Tells {α : Type} (enc : α → Json) : Prop where
  inj : ∀ a b, enc a = enc b → a = b
  ne_null : ∀ a, enc a ≠ .null

theorem Tells.iff {α : Type} {enc : α → Json} (h : Tells enc) {a b : α} : enc a = enc b ↔ a = b :=
  ⟨h.inj a b, congrArg enc⟩

theorem Tells.opt {α : Type} {enc : α → Json} (h : Tells enc) {o o' : Option α} :
    optJson enc o = optJson enc o' ↔ o = o' := by
  refine ⟨fun heq => ?_, congrArg _⟩
  cases o with
  | none =>
    cases o' with
    | none => rfl
    | some b => exact absurd heq.symm (h.ne_null b)
  | some a =>
    cases o' with
    | none => exact absurd heq (h.ne_null a)
    | some b => exact congrArg some (h.inj a b heq)

/-- A repeated field. -/
def listJson {α : Type} (enc : α → Json) (l : List α) : Json := .arr (l.map enc)

theorem Tells.list {α : Type} {enc : α → Json} (h : Tells enc) {l l' : List α} :
    listJson enc l = listJson enc l' ↔ l = l' := by
  rw [listJson, listJson, Json.arr.injEq]
  exact List.map_inj_right h.inj

theorem tells_str : Tells Json.str := ⟨fun _ _ => Json.str.inj, fun _ => Json.noConfusion⟩

theorem tells_bool : Tells Json.bool := ⟨fun _ _ => Json.bool.inj, fun _ => Json.noConfusion⟩

theorem tells_u32 : Tells fun n : UInt32 => natJson n.toNat :=
  ⟨fun _ _ h => UInt32.toNat_inj.1 (natJson_inj.1 h), fun _ => Json.noConfusion⟩

theorem tells_u64 : Tells fun n : UInt64 => natJson n.toNat :=
  ⟨fun _ _ h => UInt64.toNat_inj.1 (natJson_inj.1 h), fun _ => Json.noConfusion⟩

theorem tells_i64 : Tells fun n : Int64 => Json.num n.toInt :=
  ⟨fun _ _ h => Int64.toInt_inj.1 (Json.num.inj h), fun _ => Json.noConfusion⟩

/-! ## Addresses -/

/-- The number an IPv4 address stands for. -/
def ipv4Bits (ip : Ipv4Addr) : ℕ :=
  ((ip.a.toNat * 256 + ip.b.toNat) * 256 + ip.c.toNat) * 256 + ip.d.toNat

/-- The number four segments stand for. -/
def segmentBits (a b c d : UInt16) : ℕ :=
  ((a.toNat * 65536 + b.toNat) * 65536 + c.toNat) * 65536 + d.toNat

theorem ipv4Bits_inj {ip ip' : Ipv4Addr} (h : ipv4Bits ip = ipv4Bits ip') : ip = ip' := by
  obtain ⟨a, b, c, d⟩ := ip
  obtain ⟨a', b', c', d'⟩ := ip'
  simp only [ipv4Bits] at h
  have := a.toNat_lt; have := b.toNat_lt; have := c.toNat_lt; have := d.toNat_lt
  have := a'.toNat_lt; have := b'.toNat_lt; have := c'.toNat_lt; have := d'.toNat_lt
  have ha : a = a' := UInt8.toNat_inj.1 (by omega)
  have hb : b = b' := UInt8.toNat_inj.1 (by omega)
  have hc : c = c' := UInt8.toNat_inj.1 (by omega)
  have hd : d = d' := UInt8.toNat_inj.1 (by omega)
  rw [ha, hb, hc, hd]

theorem segmentBits_inj {a b c d a' b' c' d' : UInt16}
    (h : segmentBits a b c d = segmentBits a' b' c' d') : a = a' ∧ b = b' ∧ c = c' ∧ d = d' := by
  simp only [segmentBits] at h
  have := a.toNat_lt; have := b.toNat_lt; have := c.toNat_lt; have := d.toNat_lt
  have := a'.toNat_lt; have := b'.toNat_lt; have := c'.toNat_lt; have := d'.toNat_lt
  exact ⟨UInt16.toNat_inj.1 (by omega), UInt16.toNat_inj.1 (by omega),
    UInt16.toNat_inj.1 (by omega), UInt16.toNat_inj.1 (by omega)⟩

/-- An IP address. -/
def IpAddr.json : IpAddr → Json
  | .v4 ip => .obj [("V4", natJson (ipv4Bits ip))]
  | .v6 ip =>
      .obj [("V6", .obj [("low", natJson (segmentBits ip.e ip.f ip.g ip.h)),
        ("high", natJson (segmentBits ip.a ip.b ip.c ip.d))])]

/-- A wire address. -/
def SocketAddress.json (x : SocketAddress) : Json :=
  .obj [("ip", .obj [("inner", x.ip.json)]), ("port", natJson x.port.toNat)]

theorem IpAddr.json_inj {x y : IpAddr} (h : x.json = y.json) : x = y := by
  cases x with
  | v4 ip =>
    cases y with
    | v4 ip' =>
      simp only [json, Json.obj.injEq, List.cons.injEq, Prod.mk.injEq, natJson_inj] at h
      rw [ipv4Bits_inj h.1.2]
    | v6 ip' => simp [json] at h
  | v6 ip =>
    cases y with
    | v4 ip' => simp [json] at h
    | v6 ip' =>
      simp only [json, Json.obj.injEq, List.cons.injEq, Prod.mk.injEq, natJson_inj, true_and,
        and_true] at h
      obtain ⟨he, hf, hg, hh⟩ := segmentBits_inj h.1
      obtain ⟨ha, hb, hc, hd⟩ := segmentBits_inj h.2
      obtain ⟨a, b, c, d, e, f, g, i⟩ := ip
      obtain ⟨a', b', c', d', e', f', g', i'⟩ := ip'
      simp only at ha hb hc hd he hf hg hh
      rw [ha, hb, hc, hd, he, hf, hg, hh]

theorem tells_address : Tells SocketAddress.json where
  inj := by
    rintro ⟨ip, port⟩ ⟨ip', port'⟩ h
    simp only [SocketAddress.json, Json.obj.injEq, List.cons.injEq, Prod.mk.injEq, natJson_inj,
      true_and, and_true] at h
    rw [IpAddr.json_inj h.1, UInt16.toNat_inj.1 h.2]
  ne_null := fun _ => Json.noConfusion

/-! ## Enumerations, by their number -/

/-- `LoadBalancingAlgorithms`. -/
def lbJson : LbAlgorithm → Json
  | .roundRobin => natJson 0
  | .random => natJson 1
  | .leastLoaded => natJson 2
  | .powerOfTwo => natJson 3

/-- `UdpAffinityKey`. -/
def UdpAffinityKey.json : UdpAffinityKey → Json
  | .sourceIp => natJson 0
  | .sourceIpPort => natJson 1

/-- `HealthCheckMode`. -/
def HealthCheckMode.json : HealthCheckMode → Json
  | .http => natJson 0
  | .tcp => natJson 1

/-- `PathRuleKind`. -/
def PathRuleKind.json : PathRuleKind → Json
  | .plainPrefix => natJson 0
  | .regex => natJson 1

/-- `RulePosition`. -/
def RulePosition.json : RulePosition → Json
  | .post => natJson 1
  | .tree => natJson 2

/-- `HeaderPosition`. -/
def headerTargetJson : HeaderTarget → Json
  | .request => natJson 0
  | .response => natJson 1

/-- `HeaderMatchKind`. -/
def PredicateKind.json : PredicateKind → Json
  | .exact => natJson 0
  | .regex => natJson 1

/-- `RedirectPolicy`. -/
def RedirectPolicy.json : RedirectPolicy → Json
  | .permanent => natJson 1
  | .found => natJson 3
  | .permanentRedirect => natJson 4

/-- `RedirectScheme`. -/
def RedirectScheme.json : RedirectScheme → Json
  | .useHttp => natJson 1
  | .useHttps => natJson 2

/-- `ListenerType`. -/
def ListenerType.json : ListenerType → Json
  | .http => natJson 0
  | .https => natJson 1
  | .tcp => natJson 2
  | .udp => natJson 3

/-- `TlsVersion`. -/
def TlsVersion.json : TlsVersion → Json
  | .tlsV12 => natJson 4
  | .tlsV13 => natJson 5

theorem tells_lb : Tells lbJson :=
  ⟨fun a b => by cases a <;> cases b <;> simp [lbJson],
    fun a => by cases a <;> exact Json.noConfusion⟩

theorem tells_affinity : Tells UdpAffinityKey.json :=
  ⟨fun a b => by cases a <;> cases b <;> simp [UdpAffinityKey.json],
    fun a => by cases a <;> exact Json.noConfusion⟩

theorem tells_mode : Tells HealthCheckMode.json :=
  ⟨fun a b => by cases a <;> cases b <;> simp [HealthCheckMode.json],
    fun a => by cases a <;> exact Json.noConfusion⟩

theorem tells_rule : Tells PathRuleKind.json :=
  ⟨fun a b => by cases a <;> cases b <;> simp [PathRuleKind.json],
    fun a => by cases a <;> exact Json.noConfusion⟩

theorem tells_position : Tells RulePosition.json :=
  ⟨fun a b => by cases a <;> cases b <;> simp [RulePosition.json],
    fun a => by cases a <;> exact Json.noConfusion⟩

theorem tells_target : Tells headerTargetJson :=
  ⟨fun a b => by cases a <;> cases b <;> simp [headerTargetJson],
    fun a => by cases a <;> exact Json.noConfusion⟩

theorem tells_predicateKind : Tells PredicateKind.json :=
  ⟨fun a b => by cases a <;> cases b <;> simp [PredicateKind.json],
    fun a => by cases a <;> exact Json.noConfusion⟩

theorem tells_redirect : Tells RedirectPolicy.json :=
  ⟨fun a b => by cases a <;> cases b <;> simp [RedirectPolicy.json],
    fun a => by cases a <;> exact Json.noConfusion⟩

theorem tells_scheme : Tells RedirectScheme.json :=
  ⟨fun a b => by cases a <;> cases b <;> simp [RedirectScheme.json],
    fun a => by cases a <;> exact Json.noConfusion⟩

theorem tells_listener : Tells ListenerType.json :=
  ⟨fun a b => by cases a <;> cases b <;> simp [ListenerType.json],
    fun a => by cases a <;> exact Json.noConfusion⟩

theorem tells_tls : Tells TlsVersion.json :=
  ⟨fun a b => by cases a <;> cases b <;> simp [TlsVersion.json],
    fun a => by cases a <;> exact Json.noConfusion⟩

/-! ## Messages -/

/-- A header of a health check. -/
def pairJson (h : String × String) : Json := .obj [("key", .str h.1), ("val", .str h.2)]

/-- A health check. -/
def HealthCheckConfig.json (c : HealthCheckConfig) : Json :=
  .obj [("uri", .str c.uri), ("interval", natJson c.interval.toNat),
    ("timeout", natJson c.timeout.toNat),
    ("healthy_threshold", natJson c.healthyThreshold.toNat),
    ("unhealthy_threshold", natJson c.unhealthyThreshold.toNat),
    ("expected_status", natJson c.expectedStatus.toNat), ("mode", c.mode.json),
    ("accepted_statuses", listJson (fun n : UInt32 => natJson n.toNat) c.acceptedStatuses),
    ("port", optJson (fun n : UInt32 => natJson n.toNat) c.port),
    ("headers", listJson pairJson c.headers)]

/-- A cluster's UDP settings. -/
def UdpClusterConfig.json (c : UdpClusterConfig) : Json :=
  .obj [("affinity_key", optJson UdpAffinityKey.json c.affinityKey)]

/-- A cluster. -/
def Cluster.json (c : Cluster) : Json :=
  .obj [("cluster_id", .str c.clusterId), ("sticky_session", .bool c.stickySession),
    ("https_redirect", .bool c.httpsRedirect), ("load_balancing", lbJson c.loadBalancing),
    ("http2", optJson .bool c.http2),
    ("max_connections_per_ip", optJson (fun n : UInt64 => natJson n.toNat) c.maxConnectionsPerIp),
    ("retry_after", optJson (fun n : UInt32 => natJson n.toNat) c.retryAfter),
    ("health_check", optJson HealthCheckConfig.json c.healthCheck),
    ("udp", optJson UdpClusterConfig.json c.udp)]

/-- The load-balancing parameters of a backend. -/
def weightJson (weight : Int32) : Json := .obj [("weight", .num weight.toInt)]

/-- A backend. -/
def AddBackend.json (b : AddBackend) : Json :=
  .obj [("cluster_id", .str b.clusterId), ("backend_id", .str b.backendId),
    ("address", b.address.json), ("sticky_id", optJson .str b.stickyId),
    ("load_balancing_parameters", optJson weightJson b.loadBalancingParameters),
    ("backup", optJson .bool b.backup)]

/-- A backend's removal. -/
def RemoveBackend.json (b : RemoveBackend) : Json :=
  .obj [("cluster_id", .str b.clusterId), ("backend_id", .str b.backendId),
    ("address", b.address.json)]

/-- A path rule. -/
def PathRule.json (r : PathRule) : Json := .obj [("kind", r.kind.json), ("value", .str r.value)]

/-- A header edit. -/
def Header.json (h : Header) : Json :=
  .obj [("position", headerTargetJson h.position), ("key", .str h.key), ("val", .str h.val)]

/-- A header predicate. -/
def HeaderPredicate.json (h : HeaderPredicate) : Json :=
  .obj [("name", .str h.name), ("kind", h.kind.json), ("value", optJson .str h.value)]

/-- An HTTP or HTTPS frontend. -/
def RequestHttpFrontend.json (f : RequestHttpFrontend) : Json :=
  .obj [("cluster_id", optJson .str f.clusterId), ("address", f.address.json),
    ("hostname", .str f.hostname), ("path", f.path.json), ("method", optJson .str f.method),
    ("position", f.position.json), ("redirect", optJson RedirectPolicy.json f.redirect),
    ("redirect_scheme", optJson RedirectScheme.json f.redirectScheme),
    ("rewrite_host", optJson .str f.rewriteHost), ("rewrite_path", optJson .str f.rewritePath),
    ("rewrite_port", optJson (fun n : UInt32 => natJson n.toNat) f.rewritePort),
    ("headers", listJson Header.json f.headers),
    ("header_predicates", listJson HeaderPredicate.json f.headerPredicates)]

/-- A TCP frontend. -/
def RequestTcpFrontend.json (f : RequestTcpFrontend) : Json :=
  .obj [("cluster_id", .str f.clusterId), ("address", f.address.json),
    ("sni", optJson .str f.sni), ("alpn", listJson .str f.alpn)]

/-- A UDP frontend. -/
def RequestUdpFrontend.json (f : RequestUdpFrontend) : Json :=
  .obj [("cluster_id", .str f.clusterId), ("address", f.address.json)]

/-- A TCP listener. -/
def TcpListenerConfig.json (l : TcpListenerConfig) : Json :=
  .obj [("address", l.address.json), ("public_address", optJson SocketAddress.json l.publicAddress),
    ("expect_proxy", .bool l.expectProxy), ("front_timeout", natJson l.frontTimeout.toNat),
    ("back_timeout", natJson l.backTimeout.toNat),
    ("connect_timeout", natJson l.connectTimeout.toNat), ("active", .bool l.active)]

/-- A UDP listener. -/
def UdpListenerConfig.json (l : UdpListenerConfig) : Json :=
  .obj [("address", l.address.json), ("public_address", optJson SocketAddress.json l.publicAddress),
    ("front_timeout", natJson l.frontTimeout.toNat), ("back_timeout", natJson l.backTimeout.toNat),
    ("max_rx_datagram_size", natJson l.maxRxDatagramSize.toNat),
    ("max_flows", natJson l.maxFlows.toNat), ("active", .bool l.active)]

/-- A listener's activation, or its deactivation under another flag. -/
def activationJson (flag : String) (address : SocketAddress) (proxy : ListenerType) (scm : Bool) :
    Json :=
  .obj [("address", address.json), ("proxy", proxy.json), (flag, .bool scm)]

/-- A certificate with its key. -/
def CertificateAndKey.json (c : CertificateAndKey) : Json :=
  .obj [("certificate", .str c.certificate),
    ("certificate_chain", listJson .str c.certificateChain),
    ("key", .str c.key), ("versions", listJson TlsVersion.json c.versions),
    ("names", listJson .str c.names)]

/-- The filters of a listing. -/
def FrontendFilters.json (f : FrontendFilters) : Json :=
  .obj [("http", .bool f.http), ("https", .bool f.https), ("tcp", .bool f.tcp),
    ("domain", optJson .str f.domain), ("cluster_id", optJson .str f.clusterId)]

/-- The verb of a request. -/
def RequestType.verb : RequestType → String
  | .addTcpListener _ => "ADD_TCP_LISTENER"
  | .addUdpListener _ => "ADD_UDP_LISTENER"
  | .activateListener _ => "ACTIVATE_LISTENER"
  | .addCluster _ => "ADD_CLUSTER"
  | .addBackend _ => "ADD_BACKEND"
  | .addCertificate _ => "ADD_CERTIFICATE"
  | .replaceCertificate _ => "REPLACE_CERTIFICATE"
  | .removeFrontend ⟨false, false⟩ _ => "REMOVE_HTTP_FRONTEND"
  | .removeFrontend ⟨true, false⟩ _ => "REMOVE_HTTPS_FRONTEND"
  | .removeFrontend ⟨false, true⟩ _ => "REMOVE_HTTP_FRONTEND_WITH_HEADER_PREDICATES"
  | .removeFrontend ⟨true, true⟩ _ => "REMOVE_HTTPS_FRONTEND_WITH_HEADER_PREDICATES"
  | .removeTcpFrontend _ => "REMOVE_TCP_FRONTEND"
  | .removeUdpFrontend _ => "REMOVE_UDP_FRONTEND"
  | .addFrontend ⟨false, false⟩ _ => "ADD_HTTP_FRONTEND"
  | .addFrontend ⟨true, false⟩ _ => "ADD_HTTPS_FRONTEND"
  | .addFrontend ⟨false, true⟩ _ => "ADD_HTTP_FRONTEND_WITH_HEADER_PREDICATES"
  | .addFrontend ⟨true, true⟩ _ => "ADD_HTTPS_FRONTEND_WITH_HEADER_PREDICATES"
  | .addTcpFrontend _ => "ADD_TCP_FRONTEND"
  | .addUdpFrontend _ => "ADD_UDP_FRONTEND"
  | .removeBackend _ => "REMOVE_BACKEND"
  | .removeCertificate _ => "REMOVE_CERTIFICATE"
  | .deactivateListener _ => "DEACTIVATE_LISTENER"
  | .removeListener _ => "REMOVE_LISTENER"
  | .removeCluster _ => "REMOVE_CLUSTER"
  | .listFrontends _ => "LIST_FRONTENDS"
  | .status => "STATUS"
  | .queryMetrics _ => "QUERY_METRICS"
  | .saveState _ => "SAVE_STATE"
  | .loadState _ => "LOAD_STATE"

/-- The payload of a request. -/
def RequestType.payload : RequestType → Json
  | .addTcpListener l => l.json
  | .addUdpListener l => l.json
  | .activateListener a => activationJson "from_scm" a.address a.proxy a.fromScm
  | .addCluster c => c.json
  | .addBackend b => b.json
  | .addCertificate c =>
      .obj [("address", c.address.json), ("certificate", c.certificate.json),
        ("expired_at", optJson (fun n : Int64 => Json.num n.toInt) c.expiredAt)]
  | .replaceCertificate c =>
      .obj [("address", c.address.json), ("new_certificate", c.newCertificate.json),
        ("old_fingerprint", .str c.oldFingerprint),
        ("new_expired_at", optJson (fun n : Int64 => Json.num n.toInt) c.newExpiredAt)]
  | .removeFrontend _ f => f.json
  | .removeTcpFrontend f => f.json
  | .removeUdpFrontend f => f.json
  | .addFrontend _ f => f.json
  | .addTcpFrontend f => f.json
  | .addUdpFrontend f => f.json
  | .removeBackend b => b.json
  | .removeCertificate c => .obj [("address", c.address.json), ("fingerprint", .str c.fingerprint)]
  | .deactivateListener d => activationJson "to_scm" d.address d.proxy d.toScm
  | .removeListener l => .obj [("address", l.address.json), ("proxy", l.proxy.json)]
  | .removeCluster id => .str id
  | .listFrontends f => f.json
  | .status => .obj []
  | .queryMetrics names => .obj [("metric_names", listJson .str names)]
  | .saveState path => .str path
  | .loadState path => .str path

/-- A request, by verb. -/
def RequestType.json (t : RequestType) : Json := .obj [(t.verb, t.payload)]

/-- A request as it goes on the wire. -/
def Request.json (r : Request) : Json :=
  .obj [("request_type", optJson RequestType.json r.requestType)]

/-! ## A value tells its message -/

/-- What it takes of an object to tell its message. -/
theorem tells_obj {α : Type} {fields : α → List (String × Json)}
    (h : ∀ a b, fields a = fields b → a = b) : Tells fun a => Json.obj (fields a) :=
  ⟨fun a b heq => h a b (Json.obj.inj heq), fun _ => Json.noConfusion⟩

theorem tells_pair : Tells pairJson := tells_obj fun ⟨k, v⟩ ⟨k', v'⟩ h => by simpa using h

theorem tells_weight : Tells weightJson := tells_obj fun a b h => by
  simpa [Int32.toInt_inj] using h

theorem tells_healthCheck : Tells HealthCheckConfig.json := tells_obj fun a b h => by
  cases a
  cases b
  simpa [UInt32.toNat_inj, tells_u32.list, tells_u32.opt, tells_pair.list, tells_mode.iff] using h

theorem tells_udpCluster : Tells UdpClusterConfig.json := tells_obj fun a b h => by
  cases a
  cases b
  simpa [tells_affinity.opt] using h

theorem tells_cluster : Tells Cluster.json := tells_obj fun a b h => by
  cases a
  cases b
  simp only [List.cons.injEq, Prod.mk.injEq, true_and, and_true, Json.str.injEq, Json.bool.injEq,
    tells_lb.iff, tells_bool.opt, tells_u64.opt, tells_u32.opt, tells_healthCheck.opt,
    tells_udpCluster.opt] at h
  simp only [h]

theorem tells_backend : Tells AddBackend.json := tells_obj fun a b h => by
  cases a
  cases b
  simpa [tells_address.iff, tells_str.opt, tells_weight.opt, tells_bool.opt] using h

theorem tells_removeBackend : Tells RemoveBackend.json := tells_obj fun a b h => by
  cases a
  cases b
  simpa [tells_address.iff] using h

theorem tells_path : Tells PathRule.json := tells_obj fun a b h => by
  cases a
  cases b
  simpa [tells_rule.iff] using h

theorem tells_header : Tells Header.json := tells_obj fun a b h => by
  cases a
  cases b
  simpa [tells_target.iff] using h

theorem tells_predicate : Tells HeaderPredicate.json := tells_obj fun a b h => by
  cases a
  cases b
  simpa [tells_predicateKind.iff, tells_str.opt] using h

theorem tells_front : Tells RequestHttpFrontend.json := tells_obj fun a b h => by
  cases a
  cases b
  simp only [List.cons.injEq, Prod.mk.injEq, true_and, and_true, Json.str.injEq, tells_str.opt,
    tells_address.iff, tells_path.iff, tells_position.iff, tells_redirect.opt, tells_scheme.opt,
    tells_u32.opt, tells_header.list, tells_predicate.list] at h
  simp only [h]

theorem tells_tcp : Tells RequestTcpFrontend.json := tells_obj fun a b h => by
  cases a
  cases b
  simpa [tells_address.iff, tells_str.opt, tells_str.list] using h

theorem tells_udp : Tells RequestUdpFrontend.json := tells_obj fun a b h => by
  cases a
  cases b
  simpa [tells_address.iff] using h

theorem tells_tcpListener : Tells TcpListenerConfig.json := tells_obj fun a b h => by
  cases a
  cases b
  simpa [tells_address.iff, tells_address.opt, UInt32.toNat_inj] using h

theorem tells_udpListener : Tells UdpListenerConfig.json := tells_obj fun a b h => by
  cases a
  cases b
  simpa [tells_address.iff, tells_address.opt, UInt32.toNat_inj] using h

theorem tells_certificate : Tells CertificateAndKey.json := tells_obj fun a b h => by
  cases a
  cases b
  simpa [tells_str.list, tells_tls.list] using h

theorem tells_filters : Tells FrontendFilters.json := tells_obj fun a b h => by
  cases a
  cases b
  simpa [tells_str.opt] using h

/-- Which frontend verb a request goes out on. -/
def RequestType.frontVerb : RequestType → FrontendVerb
  | .removeFrontend v _ | .addFrontend v _ => v
  | _ => ⟨false, false⟩

/-- The constructor and the frontend verb each name stands for. -/
def verbs : List (String × ℕ × FrontendVerb) :=
  [("ADD_TCP_LISTENER", 0, ⟨false, false⟩), ("ADD_UDP_LISTENER", 1, ⟨false, false⟩),
    ("ACTIVATE_LISTENER", 2, ⟨false, false⟩), ("ADD_CLUSTER", 3, ⟨false, false⟩),
    ("ADD_BACKEND", 4, ⟨false, false⟩), ("ADD_CERTIFICATE", 5, ⟨false, false⟩),
    ("REPLACE_CERTIFICATE", 6, ⟨false, false⟩), ("REMOVE_HTTP_FRONTEND", 7, ⟨false, false⟩),
    ("REMOVE_HTTPS_FRONTEND", 7, ⟨true, false⟩),
    ("REMOVE_HTTP_FRONTEND_WITH_HEADER_PREDICATES", 7, ⟨false, true⟩),
    ("REMOVE_HTTPS_FRONTEND_WITH_HEADER_PREDICATES", 7, ⟨true, true⟩),
    ("REMOVE_TCP_FRONTEND", 8, ⟨false, false⟩), ("REMOVE_UDP_FRONTEND", 9, ⟨false, false⟩),
    ("ADD_HTTP_FRONTEND", 10, ⟨false, false⟩), ("ADD_HTTPS_FRONTEND", 10, ⟨true, false⟩),
    ("ADD_HTTP_FRONTEND_WITH_HEADER_PREDICATES", 10, ⟨false, true⟩),
    ("ADD_HTTPS_FRONTEND_WITH_HEADER_PREDICATES", 10, ⟨true, true⟩),
    ("ADD_TCP_FRONTEND", 11, ⟨false, false⟩), ("ADD_UDP_FRONTEND", 12, ⟨false, false⟩),
    ("REMOVE_BACKEND", 13, ⟨false, false⟩), ("REMOVE_CERTIFICATE", 14, ⟨false, false⟩),
    ("DEACTIVATE_LISTENER", 15, ⟨false, false⟩), ("REMOVE_LISTENER", 16, ⟨false, false⟩),
    ("REMOVE_CLUSTER", 17, ⟨false, false⟩), ("LIST_FRONTENDS", 18, ⟨false, false⟩),
    ("STATUS", 19, ⟨false, false⟩), ("QUERY_METRICS", 20, ⟨false, false⟩),
    ("SAVE_STATE", 21, ⟨false, false⟩), ("LOAD_STATE", 22, ⟨false, false⟩)]

/-- A verb's name tells its constructor. -/
theorem lookup_verb (t : RequestType) : verbs.lookup t.verb = some (t.ctorIdx, t.frontVerb) := by
  cases t
  case removeFrontend v f =>
    obtain ⟨https, predicated⟩ := v
    cases https <;> cases predicated <;> rfl
  case addFrontend v f =>
    obtain ⟨https, predicated⟩ := v
    cases https <;> cases predicated <;> rfl
  all_goals rfl

theorem tells_request : Tells RequestType.json := tells_obj fun t t' h => by
  simp only [List.cons.injEq, Prod.mk.injEq, and_true] at h
  obtain ⟨hverb, hpayload⟩ := h
  have hsame := lookup_verb t
  rw [hverb, lookup_verb t'] at hsame
  simp only [Option.some.injEq, Prod.mk.injEq] at hsame
  obtain ⟨hidx, hfront⟩ := hsame
  cases t <;> cases t' <;> cases hidx
  case addTcpListener l l' => rw [tells_tcpListener.inj l l' hpayload]
  case addUdpListener l l' => rw [tells_udpListener.inj l l' hpayload]
  case addCluster c c' => rw [tells_cluster.inj c c' hpayload]
  case addBackend b b' => rw [tells_backend.inj b b' hpayload]
  case removeTcpFrontend f f' => rw [tells_tcp.inj f f' hpayload]
  case addTcpFrontend f f' => rw [tells_tcp.inj f f' hpayload]
  case removeUdpFrontend f f' => rw [tells_udp.inj f f' hpayload]
  case addUdpFrontend f f' => rw [tells_udp.inj f f' hpayload]
  case removeBackend b b' => rw [tells_removeBackend.inj b b' hpayload]
  case listFrontends f f' => rw [tells_filters.inj f f' hpayload]
  case removeFrontend v f v' f' =>
    obtain rfl : v' = v := hfront
    rw [tells_front.inj f f' hpayload]
  case addFrontend v f v' f' =>
    obtain rfl : v' = v := hfront
    rw [tells_front.inj f f' hpayload]
  case addCertificate c c' =>
    cases c
    cases c'
    simpa [RequestType.payload, tells_address.iff, tells_certificate.iff, tells_i64.opt]
      using hpayload
  case replaceCertificate c c' =>
    cases c
    cases c'
    simpa [RequestType.payload, tells_address.iff, tells_certificate.iff, tells_i64.opt]
      using hpayload
  case activateListener a a' =>
    cases a
    cases a'
    simpa [RequestType.payload, activationJson, tells_address.iff, tells_listener.iff]
      using hpayload
  case deactivateListener d d' =>
    cases d
    cases d'
    simpa [RequestType.payload, activationJson, tells_address.iff, tells_listener.iff]
      using hpayload
  case removeListener l l' =>
    cases l
    cases l'
    simpa [RequestType.payload, tells_address.iff, tells_listener.iff] using hpayload
  case removeCertificate c c' =>
    cases c
    cases c'
    simpa [RequestType.payload, tells_address.iff] using hpayload
  case queryMetrics names names' =>
    simpa [RequestType.payload, tells_str.list] using hpayload
  case status => rfl
  all_goals exact congrArg _ (Json.str.inj hpayload)

/-- **A request's JSON tells the request.** -/
theorem Request.json_injective : Function.Injective Request.json := by
  rintro ⟨t⟩ ⟨t'⟩ h
  simp only [Request.json, Json.obj.injEq, List.cons.injEq, Prod.mk.injEq, true_and, and_true,
    tells_request.opt] at h
  rw [h]

end Sozu

end SozuGateway
