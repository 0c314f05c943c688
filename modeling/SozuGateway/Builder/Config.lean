import SozuGateway.Builder.Problem
import SozuGateway.Lib.Text

/-!
# Configuration

What the build is parameterised over, from `crates/builder/src/lib.rs`.

* `ExposedPort`, `BuildConfig` — the exposed ports and the class identity.
* `BuildConfig.bindFor`, `BuildConfig.exposed` — where Sōzu listens for a protocol, and
  the entry a Gateway listener attaches to.
* `SozuRequestHeaders.setBeforeRouting` — the request headers Sōzu writes itself.
* `External` — the functions of other crates the build calls.
-/

set_option autoImplicit false

namespace SozuGateway

namespace Builder

open Lib

/-! ## Exposed ports -/

/-- The Gateway API listener protocol one exposed port serves. -/
inductive ExposedProtocol where
  | http
  | https
  | tcp
  | udp
  | tls
  deriving DecidableEq, Repr

/-- One port this gateway exposes. -/
structure ExposedPort where
  name : String
  /-- What a Gateway listener declares and a client dials. -/
  port : UInt16
  /-- Where Sōzu listens inside the Pod. -/
  bind : UInt16
  protocol : ExposedProtocol
  transport : Option String := none
  /-- The namespace allowed to claim this port. -/
  owner : Option String := none
  deriving DecidableEq, Repr

/-- The controller-wide health-check default. -/
structure HealthCheckDefault where
  /-- Whether a Service without an annotation of its own gets a check. -/
  enabled : Bool
  /-- The timing every check starts from. -/
  check : HealthCheck
  deriving DecidableEq, Repr

/-- The documented default timing. -/
def HealthCheckDefault.defaultCheck : HealthCheck where
  intervalSecs := 3
  timeoutSecs := 2
  healthyThreshold := 2
  unhealthyThreshold := 2
  port := none

/-- The request headers Sōzu sets or rewrites before it routes a request. -/
structure SozuRequestHeaders where
  correlationHeader : String := "Sozu-Id"
  xRealIp : Bool := false
  deriving DecidableEq, Repr

/-- Why Sōzu's value, not the client's, is what a predicate on `name` would test. -/
def SozuRequestHeaders.setBeforeRouting (headers : SozuRequestHeaders) (name : String) :
    Option String :=
  let lower := toAsciiLowercase name
  if lower = "x-forwarded-for" ∨ lower = "forwarded" then
    some "Sōzu appends the client address to it, or adds it, before routing"
  else if lower = "x-forwarded-proto" ∨ lower = "x-forwarded-port" ∨ lower = "x-request-id" then
    some "Sōzu adds it before routing when the client sent none"
  else if lower = "x-real-ip" ∧ headers.xRealIp then
    some "Sōzu sets or strips it before routing (send_x_real_ip/elide_x_real_ip)"
  else if toAsciiLowercase lower = toAsciiLowercase headers.correlationHeader then
    some "Sōzu adds its correlation id under this name to every request before routing"
  else none

/-- The exposed ports and class identity the build is parameterised over. -/
structure BuildConfig where
  className : String := "sozu"
  classIsDefault : Bool := false
  /-- The GatewayClass `controllerName` we own. -/
  controllerName : String := "sozu.io/gateway-controller"
  /-- Every port the gateway exposes, in the operator's declared order. -/
  exposure : List ExposedPort :=
    [{ name := "http", port := 80, bind := 80, protocol := .http },
      { name := "https", port := 443, bind := 443, protocol := .https }]
  healthCheck : HealthCheckDefault := ⟨false, HealthCheckDefault.defaultCheck⟩
  sozuRequestHeaders : SozuRequestHeaders := {}
  deriving DecidableEq, Repr

namespace BuildConfig

/-- A bind port as the address Sōzu listens on. -/
def bindAddr (port : UInt16) : SocketAddr := .v4 ⟨0, 0, 0, 0⟩ port

/-- The bind address serving `protocol`, if any port exposes it. -/
def bindFor (cfg : BuildConfig) (protocol : ExposedProtocol) : Option SocketAddr :=
  (cfg.exposure.find? fun e => e.protocol = protocol).map fun e => bindAddr e.bind

/-- The entry serving `(protocol, port)`. -/
def exposed (cfg : BuildConfig) (protocol : ExposedProtocol) (port : UInt16) : Option ExposedPort :=
  cfg.exposure.find? fun e => e.protocol = protocol ∧ e.port = port

/-- The advertised ports on offer for `protocol`. -/
def advertisedPorts (cfg : BuildConfig) (protocol : ExposedProtocol) : List UInt16 :=
  (cfg.exposure.filter fun e => e.protocol = protocol).map ExposedPort.port

end BuildConfig

/-! ## Other crates -/

/-- What `CertifiedKey::keys_match` says of a leaf and a key. -/
inductive KeysMatch where
  | ok
  /-- The provider cannot expose the public key. -/
  | unknown
  | mismatch
  | error (text : String)
  deriving DecidableEq, Repr

/-- The functions of other crates the build calls. Each is a pure function of its
arguments; nothing more is assumed of any. -/
class External where
  /-- `regex::bytes::Regex::new`: the error it fails with. -/
  regexError : String → Option String
  /-- Whether a compiled pattern matches a value. -/
  regexIsMatch : String → String → Bool
  /-- `idna::domain_to_ascii`. -/
  domainToAscii : String → Option String
  /-- `sozu_command_lib::config::validate_health_check_config`, on a TCP check. -/
  healthCheckError : HealthCheck → Option String
  /-- `sozu_command_lib::config::validate_header_predicate`: name, kind and value. -/
  headerPredicateError : String → HeaderMatchKind → Option String
  /-- `sozu_command_lib::config::validate_sni_pattern`: the normalised name. -/
  validateSniPattern : String → Option String
  /-- `split_certificate_chain`: the PEM blocks of a text. -/
  splitCertificateChain : String → List String
  /-- `parse_pem`: the decoded block, or why not. -/
  parsePem : String → Except String ByteArray
  /-- `parse_x509` with `get_cn_and_san_attributes`: the names it declares. -/
  parseX509 : ByteArray → Except String (List String)
  /-- `calculate_fingerprint_from_der`. -/
  fingerprint : ByteArray → List (Fin 256)
  /-- `PrivateKeyDer::from_pem_slice`, then the provider's `load_private_key`. -/
  loadPrivateKey : String → Except String ByteArray
  /-- `CertifiedKey::keys_match`, on the leaf and the loaded key. -/
  keysMatch : ByteArray → ByteArray → KeysMatch
  /-- HMAC-SHA256: key and message. -/
  hmac : ByteArray → ByteArray → List (Fin 256)

/-- Stand-ins that do what the real functions do on the plain inputs of the examples:
patterns compile, names are ASCII, and a PEM text is its own DER. -/
@[reducible] def External.plain : External where
  regexError _ := none
  regexIsMatch _ _ := true
  domainToAscii name := some (toAsciiLowercase name)
  healthCheckError _ := none
  headerPredicateError _ _ := none
  validateSniPattern name := some (toAsciiLowercase name)
  splitCertificateChain text := [text]
  parsePem text := .ok text.toByteArray
  parseX509 _ := .ok []
  fingerprint der := der.data.toList.map fun b => Fin.ofNat 256 b.toNat
  loadPrivateKey text := .ok text.toByteArray
  keysMatch _ _ := .ok
  hmac _ message := message.data.toList.map fun b => Fin.ofNat 256 b.toNat

end Builder

end SozuGateway
