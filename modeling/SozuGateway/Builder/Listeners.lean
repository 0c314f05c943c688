import SozuGateway.Builder.Ingresses

/-!
# Gateway listeners

A Gateway's listeners and the certificates they load, from `crates/builder/src/gateway.rs`
and `selector.rs`.

* `NamespaceSelector` — a label selector, or why it cannot be evaluated.
* `AllowedFrom` — the namespaces a listener admits routes from.
* `referenceGranted` — a cross-namespace reference some ReferenceGrant allows.
* `loadListenerCerts`, `buildListener` — one listener: its status, and what it emits.
* `buildOneGateway` — all listeners of a Gateway; a rejected Gateway contributes no
  certificate.
-/

set_option autoImplicit false

namespace SozuGateway

namespace Builder

open Lib

/-! ## Namespace selectors -/

/-- One requirement a namespace's labels must satisfy. -/
inductive Term where
  | equals (key value : String)
  | in_ (key : String) (values : List String)
  | notIn (key : String) (values : List String)
  | exists_ (key : String)
  | doesNotExist (key : String)
  deriving DecidableEq, Repr

/-- A parsed selector, or the reason it cannot be evaluated. -/
inductive NamespaceSelector where
  | terms (ts : List Term)
  | unevaluable (reason : String)
  deriving DecidableEq, Repr

/-- The labels satisfy one requirement. -/
def Term.holds (labels : BTreeMap String String) : Term → Bool
  | equals key value => labels[key]? = some value
  | in_ key values => labels[key]?.any fun v => values.contains v
  | notIn key values => labels[key]?.all fun v => !values.contains v
  | exists_ key => labels[key]?.isSome
  | doesNotExist key => labels[key]?.isNone

namespace NamespaceSelector

/-- Do these labels satisfy the selector? -/
def admits (labels : BTreeMap String String) : NamespaceSelector → Bool
  -- fail closed
  | unevaluable _ => false
  | terms ts => ts.all (Term.holds labels)

end NamespaceSelector

section Parse

variable [CharTable]

/-- One match expression. -/
def parseExpression (expr : GatewayListenersSelectorMatchExpressions) : Except String Term :=
  let values := expr.values.getD []
  let label := "matchExpressions[" ++ expr.key ++ "] "
  if (expr.operator = "In" ∨ expr.operator = "NotIn") ∧ values = [] then
    .error (label ++ "operator " ++ quoted expr.operator ++ " needs a non-empty values list")
  else if expr.operator = "In" then .ok (.in_ expr.key values)
  else if expr.operator = "NotIn" then .ok (.notIn expr.key values)
  else if (expr.operator = "Exists" ∨ expr.operator = "DoesNotExist") ∧ values ≠ [] then
    .error (label ++ "operator " ++ quoted expr.operator ++ " must not carry values")
  else if expr.operator = "Exists" then .ok (.exists_ expr.key)
  else if expr.operator = "DoesNotExist" then .ok (.doesNotExist expr.key)
  else .error (label ++ "uses operator " ++ quoted expr.operator ++
    ", which this controller does not know")

/-- Parse `allowedRoutes.namespaces.selector`. -/
def NamespaceSelector.parse (selector : Option GatewayListenersSelector) : NamespaceSelector :=
  match selector with
  | none => .unevaluable "allowedRoutes.namespaces.from is Selector but no selector is set"
  | some selector =>
      let labels := (selector.matchLabels.getD ∅).toList.map fun entry =>
        Term.equals entry.1 entry.2
      match (selector.matchExpressions.getD []).mapM parseExpression with
      | .ok parsed => .terms (labels ++ parsed)
      | .error reason => .unevaluable reason

end Parse

/-! ## Admission -/

/-- A listener's `allowedRoutes.namespaces.from` policy. -/
inductive AllowedFrom where
  | same
  | all
  | selector (s : NamespaceSelector)
  deriving DecidableEq, Repr

/-- The policy of a listener. -/
def AllowedFrom.of [CharTable] (l : GatewayListeners) : AllowedFrom :=
  let namespaces := l.allowedRoutes.bind GatewayListenersAllowedRoutes.namespaces
  match namespaces.bind GatewayListenersAllowedRoutesNamespaces.from_ with
  | some .all => .all
  | some .selector => .selector (.parse (namespaces.bind (·.selector)))
  | _ => .same

/-- Does the listener admit a route from `routeNs`, its Gateway being in `gwNs`? -/
def AllowedFrom.admits (routeNs gwNs : String) (index : Index) : AllowedFrom → Bool
  | all => true
  | same => routeNs = gwNs
  | selector s => index.namespaceLabels[routeNs]?.any fun labels => s.admits labels

/-- The group of the Gateway API. -/
def gwGroup : String := "gateway.networking.k8s.io"

/-- Which Gateway API route kind a result describes. -/
inductive RouteKind where
  | httpRoute
  | tcpRoute
  | udpRoute
  deriving DecidableEq, Repr

/-- The kind's Kubernetes spelling. -/
def RouteKind.asStr : RouteKind → String
  | httpRoute => "HTTPRoute"
  | tcpRoute => "TCPRoute"
  | udpRoute => "UDPRoute"

/-- A listener protocol this controller serves. -/
inductive ListenerProtocol where
  | http
  | https
  | tcp
  | udp
  deriving DecidableEq, Repr

namespace ListenerProtocol

def parse (protocol : String) : Option ListenerProtocol :=
  if protocol = "HTTP" then some http
  else if protocol = "HTTPS" then some https
  else if protocol = "TCP" then some tcp
  else if protocol = "UDP" then some udp
  else none

/-- The exposure-table protocol a listener of this kind attaches to. -/
def exposed : ListenerProtocol → ExposedProtocol
  | http => .http
  | https => .https
  | tcp => .tcp
  | udp => .udp

/-- The single route kind this listener admits. -/
def routeKind : ListenerProtocol → RouteKind
  | http | https => .httpRoute
  | tcp => .tcpRoute
  | udp => .udpRoute

/-- The layer-4 transport, for the protocols that have one. -/
def l4 : ListenerProtocol → Option L4Protocol
  | tcp => some .tcp
  | udp => some .udp
  | http | https => none

end ListenerProtocol

/-- The grant lets an object of one namespace refer to an object of its own. -/
def ReferenceGrant.allows (grant : ReferenceGrant)
    (toNs toGroup toKind toName fromNs fromGroup fromKind : String) : Bool :=
  grant.metadata.namespace_.getD "default" = toNs &&
    (grant.from_.any fun f =>
      f.group = fromGroup && f.kind = fromKind && f.namespace_ = fromNs) &&
    grant.to_.any fun t =>
      t.group = toGroup && t.kind = toKind && t.name.all fun n => n = toName

/-- Is a cross-namespace reference allowed by a ReferenceGrant of the target
namespace? -/
def referenceGranted (inputs : Inputs)
    (toNs toGroup toKind toName fromNs fromGroup fromKind : String) : Bool :=
  inputs.referenceGrants.any fun grant =>
    grant.allows toNs toGroup toKind toName fromNs fromGroup fromKind

/-! ## One listener -/

/-- A listener we accepted on one of our Gateways. -/
structure ListenerInfo where
  name : String
  hostname : Option String
  /-- Absent for a protocol we do not serve. -/
  protocol : Option ListenerProtocol
  port : Int32
  /-- Where Sōzu listens for this listener. -/
  bind : Option SocketAddr
  allowFrom : AllowedFrom
  /-- Can a route bind here at all? -/
  routable : Bool
  programmed : Bool
  programmedReason : String
  accepted : Bool
  acceptedReason : String
  resolvedRefs : Bool
  resolvedRefsReason : String
  supportedKinds : List String
  deriving DecidableEq, Repr

/-- Does this listener admit `kind`? -/
def ListenerInfo.admitsKind (info : ListenerInfo) (kind : RouteKind) : Bool :=
  info.supportedKinds.any fun k => k = kind.asStr

/-- Does an `allowedRoutes.kinds` entry name the kind this listener serves? -/
def isWantedKind (k : GatewayListenersAllowedRoutesKinds) (wanted : RouteKind) : Bool :=
  k.group.getD gwGroup = gwGroup && k.kind = wanted.asStr

/-- The route kinds a listener admits, and whether every requested kind is supported. -/
def listenerSupportedKinds (l : GatewayListeners) (wanted : RouteKind) : List String × Bool :=
  match l.allowedRoutes.bind GatewayListenersAllowedRoutes.kinds with
  | some (k :: ks) =>
      (if (k :: ks).any fun k => isWantedKind k wanted then [wanted.asStr] else [],
        (k :: ks).all fun k => isWantedKind k wanted)
  | _ => ([wanted.asStr], true)

/-- Fill in the listener's admitted route kinds. -/
def listenerKinds (info : ListenerInfo) (l : GatewayListeners) (protocol : ListenerProtocol) :
    ListenerInfo :=
  let kinds := listenerSupportedKinds l protocol.routeKind
  let info := { info with supportedKinds := kinds.1 }
  if kinds.2 then info
  else { info with resolvedRefs := false, resolvedRefsReason := "InvalidRouteKinds" }

/-- A listener the gateway does not serve, and why. -/
def ListenerInfo.refused (info : ListenerInfo) (reason : String) : ListenerInfo :=
  { info with
    accepted := false
    acceptedReason := reason
    programmed := false
    programmedReason := "Invalid" }

section Certificates

variable [External]

/-- What one certificateRef emits, whether it loaded, and whether it was not permitted. -/
structure CertificateRefOutcome where
  emissions : List Emission
  loaded : Bool := false
  refNotPermitted : Bool := false

/-- Load one certificateRef of an HTTPS listener. -/
def loadCertificateRef (inputs : Inputs) (index : Index) (gw : String × String)
    (listener : GatewayListeners) (bind : SocketAddr) (cref : GatewayListenersTlsCertificateRefs) :
    CertificateRefOutcome :=
  if cref.group.getD "" ≠ "" ∨ cref.kind.getD "Secret" ≠ "Secret" then
    { emissions := [.problem (.invalidCertificate cref.name "unsupported certificateRef kind")] }
  else
    let secretNs := cref.namespace_.getD gw.1
    if secretNs ≠ gw.1 ∧
        !referenceGranted inputs secretNs "" "Secret" cref.name gw.1 gwGroup "Gateway" then
      { emissions :=
          [.problem (.backendRefNotPermitted ("Secret " ++ slashed secretNs cref.name))]
        refNotPermitted := true }
    else
      match index.secrets[objectKey secretNs cref.name]? with
      | none => { emissions := [.problem (.secretNotFound cref.name)] }
      | some secret =>
          match extractCert secret bind listener.hostname.toList with
          | .ok cert =>
              { emissions := [.certificate ⟨cert, cref.name, .gateway gw.1 gw.2 listener.name⟩]
                loaded := true }
          | .error reason => { emissions := [.problem (.invalidCertificate cref.name reason)] }

/-- What loading a listener's certificates emits, whether one loaded, and the reason. -/
structure LoadedCerts where
  emissions : List Emission
  loaded : Bool
  reason : String

/-- Load an HTTPS listener's certificateRefs (Terminate only). -/
def loadListenerCerts (inputs : Inputs) (index : Index) (gw : String × String)
    (listener : GatewayListeners) (bind : SocketAddr) : LoadedCerts :=
  match listener.tls with
  | none => ⟨[.problem .tlsEntryWithoutSecret], false, "InvalidCertificateRef"⟩
  | some tls =>
      if tls.mode ≠ none ∧ tls.mode ≠ some .terminate then
        ⟨[.problem (.unsupportedTlsMode "Passthrough")], false, "InvalidCertificateRef"⟩
      else
        let outcomes := (tls.certificateRefs.getD []).map
          (loadCertificateRef inputs index gw listener bind)
        let loaded := outcomes.any CertificateRefOutcome.loaded
        ⟨outcomes.flatMap CertificateRefOutcome.emissions, loaded,
          if loaded then "ResolvedRefs"
          else if outcomes.any CertificateRefOutcome.refNotPermitted then "RefNotPermitted"
          else "InvalidCertificateRef"⟩

variable [CharTable]

/-- What a declared listener emits, and its status. -/
structure BuiltListener where
  emissions : List Emission
  info : ListenerInfo

/-- The status a listener starts from. -/
def ListenerInfo.declared (l : GatewayListeners) : ListenerInfo where
  name := l.name
  hostname := l.hostname
  protocol := ListenerProtocol.parse l.protocol
  port := l.port
  bind := none
  allowFrom := AllowedFrom.of l
  routable := (ListenerProtocol.parse l.protocol).isSome
  programmed := false
  programmedReason := "Programmed"
  accepted := true
  acceptedReason := "Accepted"
  resolvedRefs := true
  resolvedRefsReason := "ResolvedRefs"
  supportedKinds := []

/-- Why a routable listener's selector cannot be evaluated. -/
def selectorUnevaluable (l : GatewayListeners) : Option String :=
  match AllowedFrom.of l with
  | .selector (.unevaluable reason) =>
      if (ListenerProtocol.parse l.protocol).isSome then some reason else none
  | _ => none

/-- Why an HTTP(S) listener's own hostname cannot be served; the leading `*.` is left out
of the test. -/
def listenerHostnameRefusal (protocol : ListenerProtocol) (l : GatewayListeners) :
    Option (String × String) :=
  if protocol.l4.isSome then none
  else l.hostname.bind fun hostname =>
    (hostnameRefusal ((stripStart hostname "*.").getD hostname)).map fun reason =>
      (hostname, reason)

/-- Build the status of one declared listener. -/
def buildListener (cfg : BuildConfig) (inputs : Inputs) (index : Index) (gw : String × String)
    (l : GatewayListeners) : BuiltListener :=
  let unevaluable := selectorUnevaluable l
  let reported : List Emission :=
    unevaluable.toList.map fun reason => .problem (.namespaceSelectorInvalid l.name reason)
  let info :=
    if unevaluable.isSome then { ListenerInfo.declared l with programmedReason := "Invalid" }
    else ListenerInfo.declared l
  match ListenerProtocol.parse l.protocol with
  | none =>
      ⟨reported ++ [.problem (.unsupportedProtocol l.protocol)], info.refused "UnsupportedProtocol"⟩
  | some protocol =>
      match (toPort l.port).bind (cfg.exposed protocol.exposed) with
      | none =>
          ⟨reported ++ [.problem (.portNotExposed l.name l.port l.protocol
              (cfg.advertisedPorts protocol.exposed))],
            listenerKinds (info.refused "PortUnavailable") l protocol⟩
      | some entry =>
          let bind := BuildConfig.bindAddr entry.bind
          let info := { info with bind := some bind }
          match if protocol.l4.isSome then entry.owner.filter (· ≠ gw.1) else none with
          | some owner =>
              ⟨reported ++ [.problem (.listenerPortNotOwned l.name entry.port owner gw.1)],
                listenerKinds (info.refused "PortUnavailable") l protocol⟩
          | none =>
              match listenerHostnameRefusal protocol l with
              | some (hostname, reason) =>
                  ⟨reported ++ [.problem (.invalidHostname hostname reason (some l.name))],
                    listenerKinds (info.refused "UnsupportedValue") l protocol⟩
              | none =>
                  if unevaluable.isSome then ⟨reported, listenerKinds info l protocol⟩
                  else if protocol = .https then
                    let certs := loadListenerCerts inputs index gw l bind
                    let info :=
                      if certs.loaded then { info with programmed := true }
                      else { info with
                        programmedReason := "Invalid"
                        resolvedRefs := false
                        resolvedRefsReason := certs.reason }
                    ⟨reported ++ certs.emissions, listenerKinds info l protocol⟩
                  else ⟨reported, listenerKinds { info with programmed := true } l protocol⟩

/-! ## One Gateway -/

/-- What a Gateway emits, its listeners, and its own acceptance. -/
structure BuiltGateway where
  emissions : List Emission
  listeners : List ListenerInfo
  accepted : Bool
  acceptedReason : String

/-- A listener of a rejected Gateway. -/
def ListenerInfo.rejected (info : ListenerInfo) : ListenerInfo :=
  { info with
    accepted := false
    acceptedReason := if info.accepted then "Invalid" else info.acceptedReason
    programmed := false
    programmedReason := "Invalid" }

/-- How a report names unsupported parameters. -/
def parametersReference (ns : String) (p : GatewayInfrastructureParametersRef) : String :=
  (if p.group = "" then "core" else p.group) ++ "/" ++ p.kind ++ " " ++ ns ++ "/" ++ p.name

/-- The emissions that are not certificates. -/
def withoutCertificates (emissions : List Emission) : List Emission :=
  emissions.filter fun e => e.certificate?.isNone

/-- Build a Gateway of our class. -/
def buildOneGateway (cfg : BuildConfig) (inputs : Inputs) (index : Index) (gw : Gateway) :
    BuiltGateway :=
  let unsupported (present : Bool) (field : String) : List Emission :=
    if present then [.problem (.gatewaySpecUnsupported field)] else []
  let reported := unsupported gw.spec.hasTls "spec.tls" ++
    unsupported gw.spec.hasAllowedListeners "spec.allowedListeners"
  let built := gw.spec.listeners.map (buildListener cfg inputs index gw.metadata.nn)
  let emissions := reported ++ built.flatMap BuiltListener.emissions
  let listeners := built.map BuiltListener.info
  match gw.spec.parametersRef with
  | some parameters =>
      -- a rejected Gateway contributes neither routes nor certificates
      { emissions := withoutCertificates emissions ++
          [.problem (.gatewayParametersUnsupported
            (parametersReference gw.metadata.nn.1 parameters))]
        listeners := listeners.map ListenerInfo.rejected
        accepted := false
        acceptedReason := "InvalidParameters" }
  | none =>
      let accepted := listeners.any ListenerInfo.accepted
      { emissions := emissions
        listeners := listeners
        accepted := accepted
        acceptedReason :=
          if accepted && listeners.all ListenerInfo.accepted then "Accepted"
          else "ListenersNotValid" }

end Certificates

end Builder

end SozuGateway
