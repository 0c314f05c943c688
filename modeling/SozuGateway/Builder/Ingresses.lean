import SozuGateway.Builder.Services

/-!
# Ingresses

The walk over the Ingresses of `build` in `crates/builder/src/lib.rs`.

* `extractCert` — the certificate a TLS Secret holds.
* `isOurs` — the Ingress belongs to our IngressClass.
* `ingressTls`, `ingressPath`, `ingressEmissions` — what its TLS entries, its paths and
  the whole Ingress emit. The walk returns nothing where the source panics, on a
  configuration that exposes no HTTP or no HTTPS port.
-/

set_option autoImplicit false

namespace SozuGateway

namespace Builder

open Lib

variable [External]

/-! ## Certificates -/

/-- One inferred name, as Sōzu's validator normalises it. -/
def validateInferredName (name : String) : Except String String :=
  if 4096 < name.utf8ByteSize then .error "tls.crt contains an unsupported inferred SNI name"
  else if name = "*" then .ok name
  else
    match External.validateSniPattern name with
    | some valid => .ok valid
    | none => .error "tls.crt contains an unsupported inferred SNI name"

/-- The names a certificate declares, for a listener without a hostname. -/
def validateInferredCertificateNames (names : List String) : Except String (List String) :=
  if names = [] then .error "tls.crt has no DNS SAN or common name to infer for the listener"
  else names.mapM validateInferredName

/-- Put a text before an error. -/
def labelled {α : Type} (label : String) : Except String α → Except String α
  | .ok value => .ok value
  | .error reason => .error (label ++ reason)

/-- A value that has to be there. -/
def required {α : Type} (missing : String) : Option α → Except String α
  | some value => .ok value
  | none => .error missing

/-- The intermediates are certificates too. -/
def checkChain (chain : List String) : Except String Unit :=
  chain.zipIdx.forM fun (c, i) => do
    let label := "invalid chain certificate #" ++ natText (i + 1) ++ " in tls.crt: "
    let der ← labelled label (External.parsePem c)
    let _ ← labelled label (External.parseX509 der)

/-- The key belongs to the leaf. -/
def checkPair (leaf key : ByteArray) : Except String Unit :=
  match External.keysMatch leaf key with
  | .ok | .unknown => .ok ()
  | .mismatch => .error "tls.key does not match tls.crt"
  | .error text => .error ("tls.crt cannot be paired with tls.key: " ++ text)

/-- The names a certificate is loaded for: those given, or else those it declares. -/
def namesOrInferred (names inferred : List String) : Except String (List String) :=
  if names = [] then validateInferredCertificateNames inferred else .ok names

/-- Extract and validate leaf, chain and key from a TLS Secret. -/
def extractCert (secret : Secret) (listener : SocketAddr) (names : List String) :
    Except String FingerprintedCert := do
  let data ← required "secret has no data" secret.data
  let crt ← required "missing tls.crt" data["tls.crt"]?
  let key ← required "missing tls.key" data["tls.key"]?
  let crt ← required "tls.crt is not UTF-8" (String.fromUTF8? crt)
  let key ← required "tls.key is not UTF-8" (String.fromUTF8? key)
  match External.splitCertificateChain crt with
  | [] => throw "tls.crt contains no PEM blocks"
  | leaf :: chain =>
      let der ← labelled "invalid certificate in tls.crt: " (External.parsePem leaf)
      let inferred ← labelled "invalid certificate in tls.crt: " (External.parseX509 der)
      let names ← namesOrInferred names inferred
      checkChain chain
      let signingKey ← labelled "invalid private key in tls.key: " (External.loadPrivateKey key)
      checkPair der signingKey
      return {
        fingerprint := External.fingerprint der
        cert := { listener, certificate := leaf, chain, key, names } }

/-! ## One Ingress -/

/-- Does this Ingress belong to our IngressClass? -/
def isOurs (ingress : Ingress) (cfg : BuildConfig) : Bool :=
  match ingress.spec.bind IngressSpec.ingressClassName with
  | some cls => cls = cfg.className
  | none =>
      match ingress.metadata.annotations.bind fun a => a["kubernetes.io/ingress.class"]? with
      | some cls => cls = cfg.className
      | none => cfg.classIsDefault

/-- The automatic redirect to HTTPS, unless the Ingress opts out. -/
def sslRedirect (ingress : Ingress) : Bool :=
  match ingress.metadata.annotations.bind fun a => a["sozu.io/ssl-redirect"]? with
  | some v => !eqIgnoreAsciiCase (trimText v) "false"
  | none => true

/-- What a TLS entry emits, and the hosts it makes ready. -/
structure TlsEntry where
  emissions : List Emission := []
  hosts : List String := []

/-- Load the certificate of one TLS entry. -/
def ingressTls (cfg : BuildConfig) (index : Index) (nn : String × String) (tls : IngressTls) :
    Option TlsEntry :=
  let hosts := tls.hosts.getD []
  match tls.secretName with
  | none => some { emissions := [.problem .tlsEntryWithoutSecret] }
  | some secretName =>
      if hosts = [] then some { emissions := [.problem (.tlsEntryWithoutHosts secretName)] }
      else
        match index.secrets[objectKey nn.1 secretName]? with
        | none => some { emissions := [.problem (.secretNotFound secretName)] }
        | some secret =>
            -- HTTPS is always exposed, or the source panics
            (cfg.bindFor .https).map fun bind =>
              match extractCert secret bind hosts with
              | .ok cert =>
                  { emissions := [.certificate ⟨cert, secretName, .ingress nn.1 nn.2⟩]
                    hosts := hosts }
              | .error reason => { emissions := [.problem (.invalidCertificate secretName reason)] }

/-- The port an Ingress backend names, a number before a name. -/
def ingressPortRef (port : Option ServiceBackendPort) : Option PortRef :=
  port.bind fun p => (p.number.map PortRef.httpNumber).or (p.name.map PortRef.name)

/-- The redirect of a plain frontend to HTTPS. -/
def httpsRedirect : Redirect where
  scheme := some .https
  status := .movedPermanently
  hostname := none
  path := none
  port := none

/-- The frontends of one path: plain, and HTTPS when the host has a certificate. -/
def ingressFrontends (cfg : BuildConfig) (source : FrontendSource) (host : String)
    (path : PathMatch) (clusterId : String) (hostHasTls redirect : Bool) :
    Option (List Emission) := do
  let http ← cfg.bindFor .http
  let plain : Frontend := {
    hostname := host
    path := path
    method := none
    clusterId := some clusterId
    tls := false
    listener := http
    filters := if hostHasTls && redirect then { redirect := some httpsRedirect } else {}
    headerMatches := [] }
  if !hostHasTls then return [.frontend ⟨plain, source⟩]
  let https ← cfg.bindFor .https
  let secured : Frontend := { plain with tls := true, listener := https, filters := {} }
  return [.frontend ⟨plain, source⟩, .frontend ⟨secured, source⟩]

/-- What reporting a problem once emits, if there is one. -/
def warn (problem : Option Problem) : List Emission := problem.toList.map .problemOnce

section Walk

variable [CharTable]

/-- One path of a rule: its backend, then its frontends. -/
def ingressPath (cfg : BuildConfig) (index : Index) (nn : String × String) (host : String)
    (hostHasTls redirect : Bool) (path : HttpIngressPath) : Option (List Emission) :=
  match ingressPathMatch path.pathType path.path with
  | .error problem => some [.problem problem]
  | .ok pm =>
      match path.backend.service with
      | none => some [.problem .nonServiceBackend]
      | some svc =>
          match ingressPortRef svc.port with
          | none => some [.problem (.servicePortNotFound svc.name "<unspecified>")]
          | some portRef =>
              let protocol := HttpBackendProtocol.of index nn.1 svc.name portRef
              let route := addServiceRoute index nn.1 svc.name portRef
              let resolved := warn (protocol.problem svc.name) ++ route.emissions
              match route.result with
              | .error problem => some (resolved ++ [.problem problem])
              | .ok (clusterId, hasEndpoints) =>
                  (ingressFrontends cfg (.ingress nn.1 nn.2) host pm clusterId hostHasTls
                    redirect).map fun frontends =>
                      resolved ++ protocol.configure clusterId ++
                        (if hasEndpoints then [] else [.problem (.noReadyEndpoints svc.name)]) ++
                          frontends

/-- One rule: a host Sōzu cannot parse takes out all of it. -/
def ingressRule (cfg : BuildConfig) (index : Index) (nn : String × String)
    (tlsReadyHosts : List String) (redirect : Bool) (rule : IngressRule) :
    Option (List Emission) :=
  match rule.http with
  | none => some []
  | some paths =>
      -- a hostless rule becomes a catch-all frontend
      let host := rule.host.getD "*"
      match admitHostname host with
      | .error problem => some [.problemOnce problem]
      | .ok () =>
          (paths.mapM (ingressPath cfg index nn host (tlsCovers tlsReadyHosts host) redirect)).map
            List.flatten

/-- Everything one Ingress emits. -/
def ingressEmissions (cfg : BuildConfig) (index : Index) (ingress : Ingress) :
    Option (List Emission) :=
  match ingress.spec with
  | none => some []
  | some spec => do
      let nn := ingress.metadata.nn
      let entries ← (spec.tls.getD []).mapM (ingressTls cfg index nn)
      let rules ← (spec.rules.getD []).mapM
        (ingressRule cfg index nn (entries.flatMap TlsEntry.hosts) (sslRedirect ingress))
      return (if spec.defaultBackend.isSome then [.problem .defaultBackendUnsupported] else []) ++
        entries.flatMap TlsEntry.emissions ++ rules.flatten

end Walk

/-- Per-Ingress build result. -/
structure IngressResult where
  namespace_ : String
  name : String
  uid : Option String
  problems : List Problem
  deriving DecidableEq, Repr

/-- The result of an Ingress that emitted `emissions`. -/
def ingressResult (ingress : Ingress) (emissions : List Emission) : IngressResult where
  namespace_ := ingress.metadata.nn.1
  name := ingress.metadata.nn.2
  uid := objUid ingress.metadata
  problems := Emission.problems emissions

end Builder

end SozuGateway
