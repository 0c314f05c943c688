import SozuGateway.Builder.Services

/-!
# Problem texts

`Display` of `Problem` in `crates/builder/src/lib.rs`: the one-liner a condition message
or an Event shows.

* `clip` — a text cut at a number of bytes.
* `claimedNamesMessage` — the text of lost SNI names, within its budget.
* `Problem.display` — the text of a problem.
-/

set_option autoImplicit false

namespace SozuGateway

namespace Builder

open Lib

/-! ## Clipping -/

/-- The longest head of at most `n` bytes. -/
def takeBytes : ℕ → List Char → List Char
  | _, [] => []
  | n, c :: rest => if c.utf8Size ≤ n then c :: takeBytes (n - c.utf8Size) rest else []

/-- A text cut to at most `max` bytes at a character boundary, the cut marked. -/
def clip (s : String) (max : ℕ) : String :=
  if s.utf8ByteSize ≤ max then s
  else String.ofList (takeBytes (max - "…".utf8ByteSize) s.toList) ++ "…"

section Texts

variable [CharTable]

/-! ## Lost names -/

/-- A Secret name, a claimed name or an owner takes at most this much. -/
def claimedPiece : ℕ := 200

/-- Names listed at most. -/
def claimedShown : ℕ := 3

/-- The most the message takes. -/
def claimedNamesMessageBudget : ℕ := 900

/-- One lost name with who keeps it. -/
def claimant (c : ClaimedName) : String :=
  quoted (clip c.name claimedPiece) ++ " (" ++ c.ownerKind ++ " " ++
    clip c.owner claimedPiece ++ ")"

/-- List the names while they fit, `tail` bytes being kept for the count; `shown` are
listed already. -/
def listClaimed (tail : ℕ) : String → ℕ → List ClaimedName → String × ℕ
  | message, shown, [] => (message, shown)
  | message, shown, c :: rest =>
      let item := (if shown = 0 then "" else ", ") ++ claimant c
      if 0 < shown ∧
          claimedNamesMessageBudget < message.utf8ByteSize + item.utf8ByteSize + tail then
        (message, shown)
      else listClaimed tail (message ++ item) (shown + 1) rest

/-- The count of the names that are not listed. -/
def andMore (n : ℕ) : String := " and " ++ natText n ++ " more"

/-- The text of lost SNI names. -/
def claimedNamesMessage (secret : String) (names : List ClaimedName) : String :=
  let secret := quoted (clip secret claimedPiece)
  let message :=
    match names with
    | [one] =>
        "SNI name " ++ quoted (clip one.name claimedPiece) ++ " is claimed at this listener by " ++
          one.ownerKind ++ " " ++ clip one.owner claimedPiece ++
          ", created earlier (or first by " ++
          "namespace/name); the certificate from Secret " ++ secret ++ " does not serve it"
    | _ =>
        let listed := listClaimed (andMore names.length).utf8ByteSize
          (natText names.length ++ " SNI names are claimed at this listener by objects created " ++
            "earlier (or first by namespace/name); the certificate from Secret " ++ secret ++
            " does not serve them: ") 0 (names.take claimedShown)
        listed.1 ++ if listed.2 < names.length then andMore (names.length - listed.2) else ""
  clip message claimedNamesMessageBudget

/-! ## Problems -/

/-- `Debug` of a list of ports. -/
def portsText (ports : List UInt16) : String :=
  "[" ++ ", ".intercalate (ports.map fun p => natText p.toNat) ++ "]"

/-- The one-liner of a problem. -/
def Problem.display : Problem → String
  | secretNotFound secret => "TLS Secret " ++ quoted secret ++ " not found"
  | tlsEntryWithoutSecret => "Ingress TLS entry has no secretName; its hosts stay plain HTTP"
  | tlsEntryWithoutHosts secret =>
      "Ingress TLS entry for Secret " ++ quoted secret ++
        " lists no hosts; the certificate was skipped and the rule hosts stay plain HTTP"
  | invalidCertificate secret reason =>
      "TLS Secret " ++ quoted secret ++ " holds unusable material: " ++ reason
  | certificateNameClaimed secret _ names => claimedNamesMessage secret names
  | nonServiceBackend => "only Service backends are supported"
  | defaultBackendUnsupported =>
      "spec.defaultBackend is not supported and was ignored (rules still apply)"
  | serviceNotFound service => "backend Service " ++ quoted service ++ " not found"
  | servicePortNotFound service port =>
      "port " ++ quoted port ++ " not found on Service " ++ quoted service
  | noReadyEndpoints service => "Service " ++ quoted service ++ " has no ready endpoints"
  | fqdnEndpointsUnsupported service =>
      "Service " ++ quoted service ++ " has an EndpointSlice of addressType \"FQDN\", which is " ++
        "not supported (backends must be pod IPs); the slice was ignored"
  | invalidHealthCheck service reason =>
      "Service " ++ quoted service ++ " asks for a health check Sōzu cannot run (" ++ reason ++
        "); its backends are not health-checked"
  | healthCheckNotApplied service reason =>
      "Service " ++ quoted service ++ " gets no health check: " ++ reason
  | routeCollision hostname path winner false =>
      "host+path " ++ hostname ++ path ++ " is already served by " ++ winner ++
        "; this route was dropped"
  | routeCollision hostname path winner true =>
      "the match on host+path " ++ hostname ++ path ++
        " shares Sōzu's route key with the frontend of " ++ winner ++ " and was dropped"
  | invalidPathRegex path reason =>
      "path " ++ quoted path ++ " is not a regular expression Sōzu can compile (" ++ reason ++
        "); no route was programmed for it"
  | invalidHostname hostname reason none =>
      "hostname " ++ quoted hostname ++ " cannot be parsed by Sōzu (" ++ reason ++
        "); no route was programmed for it"
  | invalidHostname hostname reason (some listener) =>
      "listener " ++ listener ++ " hostname " ++ quoted hostname ++
        " cannot be parsed by Sōzu (" ++ reason ++ "); the listener serves no routes"
  | unsupportedTlsMode mode => "TLS mode " ++ quoted mode ++ " is not supported (Terminate only)"
  | unsupportedProtocol protocol =>
      "listener protocol " ++ quoted protocol ++
        " is not supported (HTTP, HTTPS, TCP and UDP are)"
  | unsupportedAppProtocol service port appProtocol =>
      "Service " ++ quoted service ++ " port " ++ intText port ++ " declares appProtocol " ++
        quoted appProtocol ++ ", which needs TLS to the backend, and Sōzu cannot open TLS to a " ++
        "backend; the route still sends it cleartext HTTP/1.1"
  | portNotExposed listener declared protocol exposed =>
      "listener " ++ listener ++ " declares port " ++ intText declared ++
        ", which this gateway does not expose for " ++ protocol ++ "; exposed: " ++
        portsText exposed
  | listenerPortNotOwned listener port owner claimedBy =>
      "listener " ++ listener ++ " declares L4 port " ++ natText port.toNat ++
        ", which is reserved for namespace " ++ owner ++ "; this Gateway is in " ++ claimedBy
  | l4RouteConflict port protocol winner =>
      protocol ++ " port " ++ natText port.toNat ++ " is already claimed by route " ++ winner ++
        " (older, or first by name); this route remains accepted but does not receive traffic"
  | weightedBackendsUnsupported => "multiple backendRefs (weighted split) are not supported"
  | zeroWeightBackendUnsupported service =>
      "backendRef " ++ quoted service ++ " with weight 0 cannot be honoured (Sōzu cannot drain " ++
        "by weight); the rule was skipped"
  | timeoutsUnsupported => "rule.timeouts has no Sōzu equivalent; the rule routes without it"
  | queryMatchUnsupported =>
      "query parameter matches are not supported by Sōzu; the match was skipped"
  | headerMatchRefused header reason =>
      "header match on " ++ quoted header ++ " cannot be honoured (" ++ reason ++
        "); the match was skipped"
  | headerMatchPrecedenceLimit hostname limit =>
      "keeping Gateway API precedence for a header match on " ++ hostname ++
        " would take more than " ++ natText limit ++
        " copies of the more specific routes there; the match was skipped on that hostname"
  | headerMatchLimit hostname limit =>
      "more than " ++ natText limit ++ " header matches target " ++ hostname ++
        "; past the first " ++ natText limit ++
        " (oldest route first, then namespace/name, then " ++
        "rule order) they are skipped on that hostname, and this route's match is among them"
  | headerMatchOutranksRoute hostname headerMatch route none reason =>
      "the header match " ++ headerMatch ++ " on " ++ hostname ++
        " would outrank the more specific route " ++ route ++ " (" ++ reason ++
        "); the match was skipped on that hostname"
  | headerMatchOutranksRoute hostname headerMatch route (some copied) reason =>
      "the header match " ++ headerMatch ++ " on " ++ hostname ++
        " needs the more specific route " ++ copied ++ " copied above it, and a request that " ++
        "copy and a copy of the more specific route " ++ route ++ " can both match goes to the " ++
        "latter under Gateway API precedence, which Sōzu would not do in every order it may " ++
        "hold the two (" ++ reason ++ "); the match was skipped on that hostname"
  | headerMatchOverlap hostname headerMatch route none reason =>
      "a request the header match " ++ headerMatch ++ " and " ++ route ++ " on " ++ hostname ++
        " can both match goes to the latter under Gateway API precedence, and Sōzu would not " ++
        "serve it there in every order it may hold the two (" ++ reason ++
        "); the match was skipped on that hostname"
  | headerMatchOverlap hostname headerMatch route (some copied) reason =>
      "the header match " ++ headerMatch ++ " on " ++ hostname ++
        " needs the more specific route " ++ copied ++ " copied above it, and a request that " ++
        "copy and " ++ route ++ " can both match goes to the latter under Gateway API " ++
        "precedence, which Sōzu would not do in every order it may hold the two (" ++ reason ++
        "); the match was skipped on that hostname"
  | headerMatchCopyKeyTaken hostname headerMatch route holder =>
      "keeping Gateway API precedence for the header match " ++ headerMatch ++ " on " ++
        hostname ++ " needs the more specific route " ++ route ++ " copied above it, and " ++
        holder ++ " already holds the Sōzu route key that copy needs with a different match; " ++
        "the match was skipped on that hostname"
  | namespaceSelectorInvalid listener reason =>
      "listener " ++ quoted listener ++ " has an allowedRoutes.namespaces.selector this " ++
        "controller cannot evaluate (" ++ reason ++
        "); the listener admits no routes (fail closed)"
  | filterUnsupported kind => "unsupported filter: " ++ kind
  | backendRefNotPermitted reference =>
      "cross-namespace reference " ++ reference ++
        " is not permitted (no ReferenceGrant covers it)"
  | gatewaySpecUnsupported field =>
      "Gateway field " ++ field ++ " is not honoured by this controller and is ignored"
  | gatewayParametersUnsupported reference =>
      "Gateway infrastructure.parametersRef " ++ reference ++
        " is not supported by this controller; the Gateway cannot be configured"

end Texts

end Builder

end SozuGateway
