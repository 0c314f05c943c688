import SozuGateway.Builder.Listeners

/-!
# HTTPRoutes

HTTPRoutes attached to our Gateways, from `crates/builder/src/gateway.rs`.

* `parseFilters` — a rule's filters, and whether one of them takes the rule out.
* `headerMatches` — a match's header conditions, or why they cannot be programmed.
* `attachRule` — one rule on the listeners its route matches.
* `addressable`, `candidates`, `matching` — the listeners a parentRef addresses, those that
  admit the route, and those that share a hostname with it.
* `httpParent`, `httpRouteParents` — a route under one parentRef, and under all.
-/

set_option autoImplicit false

namespace SozuGateway

namespace Builder

open Lib

/-! ## Filters -/

/-- Filters read so far, and whether one of them makes the rule unprogrammable. -/
structure ParsedFilters where
  filters : FrontendFilters := {}
  unprogrammable : Bool := false
  emissions : List Emission := []

namespace ParsedFilters

/-- A filter that cannot be honoured. -/
def unsupported (parsed : ParsedFilters) (kind : String) : ParsedFilters :=
  { parsed with emissions := parsed.emissions ++ [.problem (.filterUnsupported kind)] }

/-- A filter that takes the whole rule out. -/
def refuse (parsed : ParsedFilters) (kind : String) : ParsedFilters :=
  { parsed.unsupported kind with unprogrammable := true }

/-- One more header edit. -/
def edit (parsed : ParsedFilters) (mods : List HeaderMod) : ParsedFilters :=
  { parsed with filters := { parsed.filters with headerMods := parsed.filters.headerMods ++ mods } }

/-- The name of the filter that edits one side. -/
def modifierName : HeaderTarget → String
  | .request => "RequestHeaderModifier"
  | .response => "ResponseHeaderModifier"

/-- Append a non-empty header value, removing previous occurrences for `set`. -/
def pushHeaderValue (on : HeaderTarget) (replace : Bool) (parsed : ParsedFilters)
    (h : HeaderEdit) : ParsedFilters :=
  if h.value = "" then
    parsed.refuse (modifierName on ++ "." ++ (if replace then "set" else "add") ++ " " ++ h.name ++
      " with an empty value")
  else
    parsed.edit ((if replace then [⟨on, h.name, none⟩] else []) ++ [⟨on, h.name, some h.value⟩])

/-- A header modifier: set, then add, then remove. -/
def modifyHeaders (on : HeaderTarget) (parsed : ParsedFilters) (m : Option HeaderModifier) :
    ParsedFilters :=
  match m with
  | none => parsed
  | some m =>
      let set := (m.set.getD []).foldl (pushHeaderValue on true) parsed
      let added := (m.add.getD []).foldl (pushHeaderValue on false) set
      added.edit ((m.remove.getD []).map fun key => ⟨on, key, none⟩)

/-- The scheme a redirect names, when this build knows it. -/
def redirectScheme : Option RequestRedirectScheme → Option Scheme
  | some .http => some .http
  | some .https => some .https
  | some .unknown | none => none

/-- The status a redirect asks for, when Sōzu can answer with it. -/
def redirectStatus (code : Option Int64) : Option RedirectStatus :=
  if code = none ∨ code = some 302 then some .found
  else if code = some 301 then some .movedPermanently
  else if code = some 308 then some .permanentRedirect
  else none

/-- The path a redirect asks for, or why it is refused. -/
def redirectPath : Option RequestRedirectPath → Except String (Option String)
  | none => .ok none
  | some ⟨.replaceFullPath, some v⟩ => .ok (some v)
  | some ⟨.replaceFullPath, none⟩ => .error "RequestRedirect ReplaceFullPath with no value"
  | some _ => .error "RequestRedirect path.type ReplacePrefixMatch"

/-- The port a redirect asks for, unless its scheme implies it. -/
def redirectPort (scheme : Option Scheme) : Option Int32 → Except String (Option UInt16)
  | none => .ok none
  | some p =>
      match toPort p with
      | none => .error "RequestRedirect port out of range"
      | some p =>
          if (p = 443 ∧ scheme = some .https) ∨ (p = 80 ∧ scheme = some .http) then .ok none
          else .ok (some p)

/-- An `i64` in decimal. -/
def int64Text (n : Int64) : String :=
  if n.toInt < 0 then "-" ++ natText n.toInt.natAbs else natText n.toInt.natAbs

/-- The redirect a filter asks for, or why it is refused. -/
def redirectOf (r : RequestRedirect) : Except String Redirect :=
  let scheme := redirectScheme r.scheme
  match redirectStatus r.statusCode with
  | none => .error ("RequestRedirect statusCode " ++ int64Text (r.statusCode.getD 0))
  | some status =>
      match redirectPath r.path with
      | .error kind => .error kind
      | .ok path =>
          if (r.hostname.toList ++ path.toList).any fun v => v.toList.contains '$' then
            .error ("RequestRedirect hostname/path containing '$' (Sōzu reads it as a rewrite " ++
              "template and rejects the frontend)")
          else
            match redirectPort scheme r.port with
            | .error kind => .error kind
            | .ok port =>
                if scheme = none ∧ r.hostname = none ∧ path = none ∧ port = none then
                  .error "RequestRedirect that changes nothing (it would redirect to itself)"
                else .ok { scheme, status, hostname := r.hostname, path, port }

/-- Read one filter. -/
def step (parsed : ParsedFilters) (filter : HttpRouteRulesFilters) : ParsedFilters :=
  match filter.type with
  | .requestHeaderModifier => parsed.modifyHeaders .request filter.requestHeaderModifier
  | .responseHeaderModifier => parsed.modifyHeaders .response filter.responseHeaderModifier
  | .requestRedirect =>
      match filter.requestRedirect with
      | none => parsed
      | some r =>
          match redirectOf r with
          | .error kind => parsed.refuse kind
          | .ok redirect =>
              { parsed with filters := { parsed.filters with redirect := some redirect } }
  | .urlRewrite =>
      if parsed.filters.redirect.isSome then
        parsed.refuse "URLRewrite combined with RequestRedirect"
      else parsed.unsupported "URLRewrite"
  | .cors => parsed.refuse "CORS"
  | .requestMirror => parsed.unsupported "RequestMirror"
  | .extensionRef => parsed.unsupported "ExtensionRef"
  | .unknown =>
      parsed.refuse ("a filter type this controller build does not know (its Gateway API CRDs " ++
        "are newer than the types it was generated against)")

end ParsedFilters

/-- Parse HTTPRoute filters into IR filters. -/
def parseFilters (filters : List HttpRouteRulesFilters) : ParsedFilters :=
  filters.foldl ParsedFilters.step {}

/-! ## Matches -/

/-- Why a match's header conditions cannot be programmed. -/
structure HeaderMatchRefusal where
  problem : Problem
  /-- The match type is one this build does not know. -/
  unsupportedType : Bool

/-- The wire spelling of an HTTP method. -/
def methodString : HttpRouteRulesMatchesMethod → String
  | .get => "GET"
  | .head => "HEAD"
  | .post => "POST"
  | .put => "PUT"
  | .delete => "DELETE"
  | .connect => "CONNECT"
  | .options => "OPTIONS"
  | .trace => "TRACE"
  | .patch => "PATCH"
  | .unknown => "Unknown"

section Rules

variable [External]

/-- What one header condition tests, when this build knows its type. -/
def headerKind (header : HttpRouteRulesMatchesHeaders) : Option HeaderMatchKind :=
  match header.type with
  | none | some .exact => some (.exact header.value)
  | some .regularExpression => some (.regex header.value)
  | some .unknown => none

/-- A blank or a tab at either end of a text. -/
def blankEnded (value : String) : Bool :=
  let isBlank (c : Option Char) : Bool := c = some ' ' || c = some '\t'
  isBlank value.toList.head? || isBlank value.toList.getLast?

/-- Why the value of a header condition cannot be programmed, if it cannot. -/
def headerValueRefusal : HeaderMatchKind → Option String
  | .exact value =>
      if value = "" then some "an exact value cannot be empty"
      else if blankEnded value then
        some ("Sōzu trims the surrounding whitespace of a request value, so an exact value " ++
          "starting or ending with a space or a tab never matches")
      else none
  | .regex pattern =>
      (sozuRegexRefusal pattern).map fun reason =>
        "not a regular expression Sōzu can compile: " ++ reason

/-- One header condition, or why it refuses the match. -/
def headerMatch (sozuHeaders : SozuRequestHeaders) (header : HttpRouteRulesMatchesHeaders) :
    Except HeaderMatchRefusal HeaderMatch :=
  let refuse (reason : String) (unsupportedType : Bool) : HeaderMatchRefusal :=
    ⟨.headerMatchRefused header.name reason, unsupportedType⟩
  match headerKind header with
  | none =>
      .error (refuse "the match type is not supported (Exact and RegularExpression are)" true)
  | some kind =>
      match External.headerPredicateError header.name kind with
      | some reason => .error (refuse ("Sōzu refuses it: " ++ reason) false)
      | none =>
          match sozuHeaders.setBeforeRouting (toAsciiLowercase header.name) with
          | some reason => .error (refuse reason false)
          | none =>
              match headerValueRefusal kind with
              | some reason => .error (refuse reason false)
              | none => .ok ⟨toAsciiLowercase header.name, kind⟩

/-- The entries whose name no earlier entry spells, in any case. -/
def firstOfEachName : List String → List HttpRouteRulesMatchesHeaders →
    List HttpRouteRulesMatchesHeaders
  | _, [] => []
  | seen, header :: rest =>
      let name := toAsciiLowercase header.name
      if name ∈ seen then firstOfEachName seen rest
      else header :: firstOfEachName (name :: seen) rest

/-- Map a match's header conditions onto Sōzu header predicates, or refuse the match. -/
def headerMatches (headers : List HttpRouteRulesMatchesHeaders)
    (sozuHeaders : SozuRequestHeaders) : Except HeaderMatchRefusal (List HeaderMatch) :=
  match (firstOfEachName [] headers).mapM (headerMatch sozuHeaders) with
  | .error refusal => .error refusal
  | .ok matched => .ok (HeaderMatch.canonical matched)

/-- What a rule's match is reduced to. -/
structure RouteMatch where
  path : PathMatch
  method : Option String
  headerMatches : List HeaderMatch
  deriving DecidableEq, Repr

/-- What one match emits, and what it is reduced to unless it is skipped. -/
structure ParsedMatch where
  emissions : List Emission := []
  routeMatch : Option RouteMatch := none

/-- Reduce one match of a rule. -/
def parseMatch (sozuHeaders : SozuRequestHeaders) (m : HttpRouteRulesMatches) : ParsedMatch :=
  if 0 < m.queryParams.getD 0 then { emissions := [.problemOnce .queryMatchUnsupported] }
  else
    match headerMatches (m.headers.getD []) sozuHeaders with
    | .error refusal =>
        { emissions :=
            (if refusal.unsupportedType then [.override "UnsupportedValue"] else []) ++
              [.problemOnce refusal.problem] }
    | .ok headers =>
        match httpPathMatch m.path with
        | .error problem => { emissions := [.problem problem] }
        | .ok path => { routeMatch := some ⟨path, m.method.map methodString, headers⟩ }

/-- The matches of a rule; none at all match everything. -/
def parseMatches (sozuHeaders : SozuRequestHeaders) (rule : HttpRouteRules) : List ParsedMatch :=
  match rule.matches_ with
  | none | some [] => [{ routeMatch := some ⟨.pathPrefix "/", none, []⟩ }]
  | some ms => ms.map (parseMatch sozuHeaders)

/-! ## One rule -/

/-- What is the same for every frontend of a rule. -/
structure RuleTarget where
  source : FrontendSource
  clusterId : Option String
  filters : FrontendFilters

/-- The frontends of one match on one listener. -/
def listenerFrontends (target : RuleTarget) (routeHostnames : Option (List String))
    (routeMatch : RouteMatch) (l : ListenerInfo) : List Emission :=
  -- a bound but unprogrammed listener carries no frontend
  if !l.programmed then []
  else
    match l.bind, l.protocol with
    | some bind, some protocol =>
        (effectiveHostnames routeHostnames l.hostname).map fun hostname =>
          match admitHostname hostname with
          | .error problem => .problemOnce problem
          | .ok () =>
              .frontend {
                frontend := {
                  hostname := hostname
                  path := routeMatch.path
                  method := routeMatch.method
                  clusterId := target.clusterId
                  tls := protocol = .https
                  listener := bind
                  filters := target.filters
                  headerMatches := routeMatch.headerMatches }
                source := target.source }
    | _, _ => []

/-- A reference that does not resolve. -/
def failRef (problem : Problem) (reason : String) : List Emission :=
  [.problem problem, .failRef reason]

/-- What resolving a rule's backend emits, and its cluster unless the rule is skipped: no
cluster for a rule that only redirects. -/
structure RuleBackend where
  emissions : List Emission
  clusterId : Option (Option String) := none

variable [CharTable]

/-- The Service a single backendRef names. -/
def httpBackendRef (inputs : Inputs) (index : Index) (routeNs : String)
    (br : HttpRouteRulesBackendRefs) : RuleBackend :=
  if br.group.getD "" ≠ "" ∨ br.kind.getD "Service" ≠ "Service" then
    { emissions := failRef .nonServiceBackend "InvalidKind" }
  else if br.weight = some 0 then
    { emissions := failRef (.zeroWeightBackendUnsupported br.name) "BackendNotFound" }
  else
    let filtered : List Emission :=
      if 0 < br.filters.getD 0 then
        [.problem (.filterUnsupported ("filters on backendRef " ++ br.name))]
      else []
    let backendNs := br.namespace_.getD routeNs
    if backendNs ≠ routeNs ∧
        !referenceGranted inputs backendNs "" "Service" br.name routeNs gwGroup "HTTPRoute" then
      { emissions := filtered ++
          failRef (.backendRefNotPermitted ("Service " ++ slashed backendNs br.name))
            "RefNotPermitted" }
    else
      match br.port with
      | none =>
          { emissions := filtered ++
              failRef (.servicePortNotFound br.name "<unspecified>") "BackendNotFound" }
      | some port =>
          -- the TCP entry when the Service also exposes this number over UDP
          let portRef := PortRef.httpNumber port
          let protocol := HttpBackendProtocol.of index backendNs br.name portRef
          let route := addServiceRoute index backendNs br.name portRef
          match route.result with
          | .error problem =>
              { emissions := filtered ++ route.emissions ++ failRef problem "BackendNotFound" }
          | .ok (cid, hasEndpoints) =>
              { emissions := filtered ++ route.emissions ++ protocol.configure cid ++
                  (match protocol.problem br.name with
                  | some problem => [.problemOnce problem, .failRef "UnsupportedProtocol"]
                  | none => []) ++
                  (if hasEndpoints then [] else [.problem (.noReadyEndpoints br.name)])
                clusterId := some (some cid) }

/-- The backend of a rule: exactly one Service, or none for a redirect. -/
def ruleBackend (inputs : Inputs) (index : Index) (routeNs : String) (rule : HttpRouteRules)
    (filters : FrontendFilters) : RuleBackend :=
  match rule.backendRefs.getD [] with
  | [] =>
      if filters.redirect.isSome then { emissions := [], clusterId := some none }
      else { emissions := failRef (.noReadyEndpoints "<none>") "BackendNotFound" }
  | [br] => httpBackendRef inputs index routeNs br
  | _ => { emissions := failRef .weightedBackendsUnsupported "BackendNotFound" }

/-- Resolve one HTTPRoute rule into frontends on the listeners its route matches. -/
def attachRule (inputs : Inputs) (index : Index) (sozuHeaders : SozuRequestHeaders)
    (routeNs : String) (routeHostnames : Option (List String)) (listeners : List ListenerInfo)
    (source : FrontendSource) (rule : HttpRouteRules) : List Emission :=
  let parsed := parseFilters (rule.filters.getD [])
  if parsed.unprogrammable then parsed.emissions ++ [.override "UnsupportedValue"]
  else
    let timeouts : List Emission :=
      if rule.timeouts.any fun t => t.request.isSome || t.backendRequest.isSome then
        [.problem .timeoutsUnsupported]
      else []
    let backend := ruleBackend inputs index routeNs rule parsed.filters
    parsed.emissions ++ timeouts ++ backend.emissions ++
      match backend.clusterId with
      | none => []
      | some clusterId =>
          let matched := parseMatches sozuHeaders rule
          matched.flatMap ParsedMatch.emissions ++
            (matched.filterMap ParsedMatch.routeMatch).flatMap fun routeMatch =>
              listeners.flatMap (listenerFrontends ⟨source, clusterId, parsed.filters⟩
                routeHostnames routeMatch)

end Rules

/-! ## Attachment -/

/-- Status of one route for a single parentRef. -/
structure RouteParentResult where
  gatewayNamespace : String
  gatewayName : String
  sectionName : Option String
  port : Option Int32
  accepted : Bool
  acceptedReason : String
  resolvedRefs : Bool
  resolvedRefsReason : String
  problems : List Problem
  deriving DecidableEq, Repr

/-- Status of one route object across all of its parents. -/
structure RouteResult where
  kind : RouteKind
  namespace_ : String
  name : String
  uid : Option String
  parents : List RouteParentResult
  deriving DecidableEq, Repr

/-- The listeners of our Gateways. -/
abbrev GatewayListenersMap := BTreeMap ObjectKey (List ListenerInfo)

/-- A parentRef that names a Gateway. -/
def ParentRef.isGateway (pref : ParentRef) : Bool :=
  pref.group.getD gwGroup = gwGroup && pref.kind.getD "Gateway" = "Gateway"

/-- The listeners a parentRef addresses, by section name and port. -/
def addressable (pref : ParentRef) (listeners : List ListenerInfo) : List ListenerInfo :=
  listeners.filter fun l =>
    l.routable && pref.sectionName.all (fun sn => sn = l.name) && pref.port.all fun p => p = l.port

/-- The accepted ones that admit the route's kind and namespace. -/
def candidates (index : Index) (kind : RouteKind) (routeNs gwNs : String)
    (addressed : List ListenerInfo) : List ListenerInfo :=
  addressed.filter fun l =>
    l.accepted && l.admitsKind kind && l.allowFrom.admits routeNs gwNs index

/-- The candidates whose hostname a route's hostnames intersect. -/
def matching (routeHostnames : Option (List String)) (admitted : List ListenerInfo) :
    List ListenerInfo :=
  admitted.filter fun l => !(effectiveHostnames routeHostnames l.hostname).isEmpty

/-- What a route under one parentRef emits, its result, and the listeners it is attached
to. -/
structure BoundParent where
  emissions : List Emission
  result : RouteParentResult
  attached : List String

/-- The result of a route under a parentRef, from its acceptance and what it emitted. -/
def parentResult (pref : ParentRef) (gwNs : String) (accepted : Bool) (acceptedReason : String)
    (emissions : List Emission) : RouteParentResult where
  gatewayNamespace := gwNs
  gatewayName := pref.name
  sectionName := pref.sectionName
  port := pref.port
  accepted := accepted
  acceptedReason := acceptedReason
  resolvedRefs := (Emission.failedRef emissions).isNone
  resolvedRefsReason := (Emission.failedRef emissions).getD "ResolvedRefs"
  problems := Emission.problems emissions

/-- A parentRef that binds to no listener. -/
def unbound (pref : ParentRef) (gwNs reason : String) : BoundParent :=
  ⟨[], parentResult pref gwNs false reason [], []⟩

section Attachment

variable [External] [CharTable]

/-- An HTTPRoute under one parentRef, unless it names none of our Gateways. -/
def httpParent (cfg : BuildConfig) (inputs : Inputs) (index : Index)
    (gwListeners : GatewayListenersMap) (route : HttpRoute) (pref : ParentRef) :
    Option BoundParent :=
  if !pref.isGateway then none
  else
    let nn := route.metadata.nn
    let gwNs := pref.namespace_.getD nn.1
    gwListeners[objectKey gwNs pref.name]?.map fun listeners =>
      let addressed := addressable pref listeners
      let admitted := candidates index .httpRoute nn.1 gwNs addressed
      let matched := matching route.spec.hostnames admitted
      if addressed = [] then unbound pref gwNs "NoMatchingParent"
      else if admitted = [] then unbound pref gwNs "NotAllowedByListeners"
      else if matched = [] then unbound pref gwNs "NoMatchingListenerHostname"
      else
        let source : FrontendSource :=
          .httpRoute nn.1 nn.2 gwNs pref.name pref.sectionName pref.port
        let emissions := (route.spec.rules.getD []).flatMap
          (attachRule inputs index cfg.sozuRequestHeaders nn.1 route.spec.hostnames matched source)
        let refused := Emission.overridden emissions
        { emissions := emissions
          result := parentResult pref gwNs refused.isNone (refused.getD "Accepted") emissions
          attached := if refused.isNone then matched.map ListenerInfo.name else [] }

/-- An HTTPRoute under all its parentRefs. -/
def httpRouteParents (cfg : BuildConfig) (inputs : Inputs) (index : Index)
    (gwListeners : GatewayListenersMap) (route : HttpRoute) : List BoundParent :=
  (route.spec.parentRefs.getD []).filterMap (httpParent cfg inputs index gwListeners route)

end Attachment

/-- Where an HTTPRoute goes among the others: oldest first, then by `namespace/name`. -/
def httpRouteOrder (route : HttpRoute) : OwnerClaim :=
  ownerClaim route.metadata.nn.1 route.metadata.nn.2 (creationKey route.metadata)

/-- The HTTPRoutes, oldest first. -/
def orderedHttpRoutes (routes : List HttpRoute) : List HttpRoute := sortBy httpRouteOrder routes

end Builder

end SozuGateway
