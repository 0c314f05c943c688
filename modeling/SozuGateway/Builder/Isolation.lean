import SozuGateway.Builder.Certified
import SozuGateway.Builder.ClusterIds

/-!
# Namespaces are isolated

Whose traffic, sockets and certificates a build programs, in the terms of the objects it
was given.

* `Opened`, `IsClusterOf`, `ReadFromSecret` — a grant, a Service's clusters and a
  certificate's Secret, as declared.
* `Selects` — the labels a selector selects, as Kubernetes reads it.
* `RoutedThrough` — a route under one of our Gateways, through a listener that allows it.
* `OfIngress`, `OfHttpRoute`, `OfL4Route` — a backend in the object's own namespace, or one it may
  refer to.
* `ReservedTo` — a layer-4 socket only one namespace may listen on.
* `namespaces_isolated` — the isolation of a whole build.
-/

set_option autoImplicit false

namespace SozuGateway

namespace Builder

open Lib

/-! ## What the objects declare -/

/-- A ReferenceGrant of a namespace opens one of its objects to the objects of a kind and
namespace. -/
def Opened (inputs : Inputs) (toNs toKind toName fromNs fromKind : String) : Prop :=
  ∃ grant ∈ inputs.referenceGrants, grant.metadata.nn.1 = toNs ∧
    (∃ f ∈ grant.from_, f.group = gwGroup ∧ f.kind = fromKind ∧ f.namespace_ = fromNs) ∧
      ∃ t ∈ grant.to_, t.group = "" ∧ t.kind = toKind ∧
        ∀ name, t.name = some name → name = toName

theorem opened_iff {inputs : Inputs} {toNs toKind toName fromNs fromKind : String} :
    referenceGranted inputs toNs "" toKind toName fromNs gwGroup fromKind = true ↔
      Opened inputs toNs toKind toName fromNs fromKind := by
  simp only [referenceGranted, ReferenceGrant.allows, Opened, List.any_eq_true,
    Bool.and_eq_true, decide_eq_true_eq, Option.all_eq_true_iff_get, and_assoc]
  refine exists_congr fun grant => and_congr_right fun _ => and_congr_right fun _ =>
    and_congr_right fun _ => exists_congr fun t => and_congr_right fun _ =>
      and_congr_right fun _ => and_congr_right fun _ => ?_
  cases t.name with
  | none => simp
  | some name => simp

/-- The cluster is that of a port of the Service. -/
def IsClusterOf (inputs : Inputs) (namespace_ service clusterId : String) : Prop :=
  ∃ svc ∈ inputs.services, svc.metadata.nn = (namespace_, service) ∧
    ∃ port ∈ svc.ports.getD [],
      clusterId = clusterIdOf (svc.ports.getD []) namespace_ service port

/-- **Without dots in their names, two Services share no cluster.** -/
theorem IsClusterOf.unique {inputs : Inputs} (hdotless : Dotless inputs)
    {ns ns' service service' clusterId : String} (h : IsClusterOf inputs ns service clusterId)
    (h' : IsClusterOf inputs ns' service' clusterId) : ns = ns' ∧ service = service' := by
  obtain ⟨svc, hsvc, hnn, port, -, hid⟩ := h
  obtain ⟨svc', hsvc', hnn', port', -, hid'⟩ := h'
  obtain ⟨hns, hservice⟩ := hdotless svc hsvc
  obtain ⟨hns', hservice'⟩ := hdotless svc' hsvc'
  rw [hnn] at hns hservice
  rw [hnn'] at hns' hservice'
  obtain ⟨hnamespace, hname, -⟩ :=
    clusterIdOf_inj hns hns' hservice hservice' (hid.symm.trans hid')
  exact ⟨hnamespace, hname⟩

/-- The object an index has under a key is one of the inputs. -/
theorem mem_of_byKey {α : Type} {metadata : α → ObjectMeta} {objects : List α} {key : ObjectKey}
    {object : α} (h : (Index.byKey metadata objects)[key]? = some object) :
    object ∈ objects ∧ toLex (metadata object).nn = key := by
  have hfill : (fill (fun object => (toLex (metadata object).nn : ObjectKey)) id ∅ objects)[key]? =
      some object := h
  rcases exists_of_fill hfill with hempty | ⟨a, ha, hkey, rfl⟩
  · rw [BTreeMap.getElem?_empty] at hempty
    cases hempty
  · exact ⟨ha, hkey⟩

/-- A namespace with a name, and its labels. -/
def namedLabels (ns : Namespace) : Option (String × BTreeMap String String) :=
  ns.metadata.name.map fun name => (name, ns.metadata.labels.getD ∅)

/-- The labels are those of the namespaces that have a name. -/
theorem labelsOf_eq (namespaces : List Namespace) :
    Index.labelsOf namespaces = fill Prod.fst Prod.snd ∅ (namespaces.filterMap namedLabels) := by
  unfold Index.labelsOf
  generalize (∅ : BTreeMap String (BTreeMap String String)) = labels
  induction namespaces generalizing labels with
  | nil => rfl
  | cons ns namespaces ih =>
      rw [List.foldl_cons, ih, List.filterMap_cons]
      unfold namedLabels
      cases ns.metadata.name <;> rfl

/-- The labels an index has under a name are those of a namespace of that name. -/
theorem mem_of_labelsOf {namespaces : List Namespace} {name : String}
    {labels : BTreeMap String String} (h : (Index.labelsOf namespaces)[name]? = some labels) :
    ∃ ns ∈ namespaces, ns.metadata.name = some name ∧ ns.metadata.labels.getD ∅ = labels := by
  rw [labelsOf_eq] at h
  rcases exists_of_fill h with hempty | ⟨entry, hentry, hname, hlabels⟩
  · rw [BTreeMap.getElem?_empty] at hempty
    cases hempty
  · obtain ⟨ns, hns, hnamed⟩ := List.mem_filterMap.1 hentry
    obtain ⟨name', hname', rfl⟩ := Option.map_eq_some_iff.1 hnamed
    obtain rfl : name' = name := hname
    exact ⟨ns, hns, hname', hlabels⟩

section Build

variable [External] [CharTable] {cfg : BuildConfig} {inputs : Inputs}

/-- A cluster a reference resolved to is that of the Service it names. -/
theorem ResolvedTo.isClusterOf {namespace_ service clusterId : String}
    (h : ResolvedTo (Index.build inputs cfg.healthCheck) namespace_ service clusterId) :
    IsClusterOf inputs namespace_ service clusterId := by
  obtain ⟨portRef, hasEndpoints, hresult⟩ := h
  unfold addServiceRoute at hresult
  split at hresult
  · cases hresult
  rename_i id addrs hresolved
  obtain ⟨rfl, -⟩ := Prod.mk.inj (Except.ok.inj hresult)
  unfold resolveBackends at hresolved
  split at hresolved
  · cases hresolved
  rename_i port id' hport
  obtain ⟨rfl, -⟩ := Prod.mk.inj (Except.ok.inj hresolved)
  obtain ⟨svc, hsvc, hfound, rfl⟩ := servicePort_eq_ok hport
  obtain ⟨hlisted, hkey⟩ := mem_of_byKey hsvc
  exact ⟨svc, hlisted, congrArg ofLex hkey, port, PortRef.mem_of_find hfound, rfl⟩

/-- The certificate was read from the Secret it names, in a namespace. -/
def ReadFromSecret (inputs : Inputs) (namespace_ : String) (cert : ClaimedCert) : Prop :=
  ∃ secret ∈ inputs.secrets, secret.metadata.nn = (namespace_, cert.secret) ∧
    ∃ listener names, extractCert secret listener names = .ok cert.cert

omit [CharTable] in
theorem ReadFrom.fromSecret {namespace_ : String} {cert : ClaimedCert}
    (h : ReadFrom (Index.build inputs cfg.healthCheck) namespace_ cert) :
    ReadFromSecret inputs namespace_ cert := by
  obtain ⟨secret, listener, names, hsecret, hextract⟩ := h
  obtain ⟨hlisted, hkey⟩ := mem_of_byKey hsecret
  exact ⟨secret, hlisted, congrArg ofLex hkey, listener, names, hextract⟩

/-! ## Routes under our Gateways -/

/-- A match expression holds of the labels. -/
def ExpressionHolds (labels : BTreeMap String String)
    (expr : GatewayListenersSelectorMatchExpressions) : Prop :=
  (expr.operator = "In" ∧ ∃ v ∈ expr.values.getD [], labels[expr.key]? = some v) ∨
    (expr.operator = "NotIn" ∧ expr.values.getD [] ≠ [] ∧
      ∀ v ∈ expr.values.getD [], labels[expr.key]? ≠ some v) ∨
    (expr.operator = "Exists" ∧ expr.values.getD [] = [] ∧ labels[expr.key]? ≠ none) ∨
    (expr.operator = "DoesNotExist" ∧ expr.values.getD [] = [] ∧ labels[expr.key]? = none)

/-- The labels satisfy the selector: every label it names, and every expression. -/
structure Selects (selector : GatewayListenersSelector) (labels : BTreeMap String String) :
    Prop where
  matchLabels : ∀ key value : String, (selector.matchLabels.getD ∅)[key]? = some value →
    labels[key]? = some value
  matchExpressions : ∀ expr ∈ selector.matchExpressions.getD [], ExpressionHolds labels expr

omit [External] in
/-- An expression holds exactly when it is read as a term that does. -/
theorem expressionHolds_iff {labels : BTreeMap String String}
    {expr : GatewayListenersSelectorMatchExpressions} :
    ExpressionHolds labels expr ↔
      ∃ term, parseExpression expr = .ok term ∧ term.holds labels = true := by
  unfold ExpressionHolds parseExpression
  dsimp only
  generalize expr.values.getD [] = values
  split_ifs with hempty hin hnotIn hcarries hexists hnone
  · obtain ⟨hop | hop, rfl⟩ := hempty <;> simp [hop]
  · simp [hin, Term.holds, Option.any_eq_true, and_comm]
  · have hne : values ≠ [] := fun hnil => hempty ⟨.inr hnotIn, hnil⟩
    cases hlabel : labels[expr.key]? with
    | none => simp [hnotIn, hne, Term.holds, hlabel]
    | some w =>
      have hw : (∀ v ∈ values, ¬w = v) ↔ w ∉ values :=
        ⟨fun h hmem => h w hmem rfl, fun h v hv heq => h (heq ▸ hv)⟩
      simp [hnotIn, hne, Term.holds, hlabel, hw]
  · obtain ⟨hop | hop, hne⟩ := hcarries <;> simp [hop, hne]
  · have hnil : values = [] := by
      by_contra hne
      exact hcarries ⟨.inl hexists, hne⟩
    simp [hexists, hnil, Term.holds]
  · have hnil : values = [] := by
      by_contra hne
      exact hcarries ⟨.inr hnone, hne⟩
    simp [hnone, hnil, Term.holds]
  · simp [hin, hnotIn, hexists, hnone]

omit [External] in
/-- **The selector a listener evaluates is the one it was given**; without one it admits no
namespace. -/
theorem admits_parse_iff {selector : Option GatewayListenersSelector}
    {labels : BTreeMap String String} :
    (NamespaceSelector.parse selector).admits labels = true ↔
      ∃ s, selector = some s ∧ Selects s labels := by
  cases selector with
  | none => simp [NamespaceSelector.parse, NamespaceSelector.admits]
  | some s =>
    have hterms : (∃ parsed, (s.matchExpressions.getD []).mapM parseExpression = .ok parsed ∧
        ∀ t ∈ parsed, t.holds labels = true) ↔
          ∀ expr ∈ s.matchExpressions.getD [], ExpressionHolds labels expr := by
      rw [forall_mapM_iff]
      exact forall₂_congr fun expr _ => expressionHolds_iff.symm
    have hselects : Selects s labels ↔
        (∀ key value : String, (s.matchLabels.getD ∅)[key]? = some value →
          labels[key]? = some value) ∧
        ∃ parsed, (s.matchExpressions.getD []).mapM parseExpression = .ok parsed ∧
          ∀ t ∈ parsed, t.holds labels = true :=
      ⟨fun h => ⟨h.matchLabels, hterms.2 h.matchExpressions⟩, fun h => ⟨h.1, hterms.1 h.2⟩⟩
    simp only [Option.some.injEq, exists_eq_left', hselects]
    unfold NamespaceSelector.parse
    dsimp only
    cases (s.matchExpressions.getD []).mapM parseExpression with
    | error reason => simp [NamespaceSelector.admits]
    | ok parsed => simp [NamespaceSelector.admits, Term.holds]

/-- The listener's `allowedRoutes` admits routes of a namespace. -/
def AdmitsNamespace (inputs : Inputs) (l : GatewayListeners) (gatewayNs routeNs : String) : Prop :=
  let namespaces := l.allowedRoutes.bind GatewayListenersAllowedRoutes.namespaces
  match namespaces.bind GatewayListenersAllowedRoutesNamespaces.from_ with
  | some .all => True
  | some .selector =>
      ∃ selector, namespaces.bind (·.selector) = some selector ∧
        ∃ ns ∈ inputs.namespaces, ns.metadata.name = some routeNs ∧
          Selects selector (ns.metadata.labels.getD ∅)
  | _ => routeNs = gatewayNs

omit [External] in
theorem admitsNamespace_of_admits {l : GatewayListeners} {gatewayNs routeNs : String}
    (h : (AllowedFrom.of l).admits routeNs gatewayNs (Index.build inputs cfg.healthCheck) = true) :
    AdmitsNamespace inputs l gatewayNs routeNs := by
  unfold AllowedFrom.of at h
  unfold AdmitsNamespace
  dsimp only at h ⊢
  generalize l.allowedRoutes.bind GatewayListenersAllowedRoutes.namespaces = namespaces at h ⊢
  have hsame : AllowedFrom.same.admits routeNs gatewayNs (Index.build inputs cfg.healthCheck) =
      true → routeNs = gatewayNs := of_decide_eq_true
  cases hfrom : namespaces.bind GatewayListenersAllowedRoutesNamespaces.from_ with
  | none =>
      rw [hfrom] at h
      exact hsame h
  | some from_ =>
      rw [hfrom] at h
      cases from_ with
      | all => trivial
      | same => exact hsame h
      | unknown => exact hsame h
      | selector =>
          obtain ⟨labels, hlabels, hselected⟩ := (Option.any_eq_true _ _).1 h
          obtain ⟨ns, hns, hname, rfl⟩ := mem_of_labelsOf hlabels
          obtain ⟨selector, hselector, hselects⟩ := admits_parse_iff.1 hselected
          exact ⟨selector, hselector, ns, hns, hname, hselects⟩

/-- The listener's `allowedRoutes` admits routes of a kind. -/
def AdmitsKind (l : GatewayListeners) (kind : RouteKind) : Prop :=
  ∀ kinds, l.allowedRoutes.bind GatewayListenersAllowedRoutes.kinds = some kinds → kinds ≠ [] →
    ∃ k ∈ kinds, k.group.getD gwGroup = gwGroup ∧ k.kind = kind.asStr

omit [External] [CharTable] in
theorem admitsKind_of_mem {l : GatewayListeners} {kind : RouteKind}
    (h : kind.asStr ∈ (listenerSupportedKinds l kind).1) : AdmitsKind l kind := by
  intro kinds hkinds hne
  obtain ⟨k, ks, rfl⟩ := List.exists_cons_of_ne_nil hne
  unfold listenerSupportedKinds at h
  rw [hkinds] at h
  dsimp only at h
  split at h
  · rename_i hwanted
    obtain ⟨wanted, hmem, hnamed⟩ := List.any_eq_true.1 hwanted
    simp only [isWantedKind, Bool.and_eq_true, decide_eq_true_eq] at hnamed
    exact ⟨wanted, hmem, hnamed⟩
  · exact absurd h List.not_mem_nil

/-- A Gateway of one of our classes. -/
def OwnGateway (cfg : BuildConfig) (inputs : Inputs) (gw : Gateway) : Prop :=
  gw ∈ inputs.gateways ∧ ∃ gc ∈ inputs.gatewayClasses,
    gc.metadata.name = some gw.spec.gatewayClassName ∧ gc.controllerName = cfg.controllerName

omit [External] [CharTable] in
theorem ownGateway_of_mem {gw : Gateway} (h : gw ∈ ourGateways cfg inputs) :
    OwnGateway cfg inputs gw := by
  obtain ⟨hlisted, hours⟩ := List.mem_filter.1 h
  obtain ⟨result, hresult, hnamed⟩ := List.any_eq_true.1 hours
  obtain ⟨gc, hgc, hmap⟩ := List.mem_filterMap.1 hresult
  obtain ⟨name, hname, rfl⟩ := Option.map_eq_some_iff.1 hmap
  simp only [Bool.and_eq_true, decide_eq_true_eq] at hnamed
  exact ⟨hlisted, gc, hgc, hnamed.2 ▸ hname, hnamed.1⟩

/-- A route of a kind and namespace is routed through a listener of one of our Gateways:
one of its parentRefs names the Gateway, which is not rejected, and the listener admits the
kind and the namespace. -/
structure RoutedThrough (cfg : BuildConfig) (inputs : Inputs) (kind : RouteKind) (routeNs : String)
    (parentRefs : List ParentRef) (gw : Gateway) (l : GatewayListeners) : Prop where
  parentRef : ∃ pref ∈ parentRefs, pref.isGateway = true ∧
    gw.metadata.nn = (pref.namespace_.getD routeNs, pref.name)
  gateway : OwnGateway cfg inputs gw
  unrejected : gw.spec.parametersRef = none
  declared : l ∈ gw.spec.listeners
  kind : AdmitsKind l kind
  namespace_ : AdmitsNamespace inputs l gw.metadata.nn.1 routeNs

theorem Attached.routedThrough {kind : RouteKind} {routeNs : String} {parentRefs : List ParentRef}
    {pref : ParentRef} {gw : Gateway} {l : GatewayListeners} {protocol : ListenerProtocol}
    {entry : ExposedPort} {info : ListenerInfo}
    (h : Attached cfg inputs (Index.build inputs cfg.healthCheck) kind routeNs pref gw l protocol
      entry info) (hpref : pref ∈ parentRefs ∧ pref.isGateway = true) :
    RoutedThrough cfg inputs kind routeNs parentRefs gw l where
  parentRef := ⟨pref, hpref.1, hpref.2, congrArg ofLex h.named⟩
  gateway := ownGateway_of_mem h.carries.gateway
  unrejected := h.carries.unrejected
  declared := h.carries.declared
  kind := admitsKind_of_mem h.kind.2
  namespace_ := admitsNamespace_of_admits h.admits

/-! ## Frontends -/

/-- The cluster, if any, is that of no Service outside a namespace. -/
def Within (inputs : Inputs) (namespace_ : String) (clusterId : Option String) : Prop :=
  ∀ id ns service, clusterId = some id → IsClusterOf inputs ns service id → ns = namespace_

/-- The cluster, if any, is that of Services of the route's own namespace, or of those a
ReferenceGrant opens to it. -/
def Permitted (inputs : Inputs) (kind : RouteKind) (routeNs : String) (clusterId : Option String) :
    Prop :=
  ∀ id ns service, clusterId = some id → IsClusterOf inputs ns service id →
    ns = routeNs ∨ Opened inputs ns "Service" service routeNs kind.asStr

theorem RefersTo.permitted {kind : RouteKind} {routeNs clusterId : String}
    (hdotless : Dotless inputs)
    (h : RefersTo inputs (Index.build inputs cfg.healthCheck) kind routeNs clusterId) :
    Permitted inputs kind routeNs (some clusterId) := by
  intro id ns service hid hcluster
  obtain rfl := Option.some.inj hid
  obtain ⟨serviceNs, name, hresolved, hrefer⟩ := h
  obtain ⟨rfl, rfl⟩ := hresolved.isClusterOf.unique hdotless hcluster
  exact hrefer.imp id opened_iff.1

/-- The frontend is one of our Ingresses', for a Service of its namespace. -/
def OfIngress (cfg : BuildConfig) (inputs : Inputs) (sf : SourcedFrontend) : Prop :=
  ∃ ingress ∈ inputs.ingresses, isOurs ingress cfg = true ∧
    sf.source = .ingress ingress.metadata.nn.1 ingress.metadata.nn.2 ∧
      Within inputs ingress.metadata.nn.1 sf.frontend.clusterId

/-- The frontend is an HTTPRoute's, under one of our Gateways, for a Service it may refer
to. -/
def OfHttpRoute (cfg : BuildConfig) (inputs : Inputs) (sf : SourcedFrontend) : Prop :=
  ∃ route ∈ inputs.httpRoutes, ∃ gw l,
    RoutedThrough cfg inputs .httpRoute route.metadata.nn.1 (route.spec.parentRefs.getD []) gw l ∧
      (∃ sectionName port, sf.source = .httpRoute route.metadata.nn.1 route.metadata.nn.2
        gw.metadata.nn.1 gw.metadata.nn.2 sectionName port) ∧
        Permitted inputs .httpRoute route.metadata.nn.1 sf.frontend.clusterId

/-- The object behind a frontend is in the Service's namespace, or may refer to it. -/
theorem Origin.isolated {sf : SourcedFrontend} (hdotless : Dotless inputs)
    (h : Origin cfg inputs sf) : OfIngress cfg inputs sf ∨ OfHttpRoute cfg inputs sf := by
  rcases h with ⟨ingress, hlisted, hours, emissions, hemissions, hmem⟩ |
    ⟨route, pref, gw, l, protocol, entry, hfrom⟩
  · have hingress := (traced_of_ingressEmissions hemissions).1 sf hmem
    refine .inl ⟨ingress, hlisted, hours, hingress.source, fun id ns service hid hcluster => ?_⟩
    obtain ⟨name, clusterId, hresolved, hbackend⟩ := hingress.backend
    obtain rfl := Option.some.inj (hbackend.symm.trans hid)
    exact (hcluster.unique hdotless hresolved.isClusterOf).1
  · obtain ⟨info, hattached⟩ := hfrom.attached
    have hnamed : gw.metadata.nn = (pref.namespace_.getD route.metadata.nn.1, pref.name) :=
      congrArg ofLex hattached.named
    refine .inr ⟨route, hfrom.listed, gw, l, hattached.routedThrough hfrom.parentRef,
      ⟨pref.sectionName, pref.port, ?_⟩, fun id ns service hid hcluster => ?_⟩
    · rw [hnamed]
      exact hfrom.source
    · exact (hfrom.backend id hid).permitted hdotless id ns service rfl hcluster

/-! ## Layer-4 sockets -/

/-- The protocol of an exposed port that serves a layer-4 one. -/
def exposedAs : L4Protocol → ExposedProtocol
  | .tcp => .tcp
  | .udp => .udp

/-- Every port of the protocol exposed at the address names the namespace as its owner. -/
def ReservedTo (cfg : BuildConfig) (protocol : L4Protocol) (listener : SocketAddr)
    (owner : String) : Prop :=
  ∀ entry ∈ cfg.exposure, entry.protocol = exposedAs protocol →
    BuildConfig.bindAddr entry.bind = listener → entry.owner = some owner

omit [External] [CharTable] in
/-- Where no two exposed ports collide, an owned port reserves its socket. -/
theorem reservedTo_of_owner (hbinds : (cfg.exposure.map ExposedPort.bind).Nodup)
    {entry : ExposedPort} (hentry : entry ∈ cfg.exposure) {owner : String}
    (howner : entry.owner = some owner) (protocol : L4Protocol) :
    ReservedTo cfg protocol (BuildConfig.bindAddr entry.bind) owner := by
  intro other hother _ hbind
  have hsame : other.bind = entry.bind := by
    injection hbind
  obtain rfl := List.inj_on_of_nodup_map hbinds hother hentry hsame
  exact howner

omit [External] [CharTable] in
theorem exposed_eq_some {protocol : ExposedProtocol} {port : UInt16} {entry : ExposedPort}
    (h : cfg.exposed protocol port = some entry) :
    entry ∈ cfg.exposure ∧ entry.protocol = protocol := by
  unfold BuildConfig.exposed at h
  have hentry := List.find?_some h
  exact ⟨List.mem_of_find?_eq_some h, (of_decide_eq_true hentry).1⟩

omit [External] [CharTable] in
/-- A layer-4 route's listener is exposed as its protocol. -/
theorem exposed_of_l4View {view : L4RouteView} (h : view ∈ l4Views inputs)
    {protocol : ListenerProtocol} (hkind : protocol.routeKind = view.kind) :
    protocol.exposed = exposedAs view.protocol ∧ protocol.l4.isSome := by
  have hview : (view.kind = .tcpRoute ∧ view.protocol = .tcp) ∨
      (view.kind = .udpRoute ∧ view.protocol = .udp) := by
    rcases List.mem_append.1 h with h | h
    · obtain ⟨route, -, rfl⟩ := List.mem_map.1 h
      exact .inl ⟨rfl, rfl⟩
    · obtain ⟨route, -, rfl⟩ := List.mem_map.1 h
      exact .inr ⟨rfl, rfl⟩
  rcases hview with ⟨hk, hp⟩ | ⟨hk, hp⟩
  · rw [hk] at hkind
    rw [hp]
    cases protocol <;> first | exact ⟨rfl, rfl⟩ | cases hkind
  · rw [hk] at hkind
    rw [hp]
    cases protocol <;> first | exact ⟨rfl, rfl⟩ | cases hkind

/-- The frontend is a layer-4 route's, under one of our Gateways, for a Service it may
refer to, on a socket the Gateway's namespace may listen on. -/
def OfL4Route (cfg : BuildConfig) (inputs : Inputs) (f : L4Frontend) (view : L4RouteView)
    (gw : Gateway) (l : GatewayListeners) : Prop :=
  RoutedThrough cfg inputs view.kind view.namespace_ view.parentRefs gw l ∧
    Permitted inputs view.kind view.namespace_ (some f.clusterId) ∧
      ∀ owner, ReservedTo cfg f.protocol f.listener owner → gw.metadata.nn.1 = owner

theorem FromL4Route.isolated {view : L4RouteView} {pref : ParentRef} {gw : Gateway}
    {l : GatewayListeners} {protocol : ListenerProtocol} {entry : ExposedPort} {f : L4Frontend}
    (hdotless : Dotless inputs)
    (h : FromL4Route cfg inputs (Index.build inputs cfg.healthCheck) view pref gw l protocol entry
      f) : OfL4Route cfg inputs f view gw l := by
  obtain ⟨info, hattached⟩ := h.attached
  refine ⟨hattached.routedThrough h.parentRef, h.backend.permitted hdotless,
    fun owner hreserved => ?_⟩
  obtain ⟨hexposed, hl4⟩ := exposed_of_l4View h.listed hattached.kind.1
  have hserves := hattached.carries.serves
  obtain ⟨port, -, hfound⟩ := Option.bind_eq_some_iff.1 hserves.exposed
  obtain ⟨hlisted, hprotocol⟩ := exposed_eq_some hfound
  have howner := hreserved entry hlisted (by rw [hprotocol, hexposed, h.protocol]) h.bind.symm
  exact (hserves.owned hl4 owner howner).symm

/-! ## Certificates -/

/-- The certificate is one of our Ingresses', from a Secret of its namespace, or one of our
Gateways', from a Secret of its namespace or one a ReferenceGrant opens to it. -/
def ReadByOwner (cfg : BuildConfig) (inputs : Inputs) (cert : ClaimedCert) : Prop :=
  (∃ ingress ∈ inputs.ingresses, isOurs ingress cfg = true ∧
    cert.source = .ingress ingress.metadata.nn.1 ingress.metadata.nn.2 ∧
      ReadFromSecret inputs ingress.metadata.nn.1 cert) ∨
  ∃ gw, OwnGateway cfg inputs gw ∧
    (∃ listener, cert.source = .gateway gw.metadata.nn.1 gw.metadata.nn.2 listener) ∧
      ∃ secretNs, (secretNs = gw.metadata.nn.1 ∨
        Opened inputs secretNs "Secret" cert.secret gw.metadata.nn.1 "Gateway") ∧
          ReadFromSecret inputs secretNs cert

/-- A certificate the walks over the objects loaded. -/
def Loaded (cfg : BuildConfig) (inputs : Inputs) (cert : ClaimedCert) : Prop :=
  ∃ walk, ingressWalk cfg inputs (Index.build inputs cfg.healthCheck) = some walk ∧
    .certificate cert ∈ walk.emissions ++
      (gatewayWalk cfg inputs (Index.build inputs cfg.healthCheck)).emissions

/-- **A loaded certificate is one its owner may read.** -/
theorem Loaded.readByOwner {cert : ClaimedCert} (h : Loaded cfg inputs cert) :
    ReadByOwner cfg inputs cert := by
  obtain ⟨walk, hwalk, h⟩ := h
  rcases List.mem_append.1 h with h | h
  · obtain ⟨ingress, hlisted, hours, emissions, hemissions, hmem, -⟩ :=
      exists_ingress_of_mem hwalk h
    obtain ⟨hsource, hread⟩ := (traced_of_ingressEmissions hemissions).2 cert hmem
    exact .inl ⟨ingress, hlisted, hours, hsource, hread.fromSecret⟩
  · rcases traced_of_gatewayWalk h with hreport | ⟨cert', heq, hown⟩ | ⟨sf, heq, -⟩
    · exact absurd hreport Emission.IsReport.not_certificate
    · obtain rfl := Emission.certificate.inj heq
      obtain ⟨gw, hgw, hsource, secretNs, hmay, hread⟩ := hown
      exact .inr ⟨gw, ownGateway_of_mem hgw, hsource, secretNs, hmay.imp id opened_iff.1,
        hread.fromSecret⟩
    · cases heq

/-- A certificate of the IR has the material of a claimed one, and every name of it is that
of a claimed copy of its leaf. -/
theorem exists_claimed_of_irCertificate {emissions : List Emission} {cert : Certificate}
    (h : cert ∈ (arbitrate cfg inputs emissions).irCertificates) :
    (∃ c, .certificate c ∈ emissions ∧ { c.cert.cert with names := cert.names } = cert) ∧
      ∀ name ∈ cert.names, ∃ c, .certificate c ∈ emissions ∧
        c.cert.cert.listener = cert.listener ∧ name ∈ c.names := by
  have hemitted : ∀ c ∈ emissions.filterMap Emission.certificate?,
      Emission.certificate c ∈ emissions := by
    intro c hc
    obtain ⟨e, he, hcert⟩ := List.mem_filterMap.1 hc
    cases e <;> cases hcert
    exact he
  obtain ⟨⟨leaf, cert'⟩, hmem, rfl⟩ := List.mem_map.1 (mem_sortBy.1 h)
  refine ⟨?_, fun name hname => ?_⟩
  · obtain ⟨⟨fc, hfc, -, hserved⟩, -⟩ := mem_mergedLeaves hmem
    obtain ⟨c, hc, rfl⟩ := List.mem_map.1 hfc
    exact ⟨c, hemitted c hc, hserved⟩
  · obtain ⟨hlistener, c, hc, hleaf, hnames⟩ := exists_claimed_of_mem hmem hname
    have hat : c.cert.cert.listener = (ofLex leaf).1 := congrArg (fun key => (ofLex key).1) hleaf
    exact ⟨c, hemitted c hc, hat.trans hlistener.symm, hnames⟩

/-! ## The build -/

variable {out : BuildOutput}

/-- **Namespaces are isolated.** Where no Service has a dot in its names: every HTTP(S)
frontend is an Ingress's for a Service of its namespace, or an HTTPRoute's; every layer-4
one is a layer-4 route's; a route's is for a Service of its namespace or one a
ReferenceGrant opens to it, through a listener of one of our Gateways that allows it, and a
reserved socket is its owner's; every certificate is from a Secret of its claimant's
namespace, or one a ReferenceGrant opens to it. -/
theorem namespaces_isolated (h : build cfg inputs = some out) (hdotless : Dotless inputs) :
    (∀ f ∈ out.ir.frontends, (∃ sf, Origin cfg inputs sf ∧ ServedAs sf f) ∧
      ∀ sf, Origin cfg inputs sf → ServedAs sf f → sf.frontend.clusterId = f.clusterId ∧
        (OfIngress cfg inputs sf ∨ OfHttpRoute cfg inputs sf)) ∧
    (∀ f ∈ out.ir.l4Frontends,
      (∃ view pref gw l protocol entry, FromL4Route cfg inputs
        (Index.build inputs cfg.healthCheck) view pref gw l protocol entry f) ∧
      ∀ view pref gw l protocol entry, FromL4Route cfg inputs
        (Index.build inputs cfg.healthCheck) view pref gw l protocol entry f →
          OfL4Route cfg inputs f view gw l) ∧
    ∀ cert ∈ out.ir.certificates,
      (∃ c, Loaded cfg inputs c ∧ ReadByOwner cfg inputs c ∧
        { c.cert.cert with names := cert.names } = cert) ∧
      ∀ name ∈ cert.names, ∃ c, Loaded cfg inputs c ∧ ReadByOwner cfg inputs c ∧
        c.cert.cert.listener = cert.listener ∧ name ∈ c.names := by
  refine ⟨fun f hf => ⟨exists_origin h hf, fun sf horigin hserved => ?_⟩, fun f hf => ?_,
    fun cert hcert => ?_⟩
  · exact ⟨hserved.eqs.2.2.2.symm, horigin.isolated hdotless⟩
  · obtain ⟨walk, -, rfl⟩ := Option.map_eq_some_iff.1 h
    exact ⟨traced_of_l4Frontends hf, fun _ _ _ _ _ _ hfrom => hfrom.isolated hdotless⟩
  · obtain ⟨walk, hwalk, rfl⟩ := Option.map_eq_some_iff.1 h
    obtain ⟨⟨c, hc, hmaterial⟩, hnames⟩ := exists_claimed_of_irCertificate hcert
    have hloaded : Loaded cfg inputs c := ⟨walk, hwalk, hc⟩
    refine ⟨⟨c, hloaded, hloaded.readByOwner, hmaterial⟩, fun name hname => ?_⟩
    obtain ⟨c, hc, hlistener, hmem⟩ := hnames name hname
    have hloaded : Loaded cfg inputs c := ⟨walk, hwalk, hc⟩
    exact ⟨c, hloaded, hloaded.readByOwner, hlistener, hmem⟩

end Build

/-- A TCP port reserved to the namespace `team`. -/
def reservedConfig : BuildConfig where
  exposure := [{ name := "db", port := 5432, bind := 5432, protocol := .tcp, owner := some "team" }]

/-- A TCPRoute of the namespace `team` to the Service `data/db`, which a ReferenceGrant
opens to it. -/
def grantedInputs : Inputs where
  services := [{
    metadata := { name := some "db", namespace_ := some "data" }
    ports := some [{ port := 5432 }] }]
  gatewayClasses := [⟨{ name := some "sozu" }, "sozu.io/gateway-controller"⟩]
  gateways := [{
    metadata := { name := some "gw", namespace_ := some "team" }
    spec := {
      gatewayClassName := "sozu"
      listeners := [{ name := "db", port := 5432, protocol := "TCP" }] } }]
  referenceGrants := [{
    metadata := { name := some "grant", namespace_ := some "data" }
    from_ := [⟨gwGroup, "TCPRoute", "team"⟩]
    to_ := [⟨"", "Service", none⟩] }]
  tcpRoutes := [{
    metadata := { name := some "db", namespace_ := some "team" }
    parentRefs := some [{ name := "gw" }]
    rules := [[{ name := "db", namespace_ := some "data", port := some 5432 }]] }]

attribute [local instance] External.plain Sozu.asciiTable in
/-- The socket of the granted route is its Gateway's, in the namespace it is reserved to. -/
theorem namespaces_isolated_grantedInputs :
    ∃ out, build reservedConfig grantedInputs = some out ∧ ∃ f ∈ out.ir.l4Frontends,
      ∃ view gw l, OfL4Route reservedConfig grantedInputs f view gw l ∧
        gw.metadata.nn.1 = "team" := by
  have hout : ((build reservedConfig grantedInputs).any fun out =>
      decide (⟨.tcp, BuildConfig.bindAddr 5432, "data.db.5432"⟩ ∈ out.ir.l4Frontends)) = true := by
    decide +kernel
  obtain ⟨out, hbuild, hmem⟩ := (Option.any_eq_true _ _).1 hout
  have hdotless : Dotless grantedInputs := by
    intro service hservice
    obtain rfl := List.mem_singleton.1 hservice
    exact ⟨by decide, by decide⟩
  have hf := of_decide_eq_true hmem
  obtain ⟨-, hl4, -⟩ := namespaces_isolated hbuild hdotless
  obtain ⟨⟨view, pref, gw, l, protocol, entry, hfrom⟩, hisolated⟩ := hl4 _ hf
  have hof := hisolated view pref gw l protocol entry hfrom
  refine ⟨out, hbuild, _, hf, view, gw, l, hof, hof.2.2 "team" ?_⟩
  have hbinds : (reservedConfig.exposure.map ExposedPort.bind).Nodup := by decide
  exact reservedTo_of_owner hbinds (List.mem_singleton_self _) rfl .tcp

end Builder

end SozuGateway
