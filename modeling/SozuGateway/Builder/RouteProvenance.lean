import SozuGateway.Builder.Provenance

/-!
# Where the frontends of routes come from

Every frontend a route emits, and every layer-4 frontend, traced back to the parentRef, the
listener and the Service behind it.

* `MayRefer`, `RefersTo` — the Services a route may refer to, and the cluster of one.
* `Attached` — a listener a route is attached to.
* `FromHttpRoute`, `FromL4Route` — a frontend of a route under a parentRef, through a
  listener.
* `traced_of_gatewayWalk` — everything the walk over the Gateway API emits.
-/

set_option autoImplicit false

namespace SozuGateway

namespace Builder

open Lib

section Walks

variable [External] [CharTable]

/-! ## HTTPRoutes -/

section Routes

variable {cfg : BuildConfig} {inputs : Inputs} {index : Index}

/-- A route of a namespace may refer to a Service of another: it is its own, or a
ReferenceGrant opens the Service to routes of that kind and namespace. -/
def MayRefer (inputs : Inputs) (kind : RouteKind) (routeNs serviceNs service : String) : Prop :=
  serviceNs = routeNs ∨
    referenceGranted inputs serviceNs "" "Service" service routeNs gwGroup kind.asStr = true

/-- The cluster is that of a Service the route may refer to. -/
def RefersTo (inputs : Inputs) (index : Index) (kind : RouteKind) (routeNs clusterId : String) :
    Prop :=
  ∃ serviceNs service, ResolvedTo index serviceNs service clusterId ∧
    MayRefer inputs kind routeNs serviceNs service

theorem refersTo_of_httpBackendRef {routeNs : String} {br : HttpRouteRulesBackendRefs}
    {clusterId : Option String}
    (h : (httpBackendRef inputs index routeNs br).clusterId = some clusterId) :
    ∃ id, clusterId = some id ∧ RefersTo inputs index .httpRoute routeNs id := by
  unfold httpBackendRef at h
  split at h
  · cases h
  split at h
  · cases h
  dsimp only at h
  split at h
  · cases h
  rename_i hgrant
  split at h
  · cases h
  rename_i port _
  split at h
  · cases h
  rename_i id hasEndpoints hresult
  refine ⟨id, (Option.some.inj h).symm, br.namespace_.getD routeNs, br.name,
    ⟨_, hasEndpoints, hresult⟩, ?_⟩
  by_cases hns : br.namespace_.getD routeNs = routeNs
  · exact .inl hns
  · exact .inr (by simpa [hns, RouteKind.asStr] using hgrant)

/-- The cluster a rule resolves to, if it proxies, is that of a Service its route may refer
to. -/
theorem refersTo_of_ruleBackend {routeNs : String} {rule : HttpRouteRules}
    {filters : FrontendFilters} {clusterId : Option String}
    (h : (ruleBackend inputs index routeNs rule filters).clusterId = some clusterId) {id : String}
    (hid : clusterId = some id) : RefersTo inputs index .httpRoute routeNs id := by
  unfold ruleBackend at h
  split at h
  · split at h
    · rw [hid] at h
      cases h
    · cases h
  · obtain ⟨id', rfl, hrefers⟩ := refersTo_of_httpBackendRef h
    obtain rfl := Option.some.inj hid
    exact hrefers
  · cases h

omit [External] [CharTable] in
theorem ParsedFilters.remarks_pushHeaderValue (on : HeaderTarget) (replace : Bool)
    {parsed : ParsedFilters} (h : Remarks parsed.emissions) (edit : HeaderEdit) :
    Remarks (parsed.pushHeaderValue on replace edit).emissions := by
  unfold ParsedFilters.pushHeaderValue
  split
  · exact h.append (remarks_problem _)
  · exact h

omit [External] [CharTable] in
theorem ParsedFilters.remarks_foldl (on : HeaderTarget) (replace : Bool) (edits : List HeaderEdit)
    {parsed : ParsedFilters} (h : Remarks parsed.emissions) :
    Remarks (edits.foldl (ParsedFilters.pushHeaderValue on replace) parsed).emissions := by
  induction edits generalizing parsed with
  | nil => exact h
  | cons edit edits ih => exact ih (ParsedFilters.remarks_pushHeaderValue on replace h edit)

omit [External] [CharTable] in
theorem ParsedFilters.remarks_modifyHeaders (on : HeaderTarget) {parsed : ParsedFilters}
    (h : Remarks parsed.emissions) (m : Option HeaderModifier) :
    Remarks (parsed.modifyHeaders on m).emissions := by
  cases m with
  | none => exact h
  | some m =>
      exact ParsedFilters.remarks_foldl on false _ (ParsedFilters.remarks_foldl on true _ h)

omit [External] [CharTable] in
theorem ParsedFilters.remarks_step {parsed : ParsedFilters} (h : Remarks parsed.emissions)
    (filter : HttpRouteRulesFilters) : Remarks (parsed.step filter).emissions := by
  have hunsupported : ∀ kind, Remarks (parsed.unsupported kind).emissions :=
    fun _ => h.append (remarks_problem _)
  unfold ParsedFilters.step
  split
  · exact ParsedFilters.remarks_modifyHeaders _ h _
  · exact ParsedFilters.remarks_modifyHeaders _ h _
  · split
    · exact h
    · split
      · exact hunsupported _
      · exact h
  · split
    · exact hunsupported _
    · exact hunsupported _
  all_goals exact hunsupported _

omit [External] [CharTable] in
theorem remarks_parseFilters (filters : List HttpRouteRulesFilters) :
    Remarks (parseFilters filters).emissions := by
  have hfold : ∀ (l : List HttpRouteRulesFilters) (parsed : ParsedFilters),
      Remarks parsed.emissions → Remarks (l.foldl ParsedFilters.step parsed).emissions := by
    intro l
    induction l with
    | nil => exact fun _ h => h
    | cons filter l ih => exact fun parsed h => ih _ (ParsedFilters.remarks_step h filter)
  exact hfold filters {} .nil

theorem reports_httpBackendRef (routeNs : String) (br : HttpRouteRulesBackendRefs) :
    Reports (httpBackendRef inputs index routeNs br).emissions := by
  unfold httpBackendRef
  split
  · exact reports_failRef _ _
  split
  · exact reports_failRef _ _
  dsimp only
  have hfiltered : Reports (if 0 < br.filters.getD 0 then
      [.problem (.filterUnsupported ("filters on backendRef " ++ br.name))] else []) := by
    split
    · exact reports_problem _
    · exact .nil
  have hroute : ∀ ns portRef, Reports (addServiceRoute index ns br.name portRef).emissions :=
    fun ns portRef => reports_addServiceRoute index ns br.name portRef
  split
  · exact hfiltered.append (reports_failRef _ _)
  split
  · exact hfiltered.append (reports_failRef _ _)
  split
  · exact (hfiltered.append (hroute _ _)).append (reports_failRef _ _)
  · refine (((hfiltered.append (hroute _ _)).append (reports_configure _ _)).append ?_).append
      remarks_ite.reports
    split
    · exact (Reports.singleton ⟨rfl, rfl⟩).append (.singleton (e := .failRef _) ⟨rfl, rfl⟩)
    · exact .nil

theorem reports_ruleBackend (routeNs : String) (rule : HttpRouteRules)
    (filters : FrontendFilters) :
    Reports (ruleBackend inputs index routeNs rule filters).emissions := by
  unfold ruleBackend
  split
  · split
    · exact .nil
    · exact reports_failRef _ _
  · exact reports_httpBackendRef _ _
  · exact reports_failRef _ _

omit [CharTable] in
theorem remarks_parseMatch (sozuHeaders : SozuRequestHeaders) (m : HttpRouteRulesMatches) :
    Remarks (parseMatch sozuHeaders m).emissions := by
  unfold parseMatch
  split
  · exact .singleton trivial
  split
  · refine Remarks.append ?_ (.singleton trivial)
    split
    · exact .singleton trivial
    · exact .nil
  split
  · exact remarks_problem _
  · exact .nil

omit [CharTable] in
theorem remarks_parseMatches (sozuHeaders : SozuRequestHeaders) (rule : HttpRouteRules) :
    Remarks ((parseMatches sozuHeaders rule).flatMap ParsedMatch.emissions) := by
  intro e he
  obtain ⟨parsed, hparsed, he⟩ := List.mem_flatMap.1 he
  unfold parseMatches at hparsed
  split at hparsed
  · obtain rfl := List.mem_singleton.1 hparsed
    exact absurd he List.not_mem_nil
  · obtain rfl := List.mem_singleton.1 hparsed
    exact absurd he List.not_mem_nil
  · obtain ⟨m, -, rfl⟩ := List.mem_map.1 hparsed
    exact remarks_parseMatch sozuHeaders m e he

omit [External] [CharTable] in
theorem remarks_timeouts (rule : HttpRouteRules) :
    Remarks (if rule.timeouts.any fun t => t.request.isSome || t.backendRequest.isSome then
      [.problem .timeoutsUnsupported] else []) := by
  split
  · exact remarks_problem _
  · exact .nil

/-- A frontend of a rule, on a listener the rule's route matches. -/
structure FromRule (inputs : Inputs) (index : Index) (routeNs : String)
    (routeHostnames : Option (List String)) (source : FrontendSource) (info : ListenerInfo)
    (sf : SourcedFrontend) : Prop where
  source : sf.source = source
  programmed : info.programmed = true
  bind : info.bind = some sf.frontend.listener
  tls : sf.frontend.tls = true ↔ info.protocol = some .https
  hostname : sf.frontend.hostname ∈ effectiveHostnames routeHostnames info.hostname
  backend : ∀ clusterId, sf.frontend.clusterId = some clusterId →
    RefersTo inputs index .httpRoute routeNs clusterId

/-- What a match emits on a listener: reports, and frontends of its target. -/
theorem traced_of_listenerFrontends {target : RuleTarget} {routeNs : String}
    {routeHostnames : Option (List String)} {routeMatch : RouteMatch} {info : ListenerInfo}
    (hbackend : ∀ clusterId, target.clusterId = some clusterId →
      RefersTo inputs index .httpRoute routeNs clusterId) {e : Emission}
    (he : e ∈ listenerFrontends target routeHostnames routeMatch info) :
    e.IsReport ∨ ∃ sf, e = .frontend sf ∧
      FromRule inputs index routeNs routeHostnames target.source info sf := by
  unfold listenerFrontends at he
  split at he
  · exact absurd he List.not_mem_nil
  rename_i hprogrammed
  split at he
  · rename_i bind protocol hbind hprotocol
    obtain ⟨hostname, hhostname, rfl⟩ := List.mem_map.1 he
    split
    · exact .inl ⟨rfl, rfl⟩
    · refine .inr ⟨_, rfl, ⟨rfl, by simpa using hprogrammed, hbind, ?_, hhostname, hbackend⟩⟩
      rw [hprotocol]
      simp
  · exact absurd he List.not_mem_nil

/-- What a rule emits: reports, and frontends on the listeners its route matches. -/
theorem traced_of_attachRule {sozuHeaders : SozuRequestHeaders} {routeNs : String}
    {routeHostnames : Option (List String)} {infos : List ListenerInfo} {source : FrontendSource}
    {rule : HttpRouteRules} {e : Emission}
    (he : e ∈ attachRule inputs index sozuHeaders routeNs routeHostnames infos source rule) :
    e.IsReport ∨ ∃ sf, e = .frontend sf ∧ ∃ info ∈ infos,
      FromRule inputs index routeNs routeHostnames source info sf := by
  unfold attachRule at he
  dsimp only at he
  split at he
  · exact .inl (((remarks_parseFilters _).append
      (.singleton (e := .override "UnsupportedValue") trivial)).reports e he)
  have hbackend : Reports (ruleBackend inputs index routeNs rule
      (parseFilters (rule.filters.getD [])).filters).emissions := reports_ruleBackend routeNs rule _
  have hhead := ((remarks_parseFilters (rule.filters.getD [])).append
    (remarks_timeouts rule)).reports.append hbackend
  rcases List.mem_append.1 he with he | he
  · exact .inl (hhead e he)
  split at he
  · exact absurd he List.not_mem_nil
  rename_i clusterId hcluster
  rcases List.mem_append.1 he with he | he
  · exact .inl ((remarks_parseMatches _ _).reports e he)
  obtain ⟨routeMatch, -, he⟩ := List.mem_flatMap.1 he
  obtain ⟨info, hinfo, he⟩ := List.mem_flatMap.1 he
  have hrefers : ∀ id, clusterId = some id → RefersTo inputs index .httpRoute routeNs id :=
    fun _ hid => refersTo_of_ruleBackend hcluster hid
  refine (traced_of_listenerFrontends hrefers he).imp id ?_
  rintro ⟨sf, rfl, hfrom⟩
  exact ⟨sf, rfl, info, hinfo, hfrom⟩

/-- A listener a route of a kind and namespace is attached to, under a parentRef. -/
structure Attached (cfg : BuildConfig) (inputs : Inputs) (index : Index) (kind : RouteKind)
    (routeNs : String) (pref : ParentRef) (gw : Gateway) (l : GatewayListeners)
    (protocol : ListenerProtocol) (entry : ExposedPort) (info : ListenerInfo) : Prop where
  named : (toLex gw.metadata.nn : ObjectKey) =
    objectKey (pref.namespace_.getD routeNs) pref.name
  carries : Carries cfg inputs index gw l protocol entry info
  kind : protocol.routeKind = kind ∧ kind.asStr ∈ (listenerSupportedKinds l kind).1
  admits : (AllowedFrom.of l).admits routeNs gw.metadata.nn.1 index = true

omit [External] [CharTable] in
theorem RouteKind.asStr_injective : Function.Injective RouteKind.asStr := by
  intro a b h
  cases a <;> cases b <;> first | rfl | exact absurd h (by decide)

omit [External] [CharTable] in
/-- A listener only ever admits the kind of its protocol. -/
theorem mem_listenerSupportedKinds {l : GatewayListeners} {wanted : RouteKind} {k : String}
    (h : k ∈ (listenerSupportedKinds l wanted).1) : k = wanted.asStr := by
  unfold listenerSupportedKinds at h
  split at h
  · dsimp only at h
    split at h
    · exact List.mem_singleton.1 h
    · exact absurd h List.not_mem_nil
  · exact List.mem_singleton.1 h

/-- **A candidate that is programmed is a listener of one of our Gateways that admits the
route.** -/
theorem attached_of_candidate {kind : RouteKind} {routeNs : String} {pref : ParentRef}
    {infos : List ListenerInfo} {info : ListenerInfo}
    (hlisteners : (gatewayListeners (builtGateways cfg inputs index))[
      objectKey (pref.namespace_.getD routeNs) pref.name]? = some infos)
    (hinfo : info ∈ candidates index kind routeNs (pref.namespace_.getD routeNs)
      (addressable pref infos)) (hprogrammed : info.programmed = true) :
    ∃ gw l protocol entry,
      Attached cfg inputs index kind routeNs pref gw l protocol entry info := by
  obtain ⟨haddressed, hadmitted⟩ := List.mem_filter.1 hinfo
  simp only [Bool.and_eq_true] at hadmitted
  obtain ⟨⟨-, hkind⟩, hadmits⟩ := hadmitted
  obtain ⟨gw, l, protocol, entry, hkey, hcarries⟩ :=
    carries_of_mem hlisteners (List.mem_of_mem_filter haddressed) hprogrammed
  have hns : gw.metadata.nn.1 = pref.namespace_.getD routeNs :=
    congrArg (fun key => (ofLex key).1) hkey
  have hbuilt := hcarries.built
  have hsupported : kind.asStr ∈ (listenerSupportedKinds l protocol.routeKind).1 := by
    obtain ⟨k, hk, heq⟩ := List.any_eq_true.1 hkind
    rw [← hbuilt, hcarries.serves.kinds] at hk
    exact of_decide_eq_true heq ▸ hk
  have hprotocol : protocol.routeKind = kind :=
    (RouteKind.asStr_injective (mem_listenerSupportedKinds hsupported)).symm
  refine ⟨gw, l, protocol, entry, ⟨hkey, hcarries, ⟨hprotocol, hprotocol ▸ hsupported⟩, ?_⟩⟩
  rw [hns, ← hcarries.serves.allowFrom, hbuilt]
  exact hadmits

/-- A frontend of an HTTPRoute under a parentRef, through a listener. -/
structure FromHttpRoute (cfg : BuildConfig) (inputs : Inputs) (index : Index) (route : HttpRoute)
    (pref : ParentRef) (gw : Gateway) (l : GatewayListeners) (protocol : ListenerProtocol)
    (entry : ExposedPort) (sf : SourcedFrontend) : Prop where
  listed : route ∈ inputs.httpRoutes
  parentRef : pref ∈ route.spec.parentRefs.getD [] ∧ pref.isGateway = true
  attached : ∃ info, Attached cfg inputs index .httpRoute route.metadata.nn.1 pref gw l protocol
    entry info
  source : sf.source = .httpRoute route.metadata.nn.1 route.metadata.nn.2
    (pref.namespace_.getD route.metadata.nn.1) pref.name pref.sectionName pref.port
  bind : sf.frontend.listener = BuildConfig.bindAddr entry.bind
  tls : sf.frontend.tls = true ↔ protocol = .https
  hostname : sf.frontend.hostname ∈ effectiveHostnames route.spec.hostnames l.hostname
  backend : ∀ clusterId, sf.frontend.clusterId = some clusterId →
    RefersTo inputs index .httpRoute route.metadata.nn.1 clusterId

/-- What a route emits under a parentRef: reports, and frontends through the listeners it
is attached to. -/
theorem traced_of_httpParent {route : HttpRoute} {pref : ParentRef} {bound : BoundParent}
    (hroute : route ∈ inputs.httpRoutes) (hpref : pref ∈ route.spec.parentRefs.getD [])
    (h : httpParent cfg inputs index (gatewayListeners (builtGateways cfg inputs index)) route
      pref = some bound) {e : Emission} (he : e ∈ bound.emissions) :
    e.IsReport ∨ ∃ sf, e = .frontend sf ∧ ∃ gw l protocol entry,
      FromHttpRoute cfg inputs index route pref gw l protocol entry sf := by
  unfold httpParent at h
  split at h
  · cases h
  rename_i hgateway
  dsimp only at h
  obtain ⟨infos, hinfos, rfl⟩ := Option.map_eq_some_iff.1 h
  split at he
  · exact absurd he List.not_mem_nil
  split at he
  · exact absurd he List.not_mem_nil
  split at he
  · exact absurd he List.not_mem_nil
  obtain ⟨rule, -, he⟩ := List.mem_flatMap.1 he
  refine (traced_of_attachRule he).imp id ?_
  rintro ⟨sf, rfl, info, hinfo, hfrom⟩
  obtain ⟨gw, l, protocol, entry, hattached⟩ :=
    attached_of_candidate hinfos (List.mem_of_mem_filter hinfo) hfrom.programmed
  have hserves := hattached.carries.serves
  have hbuilt := hattached.carries.built
  have hbind : sf.frontend.listener = BuildConfig.bindAddr entry.bind :=
    Option.some.inj (hfrom.bind.symm.trans (hbuilt ▸ hserves.bind))
  refine ⟨sf, rfl, gw, l, protocol, entry, hroute, ⟨hpref, by simpa using hgateway⟩,
    ⟨info, hattached⟩, hfrom.source, hbind, ?_, ?_, hfrom.backend⟩
  · rw [hfrom.tls, ← hbuilt, hserves.served, Option.some.injEq]
  · rw [← hserves.hostname, hbuilt]
    exact hfrom.hostname

/-! ## Layer-4 routes -/

/-- A layer-4 backendRef emits reports only, and its cluster is that of a Service its route
may refer to. -/
theorem traced_of_resolveL4Backend (view : L4RouteView) :
    Reports (resolveL4Backend inputs index view).1 ∧
      ∀ clusterId, (resolveL4Backend inputs index view).2 = some clusterId →
        RefersTo inputs index view.kind view.namespace_ clusterId := by
  have hrefused : ∀ (p : Problem) (reason : String), Reports (failRef p reason) ∧
      ∀ clusterId, (none : Option String) = some clusterId →
        RefersTo inputs index view.kind view.namespace_ clusterId :=
    fun p reason => ⟨reports_failRef p reason, fun _ h => Option.noConfusion rfl (heq_of_eq h)⟩
  unfold resolveL4Backend
  split
  · exact hrefused _ _
  · rename_i br _
    split
    · exact hrefused _ _
    split
    · exact hrefused _ _
    dsimp only
    split
    · exact hrefused _ _
    rename_i hgrant
    split
    · exact hrefused _ _
    rename_i port _
    have hroute := reports_addServiceRoute index (br.namespace_.getD view.namespace_) br.name
      (.number port)
    split
    · exact ⟨hroute.append (reports_failRef _ _), fun _ h => Option.noConfusion rfl (heq_of_eq h)⟩
    · rename_i id hasEndpoints hresult
      refine ⟨hroute.append remarks_ite.reports, fun clusterId hid => ?_⟩
      obtain rfl := Option.some.inj hid
      refine ⟨br.namespace_.getD view.namespace_, br.name, ⟨_, hasEndpoints, hresult⟩, ?_⟩
      by_cases hns : br.namespace_.getD view.namespace_ = view.namespace_
      · exact .inl hns
      · exact .inr (by simpa [hns] using hgrant)
  · exact hrefused _ _

/-- A layer-4 frontend of a route under a parentRef, through a listener. -/
structure FromL4Route (cfg : BuildConfig) (inputs : Inputs) (index : Index) (view : L4RouteView)
    (pref : ParentRef) (gw : Gateway) (l : GatewayListeners) (protocol : ListenerProtocol)
    (entry : ExposedPort) (frontend : L4Frontend) : Prop where
  listed : view ∈ l4Views inputs
  parentRef : pref ∈ view.parentRefs ∧ pref.isGateway = true
  attached : ∃ info, Attached cfg inputs index view.kind view.namespace_ pref gw l protocol entry
    info
  protocol : frontend.protocol = view.protocol
  bind : frontend.listener = BuildConfig.bindAddr entry.bind
  backend : RefersTo inputs index view.kind view.namespace_ frontend.clusterId

/-- What a layer-4 route emits under a parentRef are reports; its claims go through the
listeners it is attached to. -/
theorem traced_of_l4Parent {view : L4RouteView} {pref : ParentRef} {bound : L4BoundParent}
    (hview : view ∈ l4Views inputs) (hpref : pref ∈ view.parentRefs)
    (h : l4Parent inputs index (gatewayListeners (builtGateways cfg inputs index)) view pref =
      some bound) :
    Reports bound.emissions ∧ ∀ claim ∈ bound.claims, ∃ gw l protocol entry,
      FromL4Route cfg inputs index view pref gw l protocol entry claim.frontend := by
  unfold l4Parent at h
  split at h
  · cases h
  rename_i hgateway
  dsimp only at h
  obtain ⟨infos, hinfos, rfl⟩ := Option.map_eq_some_iff.1 h
  split
  · exact ⟨.nil, fun _ hclaim => absurd hclaim List.not_mem_nil⟩
  split
  · exact ⟨.nil, fun _ hclaim => absurd hclaim List.not_mem_nil⟩
  obtain ⟨hreports, hbackend⟩ := traced_of_resolveL4Backend view
  refine ⟨hreports, fun claim hclaim => ?_⟩
  dsimp only at hclaim
  split at hclaim
  · exact absurd hclaim List.not_mem_nil
  rename_i clusterId hcluster
  obtain ⟨info, hinfo, hmap⟩ := List.mem_filterMap.1 hclaim
  obtain ⟨hcandidate, hprogrammed⟩ := List.mem_filter.1 hinfo
  obtain ⟨bind, hbind, rfl⟩ := Option.map_eq_some_iff.1 hmap
  obtain ⟨gw, l, protocol, entry, hattached⟩ :=
    attached_of_candidate hinfos hcandidate hprogrammed
  have hserves := hattached.carries.serves
  have hbuilt := hattached.carries.built
  refine ⟨gw, l, protocol, entry, hview, ⟨hpref, by simpa using hgateway⟩, ⟨info, hattached⟩, rfl,
    ?_, hbackend clusterId hcluster⟩
  exact Option.some.inj (hbind.symm.trans (hbuilt ▸ hserves.bind))

omit [External] [CharTable] in
/-- The settled frontends are those of the claims. -/
theorem frontends_settleSockets {claims : List L4Claim} {frontend : L4Frontend}
    (h : frontend ∈ (settleSockets claims).l4Frontends) :
    ∃ claim ∈ claims, claim.frontend = frontend := by
  have hfold : ∀ (l : List L4Claim) (sockets : Sockets),
      (∀ f ∈ sockets.frontends, ∃ claim ∈ claims, claim.frontend = f) → (∀ c ∈ l, c ∈ claims) →
        ∀ f ∈ (l.foldl Sockets.settle sockets).frontends, ∃ claim ∈ claims, claim.frontend = f := by
    intro l
    induction l with
    | nil => exact fun _ h _ => h
    | cons claim l ih =>
        intro sockets hsockets hl
        refine ih _ (fun f hf => ?_) fun c hc => hl c (List.mem_cons_of_mem _ hc)
        unfold Sockets.settle at hf
        split at hf
        · rcases List.mem_append.1 hf with hf | hf
          · exact hsockets f hf
          · exact ⟨claim, hl claim List.mem_cons_self, (List.mem_singleton.1 hf).symm⟩
        · split at hf <;> exact hsockets f hf
  exact hfold _ {} (fun _ hf => absurd hf List.not_mem_nil) (fun _ => mem_sortBy.1) frontend
    (mem_sortBy.1 h)

/-! ## The walk over the Gateway API -/

/-- A certificate of one of our Gateways. -/
def FromOwnGateway (cfg : BuildConfig) (inputs : Inputs) (index : Index) (cert : ClaimedCert) :
    Prop :=
  ∃ gw ∈ ourGateways cfg inputs, FromGateway inputs index gw.metadata.nn cert

/-- **What the walk over the Gateway API emits**: reports, certificates of our Gateways,
and frontends of HTTPRoutes. -/
theorem traced_of_gatewayWalk {e : Emission} (he : e ∈ (gatewayWalk cfg inputs index).emissions) :
    e.IsReport ∨ (∃ cert, e = .certificate cert ∧ FromOwnGateway cfg inputs index cert) ∨
      ∃ sf, e = .frontend sf ∧ ∃ route pref gw l protocol entry,
        FromHttpRoute cfg inputs index route pref gw l protocol entry sf := by
  rcases List.mem_append.1 he with he | he
  · rcases List.mem_append.1 he with he | he
    · obtain ⟨built, hbuilt, he⟩ := List.mem_flatMap.1 he
      obtain ⟨gw, hgw, rfl⟩ := List.mem_map.1 hbuilt
      refine (traced_of_buildOneGateway he).imp id fun hcert => .inl ?_
      obtain ⟨cert, rfl, hfrom⟩ := hcert
      exact ⟨cert, rfl, gw, hgw, hfrom⟩
    · obtain ⟨b, hb, he⟩ := List.mem_flatMap.1 he
      obtain ⟨route, hroute, rfl⟩ := List.mem_map.1 hb
      obtain ⟨bound, hbound, he⟩ := List.mem_flatMap.1 he
      obtain ⟨pref, hpref, hparent⟩ := List.mem_filterMap.1 hbound
      refine (traced_of_httpParent (mem_sortBy.1 hroute) hpref hparent he).imp id fun hsf => .inr ?_
      obtain ⟨sf, rfl, gw, l, protocol, entry, hfrom⟩ := hsf
      exact ⟨sf, rfl, route, pref, gw, l, protocol, entry, hfrom⟩
  · obtain ⟨b, hb, he⟩ := List.mem_flatMap.1 he
    obtain ⟨view, hview, rfl⟩ := List.mem_map.1 hb
    obtain ⟨bound, hbound, he⟩ := List.mem_flatMap.1 he
    obtain ⟨pref, hpref, hparent⟩ := List.mem_filterMap.1 hbound
    exact .inl ((traced_of_l4Parent hview hpref hparent).1 e he)

/-- **Every layer-4 frontend is that of a layer-4 route.** -/
theorem traced_of_l4Frontends {frontend : L4Frontend}
    (h : frontend ∈ (gatewayWalk cfg inputs index).sockets.l4Frontends) :
    ∃ view pref gw l protocol entry,
      FromL4Route cfg inputs index view pref gw l protocol entry frontend := by
  obtain ⟨claim, hclaim, rfl⟩ := frontends_settleSockets h
  obtain ⟨⟨b, place⟩, hb, hclaim⟩ := List.mem_flatMap.1 hclaim
  obtain ⟨⟨parent, at_⟩, hparent, hclaim⟩ := List.mem_flatMap.1 hclaim
  obtain ⟨original, horiginal, rfl⟩ := List.mem_map.1 hclaim
  have hbound := List.mem_of_mem_filter (List.fst_mem_of_mem_zipIdx hb)
  obtain ⟨view, hview, rfl⟩ := List.mem_map.1 hbound
  obtain ⟨pref, hpref, hbuilt⟩ := List.mem_filterMap.1 (List.fst_mem_of_mem_zipIdx hparent)
  obtain ⟨gw, l, protocol, entry, hfrom⟩ :=
    (traced_of_l4Parent hview hpref hbuilt).2 original horiginal
  exact ⟨view, pref, gw, l, protocol, entry, hfrom⟩

end Routes

end Walks

end Builder

end SozuGateway
