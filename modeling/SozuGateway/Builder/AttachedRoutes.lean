import SozuGateway.Builder.RouteProvenance

/-!
# How many routes a listener reports

`attachedRoutes` counts routes.  The walk counts a layer-4 route once for a listener, but an
HTTPRoute once for each of its parentRefs that attaches it.

* `selects`, `admits`, `ruleRefused` — when a parentRef attaches its route to a listener.
* `attachedObjects` — the route objects attached to a listener.
* `count_attachments` — what the walk counts for a listener.
* `attached_routes_iff` — it is the number of those objects exactly when no HTTPRoute attaches
  twice.
-/

set_option autoImplicit false

namespace SozuGateway

namespace Builder

open Lib

/-! ## Tallies -/

section Tallies

variable {α : Type*}

/-- The elements tallied at least once are no more than the sum, and as many only where each is
tallied once. -/
theorem sum_eq_length_filter_iff (l : List (α × ℕ)) :
    (l.filter fun t => 0 < t.2).length ≤ (l.map Prod.snd).sum ∧
      ((l.map Prod.snd).sum = (l.filter fun t => 0 < t.2).length ↔ ∀ t ∈ l, t.2 ≤ 1) := by
  induction l with
  | nil => simp
  | cons t l ih =>
    obtain ⟨hle, hiff⟩ := ih
    by_cases ht : 0 < t.2
    · simp only [List.filter_cons, ht, decide_true, if_true, List.length_cons, List.map_cons,
        List.sum_cons, List.forall_mem_cons, ← hiff]
      omega
    · simp only [List.filter_cons, ht, decide_false, Bool.false_eq_true, if_false, List.map_cons,
        List.sum_cons, List.forall_mem_cons, ← hiff]
      omega

/-- **A tally adds up to the number of distinct elements tallied exactly when no element is
tallied twice**, in one entry or in two. -/
theorem sum_eq_length_dedup_iff [DecidableEq α] (l : List (α × ℕ)) :
    (l.map Prod.snd).sum = ((l.filter fun t => 0 < t.2).map Prod.fst).dedup.length ↔
      (∀ t ∈ l, t.2 ≤ 1) ∧ ((l.filter fun t => 0 < t.2).map Prod.fst).Nodup := by
  obtain ⟨hle, hiff⟩ := sum_eq_length_filter_iff l
  have hsub := List.dedup_sublist ((l.filter fun t => 0 < t.2).map Prod.fst)
  have hlength : ((l.filter fun t => 0 < t.2).map Prod.fst).length =
      (l.filter fun t => 0 < t.2).length := List.length_map _
  have hdedup := hsub.length_le
  have hnodup := hsub.length_eq.trans List.dedup_eq_self
  rw [← hiff, ← hnodup, hlength]
  omega

end Tallies

/-! ## Attachment -/

/-- The listeners of a Gateway have distinct names. -/
def UniqueListenerNames (inputs : Inputs) : Prop :=
  ∀ gw ∈ inputs.gateways, (gw.spec.listeners.map GatewayListeners.name).Nodup

instance (inputs : Inputs) : Decidable (UniqueListenerNames inputs) :=
  inferInstanceAs (Decidable (∀ gw ∈ inputs.gateways,
    (gw.spec.listeners.map GatewayListeners.name).Nodup))

/-- A parentRef of a route selects a listener of a Gateway, by name, section and port. -/
def selects (routeNs : String) (pref : ParentRef) (gw : ObjectKey) (l : ListenerInfo) : Bool :=
  pref.isGateway && objectKey (pref.namespace_.getD routeNs) pref.name = gw && l.routable &&
    pref.sectionName.all (fun sn => sn = l.name) && pref.port.all fun p => p = l.port

/-- An accepted listener of a Gateway admits the routes of a kind and namespace. -/
def admits (index : Index) (kind : RouteKind) (routeNs : String) (gw : ObjectKey)
    (l : ListenerInfo) : Bool :=
  l.accepted && l.admitsKind kind && l.allowFrom.admits routeNs (ofLex gw).1 index

section Attachment

variable [External]

/-- A match with a header condition of a type this build does not know. -/
def unknownMatchType (sozuHeaders : SozuRequestHeaders) (m : HttpRouteRulesMatches) : Bool :=
  m.queryParams.getD 0 = 0 &&
    match headerMatches (m.headers.getD []) sozuHeaders with
    | .error refusal => refusal.unsupportedType
    | .ok _ => false

variable [CharTable]

/-- A rule that takes its route's acceptance: a filter that cannot be honoured, or, where its
backend resolves, a match of an unknown type. -/
def ruleRefused (inputs : Inputs) (index : Index) (sozuHeaders : SozuRequestHeaders)
    (routeNs : String) (rule : HttpRouteRules) : Bool :=
  let parsed := parseFilters (rule.filters.getD [])
  parsed.unprogrammable ||
    ((ruleBackend inputs index routeNs rule parsed.filters).clusterId.isSome &&
      (rule.matches_.getD []).any (unknownMatchType sozuHeaders))

/-- A parentRef attaches an HTTPRoute to a listener. -/
def httpAttaches (cfg : BuildConfig) (inputs : Inputs) (index : Index) (gw : ObjectKey)
    (l : ListenerInfo) (route : HttpRoute) (pref : ParentRef) : Bool :=
  selects route.metadata.nn.1 pref gw l && admits index .httpRoute route.metadata.nn.1 gw l &&
    !(effectiveHostnames route.spec.hostnames l.hostname).isEmpty &&
    (route.spec.rules.getD []).all fun rule =>
      !ruleRefused inputs index cfg.sozuRequestHeaders route.metadata.nn.1 rule

/-- A parentRef attaches a layer-4 route to a listener. -/
def l4Attaches (index : Index) (gw : ObjectKey) (l : ListenerInfo) (view : L4RouteView)
    (pref : ParentRef) : Bool :=
  selects view.namespace_ pref gw l && admits index view.kind view.namespace_ gw l

/-! ## Refused rules -/

/-- No emission takes the acceptance of its route. -/
def Quiet (emissions : List Emission) : Prop := ∀ reason, .override reason ∉ emissions

omit [External] [CharTable] in
theorem overridden_eq_none_iff {emissions : List Emission} :
    Emission.overridden emissions = none ↔ Quiet emissions := by
  induction emissions using List.reverseRecOn with
  | nil => simp [Emission.overridden, Quiet]
  | append_singleton l e ih =>
    rw [Emission.overridden] at ih
    rw [Emission.overridden, List.foldl_append, List.foldl_cons, List.foldl_nil]
    cases e with
    | override reason =>
      refine iff_of_false (Option.some_ne_none reason) fun h => h reason ?_
      exact List.mem_append_right l List.mem_cons_self
    | _ => simpa [Quiet] using ih

omit [External] [CharTable] in
theorem quiet_append {l l' : List Emission} : Quiet (l ++ l') ↔ Quiet l ∧ Quiet l' := by
  simp [Quiet, forall_and]

omit [External] [CharTable] in
theorem quiet_flatMap {α : Type} {f : α → List Emission} {l : List α} :
    Quiet (l.flatMap f) ↔ ∀ a ∈ l, Quiet (f a) := by
  constructor
  · intro h a ha reason hmem
    exact h reason (List.mem_flatMap.2 ⟨a, ha, hmem⟩)
  · intro h reason hmem
    obtain ⟨a, ha, hmem⟩ := List.mem_flatMap.1 hmem
    exact h a ha reason hmem

omit [External] [CharTable] in
theorem quiet_failRef (problem : Problem) (reason : String) : Quiet (failRef problem reason) := by
  simp [Quiet, failRef]

omit [External] [CharTable] in
/-- A filter only ever adds a problem. -/
theorem ParsedFilters.quiet_step {parsed : ParsedFilters} (h : Quiet parsed.emissions)
    (filter : HttpRouteRulesFilters) : Quiet (parsed.step filter).emissions := by
  have hunsupported : ∀ {parsed : ParsedFilters}, Quiet parsed.emissions →
      ∀ kind, Quiet (parsed.unsupported kind).emissions := fun h _ =>
    quiet_append.2 ⟨h, by simp [Quiet]⟩
  have hedits : ∀ (on : HeaderTarget) (replace : Bool) (edits : List HeaderEdit)
      {parsed : ParsedFilters}, Quiet parsed.emissions →
      Quiet (edits.foldl (ParsedFilters.pushHeaderValue on replace) parsed).emissions := by
    intro on replace edits
    induction edits with
    | nil => exact fun h => h
    | cons edit edits ih =>
      intro parsed h
      refine ih ?_
      unfold ParsedFilters.pushHeaderValue
      split
      · exact hunsupported h _
      · exact h
  have hmodify : ∀ on (m : Option HeaderModifier), Quiet (parsed.modifyHeaders on m).emissions := by
    intro on m
    cases m with
    | none => exact h
    | some m => exact hedits on false _ (hedits on true _ h)
  unfold ParsedFilters.step
  split
  · exact hmodify _ _
  · exact hmodify _ _
  · split
    · exact h
    · split
      · exact hunsupported h _
      · exact h
  · split
    · exact hunsupported h _
    · exact hunsupported h _
  all_goals exact hunsupported h _

omit [External] [CharTable] in
theorem quiet_parseFilters (filters : List HttpRouteRulesFilters) :
    Quiet (parseFilters filters).emissions := by
  have hfold : ∀ (l : List HttpRouteRulesFilters) (parsed : ParsedFilters),
      Quiet parsed.emissions → Quiet (l.foldl ParsedFilters.step parsed).emissions := by
    intro l
    induction l with
    | nil => exact fun _ h => h
    | cons filter l ih => exact fun parsed h => ih _ (ParsedFilters.quiet_step h filter)
  exact hfold filters {} (by simp [Quiet])

theorem quiet_addServiceRoute (index : Index) (ns service : String) (portRef : PortRef) :
    Quiet (addServiceRoute index ns service portRef).emissions := by
  unfold addServiceRoute
  split
  · simp [Quiet]
  · dsimp only
    split <;> simp [Quiet, fqdnReports]

theorem quiet_ruleBackend (inputs : Inputs) (index : Index) (routeNs : String)
    (rule : HttpRouteRules) (filters : FrontendFilters) :
    Quiet (ruleBackend inputs index routeNs rule filters).emissions := by
  unfold ruleBackend
  split
  · split
    · simp [Quiet]
    · exact quiet_failRef _ _
  · rename_i br _
    unfold httpBackendRef
    split
    · exact quiet_failRef _ _
    split
    · exact quiet_failRef _ _
    dsimp only
    have hfiltered : Quiet (if 0 < br.filters.getD 0 then
        [.problem (.filterUnsupported ("filters on backendRef " ++ br.name))] else []) := by
      split <;> simp [Quiet]
    split
    · exact quiet_append.2 ⟨hfiltered, quiet_failRef _ _⟩
    split
    · exact quiet_append.2 ⟨hfiltered, quiet_failRef _ _⟩
    have hroute := quiet_addServiceRoute index (br.namespace_.getD routeNs) br.name
    split
    · exact quiet_append.2 ⟨quiet_append.2 ⟨hfiltered, hroute _⟩, quiet_failRef _ _⟩
    · refine quiet_append.2 ⟨quiet_append.2 ⟨quiet_append.2 ⟨quiet_append.2 ⟨hfiltered, hroute _⟩,
        ?_⟩, ?_⟩, ?_⟩
      · unfold HttpBackendProtocol.configure
        split <;> simp [Quiet]
      · split <;> simp [Quiet]
      · split <;> simp [Quiet]
  · exact quiet_failRef _ _

omit [CharTable] in
theorem quiet_listenerFrontends (target : RuleTarget) (routeHostnames : Option (List String))
    (routeMatch : RouteMatch) (l : ListenerInfo) :
    Quiet (listenerFrontends target routeHostnames routeMatch l) := by
  unfold listenerFrontends
  split
  · simp [Quiet]
  split
  · intro reason hmem
    obtain ⟨hostname, -, heq⟩ := List.mem_map.1 hmem
    split at heq <;> cases heq
  · simp [Quiet]

omit [CharTable] in
theorem quiet_parseMatches_iff (sozuHeaders : SozuRequestHeaders) (rule : HttpRouteRules) :
    Quiet ((parseMatches sozuHeaders rule).flatMap ParsedMatch.emissions) ↔
      (rule.matches_.getD []).any (unknownMatchType sozuHeaders) = false := by
  have hmatch : ∀ m : HttpRouteRulesMatches, Quiet (parseMatch sozuHeaders m).emissions ↔
      unknownMatchType sozuHeaders m = false := by
    intro m
    unfold parseMatch unknownMatchType
    by_cases hquery : 0 < m.queryParams.getD 0
    · simp [hquery, Nat.ne_of_gt hquery, Quiet]
    · rw [if_neg hquery]
      have hzero : m.queryParams.getD 0 = 0 := Nat.eq_zero_of_not_pos hquery
      cases hheaders : headerMatches (m.headers.getD []) sozuHeaders with
      | error refusal => cases hrefusal : refusal.unsupportedType <;> simp [hzero, hrefusal, Quiet]
      | ok headers =>
        dsimp only
        split <;> simp [hzero, Quiet]
  rw [quiet_flatMap, List.any_eq_false]
  unfold parseMatches
  split
  · simp_all [Quiet]
  · simp_all [Quiet]
  · rename_i ms _ hms
    simp [hms, hmatch]

/-- **A rule takes its route's acceptance whatever the listeners.** -/
theorem quiet_attachRule_iff {inputs : Inputs} {index : Index} {sozuHeaders : SozuRequestHeaders}
    {routeNs : String} {routeHostnames : Option (List String)} {infos : List ListenerInfo}
    {source : FrontendSource} {rule : HttpRouteRules} :
    Quiet (attachRule inputs index sozuHeaders routeNs routeHostnames infos source rule) ↔
      ruleRefused inputs index sozuHeaders routeNs rule = false := by
  unfold attachRule ruleRefused
  dsimp only
  cases hparsed : (parseFilters (rule.filters.getD [])).unprogrammable with
  | true =>
    simp only [if_true, Bool.true_or, Bool.true_eq_false, iff_false, quiet_append, not_and]
    intro _ h
    exact h "UnsupportedValue" List.mem_cons_self
  | false =>
    have htimeouts : Quiet (if rule.timeouts.any fun t => t.request.isSome ||
        t.backendRequest.isSome then [.problem .timeoutsUnsupported] else []) := by
      split <;> simp [Quiet]
    have hbackend := quiet_ruleBackend inputs index routeNs rule
      (parseFilters (rule.filters.getD [])).filters
    simp only [Bool.false_eq_true, if_false, Bool.false_or, quiet_append,
      quiet_parseFilters (rule.filters.getD []), htimeouts, hbackend, true_and]
    cases hcluster : (ruleBackend inputs index routeNs rule
        (parseFilters (rule.filters.getD [])).filters).clusterId with
    | none => simp [Quiet]
    | some clusterId =>
      have hfrontends : ∀ matched : List RouteMatch, Quiet (matched.flatMap fun routeMatch =>
          infos.flatMap (listenerFrontends
            ⟨source, clusterId, (parseFilters (rule.filters.getD [])).filters⟩ routeHostnames
            routeMatch)) := fun matched =>
        quiet_flatMap.2 fun m _ => quiet_flatMap.2 fun l _ => quiet_listenerFrontends _ _ _ _
      simp only [quiet_append, hfrontends, and_true, Option.isSome_some, Bool.true_and]
      exact quiet_parseMatches_iff sozuHeaders rule

/-! ## The attachments of a route -/

omit [External] [CharTable] in
/-- Among the names of some listeners of a Gateway, that of one of them stands once where it is
one of those, and nowhere otherwise. -/
theorem count_attachedTo {infos : List ListenerInfo}
    (hnames : (infos.map ListenerInfo.name).Nodup) {l : ListenerInfo} (hl : l ∈ infos)
    (p : ListenerInfo → Bool) {result : RouteParentResult} {gw : ObjectKey}
    (hgw : objectKey result.gatewayNamespace result.gatewayName = gw) :
    (attachedTo result ((infos.filter p).map ListenerInfo.name)).count (toLex (gw, l.name)) =
      if p l then 1 else 0 := by
  have hkey : Function.Injective fun name : String => (toLex (gw, name) : ListenerKey) := by
    intro a b hab
    exact congrArg (fun key => (ofLex key).2) hab
  have hnodup : ((infos.filter p).map ListenerInfo.name).Nodup :=
    hnames.sublist (List.filter_sublist.map _)
  have hmem : l.name ∈ (infos.filter p).map ListenerInfo.name ↔ p l = true := by
    constructor
    · intro h
      obtain ⟨l', hl', heq⟩ := List.mem_map.1 h
      obtain ⟨hinfo, hp⟩ := List.mem_filter.1 hl'
      rwa [← List.inj_on_of_nodup_map hnames hinfo hl heq]
    · exact fun hp => List.mem_map_of_mem (List.mem_filter.2 ⟨hl, hp⟩)
  rw [attachedTo, hgw, List.count_map_of_injective _ _ hkey, hnodup.count]
  simp [hmem]

omit [External] [CharTable] in
/-- A listener of another Gateway is not among them. -/
theorem count_attachedTo_of_ne {result : RouteParentResult} {gw : ObjectKey}
    (hgw : objectKey result.gatewayNamespace result.gatewayName ≠ gw) (attached : List String)
    (name : String) : (attachedTo result attached).count (toLex (gw, name)) = 0 := by
  refine List.count_eq_zero.2 fun hmem => ?_
  obtain ⟨name', -, heq⟩ := List.mem_map.1 hmem
  exact hgw (congrArg (fun key => (ofLex key).1) heq)

variable {cfg : BuildConfig} {inputs : Inputs} {index : Index} {gwListeners : GatewayListenersMap}
    {gw : ObjectKey} {infos : List ListenerInfo} {l : ListenerInfo}

/-- No rule takes the acceptance of its route, whatever the listeners. -/
theorem isNone_overridden {rules : List HttpRouteRules} {sozuHeaders : SozuRequestHeaders}
    {routeNs : String} (routeHostnames : Option (List String)) (infos : List ListenerInfo)
    (source : FrontendSource) :
    (Emission.overridden (rules.flatMap
      (attachRule inputs index sozuHeaders routeNs routeHostnames infos source))).isNone =
        rules.all fun rule => !ruleRefused inputs index sozuHeaders routeNs rule := by
  rw [Bool.eq_iff_iff, Option.isNone_iff_eq_none, overridden_eq_none_iff, quiet_flatMap,
    List.all_eq_true]
  simp only [quiet_attachRule_iff, Bool.not_eq_true']

/-- The Gateway a parentRef of a route names. -/
abbrev parentKey (routeNs : String) (pref : ParentRef) : ObjectKey :=
  objectKey (pref.namespace_.getD routeNs) pref.name

omit [External] [CharTable] in
theorem isGateway_of_selects {routeNs : String} {pref : ParentRef}
    (h : selects routeNs pref gw l = true) :
    pref.isGateway = true ∧ parentKey routeNs pref = gw := by
  simp only [selects, Bool.and_eq_true, decide_eq_true_eq] at h
  exact h.1.1.1

/-- A parent of a route: its result and the listeners it is attached to, those some test selects
from the listeners of the Gateway it names. -/
structure BindsTo (gwListeners : GatewayListenersMap) (routeNs : String) (pref : ParentRef)
    (attaches : ObjectKey → ListenerInfo → Bool)
    (parent : Option (RouteParentResult × List String)) : Prop where
  bound : ∀ x, parent = some x →
    objectKey x.1.gatewayNamespace x.1.gatewayName = parentKey routeNs pref ∧
      ∃ infos, gwListeners[parentKey routeNs pref]? = some infos ∧
        x.2 = (infos.filter (attaches (parentKey routeNs pref))).map ListenerInfo.name
  found : pref.isGateway = true → gwListeners[parentKey routeNs pref]?.isSome → parent.isSome
  selected : ∀ gw l, attaches gw l = true → selects routeNs pref gw l = true

/-- **An HTTPRoute binds to the listeners its parentRef attaches it to.** -/
theorem bindsTo_httpParent (cfg : BuildConfig) (inputs : Inputs) (index : Index)
    (route : HttpRoute) (pref : ParentRef) : BindsTo gwListeners route.metadata.nn.1 pref
      (fun gw l => httpAttaches cfg inputs index gw l route pref)
      ((httpParent cfg inputs index gwListeners route pref).map fun p =>
        (p.result, p.attached)) where
  bound x hx := by
    obtain ⟨bound, hbound, rfl⟩ := Option.map_eq_some_iff.1 hx
    unfold httpParent at hbound
    split at hbound
    · cases hbound
    rename_i hgateway
    dsimp only at hbound
    obtain ⟨infos, hinfos, rfl⟩ := Option.map_eq_some_iff.1 hbound
    refine ⟨?_, infos, hinfos, ?_⟩
    · split_ifs <;> rfl
    have hattaches : infos.filter (fun l => httpAttaches cfg inputs index
        (parentKey route.metadata.nn.1 pref) l route pref) =
        if (route.spec.rules.getD []).all fun rule =>
          !ruleRefused inputs index cfg.sozuRequestHeaders route.metadata.nn.1 rule then
          matching route.spec.hostnames (candidates index .httpRoute route.metadata.nn.1
            (pref.namespace_.getD route.metadata.nn.1) (addressable pref infos))
        else [] := by
      split_ifs with hrules
      · rw [matching, candidates, addressable, List.filter_filter, List.filter_filter]
        refine List.filter_congr fun l _ => ?_
        simp only [httpAttaches, selects, admits, hrules, by simpa using hgateway, decide_true,
          Bool.true_and, Bool.and_true]
        ac_rfl
      · simp [httpAttaches, hrules]
    rw [hattaches]
    generalize addressable pref infos = addressed
    by_cases haddressed : addressed = []
    · simp [haddressed, candidates, matching, unbound]
    rw [if_neg haddressed]
    generalize candidates index .httpRoute _ _ addressed = admitted
    by_cases hadmitted : admitted = []
    · simp [hadmitted, matching, unbound]
    rw [if_neg hadmitted]
    generalize matching route.spec.hostnames admitted = matched
    by_cases hmatched : matched = []
    · simp [hmatched, unbound]
    · rw [if_neg hmatched]
      dsimp only
      rw [isNone_overridden]
      split <;> rfl
  found hgateway hfound := by
    obtain ⟨infos, hinfos⟩ := Option.isSome_iff_exists.1 hfound
    simp [httpParent, hgateway, hinfos]
  selected gw l h := by
    simp only [httpAttaches, Bool.and_eq_true] at h
    exact h.1.1.1

/-- **So does a layer-4 route.** -/
theorem bindsTo_l4Parent (inputs : Inputs) (index : Index) (view : L4RouteView)
    (pref : ParentRef) :
    BindsTo gwListeners view.namespace_ pref (fun gw l => l4Attaches index gw l view pref)
      ((l4Parent inputs index gwListeners view pref).map fun p => (p.result, p.attached)) where
  bound x hx := by
    obtain ⟨bound, hbound, rfl⟩ := Option.map_eq_some_iff.1 hx
    unfold l4Parent at hbound
    split at hbound
    · cases hbound
    rename_i hgateway
    dsimp only at hbound
    obtain ⟨infos, hinfos, rfl⟩ := Option.map_eq_some_iff.1 hbound
    refine ⟨?_, infos, hinfos, ?_⟩
    · split_ifs <;> rfl
    have hattaches : infos.filter (fun l => l4Attaches index (parentKey view.namespace_ pref) l view
        pref) = candidates index view.kind view.namespace_ (pref.namespace_.getD view.namespace_)
          (addressable pref infos) := by
      rw [candidates, addressable, List.filter_filter]
      refine List.filter_congr fun l _ => ?_
      simp only [l4Attaches, selects, admits, by simpa using hgateway, decide_true, Bool.true_and]
      ac_rfl
    rw [hattaches]
    generalize addressable pref infos = addressed
    by_cases haddressed : addressed = []
    · simp [haddressed, candidates, l4Unbound]
    rw [if_neg haddressed]
    generalize candidates index view.kind _ _ addressed = admitted
    by_cases hadmitted : admitted = []
    · simp [hadmitted, l4Unbound]
    · rw [if_neg hadmitted]
  found hgateway hfound := by
    obtain ⟨infos, hinfos⟩ := Option.isSome_iff_exists.1 hfound
    simp [l4Parent, hgateway, hinfos]
  selected gw l h := by
    simp only [l4Attaches, Bool.and_eq_true] at h
    exact h.1

section Count

variable (hinfos : gwListeners[gw]? = some infos)
    (hnames : (infos.map ListenerInfo.name).Nodup) (hl : l ∈ infos)

include hinfos hnames hl

omit [External] [CharTable] in
/-- **A parent adds one to the count of each listener it attaches its route to.** -/
theorem BindsTo.count {routeNs : String} {pref : ParentRef}
    {attaches : ObjectKey → ListenerInfo → Bool} {parent : Option (RouteParentResult × List String)}
    (h : BindsTo gwListeners routeNs pref attaches parent) :
    (parent.elim [] fun x => attachedTo x.1 x.2).count (toLex (gw, l.name)) =
      if attaches gw l then 1 else 0 := by
  by_cases hgw : parentKey routeNs pref = gw
  · cases hparent : parent with
    | none =>
      have hnot : ¬attaches gw l = true := fun hattaches => by
        have hgateway := (isGateway_of_selects (h.selected gw l hattaches)).1
        have hsome := h.found hgateway (by rw [hgw, hinfos, Option.isSome_some])
        rw [hparent] at hsome
        exact Bool.false_ne_true hsome
      rw [if_neg hnot]
      rfl
    | some x =>
      obtain ⟨hkey, infos', hinfos', hattached⟩ := h.bound x hparent
      rw [hgw, hinfos, Option.some.injEq] at hinfos'
      subst hinfos'
      rw [Option.elim_some, hattached, hgw]
      exact count_attachedTo hnames hl (attaches gw) (hkey.trans hgw)
  · have hnot : ¬attaches gw l = true := fun hattaches =>
      hgw (isGateway_of_selects (h.selected gw l hattaches)).2
    rw [if_neg hnot]
    cases hparent : parent with
    | none => rfl
    | some x => exact count_attachedTo_of_ne (fun hkey => hgw ((h.bound x hparent).1 ▸ hkey)) _ _

omit [External] [CharTable] in
/-- The parents of a route add one for each of its parentRefs that attaches it. -/
theorem count_parents {routeNs : String} {attaches : ParentRef → ObjectKey → ListenerInfo → Bool}
    {parent : ParentRef → Option (RouteParentResult × List String)}
    (h : ∀ pref, BindsTo gwListeners routeNs pref (attaches pref) (parent pref))
    (prefs : List ParentRef) :
    ((prefs.filterMap parent).flatMap fun x => attachedTo x.1 x.2).count (toLex (gw, l.name)) =
      prefs.countP fun pref => attaches pref gw l := by
  induction prefs with
  | nil => rfl
  | cons pref prefs ih =>
    have hcount := (h pref).count hinfos hnames hl
    rw [List.countP_cons, ← ih, ← hcount, add_comm, ← List.count_append]
    cases hparent : parent pref with
    | none => simp [hparent]
    | some x => simp [hparent]

end Count

/-! ## The routes of a listener -/

/-- A route object: kind, namespace and name. -/
abbrev RouteObject := RouteKind × String × String

/-- The identity of an HTTPRoute. -/
def HttpRoute.object (route : HttpRoute) : RouteObject :=
  (.httpRoute, route.metadata.nn.1, route.metadata.nn.2)

/-- The identity of a layer-4 route. -/
def L4RouteView.object (view : L4RouteView) : RouteObject := (view.kind, view.namespace_, view.name)

/-- How many parentRefs attach an HTTPRoute to a listener. -/
def httpAttachments (cfg : BuildConfig) (inputs : Inputs) (index : Index) (gw : ObjectKey)
    (l : ListenerInfo) (route : HttpRoute) : ℕ :=
  (route.spec.parentRefs.getD []).countP (httpAttaches cfg inputs index gw l route)

/-- Some parentRef attaches a layer-4 route to a listener. -/
def l4Attached (index : Index) (gw : ObjectKey) (l : ListenerInfo) (view : L4RouteView) : Bool :=
  view.parentRefs.any (l4Attaches index gw l view)

/-- The routes of the inputs, each with what the walk counts of it for a listener. -/
def tallies (cfg : BuildConfig) (inputs : Inputs) (index : Index) (gw : ObjectKey)
    (l : ListenerInfo) : List (RouteObject × ℕ) :=
  (inputs.httpRoutes.map fun route =>
      (route.object, httpAttachments cfg inputs index gw l route)) ++
    (l4Views inputs).map fun view => (view.object, if l4Attached index gw l view then 1 else 0)

/-- **What the walk counts**: each parentRef that attaches an HTTPRoute, each layer-4 route
attached. -/
theorem count_attachments (hinfos : gwListeners[gw]? = some infos)
    (hnames : (infos.map ListenerInfo.name).Nodup) (hl : l ∈ infos) :
    (attachments (httpBound cfg inputs index gwListeners) (l4Bound inputs index gwListeners)).count
        (toLex (gw, l.name)) = ((tallies cfg inputs index gw l).map Prod.snd).sum := by
  have hhttp : ∀ route : HttpRoute, ((httpRouteParents cfg inputs index gwListeners route).flatMap
      fun p => attachedTo p.result p.attached).count (toLex (gw, l.name)) =
        httpAttachments cfg inputs index gw l route := by
    intro route
    rw [httpAttachments,
      ← count_parents hinfos hnames hl (bindsTo_httpParent cfg inputs index route),
      httpRouteParents, ← List.map_filterMap, List.flatMap_map]
  have hl4 : ∀ view : L4RouteView, ((l4RouteParents inputs index gwListeners view).flatMap
      fun p => attachedTo p.result p.attached).dedup.count (toLex (gw, l.name)) =
        if l4Attached index gw l view then 1 else 0 := by
    intro view
    have hcount := count_parents hinfos hnames hl (bindsTo_l4Parent inputs index view)
      view.parentRefs
    rw [← List.map_filterMap, List.flatMap_map] at hcount
    rw [(List.nodup_dedup _).count]
    refine if_congr ?_ rfl rfl
    rw [List.mem_dedup, ← List.count_pos_iff, l4RouteParents, hcount, List.countP_pos_iff,
      l4Attached, List.any_eq_true]
  rw [attachments, List.count_append, List.count_flatMap, List.count_flatMap, tallies,
    List.map_append, List.sum_append, httpBound, l4Bound, orderedHttpRoutes, List.map_map,
    List.map_map, List.map_map, List.map_map]
  congr 1
  · rw [((sortBy_perm httpRouteOrder inputs.httpRoutes).map _).sum_eq]
    exact congrArg List.sum (List.map_congr_left fun route _ => hhttp route)
  · exact congrArg List.sum (List.map_congr_left fun view _ => hl4 view)

/-- The routes of the inputs that some parentRef attaches to a listener. -/
def attachedList (cfg : BuildConfig) (inputs : Inputs) (index : Index) (gw : ObjectKey)
    (l : ListenerInfo) : List RouteObject :=
  ((inputs.httpRoutes.filter fun route =>
      (route.spec.parentRefs.getD []).any (httpAttaches cfg inputs index gw l route)).map
    HttpRoute.object) ++
      ((l4Views inputs).filter (l4Attached index gw l)).map L4RouteView.object

/-- The route objects attached to a listener, each once. -/
def attachedObjects (cfg : BuildConfig) (inputs : Inputs) (index : Index) (gw : ObjectKey)
    (l : ListenerInfo) : Finset RouteObject :=
  (attachedList cfg inputs index gw l).toFinset

/-- No HTTPRoute is attached to the listener by two of its parentRefs, and the inputs list no
attached object twice. -/
structure AttachedOnce (cfg : BuildConfig) (inputs : Inputs) (index : Index) (gw : ObjectKey)
    (l : ListenerInfo) : Prop where
  parentRefs : ∀ route ∈ inputs.httpRoutes,
    (route.spec.parentRefs.getD []).countP (httpAttaches cfg inputs index gw l route) ≤ 1
  listed : (attachedList cfg inputs index gw l).Nodup

theorem map_filter_tallies :
    ((tallies cfg inputs index gw l).filter fun t => 0 < t.2).map Prod.fst =
      attachedList cfg inputs index gw l := by
  rw [tallies, attachedList, List.filter_append, List.map_append, List.filter_map, List.filter_map,
    List.map_map, List.map_map]
  congr 2
  · refine List.filter_congr fun route _ => ?_
    rw [Function.comp_apply, httpAttachments, Bool.eq_iff_iff, decide_eq_true_iff,
      List.countP_pos_iff, List.any_eq_true]
  · refine List.filter_congr fun view _ => ?_
    simp only [Function.comp_apply]
    split <;> simp_all

/-- **The sum of the tallies is the number of route objects exactly when each is counted once.** -/
theorem sum_tallies_iff :
    ((tallies cfg inputs index gw l).map Prod.snd).sum =
      (attachedObjects cfg inputs index gw l).card ↔ AttachedOnce cfg inputs index gw l := by
  have honce : (∀ t ∈ tallies cfg inputs index gw l, t.2 ≤ 1) ↔
      ∀ route ∈ inputs.httpRoutes, httpAttachments cfg inputs index gw l route ≤ 1 := by
    simp only [tallies, List.forall_mem_append, List.forall_mem_map, and_iff_left_iff_imp]
    intro _ view _
    split <;> omega
  rw [attachedObjects, List.card_toFinset, ← map_filter_tallies, sum_eq_length_dedup_iff, honce,
    map_filter_tallies]
  exact ⟨fun h => ⟨h.1, h.2⟩, fun h => ⟨h.parentRefs, h.listed⟩⟩

/-! ## The build -/

/-- The listeners of a Gateway, as the build settles them. -/
def listenersOf (cfg : BuildConfig) (inputs : Inputs) (gw : ObjectKey) : List ListenerInfo :=
  (gatewayListeners (builtGateways cfg inputs (Index.build inputs cfg.healthCheck)))[gw]?.getD []

/-- The listener of a name. -/
def listenerNamed (cfg : BuildConfig) (inputs : Inputs) (gw : ObjectKey) (name : String) :
    Option ListenerInfo :=
  (listenersOf cfg inputs gw).find? fun l => l.name = name

/-- A listener keeps its name. -/
theorem name_buildListener (gw : String × String) (l : GatewayListeners) :
    (buildListener cfg inputs index gw l).info.name = l.name := by
  have hkinds : ∀ (info : ListenerInfo) (protocol : ListenerProtocol),
      (listenerKinds info l protocol).name = info.name := fun info protocol => by
    rw [listenerKinds_eq]
  unfold buildListener
  dsimp only
  split_ifs <;> (repeat' split) <;> simp [hkinds, ListenerInfo.refused, ListenerInfo.declared]

/-- The listeners of a Gateway have the names it declares. -/
theorem names_buildOneGateway (gw : Gateway) :
    (buildOneGateway cfg inputs index gw).listeners.map ListenerInfo.name =
      gw.spec.listeners.map GatewayListeners.name := by
  have hbuilt : ((gw.spec.listeners.map (buildListener cfg inputs index gw.metadata.nn)).map
      BuiltListener.info).map ListenerInfo.name = gw.spec.listeners.map GatewayListeners.name := by
    rw [List.map_map, List.map_map]
    exact List.map_congr_left fun l _ => name_buildListener gw.metadata.nn l
  unfold buildOneGateway
  dsimp only
  split
  · dsimp only
    rw [List.map_map, ← hbuilt]
    rfl
  · exact hbuilt

theorem nodup_names_of_mem (hunique : UniqueListenerNames inputs)
    (hinfos : (gatewayListeners (builtGateways cfg inputs index))[gw]? = some infos) :
    (infos.map ListenerInfo.name).Nodup := by
  have hfill : (fill (fun x : Gateway × BuiltGateway => (toLex x.1.metadata.nn : ObjectKey))
      (fun x => x.2.listeners) ∅ (builtGateways cfg inputs index))[gw]? = some infos := hinfos
  rcases exists_of_fill hfill with hempty | ⟨⟨gateway, b⟩, hmem, -, rfl⟩
  · exact Option.noConfusion rfl (heq_of_eq (hempty.symm.trans (BTreeMap.getElem?_empty gw)))
  · obtain ⟨gateway', hgateway, heq⟩ := List.mem_map.1 hmem
    obtain ⟨rfl, rfl⟩ := Prod.mk.inj heq
    rw [names_buildOneGateway]
    exact hunique gateway' (List.mem_of_mem_filter hgateway)

/-- The listener of a name, where names are distinct. -/
theorem listenerNamed_eq (hunique : UniqueListenerNames inputs)
    (hl : l ∈ listenersOf cfg inputs gw) : listenerNamed cfg inputs gw l.name = some l := by
  obtain ⟨l', hl'⟩ : ∃ l', listenerNamed cfg inputs gw l.name = some l' := by
    rw [← Option.isSome_iff_exists, listenerNamed, List.find?_isSome]
    exact ⟨l, hl, by simp⟩
  have hmem := List.mem_of_find?_eq_some hl'
  have hname : l'.name = l.name := by simpa using List.find?_some hl'
  rw [listenersOf] at hl hmem
  cases hinfos : (gatewayListeners
      (builtGateways cfg inputs (Index.build inputs cfg.healthCheck)))[gw]? with
  | none =>
    rw [hinfos] at hl
    exact absurd hl List.not_mem_nil
  | some infos =>
    rw [hinfos, Option.getD_some] at hl hmem
    rw [hl', List.inj_on_of_nodup_map (nodup_names_of_mem hunique hinfos) hmem hl hname]

omit [External] [CharTable] in
theorem mem_updateFirst {α : Type} {p : α → Bool} {f : α → α} {l : List α} {a : α}
    (h : a ∈ updateFirst p f l) : ∃ b ∈ l, a = b ∨ a = f b := by
  induction l with
  | nil => exact absurd h List.not_mem_nil
  | cons b l ih =>
    rw [updateFirst] at h
    split at h
    · rcases List.mem_cons.1 h with rfl | h
      · exact ⟨b, List.mem_cons_self, .inr rfl⟩
      · exact ⟨a, List.mem_cons_of_mem _ h, .inl rfl⟩
    · rcases List.mem_cons.1 h with rfl | h
      · exact ⟨a, List.mem_cons_self, .inl rfl⟩
      · obtain ⟨c, hc, heq⟩ := ih h
        exact ⟨c, List.mem_cons_of_mem _ hc, heq⟩

/-- A result of a Gateway is that of one of some, but for its problems. -/
def FromGateways (gateways : List GatewayResult) (g : GatewayResult) : Prop :=
  ∃ g' ∈ gateways, g = { g' with problems := g.problems }

omit [External] [CharTable] in
/-- **Reports change nothing of a Gateway's result but its problems.** -/
theorem fromGateways_of_report {a : Arbitrated} {results : Results} {g : GatewayResult}
    (hg : g ∈ (a.report results).gateways) : FromGateways results.gateways g := by
  have hcollisions : ∀ (collision : Bool) (reports : List (FrontendSource × Problem))
      (results : Results), (reports.foldl (Results.applyReport · collision) results).gateways =
        results.gateways := by
    intro collision reports
    induction reports with
    | nil => exact fun _ => rfl
    | cons report reports ih =>
      intro results
      rw [List.foldl_cons, ih, Results.applyReport]
      split <;> rfl
  have hnames : ∀ (reports : List (CertificateSource × Problem)) (results : Results) g,
      g ∈ (reports.foldl Results.applyLostName results).gateways →
        FromGateways results.gateways g := by
    intro reports
    induction reports with
    | nil => exact fun results g hg => ⟨g, hg, rfl⟩
    | cons report reports ih =>
      intro results g hg
      obtain ⟨g', hg', heq⟩ := ih _ g hg
      rw [Results.applyLostName] at hg'
      split at hg'
      · exact ⟨g', hg', heq⟩
      · obtain ⟨g'', hg'', rfl | rfl⟩ := mem_updateFirst hg'
        · exact ⟨g', hg'', heq⟩
        · exact ⟨g'', hg'', heq⟩
  have hfrom := hnames _ _ g hg
  rwa [hcollisions, hcollisions] at hfrom

omit [External] [CharTable] in
theorem gateways_settleHealthChecks (clusters : BTreeMap String Cluster) (traffic : Traffic)
    (results : Results) : (settleHealthChecks clusters traffic results).gateways =
      results.gateways := by
  have hfold : ∀ (entries : List (String × FrontendSource)) (results : Results),
      (entries.foldl (reportProxied clusters traffic) results).gateways = results.gateways := by
    intro entries
    induction entries with
    | nil => exact fun _ => rfl
    | cons entry entries ih =>
      intro results
      rw [List.foldl_cons, ih, reportProxied]
      split
      · rfl
      · split
        · rfl
        · dsimp only
          split <;> rfl
  exact hfold _ _

/-- **What a build reports of a listener.** -/
theorem listenerStatus_of_mem {out : BuildOutput} (hbuild : build cfg inputs = some out)
    {g : GatewayResult} (hg : g ∈ out.gateways) {status : ListenerStatus}
    (hstatus : status ∈ g.listeners) :
    ∃ l ∈ listenersOf cfg inputs (objectKey g.namespace_ g.name), status.name = l.name ∧
      status.attachedRoutes =
        (attachments
          (httpBound cfg inputs (Index.build inputs cfg.healthCheck) (gatewayListeners
            (builtGateways cfg inputs (Index.build inputs cfg.healthCheck))))
          (l4Bound inputs (Index.build inputs cfg.healthCheck) (gatewayListeners
            (builtGateways cfg inputs (Index.build inputs cfg.healthCheck))))).count
          (toLex (objectKey g.namespace_ g.name, l.name)) := by
  obtain ⟨walk, -, rfl⟩ := Option.map_eq_some_iff.1 hbuild
  simp only [assemble, gateways_settleHealthChecks] at hg
  obtain ⟨g', hg', heq⟩ := fromGateways_of_report hg
  obtain ⟨built, hbuilt, rfl⟩ := List.mem_map.1 hg'
  rw [heq] at hstatus ⊢
  obtain ⟨l, hl, rfl⟩ := List.mem_map.1 hstatus
  exact ⟨l, hl, rfl, rfl⟩

/-- **A listener reports as many routes as there are route objects attached to it exactly when
none of them is counted twice.** -/
theorem attached_routes_iff (hunique : UniqueListenerNames inputs) {out : BuildOutput}
    (hbuild : build cfg inputs = some out) {g : GatewayResult} (hg : g ∈ out.gateways)
    {status : ListenerStatus} (hstatus : status ∈ g.listeners) :
    ∃ l, listenerNamed cfg inputs (objectKey g.namespace_ g.name) status.name = some l ∧
      (status.attachedRoutes = (attachedObjects cfg inputs (Index.build inputs cfg.healthCheck)
          (objectKey g.namespace_ g.name) l).card ↔
        AttachedOnce cfg inputs (Index.build inputs cfg.healthCheck)
          (objectKey g.namespace_ g.name) l) := by
  obtain ⟨l, hl, hname, hcount⟩ := listenerStatus_of_mem hbuild hg hstatus
  have hnamed := listenerNamed_eq hunique hl
  rw [hname]
  refine ⟨l, hnamed, ?_⟩
  rw [listenersOf] at hl
  cases hinfos : (gatewayListeners (builtGateways cfg inputs
      (Index.build inputs cfg.healthCheck)))[objectKey g.namespace_ g.name]? with
  | none =>
    rw [hinfos] at hl
    exact absurd hl List.not_mem_nil
  | some infos =>
    rw [hinfos, Option.getD_some] at hl
    rw [hcount, count_attachments hinfos (nodup_names_of_mem hunique hinfos) hl]
    exact sum_tallies_iff

end Attachment

/-! A route that names its Gateway twice, once with its namespace, is counted twice. -/

/-- A Gateway with one listener, and one HTTPRoute with no rule. -/
def namedTwiceInputs : Inputs where
  gatewayClasses := [⟨{ name := some "sozu" }, "sozu.io/gateway-controller"⟩]
  gateways :=
    [⟨{ name := some "gw", namespace_ := some "demo" },
      { gatewayClassName := "sozu"
        listeners := [{ name := "http", port := 80, protocol := "HTTP" }] }⟩]
  httpRoutes :=
    [{ metadata := { name := some "web", namespace_ := some "demo" }
       spec := {
        parentRefs := some [{ name := "gw" }, { name := "gw", namespace_ := some "demo" }] } }]

attribute [local instance] External.plain Sozu.asciiTable in
/-- **One route attached to a listener, and two reported.** -/
theorem attached_routes_namedTwice :
    UniqueListenerNames namedTwiceInputs ∧ ∃ out, build {} namedTwiceInputs = some out ∧
      ∃ g ∈ out.gateways, ∃ status ∈ g.listeners, ∃ l,
        listenerNamed {} namedTwiceInputs (objectKey g.namespace_ g.name) status.name = some l ∧
        status.attachedRoutes = 2 ∧
        (attachedObjects {} namedTwiceInputs
          (Index.build namedTwiceInputs ({} : BuildConfig).healthCheck)
          (objectKey g.namespace_ g.name) l).card = 1 := by
  have hout : ((build {} namedTwiceInputs).any fun out => out.gateways.any fun g =>
      g.listeners.any fun status =>
        (listenerNamed {} namedTwiceInputs (objectKey g.namespace_ g.name) status.name).any fun l =>
          status.attachedRoutes = 2 ∧ (attachedObjects {} namedTwiceInputs
            (Index.build namedTwiceInputs ({} : BuildConfig).healthCheck)
            (objectKey g.namespace_ g.name) l).card = 1) = true := by
    decide +kernel
  refine ⟨by decide +kernel, ?_⟩
  obtain ⟨out, hbuild, hany⟩ := (Option.any_eq_true _ _).1 hout
  obtain ⟨g, hg, hany⟩ := List.any_eq_true.1 hany
  obtain ⟨status, hstatus, hany⟩ := List.any_eq_true.1 hany
  obtain ⟨l, hl, hcounts⟩ := (Option.any_eq_true _ _).1 hany
  have hcounts := of_decide_eq_true hcounts
  exact ⟨out, hbuild, g, hg, status, hstatus, l, hl, hcounts.1, hcounts.2⟩

attribute [local instance] External.plain Sozu.asciiTable in
/-- The equivalence at that listener: the route is not attached once. -/
theorem attached_routes_iff_namedTwice :
    ∃ out, build {} namedTwiceInputs = some out ∧ ∃ g ∈ out.gateways, ∃ status ∈ g.listeners,
      ∃ l, listenerNamed {} namedTwiceInputs (objectKey g.namespace_ g.name) status.name = some l ∧
        (status.attachedRoutes = (attachedObjects {} namedTwiceInputs
            (Index.build namedTwiceInputs ({} : BuildConfig).healthCheck)
            (objectKey g.namespace_ g.name) l).card ↔
          AttachedOnce {} namedTwiceInputs
            (Index.build namedTwiceInputs ({} : BuildConfig).healthCheck)
            (objectKey g.namespace_ g.name) l) := by
  have hout : ((build {} namedTwiceInputs).any fun out => out.gateways.any fun g =>
      !g.listeners.isEmpty) = true := by
    decide +kernel
  obtain ⟨out, hbuild, hany⟩ := (Option.any_eq_true _ _).1 hout
  obtain ⟨g, hg, hlisteners⟩ := List.any_eq_true.1 hany
  obtain ⟨status, hstatus⟩ := List.exists_mem_of_ne_nil g.listeners (by simpa using hlisteners)
  exact ⟨out, hbuild, g, hg, status, hstatus,
    attached_routes_iff (by decide +kernel) hbuild hg hstatus⟩

end Builder

end SozuGateway
