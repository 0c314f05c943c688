import SozuGateway.Builder.Grounded
import SozuGateway.Builder.Tables

/-!
# Clusters that speak HTTP/2

A walk asks HTTP/2 only of a cluster it gave before, so no request for it is lost.

* `Preceded` — HTTP/2 is asked of clusters already given.
* `preceded_ingressWalk`, `preceded_gatewayWalk` — so do the walks.
* `http2_clusters_tables` — so a cluster speaks HTTP/2 exactly when that is asked of it,
  anywhere in the walks.
-/

set_option autoImplicit false

namespace SozuGateway

namespace Builder

open Lib

/-! ## Requests for HTTP/2 -/

/-- The cluster an emission asks to speak HTTP/2. -/
def Emission.http2? : Emission → Option String
  | .http2 id => some id
  | _ => none

/-- Nothing asks for HTTP/2. -/
def Silent (l : List Emission) : Prop := ∀ e ∈ l, e.http2? = none

theorem Silent.nil : Silent [] := fun _ h => absurd h List.not_mem_nil

theorem Silent.append {l l' : List Emission} (h : Silent l) (h' : Silent l') : Silent (l ++ l') :=
  fun e he => (List.mem_append.1 he).elim (h e) (h' e)

theorem Silent.singleton {e : Emission} (h : e.http2? = none) : Silent [e] := by
  intro e' he'
  obtain rfl := List.mem_singleton.1 he'
  exact h

theorem Silent.flatMap {α : Type} {l : List α} {f : α → List Emission}
    (h : ∀ a ∈ l, Silent (f a)) : Silent (l.flatMap f) := by
  intro e he
  obtain ⟨a, ha, he⟩ := List.mem_flatMap.1 he
  exact h a ha e he

theorem Remarks.silent {l : List Emission} (h : Remarks l) : Silent l := by
  intro e he
  have hremark := h e he
  cases e <;> first | rfl | exact hremark.elim

theorem silent_problem (p : Problem) : Silent [.problem p] := (remarks_problem p).silent

/-- HTTP/2 is asked of clusters already given. -/
def Preceded (l : List Emission) : Prop :=
  ∀ before id after, l = before ++ .http2 id :: after → Gives before id

theorem Silent.preceded {l : List Emission} (h : Silent l) : Preceded l := by
  rintro before id after rfl
  cases h (.http2 id) (List.mem_append_right _ List.mem_cons_self)

theorem Preceded.append {l l' : List Emission} (h : Preceded l) (h' : Preceded l') :
    Preceded (l ++ l') := by
  intro before id after heq
  rcases List.append_eq_append_iff.1 heq with ⟨more, rfl, hsplit⟩ | ⟨rest, rfl, hsplit⟩
  · exact (h' more id after hsplit).mono (List.subset_append_right _ _)
  · cases rest with
    | nil => exact (h' [] id after hsplit.symm).mono (List.nil_subset _)
    | cons e rest =>
        obtain ⟨rfl, -⟩ := List.cons.inj hsplit
        exact h before id rest rfl

theorem Preceded.flatten {l : List (List Emission)} (h : ∀ a ∈ l, Preceded a) :
    Preceded l.flatten := by
  induction l with
  | nil => exact Silent.nil.preceded
  | cons a l ih =>
      exact (h a List.mem_cons_self).append (ih fun b hb => h b (List.mem_cons_of_mem _ hb))

theorem Preceded.flatMap {α : Type} {l : List α} {f : α → List Emission}
    (h : ∀ a ∈ l, Preceded (f a)) : Preceded (l.flatMap f) := by
  rw [List.flatMap_def]
  refine .flatten fun emissions hemissions => ?_
  obtain ⟨a, ha, rfl⟩ := List.mem_map.1 hemissions
  exact h a ha

section Walks

variable [External] [CharTable]

/-- Resolving a reference asks for no HTTP/2. -/
theorem silent_addServiceRoute (index : Index) (ns service : String) (portRef : PortRef) :
    Silent (addServiceRoute index ns service portRef).emissions := by
  unfold addServiceRoute
  split
  · exact .singleton rfl
  · have hreferenced : Silent [.referenced (slashed ns service)] := .singleton rfl
    have hfqdn : Silent (fqdnReports index ns service) := by
      intro e he
      obtain ⟨_, -, rfl⟩ := List.mem_map.1 he
      rfl
    refine ((hreferenced.append hfqdn).append ?_).append (.singleton rfl)
    split
    · exact .nil
    · exact .singleton rfl

/-- **HTTP/2 is asked of the cluster a reference has just given.** -/
theorem preceded_configure {index : Index} {ns service clusterId : String} {portRef : PortRef}
    {hasEndpoints : Bool} (protocol : HttpBackendProtocol)
    (h : (addServiceRoute index ns service portRef).result = .ok (clusterId, hasEndpoints)) :
    Preceded ((addServiceRoute index ns service portRef).emissions ++
      protocol.configure clusterId) := by
  have hsilent := silent_addServiceRoute index ns service portRef
  unfold HttpBackendProtocol.configure
  split
  · intro before id after heq
    have hgives := gives_addServiceRoute h
    rcases List.append_eq_append_iff.1 heq with ⟨more, rfl, hsplit⟩ | ⟨rest, hfront, hsplit⟩
    · cases more with
      | nil =>
          obtain ⟨hid, -⟩ := List.cons.inj hsplit
          obtain rfl := Emission.http2.inj hid
          exact hgives.mono (List.subset_append_left _ _)
      | cons e more =>
          obtain ⟨-, hnil⟩ := List.cons.inj hsplit
          simp at hnil
    · cases rest with
      | nil =>
          obtain ⟨hid, -⟩ := List.cons.inj hsplit
          obtain rfl := Emission.http2.inj hid
          rw [List.append_nil] at hfront
          exact hfront ▸ hgives
      | cons e rest =>
          obtain ⟨rfl, -⟩ := List.cons.inj hsplit
          have hmem : Emission.http2 id ∈ (addServiceRoute index ns service portRef).emissions := by
            rw [hfront]
            exact List.mem_append_right _ List.mem_cons_self
          cases hsilent _ hmem
  · exact (hsilent.append .nil).preceded

/-! ## Ingresses -/

section Ingress

variable {cfg : BuildConfig} {index : Index} {nn : String × String}

omit [CharTable] in
theorem silent_ingressTls {tls : IngressTls} {entry : TlsEntry}
    (h : ingressTls cfg index nn tls = some entry) : Silent entry.emissions := by
  unfold ingressTls at h
  dsimp only at h
  split at h
  · exact Option.some.inj h ▸ silent_problem _
  split at h
  · exact Option.some.inj h ▸ silent_problem _
  split at h
  · exact Option.some.inj h ▸ silent_problem _
  obtain ⟨bind, -, rfl⟩ := Option.map_eq_some_iff.1 h
  split
  · exact .singleton rfl
  · exact silent_problem _

theorem preceded_ingressPath {host : String} {hostHasTls redirect : Bool} {path : HttpIngressPath}
    {emissions : List Emission}
    (h : ingressPath cfg index nn host hostHasTls redirect path = some emissions) :
    Preceded emissions := by
  unfold ingressPath at h
  split at h
  · exact Option.some.inj h ▸ (silent_problem _).preceded
  split at h
  · exact Option.some.inj h ▸ (silent_problem _).preceded
  rename_i svc _
  split at h
  · exact Option.some.inj h ▸ (silent_problem _).preceded
  rename_i portRef _
  dsimp only at h
  have hwarned := (remarks_warn ((HttpBackendProtocol.of index nn.1 svc.name portRef).problem
    svc.name)).silent
  have hresolved := hwarned.append (silent_addServiceRoute index nn.1 svc.name portRef)
  split at h
  · exact Option.some.inj h ▸ (hresolved.append (silent_problem _)).preceded
  · rename_i clusterId hasEndpoints hresult
    obtain ⟨frontends, hfrontends, rfl⟩ := Option.map_eq_some_iff.1 h
    have hsilent : Silent frontends := by
      intro e he
      obtain ⟨sf, rfl, -⟩ := frontend_of_ingressFrontends hfrontends he
      rfl
    rw [List.append_assoc (warn _)]
    exact ((hwarned.preceded.append (preceded_configure _ hresult)).append
      remarks_ite.silent.preceded).append hsilent.preceded

theorem preceded_ingressRule {tlsReadyHosts : List String} {redirect : Bool} {rule : IngressRule}
    {emissions : List Emission}
    (h : ingressRule cfg index nn tlsReadyHosts redirect rule = some emissions) :
    Preceded emissions := by
  unfold ingressRule at h
  split at h
  · exact Option.some.inj h ▸ Silent.nil.preceded
  dsimp only at h
  split at h
  · exact Option.some.inj h ▸ (Silent.singleton (e := .problemOnce _) rfl).preceded
  · obtain ⟨paths, hpaths, rfl⟩ := Option.map_eq_some_iff.1 h
    refine .flatten fun emitted hemitted => ?_
    obtain ⟨path, -, hpath⟩ := exists_of_mem_mapM hpaths hemitted
    exact preceded_ingressPath hpath

/-- **The walk over the Ingresses asks HTTP/2 of clusters it gave.** -/
theorem preceded_ingressWalk {inputs : Inputs} {walk : IngressWalk}
    (h : ingressWalk cfg inputs index = some walk) : Preceded walk.emissions := by
  obtain ⟨emitted, hemitted, rfl⟩ := Option.map_eq_some_iff.1 h
  refine .flatten fun emissions hemissions => ?_
  obtain ⟨ingress, -, hingress⟩ := exists_of_mem_mapM hemitted hemissions
  unfold ingressEmissions at hingress
  split at hingress
  · exact Option.some.inj hingress ▸ Silent.nil.preceded
  obtain ⟨entries, hentries, hingress⟩ := Option.bind_eq_some_iff.1 hingress
  obtain ⟨rules, hrules, hingress⟩ := Option.bind_eq_some_iff.1 hingress
  obtain rfl := Option.some.inj hingress
  refine Preceded.append (Silent.preceded (Silent.append ?_ (.flatMap fun entry hentry => ?_)))
    (.flatten fun rule hrule => ?_)
  · split
    · exact silent_problem _
    · exact .nil
  · obtain ⟨tls, -, htls⟩ := exists_of_mem_mapM hentries hentry
    exact silent_ingressTls htls
  · obtain ⟨declared, -, hdeclared⟩ := exists_of_mem_mapM hrules hrule
    exact preceded_ingressRule hdeclared

end Ingress

/-! ## The Gateway API -/

section Routes

variable {cfg : BuildConfig} {inputs : Inputs} {index : Index}

omit [CharTable] in
theorem silent_loadListenerCerts {gw : String × String} {l : GatewayListeners} {bind : SocketAddr} :
    Silent (loadListenerCerts inputs index gw l bind).emissions := by
  unfold loadListenerCerts
  split
  · exact silent_problem _
  dsimp only
  split
  · exact silent_problem _
  refine .flatMap fun outcome houtcome => ?_
  obtain ⟨cref, -, rfl⟩ := List.mem_map.1 houtcome
  unfold loadCertificateRef
  split
  · exact silent_problem _
  dsimp only
  split
  · exact silent_problem _
  split
  · exact silent_problem _
  split
  · exact .singleton rfl
  · exact silent_problem _

theorem silent_buildListener {gw : String × String} {l : GatewayListeners} :
    Silent (buildListener cfg inputs index gw l).emissions := by
  have hreported : Silent ((selectorUnevaluable l).toList.map fun reason =>
      Emission.problem (.namespaceSelectorInvalid l.name reason)) := by
    intro e he
    obtain ⟨reason, -, rfl⟩ := List.mem_map.1 he
    rfl
  unfold buildListener
  dsimp only
  split
  · exact hreported.append (silent_problem _)
  split
  · exact hreported.append (silent_problem _)
  split
  · exact hreported.append (silent_problem _)
  split
  · exact hreported.append (silent_problem _)
  split
  · exact hreported
  split
  · exact hreported.append silent_loadListenerCerts
  · exact hreported

theorem silent_buildOneGateway {gw : Gateway} :
    Silent (buildOneGateway cfg inputs index gw).emissions := by
  have hunsupported : ∀ (present : Bool) (field : String), Silent
      (if present then [Emission.problem (.gatewaySpecUnsupported field)] else []) := by
    intro present field
    split
    · exact silent_problem _
    · exact .nil
  have hlisteners : Silent ((gw.spec.listeners.map
      (buildListener cfg inputs index gw.metadata.nn)).flatMap BuiltListener.emissions) := by
    refine .flatMap fun built hbuilt => ?_
    obtain ⟨l, -, rfl⟩ := List.mem_map.1 hbuilt
    exact silent_buildListener
  have hemitted := ((hunsupported gw.spec.hasTls "spec.tls").append
    (hunsupported gw.spec.hasAllowedListeners "spec.allowedListeners")).append hlisteners
  unfold buildOneGateway
  dsimp only
  split
  · exact Silent.append (fun e he => hemitted e (List.mem_of_mem_filter he)) (silent_problem _)
  · exact hemitted

theorem preceded_ruleBackend (routeNs : String) (rule : HttpRouteRules)
    (filters : FrontendFilters) :
    Preceded (ruleBackend inputs index routeNs rule filters).emissions := by
  unfold ruleBackend
  split
  · split
    · exact Silent.nil.preceded
    · exact (remarks_failRef _ _).silent.preceded
  · rename_i br _
    have hfiltered : Silent (if 0 < br.filters.getD 0 then
        [.problem (.filterUnsupported ("filters on backendRef " ++ br.name))] else []) := by
      split
      · exact silent_problem _
      · exact .nil
    unfold httpBackendRef
    split
    · exact (remarks_failRef _ _).silent.preceded
    split
    · exact (remarks_failRef _ _).silent.preceded
    dsimp only
    split
    · exact (hfiltered.append (remarks_failRef _ _).silent).preceded
    split
    · exact (hfiltered.append (remarks_failRef _ _).silent).preceded
    split
    · exact ((hfiltered.append (silent_addServiceRoute _ _ _ _)).append
        (remarks_failRef _ _).silent).preceded
    · rename_i cid hasEndpoints hresult
      dsimp only
      rw [List.append_assoc (ite _ _ _)]
      refine ((hfiltered.preceded.append (preceded_configure _ hresult)).append
        (Silent.preceded ?_)).append remarks_ite.silent.preceded
      split
      · exact (Silent.singleton (e := .problemOnce _) rfl).append
          (.singleton (e := .failRef _) rfl)
      · exact .nil
  · exact (remarks_failRef _ _).silent.preceded

theorem preceded_attachRule (sozuHeaders : SozuRequestHeaders) (routeNs : String)
    (routeHostnames : Option (List String)) (infos : List ListenerInfo) (source : FrontendSource)
    (rule : HttpRouteRules) :
    Preceded (attachRule inputs index sozuHeaders routeNs routeHostnames infos source rule) := by
  have hparsed := remarks_parseFilters (rule.filters.getD [])
  unfold attachRule
  dsimp only
  split
  · exact (hparsed.silent.append (Silent.singleton (e := .override _) rfl)).preceded
  refine ((hparsed.append (remarks_timeouts rule)).silent.preceded.append
    (preceded_ruleBackend _ _ _)).append (Silent.preceded ?_)
  split
  · exact .nil
  refine (remarks_parseMatches _ _).silent.append (.flatMap fun routeMatch _ =>
    .flatMap fun info _ => ?_)
  unfold listenerFrontends
  split
  · exact .nil
  split
  · intro e he
    obtain ⟨hostname, -, rfl⟩ := List.mem_map.1 he
    split <;> rfl
  · exact .nil

theorem silent_resolveL4Backend (view : L4RouteView) :
    Silent (resolveL4Backend inputs index view).1 := by
  unfold resolveL4Backend
  split
  · exact (remarks_failRef _ _).silent
  · split
    · exact (remarks_failRef _ _).silent
    split
    · exact (remarks_failRef _ _).silent
    dsimp only
    split
    · exact (remarks_failRef _ _).silent
    split
    · exact (remarks_failRef _ _).silent
    split
    · exact (silent_addServiceRoute _ _ _ _).append (remarks_failRef _ _).silent
    · exact (silent_addServiceRoute _ _ _ _).append remarks_ite.silent
  · exact (remarks_failRef _ _).silent

/-- **The walk over the Gateway API asks HTTP/2 of clusters it gave.** -/
theorem preceded_gatewayWalk : Preceded (gatewayWalk cfg inputs index).emissions := by
  refine Preceded.append (Preceded.append (Silent.preceded (.flatMap fun built hbuilt => ?_))
    (.flatMap fun b hb => .flatMap fun bound hbound => ?_))
      (Silent.preceded (.flatMap fun b hb => .flatMap fun bound hbound => ?_))
  · obtain ⟨gw, -, rfl⟩ := List.mem_map.1 hbuilt
    exact silent_buildOneGateway
  · obtain ⟨route, -, rfl⟩ := List.mem_map.1 hb
    obtain ⟨pref, -, hparent⟩ := List.mem_filterMap.1 hbound
    unfold httpParent at hparent
    split at hparent
    · cases hparent
    dsimp only at hparent
    obtain ⟨infos, -, rfl⟩ := Option.map_eq_some_iff.1 hparent
    split
    · exact Silent.nil.preceded
    split
    · exact Silent.nil.preceded
    split
    · exact Silent.nil.preceded
    · exact .flatMap fun rule _ => preceded_attachRule _ _ _ _ _ _
  · obtain ⟨view, -, rfl⟩ := List.mem_map.1 hb
    obtain ⟨pref, -, hparent⟩ := List.mem_filterMap.1 hbound
    unfold l4Parent at hparent
    split at hparent
    · cases hparent
    dsimp only at hparent
    obtain ⟨infos, -, rfl⟩ := Option.map_eq_some_iff.1 hparent
    split
    · exact .nil
    split
    · exact .nil
    · exact silent_resolveL4Backend view

theorem preceded_walks {walk : IngressWalk} (h : ingressWalk cfg inputs index = some walk) :
    Preceded (walk.emissions ++ (gatewayWalk cfg inputs index).emissions) :=
  (preceded_ingressWalk h).append preceded_gatewayWalk

end Routes

/-! ## The table -/

variable {l : List Emission}

omit [CharTable] in
/-- **A cluster speaks HTTP/2 exactly when that is asked of it.** -/
theorem http2_clusters_tables (h : Preceded l)
    (hplain : ∀ r ∈ routes l, r.cluster.http2 = false) {id : String} {c : Cluster}
    (hc : (tables l).clusters[id]? = some c) : c.http2 = true ↔ .http2 id ∈ l := by
  induction l using List.reverseRecOn generalizing c with
  | nil =>
      have hempty : (tables []).clusters[id]? = none := BTreeMap.getElem?_empty id
      rw [hempty] at hc
      cases hc
  | append_singleton l e ih =>
      have hbefore : Preceded l := by
        intro before id after heq
        exact h before id (after ++ [e]) (by rw [heq]; simp)
      have hplain' : ∀ r ∈ routes l, r.cluster.http2 = false := fun r hr =>
        hplain r (routes_append l e ▸ List.mem_append_left _ hr)
      have hkeep : e.http2? = none → (tables l).clusters[id]? = some c →
          (c.http2 = true ↔ .http2 id ∈ l ++ [e]) := by
        intro hsilent hold
        rw [ih hbefore hplain' hold, List.mem_append, List.mem_singleton]
        refine ⟨.inl, fun hmem => hmem.resolve_right fun heq => ?_⟩
        rw [← heq] at hsilent
        cases hsilent
      rw [tables_append] at hc
      cases e with
      | service r =>
          have hinsert : (Table.orInsert (tables l).clusters r.cluster.id r.cluster)[id]? =
            some c := hc
          rw [getElem?_orInsert, Option.or_eq_some_iff] at hinsert
          rcases hinsert with hold | ⟨hnone, hnew⟩
          · exact hkeep rfl hold
          · split at hnew
            · rename_i hid
              obtain rfl := Option.some.inj hnew
              rw [hplain r (mem_routes.2 (by simp))]
              refine ⟨fun hfalse => absurd hfalse Bool.false_ne_true, fun hmem => ?_⟩
              -- what asks for it would come before the cluster
              have hasked : Emission.http2 id ∈ l := by simpa using hmem
              obtain ⟨before, after, rfl⟩ := List.append_of_mem hasked
              obtain ⟨r', hr', hid'⟩ := hbefore before id after rfl
              have hgiven := clusters_tables (before ++ .http2 id :: after) id
              rw [hnone] at hgiven
              have hfound := Option.map_eq_none_iff.1 hgiven.symm
              refine absurd (decide_eq_true hid') (List.find?_eq_none.1 hfound r' ?_)
              exact mem_routes.2 (List.mem_append_left _ hr')
            · cases hnew
      | http2 id' =>
          have hmodify : ((tables l).clusters.modify id' fun c : Cluster =>
            { c with http2 := true })[id]? = some c := hc
          rw [BTreeMap.getElem?_modify] at hmodify
          split at hmodify
          · rename_i hid
            obtain ⟨c', -, rfl⟩ := Option.map_eq_some_iff.1 hmodify
            simp [hid]
          · rename_i hid
            rw [ih hbefore hplain' hmodify, List.mem_append, List.mem_singleton]
            refine ⟨.inl, fun hmem => hmem.resolve_right fun heq => hid ?_⟩
            exact (Emission.http2.inj heq).symm
      | _ => exact hkeep rfl hc

end Walks

end Builder

end SozuGateway
