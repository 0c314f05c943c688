import SozuGateway.Builder.Admission
import SozuGateway.Builder.References
import SozuGateway.Translator.Requests

/-!
# Health checks

The settlement of the health checks, against the IR it leaves and the requests the
translator makes of it.

* `carries_iff` — a layer-4 route carries traffic exactly when a layer-4 frontend does.
* `http_iff` — and an HTTP(S) frontend, kept or folded, when one of the IR proxies.
* `AsksFor` — the check a Service asks for, as its annotations or the default say.
* `health_checks_settled` — a cluster has its Service's check exactly when Sōzu runs it,
  and the translator keeps it.
-/

set_option autoImplicit false

namespace SozuGateway

namespace Builder

open Lib

/-! ## The traffic of an IR -/

/-- An HTTP(S) frontend of the IR proxies to the cluster. -/
def Proxies (ir : Ir) (clusterId : String) : Prop :=
  ∃ f ∈ ir.frontends, f.filters.redirect = none ∧ f.clusterId = some clusterId

/-- A layer-4 frontend of the IR, of the protocol, names the cluster. -/
def CarriesL4 (ir : Ir) (protocol : L4Protocol) (clusterId : String) : Prop :=
  ∃ f ∈ ir.l4Frontends, f.protocol = protocol ∧ f.clusterId = clusterId

/-! ## Layer-4 routes -/

/-- A winner has its frontend, and a claim routes exactly where a frontend does. -/
structure Sockets.Settled (sockets : Sockets) : Prop where
  winners : ∀ (socket : L4Protocol ×ₗ SocketAddr) (winner : L4Claim),
    sockets.winners[socket]? = some winner →
      winner.frontend ∈ sockets.frontends ∧ winner.socket = socket
  routing : ∀ claim ∈ sockets.routing, ∃ f ∈ sockets.frontends,
    f.protocol = claim.protocol ∧ f.clusterId = claim.clusterId
  frontends : ∀ f ∈ sockets.frontends, ∃ claim ∈ sockets.routing, claim.frontend = f

theorem Sockets.settled_empty : Sockets.Settled {} where
  winners socket winner h := by
    rw [BTreeMap.getElem?_empty] at h
    cases h
  routing _ h := absurd h List.not_mem_nil
  frontends _ h := absurd h List.not_mem_nil

theorem Sockets.Settled.settle {sockets : Sockets} (h : sockets.Settled) (claim : L4Claim) :
    (sockets.settle claim).Settled := by
  unfold Sockets.settle
  cases hwinner : sockets.winners[claim.socket]? with
  | none =>
      refine ⟨fun socket winner hat => ?_, fun c hc => ?_, fun f hf => ?_⟩
      · rw [BTreeMap.getElem?_insert] at hat
        split at hat
        · rename_i hsocket
          obtain rfl := Option.some.inj hat
          exact ⟨List.mem_append_right _ (List.mem_singleton_self _), hsocket⟩
        · obtain ⟨hmem, hsocket⟩ := h.winners socket winner hat
          exact ⟨List.mem_append_left _ hmem, hsocket⟩
      · rcases List.mem_append.1 hc with hc | hc
        · obtain ⟨f, hf, hsame⟩ := h.routing c hc
          exact ⟨f, List.mem_append_left _ hf, hsame⟩
        · obtain rfl := List.mem_singleton.1 hc
          exact ⟨c.frontend, List.mem_append_right _ (List.mem_singleton_self _), rfl, rfl⟩
      · rcases List.mem_append.1 hf with hf | hf
        · obtain ⟨c, hc, hfrontend⟩ := h.frontends f hf
          exact ⟨c, List.mem_append_left _ hc, hfrontend⟩
        · exact ⟨claim, List.mem_append_right _ (List.mem_singleton_self _),
            (List.mem_singleton.1 hf).symm⟩
  | some winner =>
      dsimp only
      split
      · rename_i hsame
        obtain ⟨hmem, hsocket⟩ := h.winners claim.socket winner hwinner
        refine ⟨h.winners, fun c hc => ?_, fun f hf => ?_⟩
        · rcases List.mem_append.1 hc with hc | hc
          · exact h.routing c hc
          · -- a benign overlap: the winner's frontend serves both
            obtain rfl := List.mem_singleton.1 hc
            exact ⟨winner.frontend, hmem, congrArg (fun s => (ofLex s).1) hsocket, hsame⟩
        · obtain ⟨c, hc, hfrontend⟩ := h.frontends f hf
          exact ⟨c, List.mem_append_left _ hc, hfrontend⟩
      · exact ⟨h.winners, h.routing, h.frontends⟩

theorem settled_settleSockets (claims : List L4Claim) : (settleSockets claims).Settled := by
  have hfold : ∀ (l : List L4Claim) (sockets : Sockets), sockets.Settled →
      (l.foldl Sockets.settle sockets).Settled := by
    intro l
    induction l with
    | nil => exact fun _ h => h
    | cons claim l ih => exact fun sockets h => ih _ (h.settle claim)
  exact hfold _ _ Sockets.settled_empty

/-- **The carriers are told by the layer-4 frontends.** -/
theorem carries_iff {sockets : Sockets} (h : sockets.Settled) (protocol : L4Protocol)
    (clusterId : String) :
    (∃ carrier ∈ sockets.routing.map L4Claim.carrier,
        carrier.protocol = protocol ∧ carrier.clusterId = clusterId) ↔
      ∃ f ∈ sockets.l4Frontends, f.protocol = protocol ∧ f.clusterId = clusterId := by
  constructor
  · rintro ⟨carrier, hcarrier, rfl, rfl⟩
    obtain ⟨claim, hclaim, rfl⟩ := List.mem_map.1 hcarrier
    obtain ⟨f, hf, hsame⟩ := h.routing claim hclaim
    exact ⟨f, mem_sortBy.2 hf, hsame⟩
  · rintro ⟨f, hf, rfl, rfl⟩
    obtain ⟨claim, hclaim, rfl⟩ := h.frontends f (mem_sortBy.1 hf)
    exact ⟨claim.carrier, List.mem_map_of_mem hclaim, rfl, rfl⟩

section Frontends

variable [CharTable]

/-! ## Folded frontends -/

/-- A frontend is only folded into the kept one of its key, that does the same. -/
theorem folded_settle {w : Winners} {l : Losers} {sf other : SourcedFrontend}
    (h : other ∈ (l.settle w sf).folded) : other ∈ l.folded ∨ other = sf ∧
      ∃ winner, w.holder sf.key = some winner ∧
        sameEffect winner.frontend sf.frontend = true := by
  unfold Losers.settle at h
  split at h
  · exact .inl h
  rename_i winner hwinner
  split at h
  · split at h
    · rename_i hsame
      refine (List.mem_append.1 h).imp id fun hother => ?_
      exact ⟨List.mem_singleton.1 hother, winner, hwinner, (Bool.and_eq_true_iff.1 hsame).1⟩
    · exact .inl h
  · exact .inl h

theorem folded_foldl {w : Winners} {l : Losers} {sfs : List SourcedFrontend}
    {sf : SourcedFrontend} (h : sf ∈ (sfs.foldl (Losers.settle w) l).folded) :
    sf ∈ l.folded ∨ ∃ winner, w.holder sf.key = some winner ∧
      sameEffect winner.frontend sf.frontend = true := by
  induction sfs generalizing l with
  | nil => exact .inl h
  | cons other sfs ih =>
      rcases ih h with h | h
      · refine (folded_settle h).imp id ?_
        rintro ⟨rfl, hwinner⟩
        exact hwinner
      · exact .inr h

theorem exists_of_folded {frontends : List SourcedFrontend}
    {claims : BTreeMap OwnerIdent OwnerClaim} {sf : SourcedFrontend}
    (h : sf ∈ (resolveFrontendCollisions frontends claims).folded) :
    ∃ winner ∈ (resolveFrontendCollisions frontends claims).kept, winner.key = sf.key ∧
      sameEffect winner.frontend sf.frontend = true := by
  obtain ⟨hvalid, -⟩ := foldl_keep Winners.valid_empty (settled claims frontends)
  obtain ⟨winner, hwinner, hsame⟩ := (folded_foldl h).resolve_left List.not_mem_nil
  have hfirst := (hvalid.holder_eq sf.key).symm.trans hwinner
  exact ⟨winner, List.mem_of_find?_eq_some hfirst, by simpa using List.find?_some hfirst, hsame⟩

/-- The kept frontends have keys of their own. -/
theorem kept_eq_of_key {frontends : List SourcedFrontend}
    {claims : BTreeMap OwnerIdent OwnerClaim} {a b : SourcedFrontend}
    (ha : a ∈ (resolveFrontendCollisions frontends claims).kept)
    (hb : b ∈ (resolveFrontendCollisions frontends claims).kept) (hkey : a.key = b.key) :
    a = b := by
  have hnodup := nodup_map_uniqueBy SourcedFrontend.key (settled claims frontends)
  rw [← kept_resolve] at hnodup
  exact List.inj_on_of_nodup_map hnodup ha hb hkey

variable [External]

/-! ## Kept and copied frontends -/

/-- **The lifting keeps every plain frontend.** -/
theorem mem_kept_of_plain {frontends folded : List SourcedFrontend} {sf : SourcedFrontend}
    (h : sf ∈ frontends) (hplain : sf.frontend.headerMatches = []) :
    sf ∈ (liftHeaderMatches frontends folded).kept := by
  obtain ⟨place, hplace⟩ := List.mem_iff_getElem?.1 h
  refine List.mem_map.2 ⟨(sf, place), List.mem_filter.2 ⟨?_, decide_eq_true ?_⟩, rfl⟩
  · exact List.mem_zipIdx_iff_getElem?.2 hplace
  intro hskipped
  obtain ⟨skip, hskip, rfl⟩ := List.mem_map.1 hskipped
  obtain ⟨plan, hplan, hskip⟩ := List.mem_flatMap.1 hskip
  obtain ⟨⟨group, members⟩, hgroup, rfl⟩ := List.mem_map.1 hplan
  have hmembers := mem_groupsOf hgroup
  have hplaces : ∀ m ∈ members, ∀ m' ∈ members, m.1 = m'.1 → m = m' := by
    intro m hm m' hm' heq
    have hsame : some m.2 = some m'.2 := by rw [← (hmembers m hm).1, ← (hmembers m' hm').1, heq]
    exact Prod.ext heq (Option.some.inj hsame)
  obtain ⟨p, hp, hplace'⟩ := headerMatched_of_skip hplaces hskip
  obtain ⟨hmem, hheaders⟩ := List.mem_filter.1 hp
  have hsame : some p.2 = some sf := by rw [← (hmembers p hmem).1, hplace', hplace]
  rw [Option.some.inj hsame, hplain] at hheaders
  cases hheaders

/-- **The frontends that proxy for an owner are those of the IR**: a folded one has its
holder's cluster and filters, and so has a copy its plain route's. -/
theorem http_iff {cfg : BuildConfig} {inputs : Inputs} {emissions : List Emission}
    {sockets : Sockets} (clusterId : String) :
    ((arbitrate cfg inputs emissions).traffic sockets).http clusterId = true ↔
      ∃ f ∈ (arbitrate cfg inputs emissions).lifted.kept.map SourcedFrontend.frontend ++
          (arbitrate cfg inputs emissions).lifted.copies,
        f.filters.redirect = none ∧ f.clusterId = some clusterId := by
  have hproxied : ((arbitrate cfg inputs emissions).traffic sockets).http clusterId = true ↔
      ∃ sf ∈ (arbitrate cfg inputs emissions).lifted.kept ++
          (arbitrate cfg inputs emissions).folded,
        sf.frontend.filters.redirect = none ∧ sf.frontend.clusterId = some clusterId := by
    simp only [Traffic.http, Arbitrated.traffic, proxied, List.any_eq_true, List.mem_filterMap,
      List.mem_filter, Option.isNone_iff_eq_none, decide_eq_true_eq, Option.map_eq_some_iff]
    constructor
    · rintro ⟨x, ⟨sf, ⟨hsf, hredirect⟩, id, hid, rfl⟩, rfl⟩
      exact ⟨sf, hsf, hredirect, hid⟩
    · rintro ⟨sf, hsf, hredirect, hid⟩
      exact ⟨_, ⟨sf, ⟨hsf, hredirect⟩, clusterId, hid, rfl⟩, rfl⟩
  rw [hproxied]
  constructor
  · rintro ⟨sf, hsf, hredirect, hid⟩
    rcases List.mem_append.1 hsf with hsf | hsf
    · exact ⟨sf.frontend, List.mem_append_left _ (List.mem_map_of_mem hsf), hredirect, hid⟩
    · obtain ⟨hfolded, hserved⟩ := List.mem_filter.1 hsf
      obtain ⟨kept, hkept, hkey⟩ := List.any_eq_true.1 hserved
      obtain ⟨winner, hwinner, hwinnerKey, hsame⟩ := exists_of_folded hfolded
      obtain rfl : kept = winner := kept_eq_of_key (mem_kept hkept) hwinner
        ((of_decide_eq_true hkey).trans hwinnerKey.symm)
      obtain ⟨hcluster, hfilters⟩ := of_decide_eq_true hsame
      exact ⟨kept.frontend, List.mem_append_left _ (List.mem_map_of_mem hkept),
        by rw [hfilters, hredirect], by rw [hcluster, hid]⟩
  · rintro ⟨f, hf, hredirect, hid⟩
    rcases List.mem_append.1 hf with hf | hf
    · obtain ⟨sf, hsf, rfl⟩ := List.mem_map.1 hf
      exact ⟨sf, List.mem_append_left _ hsf, hredirect, hid⟩
    · obtain ⟨u, hu, p, -, hplain, -, rfl⟩ := mem_copies hf
      exact ⟨u, List.mem_append_left _ (mem_kept_of_plain hu hplain), hredirect, hid⟩

end Frontends

section Clusters

variable [External] [CharTable]

/-! ## The check of a Service -/

/-- A number of a Service: the one its annotation gives, or the default where it has none. -/
def GivesNumber (svc : Service) (key : String) (default n : UInt32) : Prop :=
  (annotationOf (some svc) key = none ∧ n = default) ∨
    ∃ value k, annotationOf (some svc) key = some value ∧ parseUnsigned (2 ^ 32) value = some k ∧
      n = .ofNat k

/-- The check a Service asks for: it or the default turns it on, and Sōzu accepts it. -/
structure AsksFor (svc : Service) (default : HealthCheckDefault) (check : HealthCheck) : Prop where
  enabled : (annotationOf (some svc) "sozu.io/health-check" = none ∧ default.enabled = true) ∨
    ∃ mode, annotationOf (some svc) "sozu.io/health-check" = some mode ∧
      toAsciiLowercase mode = "tcp"
  interval : GivesNumber svc "sozu.io/health-check-interval" default.check.intervalSecs
    check.intervalSecs
  timeout :
    GivesNumber svc "sozu.io/health-check-timeout" default.check.timeoutSecs check.timeoutSecs
  healthy : GivesNumber svc "sozu.io/health-check-healthy-threshold" default.check.healthyThreshold
    check.healthyThreshold
  unhealthy : GivesNumber svc "sozu.io/health-check-unhealthy-threshold"
    default.check.unhealthyThreshold check.unhealthyThreshold
  port : (annotationOf (some svc) "sozu.io/health-check-port" = none ∧
      check.port = default.check.port) ∨
    ∃ value k, annotationOf (some svc) "sozu.io/health-check-port" = some value ∧
      parseUnsigned (2 ^ 16) value = some k ∧ check.port = some (.ofNat k)
  accepted : External.healthCheckError check = none

omit [External] in
theorem wholeNumber_eq_ok {svc : Service} {key : String} {default n : UInt32} :
    wholeNumber (some svc) key default = .ok n ↔ GivesNumber svc key default n := by
  unfold wholeNumber GivesNumber
  cases annotationOf (some svc) key with
  | none => simp [eq_comm]
  | some value =>
    simp only [reduceCtorEq, false_and, false_or, Option.some.injEq, exists_and_left,
      exists_eq_left']
    cases parseUnsigned (2 ^ 32) value <;> simp [eq_comm]

omit [External] in
theorem probePort_eq_ok {svc : Service} {default port : Option UInt16} :
    probePort (some svc) default = .ok port ↔
      (annotationOf (some svc) "sozu.io/health-check-port" = none ∧ port = default) ∨
        ∃ value k, annotationOf (some svc) "sozu.io/health-check-port" = some value ∧
          parseUnsigned (2 ^ 16) value = some k ∧ port = some (.ofNat k) := by
  unfold probePort
  cases annotationOf (some svc) "sozu.io/health-check-port" with
  | none => simp [eq_comm]
  | some value =>
    simp only [reduceCtorEq, false_and, false_or, Option.some.injEq, exists_and_left,
      exists_eq_left']
    cases parseUnsigned (2 ^ 16) value <;> simp [eq_comm]

omit [External] in
theorem healthCheckMode_eq_true {svc : Service} {default : HealthCheckDefault} :
    healthCheckMode (some svc) default = .ok true ↔
      (annotationOf (some svc) "sozu.io/health-check" = none ∧ default.enabled = true) ∨
        ∃ mode, annotationOf (some svc) "sozu.io/health-check" = some mode ∧
          toAsciiLowercase mode = "tcp" := by
  have htcp : toAsciiLowercase "tcp" = "tcp" := by decide
  unfold healthCheckMode eqIgnoreAsciiCase
  cases annotationOf (some svc) "sozu.io/health-check" with
  | none => simp
  | some mode =>
    simp only [htcp, decide_eq_true_eq]
    split <;> rename_i hmode
    · simp [hmode]
    · split <;> simp [hmode]

/-- **The annotations yield a check exactly when the Service asks for it.** -/
theorem serviceHealthCheck_eq_some {svc : Service} {default : HealthCheckDefault}
    {check : HealthCheck} :
    serviceHealthCheck (some svc) default = .ok (some check) ↔ AsksFor svc default check := by
  unfold serviceHealthCheck
  constructor
  · intro h
    obtain ⟨on, hon, h⟩ := bind_eq_ok h
    cases on with
    | false => cases h
    | true =>
      obtain ⟨interval, hinterval, h⟩ := bind_eq_ok h
      obtain ⟨timeout, htimeout, h⟩ := bind_eq_ok h
      obtain ⟨healthy, hhealthy, h⟩ := bind_eq_ok h
      obtain ⟨unhealthy, hunhealthy, h⟩ := bind_eq_ok h
      obtain ⟨port, hport, h⟩ := bind_eq_ok h
      dsimp only at h
      split at h
      · rename_i haccepted
        cases h
        exact ⟨healthCheckMode_eq_true.1 hon, wholeNumber_eq_ok.1 hinterval,
          wholeNumber_eq_ok.1 htimeout, wholeNumber_eq_ok.1 hhealthy,
          wholeNumber_eq_ok.1 hunhealthy, probePort_eq_ok.1 hport, haccepted⟩
      · cases h
  · intro h
    have haccepted : healthCheckRefusal ⟨check.intervalSecs, check.timeoutSecs,
      check.healthyThreshold, check.unhealthyThreshold, check.port⟩ = none := h.accepted
    rw [healthCheckMode_eq_true.2 h.enabled, wholeNumber_eq_ok.2 h.interval,
      wholeNumber_eq_ok.2 h.timeout, wholeNumber_eq_ok.2 h.healthy,
      wholeNumber_eq_ok.2 h.unhealthy, probePort_eq_ok.2 h.port]
    simp only [bind, Except.bind, Bool.not_true, Bool.false_eq_true, if_false, haccepted]
    rfl

/-! ## The clusters -/

theorem join_healthCheck {ns service : String} {svc : Option Service} {default : HealthCheckDefault}
    {check : HealthCheck} :
    (clusterSettings ns service svc default).healthCheck.toOption.join = some check ↔
      serviceHealthCheck svc default = .ok (some check) := by
  unfold clusterSettings
  dsimp only
  cases serviceHealthCheck svc default with
  | error reason => simp [Except.toOption]
  | ok found => simp [Except.toOption]

/-- A settled cluster is that of a reference, its check left only if Sōzu runs it. -/
theorem exists_of_settledClusters {index : Index} {l : List Emission} {traffic : Traffic}
    {c : Cluster} (hprograms : Programs index l)
    (h : c ∈ (settledClusters (tables l).clusters traffic).toList.map Prod.snd) :
    ∃ r, .service r ∈ l ∧ FromReference index r ∧ r.cluster.id = c.id ∧
      c = { r.cluster with
        http2 := c.http2
        healthCheck := if traffic.runsCheck c.id then r.cluster.healthCheck else none } := by
  obtain ⟨⟨id, c'⟩, hmem, rfl⟩ := List.mem_map.1 h
  have hat := Std.ExtTreeMap.mem_toList_iff_getElem?_eq_some.1 hmem
  unfold settledClusters at hat
  rw [Std.ExtTreeMap.getElem?_map] at hat
  obtain ⟨c, hc, rfl⟩ := Option.map_eq_some_iff.1 hat
  obtain ⟨r, hr, rfl, http2, rfl⟩ := exists_of_clusters_tables hc
  refine ⟨r, hr, hprograms r hr, ?_⟩
  cases hruns : traffic.runsCheck r.cluster.id with
  | true => simp [hruns]
  | false => simp [hruns]

/-- Sōzu runs a check exactly for a cluster that carries HTTP or TCP traffic, and no UDP. -/
theorem runsCheck_iff {cfg : BuildConfig} {inputs : Inputs} {ingresses : IngressWalk}
    {gw : GatewayWalk} (hsockets : gw.sockets.Settled) (clusterId : String) :
    ((arbitrate cfg inputs (ingresses.emissions ++ gw.emissions)).traffic gw.sockets).runsCheck
        clusterId = true ↔
      (Proxies (assemble cfg inputs ingresses gw).ir clusterId ∨
          CarriesL4 (assemble cfg inputs ingresses gw).ir .tcp clusterId) ∧
        ¬CarriesL4 (assemble cfg inputs ingresses gw).ir .udp clusterId := by
  have hcarries : ∀ protocol, CarriesL4 (assemble cfg inputs ingresses gw).ir protocol clusterId ↔
      ∃ carrier ∈ gw.sockets.routing.map L4Claim.carrier,
        carrier.protocol = protocol ∧ carrier.clusterId = clusterId :=
    fun protocol => (carries_iff hsockets protocol clusterId).symm
  have hproxies : Proxies (assemble cfg inputs ingresses gw).ir clusterId ↔
      ((arbitrate cfg inputs (ingresses.emissions ++ gw.emissions)).traffic gw.sockets).http
        clusterId = true := (http_iff clusterId).symm
  rw [hproxies, hcarries, hcarries]
  simp [Traffic.runsCheck, Traffic.tcp, Traffic.udp, Arbitrated.traffic]

/-- The cluster is that of a port of a Service, of one Service when names have no dot; it has the
check that Service's annotations, or the default, give, exactly when an HTTP(S) frontend without a
redirect or a TCP layer-4 frontend names it and no UDP one does. -/
def CheckSettled (cfg : BuildConfig) (inputs : Inputs) (ir : Ir) (c : Cluster) : Prop :=
  ∃ ns service svc port,
    Denotes (Index.build inputs cfg.healthCheck) c.id ns service svc port ∧
    (Dotless inputs → ∀ ns' service' svc' port',
      Denotes (Index.build inputs cfg.healthCheck) c.id ns' service' svc' port' → svc' = svc) ∧
    ∀ check, c.healthCheck = some check ↔
      AsksFor svc cfg.healthCheck check ∧
        (Proxies ir c.id ∨ CarriesL4 ir .tcp c.id) ∧ ¬CarriesL4 ir .udp c.id

theorem checkSettled_of_mem {cfg : BuildConfig} {inputs : Inputs} {out : BuildOutput}
    (h : build cfg inputs = some out) {c : Cluster} (hc : c ∈ out.ir.clusters) :
    CheckSettled cfg inputs out.ir c := by
  obtain ⟨walk, hwalk, rfl⟩ := Option.map_eq_some_iff.1 h
  have hprograms := programs_walks hwalk
  obtain ⟨r, -, hreference, hid, hcluster⟩ := exists_of_settledClusters hprograms hc
  obtain ⟨ns, service, svc, port, hdenotes, hr⟩ := hreference.denotes
  rw [hid] at hdenotes hr
  refine ⟨ns, service, svc, port, hdenotes, fun hdotless ns' service' svc' port' h' => ?_,
    fun check => ?_⟩
  · obtain ⟨rfl, rfl⟩ := h'.isClusterOf.unique hdotless hdenotes.isClusterOf
    exact Option.some.inj (h'.found.symm.trans hdenotes.found)
  · have hgiven : r.cluster.healthCheck = some check ↔ AsksFor svc cfg.healthCheck check := by
      rw [← serviceHealthCheck_eq_some, hr, ← hdenotes.found]
      exact join_healthCheck
    rw [← hgiven, ← runsCheck_iff (settled_settleSockets _), congrArg Cluster.healthCheck hcluster]
    dsimp only
    split
    · rename_i hruns
      simp [hruns]
    · rename_i hruns
      simp [hruns]

omit [External] [CharTable] in
/-- The translator leaves a check out on a UDP cluster, which has none. -/
theorem healthCheck_clusterPayload {ir : Ir} {c : Cluster}
    (h : ∀ check, c.healthCheck = some check → ¬CarriesL4 ir .udp c.id) :
    (Translator.clusterPayload c (c.id ∈ Translator.udpClusters ir)).healthCheck =
      c.healthCheck.map Translator.healthCheckConfig := by
  by_cases hudp : c.id ∈ Translator.udpClusters ir
  · have hcarries : CarriesL4 ir .udp c.id := by
      obtain ⟨f, hf, hid⟩ := List.mem_map.1 (BTreeSet.mem_ofList.1 hudp)
      obtain ⟨hmem, hprotocol⟩ := List.mem_filter.1 hf
      exact ⟨f, hmem, of_decide_eq_true hprotocol, hid⟩
    have hnone : c.healthCheck = none := by
      rw [Option.eq_none_iff_forall_ne_some]
      exact fun check heq => h check heq hcarries
    simp [Translator.clusterPayload, hudp, hnone]
  · simp [Translator.clusterPayload, hudp]

/-- **Builder and translator agree on health checks.**  Every cluster of a build has the check its
Service asks for exactly when Sōzu would run it, and the translator drops none. -/
theorem health_checks_settled {cfg : BuildConfig} {inputs : Inputs} {out : BuildOutput}
    (h : build cfg inputs = some out) :
    (∀ c ∈ out.ir.clusters, CheckSettled cfg inputs out.ir c) ∧
    Translator.clusterRequests out.ir = out.ir.clusters.map fun c =>
      (Sozu.RequestType.addCluster
        { Translator.clusterPayload c (c.id ∈ Translator.udpClusters out.ir) with
          healthCheck := c.healthCheck.map Translator.healthCheckConfig }).into := by
  refine ⟨fun c hc => checkSettled_of_mem h hc, List.map_congr_left fun c hc => ?_⟩
  obtain ⟨ns, service, svc, port, -, -, hcheck⟩ := checkSettled_of_mem h hc
  have hpayload := healthCheck_clusterPayload fun check heq => ((hcheck check).1 heq).2.2
  rw [Translator.clusterRequest, ← hpayload]

end Clusters

/-- An Ingress to the Service `default/web`, which asks for a check of its own. -/
def checkedInputs : Inputs where
  ingresses :=
    [{ metadata := { name := some "site" }
       spec := some {
        ingressClassName := some "sozu"
        rules := some [{
          host := some "example.test"
          http := some [{
            path := some "/"
            pathType := "Prefix"
            backend := { service := some {
              name := "web"
              port := some { number := some 80, name := none } } } }] }] } }]
  services :=
    [{ metadata := {
        name := some "web"
        annotations := some ((∅ : BTreeMap String String).insert "sozu.io/health-check" "tcp") }
       ports := some [{ port := 80 }] }]

attribute [local instance] External.plain Sozu.asciiTable in
/-- The Ingress's cluster is checked, as the Service asks. -/
theorem health_checks_settled_checkedInputs :
    ∃ out, build {} checkedInputs = some out ∧ ∃ c ∈ out.ir.clusters,
      c.healthCheck = some HealthCheckDefault.defaultCheck ∧
        CheckSettled {} checkedInputs out.ir c := by
  have hout : ((build {} checkedInputs).any fun out => out.ir.clusters.any fun c =>
      c.healthCheck = some HealthCheckDefault.defaultCheck) = true := by
    decide +kernel
  obtain ⟨out, hbuild, hany⟩ := (Option.any_eq_true _ _).1 hout
  obtain ⟨c, hc, hcheck⟩ := List.any_eq_true.1 hany
  exact ⟨out, hbuild, c, hc, of_decide_eq_true hcheck, (health_checks_settled hbuild).1 c hc⟩

end Builder

end SozuGateway
