import SozuGateway.Sozu.Store
import SozuGateway.Lib.BTreeSet
import SozuGateway.Lib.Unique

/-!
# From the intermediate representation to requests

The payloads of `crates/translator/src/lib.rs`: one request per object of the IR,
the deduplications made on the way, and the two checks an IR must pass.

* `clusterRequests`, `backendRequest`, `httpFrontendRequests`,
  `l4ListenerAdds`, `l4FrontendRequest` — the requests of the routing graph.
* `headerPredicates_perm` — a frontend's predicates follow its conditions, not
  the order the IR lists them in.
* `checkClusterReferences`, `checkL4Conflicts` — the refusals;
  `checkClusterReferences_ok` and `checkL4Conflicts_ok` say what passing means.
-/

set_option autoImplicit false

namespace SozuGateway

namespace Translator

open Lib Sozu

/-- Why a translation fails. -/
inductive TranslatorError where
  /-- The routing state refused a request. -/
  | dispatch (e : StateError) (request : Request)
  /-- The certificate library refused a PEM text, and why. -/
  | certificate (message : String)
  /-- Two clusters claim one layer-4 address. -/
  | l4Conflict (listener : SocketAddr) (protocol : L4Protocol) (other clusterId : String)
  /-- An object of this kind names a cluster that is not declared. -/
  | unknownCluster (what clusterId : String)
  deriving DecidableEq, Repr

/-! ## Clusters and backends -/

/-- The Sōzu path rule one path match compiles to. -/
def pathRule (path : PathMatch) : PathRule :=
  match path.sozuRule with
  | .plainPrefix v => ⟨.plainPrefix, v⟩
  | .regex v => ⟨.regex, v⟩

/-- The wire form of a TCP-connect health check. -/
def healthCheckConfig (check : HealthCheck) : HealthCheckConfig where
  uri := "/"
  interval := check.intervalSecs
  timeout := check.timeoutSecs
  healthyThreshold := check.healthyThreshold
  unhealthyThreshold := check.unhealthyThreshold
  expectedStatus := 0
  mode := .tcp
  acceptedStatuses := []
  port := check.port.map UInt16.toUInt32
  headers := []

/-- The payload of a cluster's add.  A UDP cluster keeps no per-IP cap and no
health check, and gets its affinity. -/
def clusterPayload (c : Cluster) (udp : Bool) : Sozu.Cluster where
  clusterId := c.id
  stickySession := c.stickySession
  httpsRedirect := c.httpsRedirect
  loadBalancing := c.loadBalancing
  maxConnectionsPerIp := if udp then none else c.maxConnectionsPerIp
  retryAfter := c.retryAfter
  udp := if udp then some ⟨some .sourceIpPort⟩ else none
  http2 := if c.http2 then some true else none
  healthCheck := if udp then none else c.healthCheck.map healthCheckConfig

def clusterRequest (c : Cluster) (udp : Bool) : Request :=
  (RequestType.addCluster (clusterPayload c udp)).into

/-- The clusters a UDP frontend names. -/
def udpClusters (ir : Ir) : BTreeSet String :=
  .ofList ((ir.l4Frontends.filter fun f => f.protocol = .udp).map L4Frontend.clusterId)

def clusterRequests (ir : Ir) : List Request :=
  ir.clusters.map fun c => clusterRequest c (c.id ∈ udpClusters ir)

def backendPayload (b : Backend) : AddBackend where
  clusterId := b.clusterId
  backendId := b.backendId
  address := b.address.toWire
  stickyId := b.stickyId
  loadBalancingParameters := b.weight
  backup := none

def backendRequest (b : Backend) : Request := (RequestType.addBackend (backendPayload b)).into

/-! ## Frontends -/

def headerPredicate (m : HeaderMatch) : HeaderPredicate :=
  match m.kind with
  | .exact value => ⟨m.name, .exact, some value⟩
  | .regex value => ⟨m.name, .regex, some value⟩

/-- A frontend's header matches as Sōzu's predicates, in the canonical order. -/
def headerPredicates (ms : List HeaderMatch) : List HeaderPredicate :=
  (HeaderMatch.canonical ms).map headerPredicate

/-- A frontend's predicates follow its conditions, not their order. -/
theorem headerPredicates_perm {ms ms' : List HeaderMatch} (h : ms.Perm ms') :
    headerPredicates ms = headerPredicates ms' := by
  rw [headerPredicates, headerPredicates, HeaderMatch.canonical_perm h]

/-- A header edit as Sōzu takes it: the empty value deletes by name. -/
def headerMod (m : HeaderMod) : Header := ⟨m.on, m.key, m.value.getD ""⟩

def redirectPolicy : RedirectStatus → RedirectPolicy
  | .movedPermanently => .permanent
  | .found => .found
  | .permanentRedirect => .permanentRedirect

def redirectScheme : Scheme → RedirectScheme
  | .http => .useHttp
  | .https => .useHttps

/-- The redirect's fields; an unset one keeps the request's value. -/
def applyRedirect (payload : RequestHttpFrontend) (redirect : Redirect) : RequestHttpFrontend :=
  { payload with
    redirect := some (redirectPolicy redirect.status)
    redirectScheme :=
      match redirect.scheme with
      | some scheme => some (redirectScheme scheme)
      | none => payload.redirectScheme
    rewriteHost := redirect.hostname
    rewritePath := redirect.path
    rewritePort := redirect.port.map UInt16.toUInt32 }

/-- The rewrite's fields, over a redirect's. -/
def applyRewrite (payload : RequestHttpFrontend) (rewrite : Rewrite) : RequestHttpFrontend :=
  { payload with rewriteHost := rewrite.hostname, rewritePath := rewrite.path }

/-- Map the IR's per-route filters onto Sōzu's frontend fields. -/
def applyFilters (payload : RequestHttpFrontend) (filters : SozuGateway.FrontendFilters) :
    RequestHttpFrontend :=
  let payload := { payload with headers := filters.headerMods.map headerMod }
  let payload := filters.redirect.elim payload (applyRedirect payload)
  filters.rewrite.elim payload (applyRewrite payload)

/-- A bare `*` catch-all is a fallback behind every specific host. -/
def rulePosition (hostname : String) : RulePosition := if hostname = "*" then .post else .tree

def frontendPayload (f : Frontend) : RequestHttpFrontend :=
  applyFilters
    { clusterId := f.clusterId
      address := f.listener.toWire
      hostname := f.hostname
      path := pathRule f.path
      method := f.method
      position := rulePosition f.hostname
      headerPredicates := headerPredicates f.headerMatches
      headers := []
      redirect := none
      redirectScheme := none
      rewriteHost := none
      rewritePath := none
      rewritePort := none }
    f.filters

@[simp] theorem frontendPayload_clusterId (f : Frontend) :
    (frontendPayload f).clusterId = f.clusterId := by
  unfold frontendPayload applyFilters
  cases f.filters.redirect <;> cases f.filters.rewrite <;> rfl

/-- The payload reads a frontend's header matches only through their canonical
order. -/
theorem frontendPayload_perm {f f' : Frontend} (h : f.headerMatches.Perm f'.headerMatches)
    (hrest : { f with headerMatches := [] } = { f' with headerMatches := [] }) :
    frontendPayload f = frontendPayload f' := by
  obtain ⟨hostname, path, method, clusterId, tls, listener, filters, headerMatches⟩ := f
  obtain ⟨hostname', path', method', clusterId', tls', listener', filters', headerMatches'⟩ := f'
  simp only [Frontend.mk.injEq, and_true] at hrest
  obtain ⟨rfl, rfl, rfl, rfl, rfl, rfl, rfl⟩ := hrest
  unfold frontendPayload
  rw [headerPredicates_perm h]

section Keys

variable [CharTable] (lib : Library)

/-- Frontends deduplicated by the key Sōzu stores them under. -/
def uniqueFrontends (ir : Ir) : List Frontend := uniqueBy Frontend.sozuRouteKey ir.frontends

def frontendRequest (tls : Bool) (payload : RequestHttpFrontend) : Request :=
  (RequestType.addHttpFrontend tls payload).into

/-- The payloads, deduplicated a second time on the key Sōzu derives from them. -/
def httpFrontendPayloads (ir : Ir) : List (Bool × RequestHttpFrontend) :=
  uniqueBy (fun p => (p.1, lib.display p.2))
    ((uniqueFrontends ir).map fun f => (f.tls, frontendPayload f))

def httpFrontendRequests (ir : Ir) : List Request :=
  (httpFrontendPayloads lib ir).map fun p => frontendRequest p.1 p.2

/-- `RequestHttpFrontend`'s `Display` is the key `sozu_route_key` computes. -/
def RouteKeyed : Prop :=
  ∀ f : Frontend, lib.display (frontendPayload f) = f.sozuRouteKey.key

end Keys

/-! ## Layer 4 -/

def tcpListener (addr : SocketAddr) : TcpListenerConfig where
  address := addr.toWire
  publicAddress := none
  expectProxy := false
  frontTimeout := 60
  backTimeout := 30
  connectTimeout := 3
  active := true

def udpListener (addr : SocketAddr) : UdpListenerConfig where
  address := addr.toWire
  publicAddress := none
  frontTimeout := 30
  backTimeout := 30
  maxRxDatagramSize := 1500
  maxFlows := 0
  active := true

def tcpListenerAdd (addr : SocketAddr) : Request :=
  (RequestType.addTcpListener (tcpListener addr)).into

def udpListenerAdd (addr : SocketAddr) : Request :=
  (RequestType.addUdpListener (udpListener addr)).into

/-- The listener protocol of a layer-4 route. -/
def proxyOf : L4Protocol → ListenerType
  | .tcp => .tcp
  | .udp => .udp

def l4FrontendRequest (f : L4Frontend) : Request :=
  match f.protocol with
  | .tcp => (RequestType.addTcpFrontend ⟨f.clusterId, f.listener.toWire, none, []⟩).into
  | .udp => (RequestType.addUdpFrontend ⟨f.clusterId, f.listener.toWire⟩).into

/-- Layer-4 frontends deduplicated by exact identity. -/
def uniqueL4Frontends (l4 : List L4Frontend) : List L4Frontend :=
  uniqueBy (fun f => (f.protocol, f.listener, f.clusterId)) l4

theorem mem_uniqueL4Frontends {l4 : List L4Frontend} {f : L4Frontend} :
    f ∈ uniqueL4Frontends l4 ↔ f ∈ l4 := by
  refine ⟨mem_of_mem_uniqueBy, fun h => mem_uniqueBy_of_inj h fun g _ hkey => ?_⟩
  simp only [Prod.mk.injEq] at hkey
  cases f
  cases g
  simpa using hkey

/-- The claims read so far, then the first claim that meets another. -/
def checkL4ConflictsFrom (claims : List L4Frontend) :
    List L4Frontend → Except TranslatorError Unit
  | [] => .ok ()
  | f :: l4 =>
      match claims.find? fun g => g.protocol = f.protocol ∧ g.listener = f.listener with
      | some other => .error (.l4Conflict f.listener f.protocol other.clusterId f.clusterId)
      | none => checkL4ConflictsFrom (f :: claims) l4

/-- Reject two layer-4 frontends claiming one listen address for different
clusters. -/
def checkL4Conflicts (l4 : List L4Frontend) : Except TranslatorError Unit :=
  checkL4ConflictsFrom [] l4

theorem checkL4ConflictsFrom_ok {claims l4 : List L4Frontend} :
    checkL4ConflictsFrom claims l4 = .ok () ↔
      (∀ f ∈ l4, ∀ g ∈ claims, (g.protocol, g.listener) ≠ (f.protocol, f.listener)) ∧
        (l4.map fun f => (f.protocol, f.listener)).Nodup := by
  induction l4 generalizing claims with
  | nil => simp [checkL4ConflictsFrom]
  | cons f l4 ih =>
    rw [checkL4ConflictsFrom]
    cases hfind : claims.find? fun g => g.protocol = f.protocol ∧ g.listener = f.listener with
    | some other =>
      have hmem := List.mem_of_find?_eq_some hfind
      have hkey := List.find?_some hfind
      simp only [decide_eq_true_eq] at hkey
      simp only [reduceCtorEq, false_iff, not_and]
      intro hclear
      exact absurd (by simp [hkey]) (hclear f (by simp) other hmem)
    | none =>
      have hnone : ∀ g ∈ claims, (g.protocol, g.listener) ≠ (f.protocol, f.listener) := by
        intro g hg
        have hnot := List.find?_eq_none.1 hfind g hg
        simpa using hnot
      rw [ih, List.map_cons, List.nodup_cons]
      constructor
      · rintro ⟨hclear, hnd⟩
        refine ⟨?_, ?_, hnd⟩
        · intro f' hf' g hg
          rcases List.mem_cons.1 hf' with rfl | hf'
          · exact hnone g hg
          · exact hclear f' hf' g (by simp [hg])
        · intro hmem
          obtain ⟨f', hf', hkey⟩ := List.mem_map.1 hmem
          exact hclear f' hf' f (by simp) hkey.symm
      · rintro ⟨hclear, hnot, hnd⟩
        refine ⟨?_, hnd⟩
        intro f' hf' g hg
        rcases List.mem_cons.1 hg with rfl | hg
        · intro hkey
          exact hnot (hkey ▸ List.mem_map_of_mem hf')
        · exact hclear f' (by simp [hf']) g hg

/-- Passing the check: no two of the frontends share a protocol and an address. -/
theorem checkL4Conflicts_ok {l4 : List L4Frontend} :
    checkL4Conflicts l4 = .ok () ↔ (l4.map fun f => (f.protocol, f.listener)).Nodup := by
  simp [checkL4Conflicts, checkL4ConflictsFrom_ok]

/-- The distinct listen addresses, each by its first frontend. -/
def l4Listeners (l4 : List L4Frontend) : List L4Frontend :=
  uniqueBy (fun f => (f.protocol, f.listener)) l4

def l4ListenerAdd (f : L4Frontend) : Request :=
  match f.protocol with
  | .tcp => tcpListenerAdd f.listener
  | .udp => udpListenerAdd f.listener

def l4ListenerAdds (l4 : List L4Frontend) : List Request := (l4Listeners l4).map l4ListenerAdd

/-! ## Cluster references -/

/-- Every backend and frontend of the desired state names a cluster it declares. -/
def checkClusterReferences (desired : Ir) : Except TranslatorError Unit :=
  let declared := BTreeSet.ofList (desired.clusters.map Cluster.id)
  let unknown : String → Bool := fun id => id ∉ declared
  match desired.backends.find? fun b => unknown b.clusterId with
  | some b => .error (.unknownCluster "a backend" b.clusterId)
  | none =>
      match (desired.frontends.filterMap Frontend.clusterId).find? unknown with
      | some id => .error (.unknownCluster "an HTTP frontend" id)
      | none =>
          match desired.l4Frontends.find? fun f => unknown f.clusterId with
          | some f => .error (.unknownCluster "an L4 frontend" f.clusterId)
          | none => .ok ()

/-- The IR declares the cluster. -/
def Declares (ir : Ir) (id : String) : Prop := ∃ c ∈ ir.clusters, c.id = id

/-- **Passing the check**: every object names a declared cluster. -/
theorem checkClusterReferences_ok {ir : Ir} : checkClusterReferences ir = .ok () ↔
    (∀ b ∈ ir.backends, Declares ir b.clusterId) ∧
      (∀ f ∈ ir.frontends, ∀ id, f.clusterId = some id → Declares ir id) ∧
      ∀ f ∈ ir.l4Frontends, Declares ir f.clusterId := by
  have hdeclared : ∀ id, id ∈ BTreeSet.ofList (ir.clusters.map Cluster.id) ↔ Declares ir id := by
    intro id
    rw [BTreeSet.mem_ofList, List.mem_map]
    rfl
  unfold checkClusterReferences
  simp only []
  cases hb : ir.backends.find? fun b => decide (b.clusterId ∉ BTreeSet.ofList _) with
  | some b =>
    have hmem := List.mem_of_find?_eq_some hb
    have hunknown := List.find?_some hb
    rw [decide_eq_true_eq, hdeclared] at hunknown
    simp only [reduceCtorEq, false_iff]
    exact fun h => hunknown (h.1 b hmem)
  | none =>
    have hbackends : ∀ b ∈ ir.backends, Declares ir b.clusterId := by
      intro b hb'
      have hnot := List.find?_eq_none.1 hb b hb'
      rwa [decide_eq_true_eq, not_not, hdeclared] at hnot
    simp only []
    cases hf : (ir.frontends.filterMap Frontend.clusterId).find? fun id =>
        decide (id ∉ BTreeSet.ofList _) with
    | some id =>
      obtain ⟨f, hmem, hid⟩ := List.mem_filterMap.1 (List.mem_of_find?_eq_some hf)
      have hunknown := List.find?_some hf
      rw [decide_eq_true_eq, hdeclared] at hunknown
      simp only [reduceCtorEq, false_iff]
      exact fun h => hunknown (h.2.1 f hmem id hid)
    | none =>
      have hfronts : ∀ f ∈ ir.frontends, ∀ id, f.clusterId = some id → Declares ir id := by
        intro f hf' id hid
        have hnot := List.find?_eq_none.1 hf id (List.mem_filterMap.2 ⟨f, hf', hid⟩)
        rwa [decide_eq_true_eq, not_not, hdeclared] at hnot
      simp only []
      cases hl : ir.l4Frontends.find? fun f => decide (f.clusterId ∉ BTreeSet.ofList _) with
      | some f =>
        have hmem := List.mem_of_find?_eq_some hl
        have hunknown := List.find?_some hl
        rw [decide_eq_true_eq, hdeclared] at hunknown
        simp only [reduceCtorEq, false_iff]
        exact fun h => hunknown (h.2.2 f hmem)
      | none =>
        have hl4 : ∀ f ∈ ir.l4Frontends, Declares ir f.clusterId := by
          intro f hf'
          have hnot := List.find?_eq_none.1 hl f hf'
          rwa [decide_eq_true_eq, not_not, hdeclared] at hnot
        simp only [true_iff]
        exact ⟨hbackends, hfronts, hl4⟩

end Translator

end SozuGateway
