import SozuGateway.Sozu.Command
import SozuGateway.Lib.BTreeMap
import SozuGateway.Lib.Writes

/-!
# Sōzu's routing state, as the translator documents it

`sozu_command_lib::state::ConfigState` is not part of this repository: what the
translator calls of it is a parameter, `Library`, and what the code relies on is
the hypothesis `Library.Documented`.

* `ConfigState` — the maps the translator, the replay and the agent read.
* `Agrees` — equality up to the request census, empty buckets and bucket order:
  what `comparable` (in the replay) quotients by.
* `after` — the effect the code documents for each verb, `Fits` — when a
  dispatch is accepted, `Refused` — when it is refused.
* `Emits`, `ClusterRemoval` — what `ConfigState::diff` and
  `cluster_removal_requests` hold.
* `Holds` — the objects of a state, each under its `Slot`; `WellFormed` — each object
  is filed under its own key, once.
-/

set_option autoImplicit false

namespace SozuGateway

namespace Sozu

/-- The routing state: clusters, backends and layer-4 frontends in one bucket per
cluster, HTTP(S) frontends under their route key, layer-4 listeners under their
address. -/
structure ConfigState where
  clusters : BTreeMap String Cluster := ∅
  backends : BTreeMap String (List AddBackend) := ∅
  httpFronts : BTreeMap String RequestHttpFrontend := ∅
  httpsFronts : BTreeMap String RequestHttpFrontend := ∅
  tcpFronts : BTreeMap String (List RequestTcpFrontend) := ∅
  udpFronts : BTreeMap String (List RequestUdpFrontend) := ∅
  tcpListeners : BTreeMap SocketAddress TcpListenerConfig := ∅
  udpListeners : BTreeMap SocketAddress UdpListenerConfig := ∅
  /-- How many requests of each verb were dispatched. -/
  requestCounts : BTreeMap String ℕ := ∅
  deriving DecidableEq

/-- Why a dispatch is refused. -/
inductive StateError where
  | notFound
  | noChange
  | alreadyExists
  | other (message : String)
  deriving DecidableEq, Repr

namespace ConfigState

/-- The backends of a cluster. -/
def backendsOf (s : ConfigState) (id : String) : List AddBackend := s.backends[id]?.getD []

/-- The TCP frontends of a cluster. -/
def tcpOf (s : ConfigState) (id : String) : List RequestTcpFrontend := s.tcpFronts[id]?.getD []

/-- The UDP frontends of a cluster. -/
def udpOf (s : ConfigState) (id : String) : List RequestUdpFrontend := s.udpFronts[id]?.getD []

/-- The frontend map of a protocol. -/
def fronts (s : ConfigState) (https : Bool) : BTreeMap String RequestHttpFrontend :=
  if https then s.httpsFronts else s.httpFronts

/-- Two states that route alike: equal up to the census, empty buckets and the
order within a bucket. -/
structure Agrees (s t : ConfigState) : Prop where
  clusters : s.clusters = t.clusters
  httpFronts : s.httpFronts = t.httpFronts
  httpsFronts : s.httpsFronts = t.httpsFronts
  tcpListeners : s.tcpListeners = t.tcpListeners
  udpListeners : s.udpListeners = t.udpListeners
  backendsOf : ∀ id, (s.backendsOf id).Perm (t.backendsOf id)
  tcpOf : ∀ id, (s.tcpOf id).Perm (t.tcpOf id)
  udpOf : ∀ id, (s.udpOf id).Perm (t.udpOf id)

theorem Agrees.refl (s : ConfigState) : Agrees s s :=
  ⟨rfl, rfl, rfl, rfl, rfl, fun _ => .refl _, fun _ => .refl _, fun _ => .refl _⟩

theorem Agrees.symm {s t : ConfigState} (h : Agrees s t) : Agrees t s :=
  ⟨h.clusters.symm, h.httpFronts.symm, h.httpsFronts.symm, h.tcpListeners.symm,
    h.udpListeners.symm, fun id => (h.backendsOf id).symm, fun id => (h.tcpOf id).symm,
    fun id => (h.udpOf id).symm⟩

theorem Agrees.trans {s t u : ConfigState} (h : Agrees s t) (h' : Agrees t u) : Agrees s u :=
  ⟨h.clusters.trans h'.clusters, h.httpFronts.trans h'.httpFronts,
    h.httpsFronts.trans h'.httpsFronts, h.tcpListeners.trans h'.tcpListeners,
    h.udpListeners.trans h'.udpListeners, fun id => (h.backendsOf id).trans (h'.backendsOf id),
    fun id => (h.tcpOf id).trans (h'.tcpOf id), fun id => (h.udpOf id).trans (h'.udpOf id)⟩

theorem Agrees.fronts {s t : ConfigState} (h : Agrees s t) (https : Bool) :
    s.fronts https = t.fronts https := by
  cases https
  · exact h.httpFronts
  · exact h.httpsFronts

end ConfigState

/-! ## The parameters -/

/-- What the repository calls of `sozu_command_lib` and its serialisation. -/
structure Library where
  /-- `ConfigState::dispatch`. -/
  dispatch : ConfigState → Request → Except StateError ConfigState
  /-- `ConfigState::diff`. -/
  diff : ConfigState → ConfigState → List Request
  /-- `ConfigState::cluster_removal_requests`. -/
  clusterRemovalRequests : ConfigState → String → List Request
  /-- Whether `dispatch` accepts the payload of an add, whatever the state. -/
  admits : RequestType → Bool
  /-- `RequestHttpFrontend`'s `Display`. -/
  display : RequestHttpFrontend → String
  /-- `serde_json::to_string` of a request, a backend and the layer-4 frontends. -/
  json : Request → String
  backendJson : AddBackend → String
  tcpJson : RequestTcpFrontend → String
  udpJson : RequestUdpFrontend → String
  /-- `certificate::calculate_fingerprint`: the digest of the leaf, or why it does
  not parse. -/
  calculateFingerprint : String → Except String (List (Fin 256))
  /-- `certificate::parse_pem`: the DER of the first block, or why it does not
  parse. -/
  parsePem : String → Except String (List (Fin 256))
  /-- `certificate::split_certificate_chain`. -/
  splitCertificateChain : String → List String

variable (lib : Library)

/-! ## The documented effect of each verb -/

/-- The claim a TCP frontend makes on its address, as Sōzu files it. -/
def tcpClaim (f : RequestTcpFrontend) : Option String × List String :=
  (f.sni.map toAsciiLowercase, (f.alpn.insertionSort (· ≤ ·)).dedup)

/-- A TCP frontend as Sōzu files it. -/
def RequestTcpFrontend.filed (f : RequestTcpFrontend) : RequestTcpFrontend :=
  { f with sni := (tcpClaim f).1, alpn := (tcpClaim f).2 }

/-- The listed backend is the one a removal or an upsert names. -/
def sameBackend (backendId : String) (address : SocketAddress) (b : AddBackend) : Bool :=
  b.backendId = backendId ∧ b.address = address

/-- The held TCP frontend is the one a request names. -/
def sameTcp (f held : RequestTcpFrontend) : Bool :=
  held.address = f.address ∧ (held.sni, held.alpn) = tcpClaim f

/-- What a dispatch leaves of the frontend map of its protocol. -/
def ConfigState.setFronts (s : ConfigState) (https : Bool)
    (m : BTreeMap String RequestHttpFrontend) : ConfigState :=
  if https then { s with httpsFronts := m } else { s with httpFronts := m }

/-- The state after an accepted dispatch, up to `Agrees`: an upsert for
`AddCluster` and `AddBackend`, a cascade for `RemoveCluster`, a set or a clear of
one key for the rest. -/
def after (s : ConfigState) : RequestType → ConfigState
  | .addCluster c => { s with clusters := s.clusters.insert c.clusterId c }
  | .removeCluster id =>
      { s with
        clusters := s.clusters.erase id
        backends := s.backends.erase id
        httpFronts := s.httpFronts.filter fun _ f => f.clusterId ≠ some id
        httpsFronts := s.httpsFronts.filter fun _ f => f.clusterId ≠ some id
        tcpFronts := s.tcpFronts.erase id
        udpFronts := s.udpFronts.erase id }
  | .addBackend b =>
      { s with
        backends := s.backends.insert b.clusterId
          (b :: (s.backendsOf b.clusterId).filter fun x => !sameBackend b.backendId b.address x) }
  | .removeBackend b =>
      { s with
        backends := s.backends.insert b.clusterId
          ((s.backendsOf b.clusterId).filter fun x => !sameBackend b.backendId b.address x) }
  | .addFrontend v f =>
      s.setFronts v.https ((s.fronts v.https).insert (lib.display f) f)
  | .removeFrontend v f => s.setFronts v.https ((s.fronts v.https).erase (lib.display f))
  | .addTcpFrontend f =>
      { s with tcpFronts := s.tcpFronts.insert f.clusterId (f.filed :: s.tcpOf f.clusterId) }
  | .removeTcpFrontend f =>
      { s with
        tcpFronts := s.tcpFronts.insert f.clusterId
          ((s.tcpOf f.clusterId).filter fun x => !sameTcp f x) }
  | .addUdpFrontend f =>
      { s with udpFronts := s.udpFronts.insert f.clusterId (f :: s.udpOf f.clusterId) }
  | .removeUdpFrontend f =>
      { s with
        udpFronts := s.udpFronts.insert f.clusterId
          ((s.udpOf f.clusterId).filter fun x => x.address ≠ f.address) }
  | .addTcpListener l => { s with tcpListeners := s.tcpListeners.insert l.address l }
  | .addUdpListener l => { s with udpListeners := s.udpListeners.insert l.address l }
  | .activateListener a =>
      match a.proxy with
      | .tcp =>
          { s with tcpListeners := s.tcpListeners.modify a.address ({ · with active := true }) }
      | .udp =>
          { s with udpListeners := s.udpListeners.modify a.address ({ · with active := true }) }
      | _ => s
  | .deactivateListener d =>
      match d.proxy with
      | .tcp =>
          { s with tcpListeners := s.tcpListeners.modify d.address ({ · with active := false }) }
      | .udp =>
          { s with udpListeners := s.udpListeners.modify d.address ({ · with active := false }) }
      | _ => s
  | .removeListener l =>
      match l.proxy with
      | .tcp => { s with tcpListeners := s.tcpListeners.erase l.address }
      | .udp => { s with udpListeners := s.udpListeners.erase l.address }
      | _ => s
  | _ => s

/-- The state holds a layer-4 listener of this protocol at this address. -/
def ConfigState.hasListener (s : ConfigState) (proxy : ListenerType) (address : SocketAddress) :
    Prop :=
  match proxy with
  | .tcp => s.tcpListeners[address]? ≠ none
  | .udp => s.udpListeners[address]? ≠ none
  | _ => False

/-- A dispatch the code documents as accepted. -/
def Fits (s : ConfigState) : RequestType → Prop
  | .addCluster c => lib.admits (.addCluster c)
  | .removeCluster id => s.clusters[id]? ≠ none
  | .addBackend b => s.clusters[b.clusterId]? ≠ none
  | .removeBackend b => ∃ x ∈ s.backendsOf b.clusterId, sameBackend b.backendId b.address x
  | .addFrontend v f =>
      lib.admits (.addFrontend v f) ∧ (s.fronts v.https)[lib.display f]? = none
  | .removeFrontend v f =>
      ∃ held, (s.fronts v.https)[lib.display f]? = some held ∧ held.clusterId = f.clusterId
  | .addTcpFrontend f => ∀ id, ∀ held ∈ s.tcpOf id, held.address ≠ f.address
  | .removeTcpFrontend f => ∃ held ∈ s.tcpOf f.clusterId, sameTcp f held
  | .addUdpFrontend f => ∀ id, ∀ held ∈ s.udpOf id, held.address ≠ f.address
  | .removeUdpFrontend f => ∃ held ∈ s.udpOf f.clusterId, held.address = f.address
  | .addTcpListener l => s.tcpListeners[l.address]? = none
  | .addUdpListener l => s.udpListeners[l.address]? = none
  | .activateListener a => s.hasListener a.proxy a.address
  | .deactivateListener d => s.hasListener d.proxy d.address
  | .removeListener l => s.hasListener l.proxy l.address
  | _ => False

/-- A dispatch the code documents as refused. -/
def Refused (s : ConfigState) : RequestType → Prop
  | .addCluster c => ¬lib.admits (.addCluster c)
  | .addBackend b => s.clusters[b.clusterId]? = none
  | .addFrontend v f =>
      ¬lib.admits (.addFrontend v f) ∨ (s.fronts v.https)[lib.display f]? ≠ none
  | .addTcpListener l => s.tcpListeners[l.address]? ≠ none
  | .addUdpListener l => s.udpListeners[l.address]? ≠ none
  | _ => False

/-! ## The objects of a state -/

/-- An object of a routing state. -/
inductive Obj where
  | cluster (c : Cluster)
  | backend (b : AddBackend)
  | front (https : Bool) (f : RequestHttpFrontend)
  | tcp (f : RequestTcpFrontend)
  | udp (f : RequestUdpFrontend)
  | tcpListener (l : TcpListenerConfig)
  | udpListener (l : UdpListenerConfig)
  deriving DecidableEq

/-- What an object is filed under. -/
inductive Slot where
  | cluster (id : String)
  | backend (clusterId backendId : String) (address : SocketAddress)
  | front (https : Bool) (key : String)
  | tcp (clusterId : String) (address : SocketAddress)
  | udp (clusterId : String) (address : SocketAddress)
  | listener (proxy : ListenerType) (address : SocketAddress)
  deriving DecidableEq

/-- The slot of an object. -/
def Obj.slot : Obj → Slot
  | .cluster c => .cluster c.clusterId
  | .backend b => .backend b.clusterId b.backendId b.address
  | .front https f => .front https (lib.display f)
  | .tcp f => .tcp f.clusterId f.address
  | .udp f => .udp f.clusterId f.address
  | .tcpListener l => .listener .tcp l.address
  | .udpListener l => .listener .udp l.address

/-- The cluster an object names, and goes with. -/
def Obj.clusterId : Obj → Option String
  | .backend b => some b.clusterId
  | .front _ f => f.clusterId
  | .tcp f => some f.clusterId
  | .udp f => some f.clusterId
  | _ => none

/-- The state holds the object. -/
def Holds (s : ConfigState) : Obj → Prop
  | .cluster c => s.clusters[c.clusterId]? = some c
  | .backend b => b ∈ s.backendsOf b.clusterId
  | .front https f => (s.fronts https)[lib.display f]? = some f
  | .tcp f => f ∈ s.tcpOf f.clusterId
  | .udp f => f ∈ s.udpOf f.clusterId
  | .tcpListener l => s.tcpListeners[l.address]? = some l
  | .udpListener l => s.udpListeners[l.address]? = some l

/-- Each object of the state is filed under its own key, once.  TCP frontends
claim the whole address (no SNI, no ALPN), which is all the translator emits. -/
structure WellFormed (s : ConfigState) : Prop where
  cluster_keyed : ∀ (id : String) c, s.clusters[id]? = some c → c.clusterId = id
  front_keyed : ∀ https (k : String) f, (s.fronts https)[k]? = some f → lib.display f = k
  tcpListener_keyed : ∀ (a : SocketAddress) l, s.tcpListeners[a]? = some l → l.address = a
  udpListener_keyed : ∀ (a : SocketAddress) l, s.udpListeners[a]? = some l → l.address = a
  backend_keyed : ∀ id, ∀ b ∈ s.backendsOf id, b.clusterId = id
  tcp_keyed : ∀ id, ∀ f ∈ s.tcpOf id, f.clusterId = id ∧ f.sni = none ∧ f.alpn = []
  udp_keyed : ∀ id, ∀ f ∈ s.udpOf id, f.clusterId = id
  backend_nodup : ∀ id, ((s.backendsOf id).map fun b => (b.backendId, b.address)).Nodup
  tcp_nodup : ∀ id, ((s.tcpOf id).map fun f => f.address).Nodup
  udp_nodup : ∀ id, ((s.udpOf id).map fun f => f.address).Nodup

/-! ## The documented diff -/

/-- A layer-4 listener is new in `b`, at this protocol and address. -/
def ListenerGained (a b : ConfigState) (proxy : ListenerType) (address : SocketAddress) : Prop :=
  ¬a.hasListener proxy address ∧ b.hasListener proxy address

/-- What `ConfigState::diff` emits from `a` to `b`: a changed backend or frontend
as its removal and its add, a changed cluster as one add, and a removed cluster
without the removals its cascade covers. -/
inductive Emits (a b : ConfigState) : RequestType → Prop
  | addCluster {c : Cluster} : Holds lib b (.cluster c) → ¬Holds lib a (.cluster c) →
      Emits a b (.addCluster c)
  | removeCluster {id : String} : a.clusters[id]? ≠ none → b.clusters[id]? = none →
      Emits a b (.removeCluster id)
  | addBackend {x : AddBackend} : Holds lib b (.backend x) → ¬Holds lib a (.backend x) →
      Emits a b (.addBackend x)
  | removeBackend {x : AddBackend} : Holds lib a (.backend x) → ¬Holds lib b (.backend x) →
      (a.clusters[x.clusterId]? ≠ none → b.clusters[x.clusterId]? ≠ none) →
      Emits a b (.removeBackend ⟨x.clusterId, x.backendId, x.address⟩)
  | addFrontend {https : Bool} {f : RequestHttpFrontend} : Holds lib b (.front https f) →
      ¬Holds lib a (.front https f) → Emits a b (.addHttpFrontend https f)
  | removeFrontend {https : Bool} {f : RequestHttpFrontend} : Holds lib a (.front https f) →
      ¬Holds lib b (.front https f) →
      (∀ id, f.clusterId = some id → a.clusters[id]? ≠ none → b.clusters[id]? ≠ none) →
      Emits a b (.removeHttpFrontend https f)
  | addTcpFrontend {f : RequestTcpFrontend} : Holds lib b (.tcp f) → ¬Holds lib a (.tcp f) →
      Emits a b (.addTcpFrontend f)
  | removeTcpFrontend {f : RequestTcpFrontend} : Holds lib a (.tcp f) → ¬Holds lib b (.tcp f) →
      (a.clusters[f.clusterId]? ≠ none → b.clusters[f.clusterId]? ≠ none) →
      Emits a b (.removeTcpFrontend f)
  | addUdpFrontend {f : RequestUdpFrontend} : Holds lib b (.udp f) → ¬Holds lib a (.udp f) →
      Emits a b (.addUdpFrontend f)
  | removeUdpFrontend {f : RequestUdpFrontend} : Holds lib a (.udp f) → ¬Holds lib b (.udp f) →
      (a.clusters[f.clusterId]? ≠ none → b.clusters[f.clusterId]? ≠ none) →
      Emits a b (.removeUdpFrontend f)
  | addTcpListener {l : TcpListenerConfig} : Holds lib b (.tcpListener l) →
      ¬a.hasListener .tcp l.address → Emits a b (.addTcpListener l)
  | addUdpListener {l : UdpListenerConfig} : Holds lib b (.udpListener l) →
      ¬a.hasListener .udp l.address → Emits a b (.addUdpListener l)
  | activateListener {proxy : ListenerType} {address : SocketAddress} :
      ListenerGained a b proxy address → Emits a b (.activateListener ⟨address, proxy, false⟩)
  | deactivateListener {proxy : ListenerType} {address : SocketAddress} :
      ListenerGained b a proxy address → Emits a b (.deactivateListener ⟨address, proxy, false⟩)
  | removeListener {proxy : ListenerType} {address : SocketAddress} :
      ListenerGained b a proxy address → Emits a b (.removeListener ⟨address, proxy⟩)

/-- What `ConfigState::cluster_removal_requests` holds: the removal of every
object naming the cluster. -/
inductive ClusterRemoval (s : ConfigState) (id : String) : RequestType → Prop
  | backend {x : AddBackend} : x ∈ s.backendsOf id →
      ClusterRemoval s id (.removeBackend ⟨x.clusterId, x.backendId, x.address⟩)
  | front {https : Bool} {f : RequestHttpFrontend} : Holds lib s (.front https f) →
      f.clusterId = some id → ClusterRemoval s id (.removeHttpFrontend https f)
  | tcp {f : RequestTcpFrontend} : f ∈ s.tcpOf id → ClusterRemoval s id (.removeTcpFrontend f)
  | udp {f : RequestUdpFrontend} : f ∈ s.udpOf id → ClusterRemoval s id (.removeUdpFrontend f)

/-- No object of `b` names a cluster that `a` declares and `b` does not. -/
def Closed (a b : ConfigState) : Prop :=
  ∀ o id, Holds lib b o → o.clusterId = some id → a.clusters[id]? ≠ none → b.clusters[id]? ≠ none

/-- The layer-4 listeners two states share are configured alike, and all of both
are active. -/
structure SameListeners (a b : ConfigState) : Prop where
  tcp : ∀ (x : SocketAddress) l l', a.tcpListeners[x]? = some l →
    b.tcpListeners[x]? = some l' → l = l'
  udp : ∀ (x : SocketAddress) l l', a.udpListeners[x]? = some l →
    b.udpListeners[x]? = some l' → l = l'
  tcp_active : ∀ (x : SocketAddress) l,
    a.tcpListeners[x]? = some l ∨ b.tcpListeners[x]? = some l → l.active
  udp_active : ∀ (x : SocketAddress) l,
    a.udpListeners[x]? = some l ∨ b.udpListeners[x]? = some l → l.active

/-- **What the code documents about the library.** -/
structure Library.Documented (lib : Library) : Prop where
  /-- An accepted dispatch has the documented effect. -/
  dispatch_fits : ∀ s t, WellFormed lib s → Fits lib s t →
    ∃ s', lib.dispatch s t.into = .ok s' ∧ s'.Agrees (after lib s t)
  /-- A refused dispatch is an error. -/
  dispatch_refused : ∀ s t, Refused lib s t → ∃ e, lib.dispatch s t.into = .error e
  /-- `diff` emits what `Emits` says, in some order. -/
  mem_diff : ∀ a b, WellFormed lib a → WellFormed lib b → Closed lib a b → SameListeners a b →
    ∀ r, r ∈ lib.diff a b ↔ ∃ t, r = RequestType.into t ∧ Emits lib a b t
  /-- `cluster_removal_requests` removes what names the cluster. -/
  mem_clusterRemovalRequests : ∀ s id, WellFormed lib s →
    ∀ r, r ∈ lib.clusterRemovalRequests s id ↔
      ∃ t, r = RequestType.into t ∧ ClusterRemoval lib s id t
  /-- Two requests with one JSON encoding are one request, and so for what
  `comparable` sorts. -/
  json_injective : Function.Injective lib.json
  backendJson_injective : Function.Injective lib.backendJson
  tcpJson_injective : Function.Injective lib.tcpJson
  udpJson_injective : Function.Injective lib.udpJson

end Sozu

end SozuGateway
