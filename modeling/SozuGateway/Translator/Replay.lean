import SozuGateway.Translator.Comparable
import SozuGateway.Translator.CertificateConvergence
import SozuGateway.Translator.Keyed

/-!
# The baseline after a batch failed part-way

`crates/translator/src/replay.rs`: the previous IR with the requests Sōzu
acknowledged replayed onto it, adopted only when it describes what those requests
left.

* `Replay` — the objects of each kind under their keys, and the step of each
  removal; `Replay.apply` replays one request, `Replay.finish` gives the IR.
* `applyAcknowledged` — the replay of a head of a batch.
* `settle`, `simulate` — the routing state the head leaves, each request settled the
  way the agent settles it.
* `replayIfExact` — the replay, when its routing state is that one.
-/

set_option autoImplicit false

namespace SozuGateway

namespace Translator

open Lib Sozu

/-! ## Keys -/

abbrev BackendKey := String ×ₗ (String ×ₗ SocketAddr)

abbrev L4Key := L4Protocol ×ₗ SocketAddr

/-- `none` for a certificate the translator cannot fingerprint. -/
abbrev CertificateKey := WithBot (SocketAddr ×ₗ String)

def backendKey (b : Backend) : BackendKey :=
  toLex (b.clusterId, toLex (b.backendId, b.address.plain))

def l4Key (f : L4Frontend) : L4Key := toLex (f.protocol, f.listener.plain)

section Library

variable (lib : Library)

def routeKey (https : Bool) (payload : RequestHttpFrontend) : SozuRouteKey :=
  ⟨https, lib.display payload⟩

/-- A leaf's fingerprint. -/
def fingerprintOf (pem : String) : Option String :=
  match lib.calculateFingerprint pem with
  | .ok bytes => some (hex bytes)
  | .error _ => none

def certificateKey (c : Certificate) : CertificateKey :=
  (fingerprintOf lib c.certificate).map fun fp => toLex (c.listener.plain, fp)

/-- The key of a certificate, when any request names one; otherwise none is
fingerprinted. -/
def certKeyIf (certificates : Bool) (c : Certificate) : CertificateKey :=
  if certificates then certificateKey lib c else none

/-! ## The replay -/

/-- The objects of each kind under their keys, what is wanted under each key, and the
steps of the removals and of the listeners' adds. -/
structure Replay where
  clusters : Keyed String Cluster
  backends : Keyed BackendKey Backend
  frontends : Keyed SozuRouteKey Frontend
  l4 : Keyed L4Key L4Frontend
  certificates : Keyed CertificateKey Certificate
  wantedClusters : BTreeMap String (List Cluster)
  wantedBackends : BTreeMap BackendKey (List Backend)
  wantedFrontends : BTreeMap SozuRouteKey (List Frontend)
  wantedL4 : BTreeMap L4Key (List L4Frontend)
  wantedCertificates : BTreeMap CertificateKey (List Certificate)
  /-- The step of each cluster's last acknowledged removal. -/
  removedClusters : BTreeMap String ℕ
  /-- The step of the last acknowledged layer-4 frontend removal per address. -/
  released : BTreeMap L4Key ℕ
  /-- The step of the last acknowledged layer-4 listener add per address. -/
  listenerAdded : BTreeMap L4Key ℕ
  /-- The step of the last acknowledged layer-4 listener removal per address. -/
  listenerRemoved : BTreeMap L4Key ℕ

namespace Replay

/-- `previous` under its keys, before any request; `certificates` says whether any
request names a certificate. -/
def new [CharTable] (previous desired : Ir) (certificates : Bool) : Replay where
  clusters := .new previous.clusters Cluster.id
  backends := .new previous.backends backendKey
  frontends := .new previous.frontends Frontend.sozuRouteKey
  l4 := .new previous.l4Frontends l4Key
  certificates := .new previous.certificates (certKeyIf lib certificates)
  wantedClusters := wanted desired.clusters Cluster.id
  wantedBackends := wanted desired.backends backendKey
  wantedFrontends := wanted desired.frontends Frontend.sozuRouteKey
  wantedL4 := wanted desired.l4Frontends l4Key
  wantedCertificates := wanted desired.certificates (certKeyIf lib certificates)
  removedClusters := ∅
  released := ∅
  listenerAdded := ∅
  listenerRemoved := ∅

def setCluster (q : Replay) (id : String) (step : ℕ) : Replay :=
  { q with clusters := q.clusters.set id q.wantedClusters[id]? step }

def setBackend (q : Replay) (key : BackendKey) (step : ℕ) : Replay :=
  { q with backends := q.backends.set key q.wantedBackends[key]? step }

def setFrontend (q : Replay) (key : SozuRouteKey) (step : ℕ) : Replay :=
  { q with frontends := q.frontends.set key q.wantedFrontends[key]? step }

def setL4 (q : Replay) (key : L4Key) (step : ℕ) : Replay :=
  { q with l4 := q.l4.set key q.wantedL4[key]? step }

def setCertificate (q : Replay) (key : CertificateKey) (step : ℕ) : Replay :=
  { q with certificates := q.certificates.set key q.wantedCertificates[key]? step }

/-- The layer-4 protocol of a listener; HTTP and HTTPS listeners are static. -/
def protocolOf : ListenerType → Option L4Protocol
  | .tcp => some .tcp
  | .udp => some .udp
  | _ => none

/-- Replay one acknowledged request, the `step`th of the batch. -/
def apply (q : Replay) (step : ℕ) (request : Request) : Replay :=
  match request.requestType with
  | none => q
  | some (.addCluster c) => q.setCluster c.clusterId step
  | some (.removeCluster id) =>
      { q with
        clusters := q.clusters.remove id
        removedClusters := q.removedClusters.insert id step }
  | some (.addBackend b) =>
      q.setBackend (toLex (b.clusterId, toLex (b.backendId, b.address.toAddr.plain))) step
  | some (.removeBackend b) =>
      { q with
        backends := q.backends.remove
          (toLex (b.clusterId, toLex (b.backendId, b.address.toAddr.plain))) }
  | some (.addFrontend v f) => q.setFrontend (routeKey lib v.https f) step
  | some (.removeFrontend v f) =>
      { q with frontends := q.frontends.remove (routeKey lib v.https f) }
  | some (.addTcpFrontend f) => q.setL4 (toLex (.tcp, f.address.toAddr.plain)) step
  | some (.addUdpFrontend f) => q.setL4 (toLex (.udp, f.address.toAddr.plain)) step
  | some (.removeTcpFrontend f) =>
      { q with released := q.released.insert (toLex (.tcp, f.address.toAddr.plain)) step }
  | some (.removeUdpFrontend f) =>
      { q with released := q.released.insert (toLex (.udp, f.address.toAddr.plain)) step }
  | some (.addTcpListener l) =>
      { q with listenerAdded := q.listenerAdded.insert (toLex (.tcp, l.address.toAddr.plain)) step }
  | some (.addUdpListener l) =>
      { q with listenerAdded := q.listenerAdded.insert (toLex (.udp, l.address.toAddr.plain)) step }
  | some (.removeListener l) =>
      match protocolOf l.proxy with
      | some protocol =>
          { q with
            listenerRemoved :=
              q.listenerRemoved.insert (toLex (protocol, l.address.toAddr.plain)) step }
      | none => q
  | some (.addCertificate add) =>
      match fingerprintOf lib add.certificate.certificate with
      | some fp => q.setCertificate (some (toLex (add.address.toAddr.plain, fp))) step
      | none => q
  | some (.removeCertificate remove) =>
      let fp := toAsciiLowercase remove.fingerprint
      { q with
        certificates := q.certificates.remove (some (toLex (remove.address.toAddr.plain, fp))) }
  | some (.replaceCertificate replace) =>
      match fingerprintOf lib replace.newCertificate.certificate with
      | none => q
      | some new =>
          let address := replace.address.toAddr.plain
          let old := toAsciiLowercase replace.oldFingerprint
          -- an old fingerprint that is the new one was updated in place
          let q :=
            if old ≠ new then
              { q with certificates := q.certificates.remove (some (toLex (address, old))) }
            else q
          q.setCertificate (some (toLex (address, new))) step
  | some _ => q

/-- Replay a list of requests, the first of them at `step`. -/
def applyAll (q : Replay) (step : ℕ) : List Request → Replay
  | [] => q
  | request :: requests => (q.apply lib step request).applyAll (step + 1) requests

/-- The cluster was removed after the group that names it was set. -/
def removedSince (q : Replay) (clusterId : String) (since : ℕ) : Bool :=
  q.removedClusters[clusterId]?.any fun step => since < step

/-- The layer-4 listener is gone. -/
def listenerGone (q : Replay) (key : L4Key) : Bool :=
  match q.listenerRemoved[key]?, q.listenerAdded[key]? with
  | some removed, some added => added < removed
  | some _, none => true
  | none, _ => false

def finish (q : Replay) : Ir where
  clusters := q.clusters.intoObjects fun _ _ objects => objects
  frontends := q.frontends.intoObjects fun _ since objects =>
    objects.filter fun entry => !entry.2.clusterId.any fun id => q.removedSince id since
  backends := q.backends.intoObjects fun _ since objects =>
    objects.filter fun entry => !q.removedSince entry.2.clusterId since
  certificates := q.certificates.intoObjects fun _ _ objects => objects
  l4Frontends := q.l4.intoObjects fun key since objects =>
    let released := q.released[key]?.any fun step => since < step
    let held := objects.filter fun entry =>
      !released && !q.removedSince entry.2.clusterId since
    -- frontends Sōzu no longer holds stay while it holds their listener
    if !held.isEmpty || q.listenerGone key then held else objects

end Replay

/-- `previous` with `acknowledged` replayed onto it, in order. -/
def applyAcknowledged [CharTable] (previous desired : Ir) (acknowledged : List Request) : Ir :=
  if acknowledged = [] then previous
  else
    let certificates := acknowledged.any Request.namesACertificate
    ((Replay.new lib previous desired certificates).applyAll lib 1 acknowledged).finish

/-! ## The routing state an acknowledged head leaves -/

/-- A verb that takes something down. -/
def isTeardown : RequestType → Bool
  | .removeCluster _ | .removeBackend _ | .removeFrontend _ _ | .removeTcpFrontend _
  | .removeUdpFrontend _ | .removeListener _ | .removeCertificate _ | .deactivateListener _ => true
  | _ => false

/-- Remove whatever the state stores under a frontend request's key, whichever cluster
it names, and say whether anything was there. -/
def evict (s : ConfigState) : RequestType → ConfigState × Bool
  | .addFrontend v f | .removeFrontend v f =>
      (s.setFronts v.https ((s.fronts v.https).erase (lib.display f)),
        (s.fronts v.https)[lib.display f]?.isSome)
  | .addTcpFrontend f | .removeTcpFrontend f =>
      ({ s with tcpFronts := s.tcpFronts.map fun _ fronts => fronts.filter fun x => !sameTcp f x },
        s.tcpFronts.toList.any fun entry => entry.2.any (sameTcp f))
  | .addUdpFrontend f | .removeUdpFrontend f =>
      ({ s with
          udpFronts :=
            s.udpFronts.map fun _ fronts => fronts.filter fun x => x.address ≠ f.address },
        s.udpFronts.toList.any fun entry => entry.2.any fun x => x.address = f.address)
  | _ => (s, false)

/-- Evict, and dispatch again. -/
def repair (s : ConfigState) (t : RequestType) : ConfigState × Bool :=
  match evict lib s t with
  | (s, false) => (s, false)
  | (s, true) =>
      match lib.dispatch s t.into with
      | .ok s => (s, true)
      | .error _ => (s, false)

/-- Dispatch one acknowledged request the way the agent got it acknowledged: whether
that explains the acknowledgement. -/
def settle (s : ConfigState) (request : Request) : Option (ConfigState × Bool) :=
  request.requestType.map fun kind =>
    match lib.dispatch s request with
    | .ok s => (s, true)
    | .error refusal =>
        match refusal, kind with
        | .alreadyExists, .addTcpListener _ | .alreadyExists, .addUdpListener _ => (s, true)
        | .alreadyExists, .addFrontend _ _ | .alreadyExists, .addTcpFrontend _
        | _, .addUdpFrontend _ => repair lib s kind
        | .notFound, _ | .noChange, _ =>
            if isTeardown kind then ((evict lib s kind).1, true) else (s, false)
        | _, _ => (s, false)

/-- Settle the requests that name no certificate, in order. -/
def settleAll (s : ConfigState) : List Request → Option ConfigState
  | [] => some s
  | request :: requests =>
      if request.namesACertificate then settleAll s requests
      else
        match settle lib s request with
        | some (s, true) => settleAll s requests
        | _ => none

/-- The routing state once the agent got `acknowledged` acknowledged from `previous`'s,
in comparable form. -/
def simulate [CharTable] (previous : Ir) (acknowledged : List Request) : Option ConfigState :=
  match routingState lib previous with
  | .ok s => (settleAll lib s acknowledged).map (comparable lib)
  | .error _ => none

/-- The replay, when the IR it gives describes the routing state the acknowledged
requests left. -/
def replayIfExact [CharTable] (previous desired : Ir) (acknowledged : List Request) : Option Ir :=
  if acknowledged = [] then some previous
  else
    let replayed := applyAcknowledged lib previous desired acknowledged
    match simulate lib previous acknowledged, routingState lib replayed with
    | some simulated, .ok s => if comparable lib s = simulated then some replayed else none
    | _, _ => none

/-! ## Every object is under its key -/

variable {lib}

/-- What the replay keeps true: each object is in the group of its key, and what is
wanted is what `desired` holds. -/
structure Replay.Valid [CharTable] (lib : Library) (desired : Ir) (flag : Bool)
    (q : Replay) : Prop where
  clusters : q.clusters.WellKeyed Cluster.id
  backends : q.backends.WellKeyed backendKey
  frontends : q.frontends.WellKeyed Frontend.sozuRouteKey
  l4 : q.l4.WellKeyed l4Key
  certificates : q.certificates.WellKeyed (certKeyIf lib flag)
  wantedClusters : q.wantedClusters = wanted desired.clusters Cluster.id
  wantedBackends : q.wantedBackends = wanted desired.backends backendKey
  wantedFrontends : q.wantedFrontends = wanted desired.frontends Frontend.sozuRouteKey
  wantedL4 : q.wantedL4 = wanted desired.l4Frontends l4Key
  wantedCertificates :
    q.wantedCertificates = wanted desired.certificates (certKeyIf lib flag)

namespace Replay.Valid

variable [CharTable] {previous desired : Ir} {flag : Bool} {q : Replay}

theorem new : Replay.Valid lib desired flag (.new lib previous desired flag) where
  clusters := Keyed.wellKeyed_new _
  backends := Keyed.wellKeyed_new _
  frontends := Keyed.wellKeyed_new _
  l4 := Keyed.wellKeyed_new _
  certificates := Keyed.wellKeyed_new _
  wantedClusters := rfl
  wantedBackends := rfl
  wantedFrontends := rfl
  wantedL4 := rfl
  wantedCertificates := rfl

theorem setCluster (h : Replay.Valid lib desired flag q) (id : String) (step : ℕ) :
    Replay.Valid lib desired flag (q.setCluster id step) :=
  { h with
    clusters := h.clusters.set (fun _ hl _ => key_of_wanted (h.wantedClusters ▸ hl)) step }

theorem setBackend (h : Replay.Valid lib desired flag q) (key : BackendKey) (step : ℕ) :
    Replay.Valid lib desired flag (q.setBackend key step) :=
  { h with
    backends := h.backends.set (fun _ hl _ => key_of_wanted (h.wantedBackends ▸ hl)) step }

theorem setFrontend (h : Replay.Valid lib desired flag q) (key : SozuRouteKey) (step : ℕ) :
    Replay.Valid lib desired flag (q.setFrontend key step) :=
  { h with
    frontends := h.frontends.set (fun _ hl _ => key_of_wanted (h.wantedFrontends ▸ hl)) step }

theorem setL4 (h : Replay.Valid lib desired flag q) (key : L4Key) (step : ℕ) :
    Replay.Valid lib desired flag (q.setL4 key step) :=
  { h with l4 := h.l4.set (fun _ hl _ => key_of_wanted (h.wantedL4 ▸ hl)) step }

theorem setCertificate (h : Replay.Valid lib desired flag q) (key : CertificateKey)
    (step : ℕ) : Replay.Valid lib desired flag (q.setCertificate key step) :=
  { h with
    certificates :=
      h.certificates.set (fun _ hl _ => key_of_wanted (h.wantedCertificates ▸ hl)) step }

theorem removeCertificate (h : Replay.Valid lib desired flag q) (key : CertificateKey) :
    Replay.Valid lib desired flag
      { q with certificates := q.certificates.remove key } :=
  { h with certificates := h.certificates.remove key }

/-- **One request keeps every object under its key.** -/
theorem apply (h : Replay.Valid lib desired flag q) (step : ℕ) (r : Request) :
    Replay.Valid lib desired flag (q.apply lib step r) := by
  unfold Replay.apply
  split
  · exact h
  · exact h.setCluster _ step
  · exact { h with clusters := h.clusters.remove _ }
  · exact h.setBackend _ step
  · exact { h with backends := h.backends.remove _ }
  · exact h.setFrontend _ step
  · exact { h with frontends := h.frontends.remove _ }
  · exact h.setL4 _ step
  · exact h.setL4 _ step
  · exact { h with }
  · exact { h with }
  · exact { h with }
  · exact { h with }
  · split
    · exact { h with }
    · exact h
  · split
    · exact h.setCertificate _ step
    · exact h
  · exact h.removeCertificate _
  · split
    · exact h
    · simp only
      split
      · exact (h.removeCertificate _).setCertificate _ step
      · exact h.setCertificate _ step
  · exact h

theorem applyAll (h : Replay.Valid lib desired flag q) (step : ℕ) (rs : List Request) :
    Replay.Valid lib desired flag (q.applyAll lib step rs) := by
  induction rs generalizing q step with
  | nil => exact h
  | cons r rs ih => exact ih (h.apply step r) (step + 1)

end Replay.Valid

end Library

end Translator

end SozuGateway
