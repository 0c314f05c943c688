import SozuGateway.Agent.Channel
import SozuGateway.Agent.Messages
import SozuGateway.Sozu.State

/-!
# Applying a batch

`SozuAgent::apply_unless` and `apply_tracked` of `crates/sozu-agent/src/lib.rs`: the
requests are sent in order, and a refusal that only says that Sōzu's state is not what
the batch was made for is settled.

* `Wire` — the other side: what it answers a request, and whether the caller gave up.
* `removalFor`, `ownerQuery`, `storedRemoval` — the requests of a repair.
* `keyHolder`, `evictStaleHolder`, `addReplacement` — its round trips.
* `applyRequest` — one request, and whether its effect on the main process is
  established; `applyTracked`, `applyUnless` — a batch.
-/

set_option autoImplicit false

namespace SozuGateway

namespace Agent

open Lib Sozu

/-! ## The other side -/

/-- Why a batch stopped. -/
inductive SozuError where
  | channel (message : String)
  | failure (message : String)
  | abandoned (applied total : ℕ)
  deriving DecidableEq, Repr

/-- What the agent talks to: the terminal answer to a request, a channel error after the
retry included, and whether the caller gave up on the batch. -/
structure Wire (σ : Type) where
  send : Request → σ → Except SozuError Response × σ
  abandoned : σ → Bool × σ

/-! ## The requests of a repair -/

/-- The removal built from an add's own payload. -/
def removalFor : RequestType → Option RequestType
  | .addFrontend v f => some (.removeHttpFrontend v.https f)
  | .addTcpFrontend f => some (.removeTcpFrontend f)
  | .addUdpFrontend f => some (.removeUdpFrontend f)
  | _ => none

/-- The query that lists whatever Sōzu stores under a frontend request's key. -/
def ownerQuery : RequestType → Option RequestType
  | .addFrontend v f | .removeFrontend v f =>
      some (.listFrontends ⟨!v.https, v.https, false, some f.hostname, none⟩)
  | .addTcpFrontend _ | .removeTcpFrontend _ | .addUdpFrontend _ | .removeUdpFrontend _ =>
      some (.listFrontends ⟨false, false, true, none, none⟩)
  | _ => none

/-- The listed HTTP or HTTPS frontends. -/
def ListedFrontends.fronts (listed : ListedFrontends) (https : Bool) : List RequestHttpFrontend :=
  if https then listed.httpsFrontends else listed.httpFrontends

/-- The removal of the entry Sōzu stores under a frontend request's key, as stored. -/
def storedRemoval (lib : Library) (request : RequestType) (listed : ListedFrontends) :
    Option RequestType :=
  match request with
  | .addFrontend v f | .removeFrontend v f =>
      ((listed.fronts v.https).find? fun stored => lib.display stored = lib.display f).map
        (RequestType.removeHttpFrontend v.https)
  | .addTcpFrontend f | .removeTcpFrontend f =>
      (listed.tcpFrontends.find? fun stored =>
        stored.address = f.address ∧ tcpClaim stored = tcpClaim f).map .removeTcpFrontend
  | .addUdpFrontend f | .removeUdpFrontend f =>
      (listed.udpFrontends.find? fun stored => stored.address = f.address).map .removeUdpFrontend
  | _ => none

/-- The add that lands a replacement on a listener without a certificate. -/
def additionFor (replace : ReplaceCertificate) : RequestType :=
  .addCertificate ⟨replace.address, replace.newCertificate, replace.newExpiredAt⟩

/-! ## Round trips -/

/-- What a lookup of the entry under a frontend key found. -/
inductive Holder where
  | stored (removal : RequestType)
  | nothing
  /-- The listing could not be read. -/
  | unknown
  deriving DecidableEq, Repr

/-- What the main process holds under a frontend key after the eviction. -/
inductive Eviction where
  | removed
  | nothing
  | left
  deriving DecidableEq, Repr

/-- Whether the effect of a settled request on the main process is established. -/
inductive Effect where
  | established
  | unproven
  deriving DecidableEq, Repr

section Apply

variable {σ : Type} (lib : Library) (wire : Wire σ)

/-- Send a request and discard the response. -/
def applyOne (request : RequestType) (s : σ) : Except SozuError Unit × σ :=
  match wire.send request.into s with
  | (.ok _, s) => (.ok (), s)
  | (.error e, s) => (.error e, s)

/-- What the main process stores under a frontend request's key. -/
def keyHolder (request : RequestType) (s : σ) : Except SozuError Holder × σ :=
  match ownerQuery request with
  | none => (.ok .unknown, s)
  | some query =>
      match wire.send query.into s with
      | (.ok response, s) =>
          match response.content with
          | some (.frontendList listed) =>
              match storedRemoval lib request listed with
              | some stored => (.ok (.stored stored), s)
              | none => (.ok .nothing, s)
          | _ => (.ok .unknown, s)
      | (.error (.failure _), s) => (.ok .unknown, s)
      | (.error e, s) => (.error e, s)

/-- After a frontend removal answered with nothing to remove, remove whatever still
holds the key under another cluster. -/
def evictStaleHolder (request : RequestType) (answer : String) (progress : ℕ × ℕ) (s : σ) :
    Except SozuError Eviction × σ :=
  match keyHolder lib wire request s with
  | (.error e, s) => (.error e, s)
  | (.ok (.stored stored), s) =>
      if stored ≠ request then
        match wire.abandoned s with
        | (true, s) => (.error (.abandoned progress.1 progress.2), s)
        | (false, s) =>
            match applyOne wire stored s with
            | (.ok (), s) => (.ok .removed, s)
            | (.error (.failure refusal), s) =>
                -- the main process holds a route no worker serves
                if isAlreadyGone stored refusal then (.ok .left, s)
                else (.error (.failure refusal), s)
            | (.error e, s) => (.error e, s)
      -- the removal was reverted
      else (.ok .left, s)
  | (.ok .unknown, s) =>
      (.error (.failure (answer ++ " (and the frontends holding this key could not be listed " ++
        "to tell whether it still routes)")), s)
  | (.ok .nothing, s) => (.ok .nothing, s)

/-- After a refused replace, add the replacement. -/
def addReplacement (request : RequestType) (refusal : String) (progress : ℕ × ℕ) (s : σ) :
    Except SozuError Unit × σ :=
  match request with
  | .replaceCertificate replace =>
      match wire.abandoned s with
      | (true, s) => (.error (.abandoned progress.1 progress.2), s)
      | (false, s) =>
          match applyOne wire (additionFor replace) s with
          | (.error (.failure addRefusal), s) =>
              (.error (.failure (refusal ++ " (and adding the replacement certificate instead " ++
                "failed: " ++ addRefusal ++ ")")), s)
          | outcome => outcome
  | _ => (.error (.failure refusal), s)

/-- Remove the entry a duplicate add found under its key, and add again. -/
def repairDuplicate (request own : RequestType) (progress : ℕ × ℕ) (s : σ) :
    Except SozuError Unit × σ :=
  match keyHolder lib wire request s with
  | (.error e, s) => (.error e, s)
  | (.ok holder, s) =>
      let remove := match holder with
        | .stored stored => stored
        | .nothing | .unknown => own
      match wire.abandoned s with
      | (true, s) => (.error (.abandoned progress.1 progress.2), s)
      | (false, s) =>
          match applyOne wire remove s with
          -- the second add decides either way
          | (.ok (), s) | (.error (.failure _), s) => applyOne wire request s
          | (.error e, s) => (.error e, s)

/-! ## A batch -/

/-- A frontend removal answered `Ok` while another cluster may hold its key. -/
def saysNothingToRemove (request : RequestType) (message : String) : Bool :=
  isFrontendTeardown request && containsText (toAsciiLowercase message) "nothing to remove"

/-- An `Ok` answer: a frontend removal that removed nothing evicts the key's holder. -/
def settleOk (request : RequestType) (message : String) (progress : ℕ × ℕ) (s : σ) :
    Except SozuError Effect × σ :=
  if saysNothingToRemove request message then
    match evictStaleHolder lib wire request message progress s with
    | (.ok .left, s) => (.ok .unproven, s)
    | (.ok _, s) => (.ok .established, s)
    | (.error e, s) => (.error e, s)
  else (.ok .established, s)

/-- A refused teardown of an object Sōzu does not hold. -/
def settleGone (request : RequestType) (message : String) (progress : ℕ × ℕ) (s : σ) :
    Except SozuError Effect × σ :=
  let evicted :=
    if isFrontendTeardown request then evictStaleHolder lib wire request message progress s
    else (.ok .nothing, s)
  match evicted with
  | (.ok eviction, s) =>
      (.ok (if eviction = .left ∨ goneFromMainProcess message = false then .unproven
        else .established), s)
  | (.error e, s) => (.error e, s)

/-- A refused add of an object Sōzu holds; a listener add is tolerated. -/
def settleDuplicate (request : RequestType) (progress : ℕ × ℕ) (s : σ) :
    Except SozuError Effect × σ :=
  match removalFor request with
  | none => (.ok .established, s)
  | some own =>
      match repairDuplicate lib wire request own progress s with
      | (.ok (), s) => (.ok .established, s)
      | (.error e, s) => (.error e, s)

/-- Settle a refusal. -/
def settleFailure (request : RequestType) (message : String) (progress : ℕ × ℕ) (s : σ) :
    Except SozuError Effect × σ :=
  if isAlreadyGone request message then settleGone lib wire request message progress s
  else if isDuplicateAdd request message then settleDuplicate lib wire request progress s
  else if isReplaceIntoEmptyListener request message then
    match addReplacement wire request message progress s with
    | (.ok (), s) => (.ok .established, s)
    | (.error e, s) => (.error e, s)
  else (.error (.failure message), s)

/-- Send one request and settle its answer. -/
def applyRequest (request : Request) (progress : ℕ × ℕ) (s : σ) : Except SozuError Effect × σ :=
  match wire.send request s, request.requestType with
  | (.ok response, s), some kind => settleOk lib wire kind response.message progress s
  | (.error (.failure message), s), some kind => settleFailure lib wire kind message progress s
  | (.ok _, s), none => (.ok .established, s)
  | (.error e, s), _ => (.error e, s)

/-- How far a batch got. -/
structure Progress where
  acknowledged : ℕ := 0
  /-- The first settled request whose effect is not established. -/
  unproven : Option ℕ := none
  deriving DecidableEq, Repr

/-- The request `applied` is settled. -/
def Progress.settle (p : Progress) (applied : ℕ) : Effect → Progress
  | .established => { p with acknowledged := applied + 1 }
  | .unproven => { acknowledged := applied + 1, unproven := p.unproven.or (some applied) }

/-- The requests of a batch from the `applied`th on. -/
def applyTracked (total : ℕ) :
    ℕ → List Request → Progress → σ → Except SozuError Unit × Progress × σ
  | _, [], p, s => (.ok (), p, s)
  | applied, request :: requests, p, s =>
      match wire.abandoned s with
      | (true, s) => (.error (.abandoned applied total), p, s)
      | (false, s) =>
          match applyRequest lib wire request (applied, total) s with
          | (.error e, s) => (.error e, p, s)
          | (.ok effect, s) =>
              applyTracked total (applied + 1) requests (p.settle applied effect) s

/-- A batch that stopped part-way. -/
structure ApplyError where
  /-- Requests at the head of the batch that Sōzu acknowledged. -/
  applied : ℕ
  /-- The head of those whose effect on the main process is established. -/
  replayable : ℕ
  cause : SozuError
  deriving DecidableEq, Repr

/-- Apply a batch. -/
def applyUnless (requests : List Request) (s : σ) : Except ApplyError Unit × σ :=
  match applyTracked lib wire requests.length 0 requests {} s with
  | (.ok (), _, s) => (.ok (), s)
  | (.error cause, progress, s) =>
      (.error
        { applied := progress.acknowledged
          replayable := (progress.unproven.map (min progress.acknowledged)).getD
            progress.acknowledged
          cause }, s)

end Apply

end Agent

end SozuGateway
