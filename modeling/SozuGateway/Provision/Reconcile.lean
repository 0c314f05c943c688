import SozuGateway.Controller.MergePatch
import SozuGateway.Lib.Interleaving
import SozuGateway.Provision.Template

/-!
# The provisioner

One pass of the provisioner, as a program over the API server.

* `Request`, `Pass` — what is asked of the server, and a program that asks it with the memo of
  confirmed writes.
* `ensure` — an object is written from its template; `planned` — what an attempt writes.
* `prune` — an object is deleted unless its Gateway is live.
* `reconcile` — every Gateway of the cache is provisioned, then every owned object of no such
  Gateway is pruned.
-/

set_option autoImplicit false

namespace SozuGateway

namespace Provision

open Lib

/-! ## Requests -/

/-- The requests to the API server. -/
inductive Request where
  | getGateway (namespace_ name : String)
  | getGatewayClass (name : String)
  | getObject (kind : Kind) (name : String)
  | listObjects (kind : Kind) (label value : String)
  | patchObject (kind : Kind) (name : String) (patch : Value)
  | createObject (kind : Kind) (object : DynamicObject)
  | deleteObject (kind : Kind) (name uid : String) (resourceVersion : Option String)
  deriving DecidableEq

/-- What a request returns. -/
@[reducible] def Request.Result : Request → Type
  | getGateway _ _ => Gateway
  | getGatewayClass _ => GatewayClass
  | getObject _ _ => DynamicObject
  | listObjects _ _ _ => List DynamicObject
  | patchObject _ _ _ => DynamicObject
  | createObject _ _ => DynamicObject
  | deleteObject _ _ _ _ => Unit

/-- The answer to a request. -/
abbrev Request.Answer (r : Request) : Type := Except Error r.Result

/-- A program of the provisioner. -/
abbrev Pass (α : Type) : Type := Routine Request Request.Answer Confirmed Error α

/-- What a request returns. -/
def request (r : Request) : Pass r.Result := do
  let answer ← Routine.ask r
  Routine.ofExcept answer

/-- What a request returns, or that nothing is there. -/
def found (r : Request) : Pass (Option r.Result) := do
  let answer ← Routine.ask r
  match answer with
  | .ok a => return some a
  | .error e => if e.code = some 404 then return none else Routine.fail e

/-- `with_context`. -/
def Error.context (what : String) (e : Error) : Error := { e with text := s!"{what}: {e.text}" }

namespace Provisioner

variable (p : Provisioner) (serde : Serde)

/-! ## The installation -/

def verifyAnchor (anchor : DynamicObject) : Except Error Unit := do
  if anchor.metadata.uid ≠ some p.installationUid ∨ anchor.metadata.deletionTimestamp.isSome then
    throw { text := "provisioning installation identity changed or is being deleted" }
  let encoded ← Provision.context "provisioning anchor has no template.json"
    ((anchor.data.index "data").index "template.json").str?
  let current ← (serde.parseConfig encoded).mapError fun text =>
    { text := s!"parse current provisioning anchor template.json: {text}" }
  if current ≠ p.config then
    throw { text :=
      "provisioning template changed; this process must restart with the current template" }

def checkInstallation : Pass Unit := do
  let anchor ← request (.getObject .configMap p.config.templateConfigMap)
  Routine.ofExcept (p.verifyAnchor serde anchor)

/-! ## Live reads -/

def liveGateway (namespace_ name : String) : Pass (Option Gateway) :=
  found (.getGateway namespace_ name)

def liveOwned (gateway : Gateway) (controllerName : String) : Pass Bool :=
  if gateway.metadata.deletionTimestamp.isSome then pure false
  else do
    let gatewayClass ← found (.getGatewayClass gateway.gatewayClassName)
    return gatewayClass.any fun c =>
      c.metadata.deletionTimestamp.isNone && c.controllerName = controllerName

/-! ## Writing an object -/

/-- What an attempt writes. -/
inductive Planned where
  | nothing
  | patch (patch : Value)
  | create (object : DynamicObject)

/-- The live object is what a confirmed write of this template left. -/
def isConfirmed (entry : Option ConfirmedWrite) (live : DynamicObject)
    (gatewayUid encoded : String) : Bool :=
  entry.any fun entry =>
    live.metadata.uid = some entry.uid &&
      live.metadata.resourceVersion = some entry.resourceVersion &&
      entry.gatewayUid = gatewayUid && entry.template = encoded

/-- The template with its own text beside it. -/
def annotated (desired : Value) (encoded : String) : Except Error Value :=
  if 128 * 1024 < encoded.utf8ByteSize then
    .error { text := "provisioning template exceeds the 128 KiB annotation budget" }
  else .ok (desired.putAt ["metadata", "annotations", lastTemplateKey] (.string encoded))

/-- The patch of a live object names the version it was made for. -/
def patchOf (live : DynamicObject) (desired : Value) : Except Error Value := do
  let previous := (live.metadata.annotations[lastTemplateKey]?.bind serde.parse).getD (.object [])
  let patch := Controller.mergePatch previous desired
  let uid ← Provision.context "live object has no UID" live.metadata.uid
  let resourceVersion ← Provision.context "live object has no resourceVersion"
    live.metadata.resourceVersion
  return (patch.putAt ["metadata", "uid"] (.string uid)).putAt ["metadata", "resourceVersion"]
    (.string resourceVersion)

/-- The write of an attempt, from what is live and what was confirmed. -/
def planned (kind : Kind) (name : String) (template : Value) (gatewayUid : String)
    (entry : Option ConfirmedWrite) : Option DynamicObject → Except Error Planned
  | some live =>
      let encoded := serde.text template
      let liveValue := serde.toValue kind live
      if !p.owned live gatewayUid then
        .error { text := s!"refusing to adopt foreign {kind.debug} {name}" }
      else if live.metadata.deletionTimestamp.isSome then
        .error { text := s!"{kind.debug} {name} is still being deleted" }
      else if isConfirmed entry live gatewayUid encoded then .ok .nothing
      else do
        let desired ← annotated
          (if kind = .service then preserveServiceAllocations template liveValue else template)
          encoded
        if Controller.subset desired liveValue then return .nothing
        else return .patch (← patchOf serde live desired)
  | none => do
      let desired ← annotated template (serde.text template)
      let object ← (serde.fromValue desired).mapError fun text => { text }
      return .create object

/-- A write that the server confirmed. -/
def confirm (kind : Kind) (name gatewayUid template : String) (written : DynamicObject) :
    Pass Unit := do
  let uid ← Routine.ofExcept (Provision.context "written object has no UID" written.metadata.uid)
  let resourceVersion ← Routine.ofExcept
    (Provision.context "written object has no resourceVersion" written.metadata.resourceVersion)
  Routine.modify fun confirmed =>
    confirmed.insert (toLex (kind, name)) { uid, resourceVersion, gatewayUid, template }

/-- What a write came to; a conflict is tried again, unless it was the last attempt. -/
def settle (kind : Kind) (name gatewayUid template : String) (last : Bool) :
    Except Error DynamicObject → Pass Bool
  | .ok written => do
      confirm kind name gatewayUid template written
      return true
  | .error e => if e.code = some 409 ∧ !last then return false else Routine.fail e

/-- The live object; the memo forgets one that is not there. -/
def liveObject (kind : Kind) (name : String) : Pass (Option DynamicObject) := do
  let live ← found (.getObject kind name)
  if live.isNone then do
    Routine.modify fun confirmed => confirmed.erase (toLex (kind, name))
    return live
  else return live

/-- One attempt of `ensure`, and whether it settled. -/
def ensureAttempt (kind : Kind) (name : String) (template : Value) (gatewayUid : String)
    (last : Bool) : Pass Bool := do
  let live ← liveObject kind name
  let confirmed ← Routine.get
  let write ← Routine.ofExcept
    (p.planned serde kind name template gatewayUid confirmed[toLex (kind, name)]? live)
  match write with
  | .nothing => return true
  | .patch patch => do
      p.checkInstallation serde
      let answer ← Routine.ask (Request.patchObject kind name patch)
      settle kind name gatewayUid (serde.text template) last answer
  | .create object => do
      p.checkInstallation serde
      let answer ← Routine.ask (Request.createObject kind object)
      settle kind name gatewayUid (serde.text template) last answer

/-- The attempts of `ensure`. -/
def ensureLoop (kind : Kind) (name : String) (template : Value) (gatewayUid : String) :
    ℕ → Pass Unit
  | 0 => Routine.fail { text := s!"{kind.debug} {name} changed during every provisioning attempt" }
  | left + 1 => do
      let settled ← p.ensureAttempt serde kind name template gatewayUid (left = 0)
      if settled then return () else ensureLoop kind name template gatewayUid left

def ensure (kind : Kind) (template : Value) (gatewayUid : String) : Pass Unit := do
  let name ← Routine.ofExcept
    (Provision.context "template name missing" ((template.index "metadata").index "name").str?)
  p.ensureLoop serde kind name template gatewayUid retries

/-- The objects of an instance, in order. -/
def ensureAll (gatewayUid place : String) : List (Kind × Value) → Pass Unit
  | [] => return ()
  | (kind, resource) :: rest => do
      let written ← (p.ensure serde kind resource gatewayUid).attempt
      Routine.ofExcept
        (written.mapError (Error.context s!"provision {kind.debug} for Gateway {place}"))
      ensureAll gatewayUid place rest

def ensureGateway (cached : Gateway) (controllerName : String) : Pass (Option Instance) := do
  let namespace_ ← Routine.ofExcept
    (Provision.context "Gateway has no namespace" cached.metadata.namespace_)
  let name := cached.metadata.nameAny
  let live ← liveGateway namespace_ name
  match live with
  | none => return none
  | some gateway =>
      if gateway.metadata.uid ≠ cached.metadata.uid then return none
      else do
        let owned ← liveOwned gateway controllerName
        if !owned then return none
        else do
          let i ← Routine.ofExcept (p.instance_ gateway)
          let resources ← Routine.ofExcept (p.resources serde i)
          p.ensureAll serde i.gatewayUid s!"{namespace_}/{name}" resources
          return some i

/-! ## Pruning -/

/-- The Gateway an object was made for is live, and of this controller. -/
def stillOwned (namespace_ name gatewayUid controllerName : String) : Pass Bool := do
  let live ← liveGateway namespace_ name
  match live with
  | none => return false
  | some gateway =>
      if gateway.metadata.uid = some gatewayUid then liveOwned gateway controllerName
      else return false

/-- The deletion of an object as it was listed. -/
def deleteListed (kind : Kind) (object : DynamicObject) : Pass Unit := do
  let uid ← Routine.ofExcept (Provision.context "owned object has no UID" object.metadata.uid)
  p.checkInstallation serde
  let _ ← found (.deleteObject kind object.metadata.nameAny uid object.metadata.resourceVersion)
  Routine.modify fun confirmed => confirmed.erase (toLex (kind, object.metadata.nameAny))

def prune (kind : Kind) (object : DynamicObject) (controllerName : String)
    (obsoleteOptional : Bool) : Pass Unit := do
  let annotations := object.metadata.annotations
  let namespace_ ← Routine.ofExcept
    (Provision.context "owned object has no Gateway namespace" annotations[gatewayNamespaceKey]?)
  let name ← Routine.ofExcept
    (Provision.context "owned object has no Gateway name" annotations[gatewayNameKey]?)
  let gatewayUid ← Routine.ofExcept
    (Provision.context "owned object has no Gateway UID" annotations[gatewayUidKey]?)
  let owned ← stillOwned namespace_ name gatewayUid controllerName
  if owned ∧ !obsoleteOptional then return ()
  else p.deleteListed serde kind object

/-! ## A pass -/

/-- What a pass has come to: its outcome, and the UIDs whose objects stay. -/
structure Progress where
  outcome : ProvisionOutcome := {}
  desired : Finset String := ∅

def Progress.failed (progress : Progress) (key text : String) : Progress :=
  { progress with
    outcome := { progress.outcome with failures := progress.outcome.failures.insert key text } }

/-- The outcome for a Gateway of this UID. -/
def Progress.provisioned (progress : Progress) (uid : String) :
    Except Error (Option Instance) → Progress
  | .ok (some i) =>
      { desired := insert uid progress.desired,
        outcome := { progress.outcome with instances := progress.outcome.instances.insert uid i } }
  | .ok none => { progress with desired := progress.desired.erase uid }
  | .error e => { progress with desired := insert uid progress.desired }.failed uid e.text

/-- The classes of this controller, by name. -/
def ours (classes : List GatewayClass) (controllerName : String) : Finset String :=
  ((classes.filter fun c =>
    c.controllerName = controllerName && c.metadata.deletionTimestamp.isNone).map
      fun c => c.metadata.nameAny).toFinset

/-- The loop over the Gateways. -/
def provisionAll (ours : Finset String) (controllerName : String) :
    List Gateway → Progress → Pass Progress
  | [], progress => return progress
  | gateway :: gateways, progress =>
      if gateway.metadata.deletionTimestamp.isSome ∨ gateway.gatewayClassName ∉ ours then
        provisionAll ours controllerName gateways progress
      else match gateway.metadata.uid with
        | none =>
            provisionAll ours controllerName gateways
              (progress.failed gateway.metadata.nameAny "Gateway has no UID")
        | some uid => do
            let result ← (p.ensureGateway serde gateway controllerName).attempt
            provisionAll ours controllerName gateways (progress.provisioned uid result)

/-- The loop over the objects of a kind. -/
def pruneAll (kind : Kind) (controllerName : String) :
    List DynamicObject → Progress → Pass Progress
  | [], progress => return progress
  | object :: objects, progress =>
      let uid := object.metadata.annotations[gatewayUidKey]?.getD ""
      let obsoleteOptional := p.obsoleteOptional kind object.metadata.nameAny
      if !p.owned object uid ∨ (uid ∈ progress.desired ∧ !obsoleteOptional) then
        pruneAll kind controllerName objects progress
      else do
        let result ← (p.prune serde kind object controllerName obsoleteOptional).attempt
        pruneAll kind controllerName objects (match result with
          | .ok _ => progress
          | .error e =>
              progress.failed s!"cleanup/{kind.debug}/{object.metadata.nameAny}" e.text)

/-- The loop over the kinds. -/
def cleanup (controllerName : String) : List Kind → Progress → Pass Progress
  | [], progress => return progress
  | kind :: kinds, progress => do
      let listed ← Routine.ask (Request.listObjects kind installationKey p.installationUid)
      match listed with
      | .ok objects => do
          let progress ← p.pruneAll serde kind controllerName objects progress
          cleanup controllerName kinds progress
      | .error e =>
          -- `ServiceMonitor` is an optional CRD
          if kind = .serviceMonitor ∧ p.config.serviceMonitor.isNone ∧ e.code = some 404 then
            cleanup controllerName kinds progress
          else cleanup controllerName kinds (progress.failed s!"cleanup/{kind.debug}" e.text)

def reconcile (gateways : List Gateway) (classes : List GatewayClass) (controllerName : String) :
    Pass ProvisionOutcome := do
  p.checkInstallation serde
  let progress ← p.provisionAll serde (ours classes controllerName) controllerName gateways {}
  let progress ← p.cleanup serde controllerName Kind.all progress
  Routine.modify fun confirmed =>
    confirmed.filter fun _ entry => entry.gatewayUid ∈ progress.desired
  return progress.outcome

end Provisioner

end Provision

end SozuGateway
