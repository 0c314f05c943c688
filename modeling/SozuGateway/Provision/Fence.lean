import SozuGateway.Lib.Conversation
import SozuGateway.Provision.Cleanup

/-!
# The installation is checked before each write

* `Current` — an anchor of this installation, with the templates of this process.
* `Fenced` — a write comes directly after a read of such an anchor.
* `writes_fenced` — every write a pass can come to is fenced, whatever the server answered; one
  lemma for each function of the provisioner.
-/

set_option autoImplicit false

namespace SozuGateway

namespace Provision

open Lib

/-- The anchor is that of this installation, is not being deleted, and its templates are those of
this process. -/
structure Current (p : Provisioner) (serde : Serde) (anchor : DynamicObject) : Prop where
  uid : anchor.metadata.uid = some p.installationUid
  kept : anchor.metadata.deletionTimestamp = none
  config : ∃ encoded, ((anchor.data.index "data").index "template.json").str? = some encoded ∧
    serde.parseConfig encoded = .ok p.config

theorem verifyAnchor_eq_ok {p : Provisioner} {serde : Serde} {anchor : DynamicObject}
    (h : p.verifyAnchor serde anchor = .ok ()) : Current p serde anchor := by
  unfold Provisioner.verifyAnchor at h
  simp only [bind, Except.bind, pure, Except.pure, throw, throwThe, MonadExceptOf.throw] at h
  split at h
  · cases h
  rename_i hinstallation
  rw [not_or, not_not] at hinstallation
  split at h
  · cases h
  rename_i encoded hencoded
  cases hparsed : serde.parseConfig encoded with
  | error e =>
    rw [hparsed] at h
    cases h
  | ok current =>
    rw [hparsed] at h
    dsimp only [Except.mapError] at h
    split at h
    · cases h
    rename_i hcurrent
    rw [not_not] at hcurrent
    exact ⟨hinstallation.1, by simpa using hinstallation.2, encoded, context_eq_ok hencoded,
      hcurrent ▸ hparsed⟩

/-- A conversation with the API server, the latest exchange first. -/
abbrev Conversation : Type := List (Exchange Request Request.Answer)

/-- The request writes. -/
def Request.isWrite : Request → Bool
  | .patchObject _ _ _ | .createObject _ _ | .deleteObject _ _ _ _ => true
  | _ => false

/-- The last that was said is an anchor that is current. -/
def Checked (p : Provisioner) (serde : Serde) (said : Conversation) : Prop :=
  ∃ anchor earlier, said =
    ⟨.getObject .configMap p.config.templateConfigMap, .ok anchor⟩ :: earlier ∧
      Current p serde anchor

/-- A write comes directly after the read of an anchor that is current. -/
def Fenced (p : Provisioner) (serde : Serde) (said : Conversation) (r : Request) : Prop :=
  r.isWrite = true → Checked p serde said

section Heeds

variable {p : Provisioner} {serde : Serde} {controllerName : String} {α : Type}

/-- The writes of a program of the provisioner are fenced. -/
abbrev Heeds (p : Provisioner) (serde : Serde) (A : Conversation → Prop) (x : Pass α)
    (Q : α → Conversation → Prop) : Prop :=
  Routine.Heeds (Fenced p serde) A x Q

/-- A program all of whose writes are fenced, from any conversation on. -/
abbrev KeepsFence (p : Provisioner) (serde : Serde) (x : Pass α) : Prop :=
  Heeds p serde (fun _ => True) x fun _ _ => True

theorem KeepsFence.bind {β : Type} {x : Pass α} {f : α → Pass β} (hx : KeepsFence p serde x)
    (hf : ∀ a, KeepsFence p serde (f a)) : KeepsFence p serde (x >>= f) :=
  Routine.Heeds.bind hx hf

theorem KeepsFence.attempt {x : Pass α} (hx : KeepsFence p serde x) :
    KeepsFence p serde x.attempt :=
  (Routine.Heeds.attempt hx).weaken (fun _ h => h) fun _ _ _ => trivial

theorem keepsFence_pure (a : α) : KeepsFence p serde (pure a) := .pure fun _ h => h

theorem keepsFence_ofExcept (r : Except Error α) : KeepsFence p serde (Routine.ofExcept r) :=
  .ofExcept fun _ h _ _ => h

theorem keepsFence_modify (f : Confirmed → Confirmed) : KeepsFence p serde (Routine.modify f) :=
  .modify fun _ h => h

/-- A request that does not write needs no fence. -/
theorem keepsFence_ask {r : Request} (h : r.isWrite = false) : KeepsFence p serde (Routine.ask r) :=
  .ask fun _ _ => ⟨fun hwrite => absurd hwrite (Bool.eq_false_iff.1 h), fun _ => trivial⟩

theorem keepsFence_found {r : Request} (h : r.isWrite = false) : KeepsFence p serde (found r) := by
  refine (keepsFence_ask h).bind fun answer => ?_
  cases answer with
  | ok a => exact keepsFence_pure _
  | error e =>
    dsimp only
    split
    · exact keepsFence_pure _
    · exact .fail

/-- **After the check the installation is current**, and nothing else was said since. -/
theorem heeds_checkInstallation :
    Heeds p serde (fun _ => True) (p.checkInstallation serde)
      fun _ said => Checked p serde said := by
  have hask : Heeds p serde (fun _ => True)
      (Routine.ask (Request.getObject .configMap p.config.templateConfigMap)) fun answer said =>
        ∃ earlier, said =
          ⟨.getObject .configMap p.config.templateConfigMap, answer⟩ :: earlier :=
    .ask fun said _ => ⟨fun hwrite => absurd hwrite Bool.false_ne_true, fun _ => ⟨said, rfl⟩⟩
  have hrequest : Heeds p serde (fun _ => True)
      (request (Request.getObject .configMap p.config.templateConfigMap)) fun anchor said =>
        ∃ earlier, said =
          ⟨.getObject .configMap p.config.templateConfigMap, .ok anchor⟩ :: earlier := by
    refine hask.bind fun answer => .ofExcept ?_
    rintro said ⟨earlier, rfl⟩ anchor rfl
    exact ⟨earlier, rfl⟩
  refine hrequest.bind fun anchor => .ofExcept ?_
  rintro said ⟨earlier, rfl⟩ a ha
  exact ⟨anchor, earlier, rfl, verifyAnchor_eq_ok ha⟩

/-- A write directly after the check. -/
theorem heeds_ask_write (r : Request) :
    Heeds p serde (Checked p serde) (Routine.ask r) fun _ _ => True :=
  .ask fun _ hchecked => ⟨fun _ => hchecked, fun _ => trivial⟩

theorem keepsFence_settle (kind : Kind) (name gatewayUid template : String) (last : Bool)
    (answer : Except Error DynamicObject) :
    KeepsFence p serde (Provisioner.settle kind name gatewayUid template last answer) := by
  cases answer with
  | ok written =>
    have hconfirm : KeepsFence p serde
        (Provisioner.confirm kind name gatewayUid template written) :=
      (keepsFence_ofExcept _).bind fun _ => (keepsFence_ofExcept _).bind fun _ =>
        keepsFence_modify _
    exact hconfirm.bind fun _ => keepsFence_pure _
  | error e =>
    dsimp only [Provisioner.settle]
    split
    · exact keepsFence_pure _
    · exact .fail

/-- **One attempt**: its write directly follows the check. -/
theorem keepsFence_ensureAttempt (kind : Kind) (name : String) (template : Value)
    (gatewayUid : String) (last : Bool) :
    KeepsFence p serde (p.ensureAttempt serde kind name template gatewayUid last) := by
  have hlive : KeepsFence p serde (Provisioner.liveObject kind name) := by
    refine (keepsFence_found (r := .getObject kind name) rfl).bind fun live => ?_
    split
    · exact (keepsFence_modify _).bind fun _ => keepsFence_pure _
    · exact keepsFence_pure _
  have hget : KeepsFence p serde Routine.get := .get fun _ _ h => h
  refine hlive.bind fun live => hget.bind fun confirmed => (keepsFence_ofExcept _).bind
    fun write => ?_
  cases write with
  | nothing => exact keepsFence_pure _
  | create object | patch patch =>
    exact heeds_checkInstallation.bind fun _ => (heeds_ask_write _).bind fun answer =>
      keepsFence_settle _ _ _ _ _ answer

theorem keepsFence_ensureLoop (kind : Kind) (name : String) (template : Value)
    (gatewayUid : String) (left : ℕ) :
    KeepsFence p serde (p.ensureLoop serde kind name template gatewayUid left) := by
  induction left with
  | zero => exact .fail
  | succ left ih =>
    refine (keepsFence_ensureAttempt kind name template gatewayUid _).bind fun settled => ?_
    split
    · exact keepsFence_pure _
    · exact ih

theorem keepsFence_ensureAll (gatewayUid place : String) (resources : List (Kind × Value)) :
    KeepsFence p serde (p.ensureAll serde gatewayUid place resources) := by
  induction resources with
  | nil => exact keepsFence_pure _
  | cons resource rest ih =>
    have hensure : KeepsFence p serde (p.ensure serde resource.1 resource.2 gatewayUid) :=
      (keepsFence_ofExcept _).bind fun _ => keepsFence_ensureLoop _ _ _ _ _
    exact hensure.attempt.bind fun _ => (keepsFence_ofExcept _).bind fun _ => ih

theorem keepsFence_liveOwned (g : Gateway) :
    KeepsFence p serde (Provisioner.liveOwned g controllerName) := by
  unfold Provisioner.liveOwned
  split
  · exact keepsFence_pure _
  · exact (keepsFence_found (r := .getGatewayClass _) rfl).bind fun _ => keepsFence_pure _

theorem keepsFence_liveGateway (namespace_ name : String) :
    KeepsFence p serde (Provisioner.liveGateway namespace_ name) :=
  keepsFence_found (r := .getGateway namespace_ name) rfl

theorem keepsFence_ensureGateway (cached : Gateway) :
    KeepsFence p serde (p.ensureGateway serde cached controllerName) := by
  refine (keepsFence_ofExcept _).bind fun namespace_ => (keepsFence_liveGateway _ _).bind
    fun live => ?_
  cases live with
  | none => exact keepsFence_pure _
  | some g =>
    dsimp only
    split
    · exact keepsFence_pure _
    refine (keepsFence_liveOwned g).bind fun owned => ?_
    split
    · exact keepsFence_pure _
    exact (keepsFence_ofExcept _).bind fun i => (keepsFence_ofExcept _).bind fun resources =>
      (keepsFence_ensureAll _ _ _).bind fun _ => keepsFence_pure _

theorem keepsFence_stillOwned (namespace_ name uid : String) :
    KeepsFence p serde (Provisioner.stillOwned namespace_ name uid controllerName) := by
  refine (keepsFence_liveGateway _ _).bind fun live => ?_
  cases live with
  | none => exact keepsFence_pure _
  | some g =>
    dsimp only
    split
    · exact keepsFence_liveOwned g
    · exact keepsFence_pure _

/-- **A deletion** directly follows the check. -/
theorem keepsFence_deleteListed (kind : Kind) (object : DynamicObject) :
    KeepsFence p serde (p.deleteListed serde kind object) := by
  refine (keepsFence_ofExcept _).bind fun uid => heeds_checkInstallation.bind fun _ => ?_
  have hdelete : Heeds p serde (Checked p serde) (found (.deleteObject kind
      object.metadata.nameAny uid object.metadata.resourceVersion)) fun _ _ => True := by
    refine (heeds_ask_write _).bind fun answer => ?_
    cases answer with
    | ok a => exact keepsFence_pure _
    | error e =>
      dsimp only
      split
      · exact keepsFence_pure _
      · exact .fail
  exact hdelete.bind fun _ => keepsFence_modify _

theorem keepsFence_prune (kind : Kind) (object : DynamicObject) (obsoleteOptional : Bool) :
    KeepsFence p serde (p.prune serde kind object controllerName obsoleteOptional) := by
  refine (keepsFence_ofExcept _).bind fun _ => (keepsFence_ofExcept _).bind fun _ =>
    (keepsFence_ofExcept _).bind fun _ => (keepsFence_stillOwned _ _ _).bind fun owned => ?_
  split
  · exact keepsFence_pure _
  · exact keepsFence_deleteListed kind object

theorem keepsFence_pruneAll (kind : Kind) (objects : List DynamicObject)
    (progress : Provisioner.Progress) :
    KeepsFence p serde (p.pruneAll serde kind controllerName objects progress) := by
  induction objects generalizing progress with
  | nil => exact keepsFence_pure _
  | cons object objects ih =>
    rw [Provisioner.pruneAll]
    split
    · exact ih _
    · exact (keepsFence_prune kind object _).attempt.bind fun _ => ih _

theorem keepsFence_cleanup (kinds : List Kind) (progress : Provisioner.Progress) :
    KeepsFence p serde (p.cleanup serde controllerName kinds progress) := by
  induction kinds generalizing progress with
  | nil => exact keepsFence_pure _
  | cons kind kinds ih =>
    refine (keepsFence_ask (r := .listObjects kind _ _) rfl).bind fun listed => ?_
    cases listed with
    | ok objects => exact (keepsFence_pruneAll kind objects progress).bind fun _ => ih _
    | error e =>
      dsimp only
      split
      · exact ih _
      · exact ih _

theorem keepsFence_provisionAll (ours : Finset String) (gateways : List Gateway)
    (progress : Provisioner.Progress) :
    KeepsFence p serde (p.provisionAll serde ours controllerName gateways progress) := by
  induction gateways generalizing progress with
  | nil => exact keepsFence_pure _
  | cons gateway gateways ih =>
    rw [Provisioner.provisionAll]
    split
    · exact ih _
    · split
      · exact ih _
      · exact (keepsFence_ensureGateway gateway).attempt.bind fun _ => ih _

theorem keepsFence_reconcile (gateways : List Gateway) (classes : List GatewayClass) :
    KeepsFence p serde (p.reconcile serde gateways classes controllerName) :=
  (heeds_checkInstallation.weaken (fun _ h => h) fun _ _ _ => trivial).bind fun _ =>
    (keepsFence_provisionAll _ gateways _).bind fun _ =>
      (keepsFence_cleanup _ _).bind fun _ =>
        (keepsFence_modify _).bind fun _ => keepsFence_pure _

end Heeds

/-- **Every write is fenced.**  Whatever the server answers, a pass creates, patches and deletes
only directly after it read an anchor of this installation that is not being deleted and whose
templates are those of this process. -/
theorem writes_fenced (p : Provisioner) (serde : Serde) (gateways : List Gateway)
    (classes : List GatewayClass) (controllerName : String) (confirmed : Confirmed)
    {said : Conversation} {r : Request}
    (hsaid : (p.reconcile serde gateways classes controllerName confirmed).Said [] said r)
    (hwrite : r.isWrite = true) : Checked p serde said :=
  (keepsFence_reconcile gateways classes confirmed [] trivial).asked_of_said hsaid hwrite

/-- In the run over the rewritten Deployment there is such a write. -/
theorem writes_fenced_rewritten :
    ∃ said r, Renamed.pass.Said [] said r ∧ r.isWrite = true ∧
      Checked Renamed.provisioner Renamed.serde said := by
  have hwrites : ∃ x ∈ Renamed.pass.talk (Server.answer Renamed.names) Renamed.rewrittenServer [],
      x.2.isWrite = true := by
    rw [← List.any_eq_true]
    decide +kernel
  obtain ⟨⟨said, r⟩, hmem, hwrite⟩ := hwrites
  have hsaid := Prog.said_of_mem_talk _ hmem
  exact ⟨said, r, hsaid, hwrite, writes_fenced _ _ _ _ _ _ hsaid hwrite⟩

end Provision

end SozuGateway
