import SozuGateway.Provision.ApiServer

/-!
# What a pass writes

Every write of a pass, at whatever time it takes effect, is one that the templates and the live
reads prescribe.

* `ReadLive`, `Templated` — a Gateway that was read as live, and an object of its instance.
* `Owner` — a Gateway that is live throughout.
* `Prescribed` — what a write may do; `guarded_pass` — every write of a pass does that, by one lemma
  for each function of the provisioner, and so does every request in a run (`prescribed_of_run`).
* `WrittenFor` — the Gateway an object is patched or deleted for; `Prescribed.changed` — an object
  that changes passes the ownership test for that Gateway.
-/

set_option autoImplicit false

namespace SozuGateway

namespace Provision

open Lib

/-! ## Gateways and their objects -/

/-- The object is still there, and not newly marked as being deleted. -/
def Survives (kind : Kind) (name : String) (o : DynamicObject) (s : Server) : Prop :=
  ∃ o', s.objects kind name = some o' ∧ o'.metadata.uid = o.metadata.uid ∧
    (o'.metadata.deletionTimestamp.isSome → o.metadata.deletionTimestamp.isSome)

/-- The class of this name is one of this controller, and not being deleted. -/
def LiveClass (controllerName name : String) (s : Server) : Prop :=
  ∃ c, s.classes name = some c ∧ c.metadata.deletionTimestamp = none ∧
    c.controllerName = controllerName

/-- In all of these states the Gateway with this UID is there under its name, is not being deleted,
and names a class that in all of them is one of this controller. -/
def Owner (controllerName : String) (within : Server → Prop) (namespace_ name uid : String) :
    Prop :=
  ∀ s, within s → ∃ g, s.gateways namespace_ name = some g ∧ g.metadata.uid = some uid ∧
    g.metadata.deletionTimestamp = none ∧
    ∀ s', within s' → LiveClass controllerName g.gatewayClassName s'

/-- The annotations of an object tell which Gateway it was made for. -/
structure MadeFor (o : DynamicObject) (namespace_ name uid : String) : Prop where
  gatewayNamespace : o.metadata.annotations[gatewayNamespaceKey]? = some namespace_
  gatewayName : o.metadata.annotations[gatewayNameKey]? = some name
  gatewayUid : o.metadata.annotations[gatewayUidKey]? = some uid

/-! ## What may be written -/

/-- The Gateway was read in one of these states, under this name and not being deleted, and the
class it names, in one of them, as one of this controller. -/
structure ReadLive (controllerName : String) (within : Server → Prop) (namespace_ name : String)
    (g : Gateway) : Prop where
  there : ∃ s, within s ∧ s.gateways namespace_ name = some g
  kept : g.metadata.deletionTimestamp = none
  gatewayClass : ∃ s, within s ∧ LiveClass controllerName g.gatewayClassName s

/-- An object of the instance of a Gateway that was read as live. -/
structure Templated (p : Provisioner) (serde : Serde) (controllerName : String)
    (within : Server → Prop) (i : Instance) (kind : Kind) (template : Value) : Prop where
  live : ∃ namespace_ name g, ReadLive controllerName within namespace_ name g ∧
    p.instance_ g = .ok i
  resource : ∃ resources, p.resources serde i = .ok resources ∧ (kind, template) ∈ resources

/-- What a request of a pass does when it takes effect. -/
inductive Prescribed (p : Provisioner) (serde : Serde) (controllerName : String)
    (within : Server → Prop) : Request → Server → Server → Prop
  /-- A read, or a write that failed. -/
  | same {r s} : Prescribed p serde controllerName within r s s
  /-- The object is made of its template, where there was none. -/
  | created {i kind template desired object written s s'} :
      Templated p serde controllerName within i kind template →
      Provisioner.annotated template (serde.text template) = .ok desired →
      serde.fromValue desired = .ok object → Created kind object s written s' →
      Prescribed p serde controllerName within (.createObject kind object) s s'
  /-- The Gateway's own object, which is not being deleted, is merged with its template. -/
  | patched {i kind name template desired patch o written s s'} :
      Templated p serde controllerName within i kind template →
      ((template.index "metadata").index "name").str? = some name →
      Provisioner.annotated (if kind = .service then
          preserveServiceAllocations template (serde.toValue kind o) else template)
        (serde.text template) = .ok desired →
      p.owned o i.gatewayUid = true → o.metadata.deletionTimestamp = none →
      Provisioner.patchOf serde o desired = .ok patch →
      s.objects kind name = some o → Patched kind name patch s written s' →
      Prescribed p serde controllerName within (.patchObject kind name patch) s s'
  /-- The object passes the ownership test, and is obsolete or its Gateway is not live
  throughout. -/
  | deleted {kind o namespace_ name gatewayUid uid s s'} :
      p.owned o gatewayUid = true → MadeFor o namespace_ name gatewayUid →
      p.obsoleteOptional kind o.metadata.nameAny = true ∨
        ¬Owner controllerName within namespace_ name gatewayUid →
      s.objects kind o.metadata.nameAny = some o →
      Deleted kind o.metadata.nameAny uid o.metadata.resourceVersion s s' →
      Prescribed p serde controllerName within
        (.deleteObject kind o.metadata.nameAny uid o.metadata.resourceVersion) s s'

/-- What is prescribed is what is asked. -/
def Honours (p : Provisioner) (serde : Serde) (controllerName : String) (within : Server → Prop)
    (asked : Request → Server → Server → Prop) : Prop :=
  ∀ r s s', Prescribed p serde controllerName within r s s' → asked r s s'

/-- A write to an object, and the UID of the Gateway it is for: the object is patched with a
template of the instance of a Gateway that was read as live, or deleted by its own
annotations. -/
inductive WrittenFor (p : Provisioner) (serde : Serde) (controllerName : String)
    (within : Server → Prop) (kind : Kind) (name : String) (o : DynamicObject) :
    String → Request → Prop
  | patched {i template patch} :
      Templated p serde controllerName within i kind template →
      ((template.index "metadata").index "name").str? = some name →
      WrittenFor p serde controllerName within kind name o i.gatewayUid
        (.patchObject kind name patch)
  | deleted {namespace_ gatewayName gatewayUid uid} :
      MadeFor o namespace_ gatewayName gatewayUid →
      WrittenFor p serde controllerName within kind name o gatewayUid
        (.deleteObject kind name uid o.metadata.resourceVersion)

/-- **An object that changes passes the ownership test for the Gateway it is written for**, and it
is only deleted when it is obsolete or that Gateway is not live throughout. -/
theorem Prescribed.changed {p : Provisioner} {serde : Serde} {controllerName : String}
    {within : Server → Prop} {r : Request} {s s' : Server} {kind : Kind} {name : String}
    {o : DynamicObject} (h : Prescribed p serde controllerName within r s s')
    (ho : s.objects kind name = some o) :
    s'.objects kind name = some o ∨
      ∃ uid, p.owned o uid = true ∧ WrittenFor p serde controllerName within kind name o uid r ∧
        (Survives kind name o s' ∨ ∃ namespace_ gatewayName,
          MadeFor o namespace_ gatewayName uid ∧ (p.obsoleteOptional kind name = true ∨
            ¬Owner controllerName within namespace_ gatewayName uid)) := by
  -- a write to one object leaves all others as they are
  have hother : ∀ {kind' name'}, s.Writes kind' name' s' → (kind, name) ≠ (kind', name') →
      s'.objects kind name = some o := fun hwrites hne => by rw [hwrites.objects _ _ hne, ho]
  cases h with
  | same => exact .inl ho
  | created htemplated hdesired hobject hcreated =>
    obtain ⟨name', -, hwrites, hnone, -⟩ := hcreated
    refine .inl (hother hwrites fun heq => ?_)
    obtain ⟨rfl, rfl⟩ := Prod.mk.inj heq
    rw [hnone] at ho
    cases ho
  | @patched i kind' name' template _ patch x _ _ _ htemplated hname hdesired howned hkept hpatch
      hthere hpatched =>
    obtain ⟨hwrites, hwritten, x', hx', -, hsame, hdeletion⟩ := hpatched
    by_cases heq : (kind, name) = (kind', name')
    · obtain ⟨rfl, rfl⟩ := Prod.mk.inj heq
      obtain rfl := Option.some.inj (hthere.symm.trans ho)
      obtain rfl := Option.some.inj (hx'.symm.trans ho)
      exact .inr ⟨_, howned, .patched htemplated hname,
        .inl ⟨_, hwritten, hsame, fun hsome => hdeletion ▸ hsome⟩⟩
    · exact .inl (hother hwrites heq)
  | @deleted kind' x _ _ _ _ _ _ howned hmade hwhy hthere hdeleted =>
    by_cases heq : (kind, name) = (kind', x.metadata.nameAny)
    · obtain ⟨rfl, rfl⟩ := Prod.mk.inj heq
      obtain rfl := Option.some.inj (hthere.symm.trans ho)
      exact .inr ⟨_, howned, .deleted hmade, .inr ⟨_, _, hmade, hwhy⟩⟩
    · exact .inl (hother hdeleted.1 heq)

section Guards

variable {p : Provisioner} {serde : Serde} {controllerName : String} {within : Server → Prop}
  {asked : Request → Server → Server → Prop} {α : Type}

/-- The requests of a program of the provisioner do what is asked. -/
abbrev Guarded (within : Server → Prop) (asked : Request → Server → Server → Prop)
    (A : Server → Prop) (x : Pass α) (Q : α → Server → Prop) : Prop :=
  Routine.Guarded apiServer within asked A x Q

theorem stable_true : Stable apiServer fun _ => True := fun _ _ _ _ => trivial

theorem stable_const (P : Prop) : Stable apiServer fun _ => P := fun _ _ _ h => h

theorem Honours.same (h : Honours p serde controllerName within asked) (r : Request) (s : Server) :
    asked r s s := h r s s .same

/-! ## Reads -/

/-- A request that only reads. -/
def Request.IsRead (r : Request) : Prop := ∀ s a s', serves s r a s' → s' = s

theorem isRead_getGateway (namespace_ name : String) :
    (Request.getGateway namespace_ name).IsRead := fun _ _ _ h => h.1

theorem isRead_getGatewayClass (name : String) : (Request.getGatewayClass name).IsRead :=
  fun _ _ _ h => h.1

theorem isRead_getObject (kind : Kind) (name : String) : (Request.getObject kind name).IsRead :=
  fun _ _ _ h => h.1

theorem isRead_listObjects (kind : Kind) (label value : String) :
    (Request.listObjects kind label value).IsRead := fun _ _ _ h => h.1

/-- What a read returns, it read in one of the states. -/
theorem guarded_ask_read (hasked : Honours p serde controllerName within asked) {r : Request}
    (hread : r.IsRead) {Q : r.Answer → Server → Prop} (hQ : ∀ a, Stable apiServer (Q a))
    (hserves : ∀ s a, within s → serves s r a s → Q a s)
    (hlost : ∀ s e, e.code ≠ some 404 → Q (.error e) s) :
    Guarded within asked (fun _ => True) (Routine.ask r) Q := by
  refine .ask stable_true hQ (fun s a s' hs _ _ hserved => ?_) ?_
  · obtain rfl := hread s a s' hserved
    exact ⟨hasked.same r s', hserves s' a hs hserved⟩
  · rintro s a - ⟨e, rfl, he⟩
    exact hlost s e he

/-- What `found` makes of an answer. -/
def Request.Found (r : Request) (Q : Option r.Result → Server → Prop) : r.Answer → Server → Prop
  | .ok a, s => Q (some a) s
  | .error e, s => e.code = some 404 → Q none s

/-- What is found is there in one of the states; what is not found is in none of one. -/
theorem guarded_found_read (hasked : Honours p serde controllerName within asked) {r : Request}
    (hread : r.IsRead) {Q : Option r.Result → Server → Prop} (hQ : ∀ a, Stable apiServer (Q a))
    (hfound : ∀ s a, within s → serves s r (.ok a) s → Q (some a) s)
    (habsent : ∀ s e, within s → e.code = some 404 → serves s r (.error e) s → Q none s) :
    Guarded within asked (fun _ => True) (found r) Q := by
  have hask : Guarded within asked (fun _ => True) (Routine.ask r) (r.Found Q) := by
    refine guarded_ask_read hasked hread (fun answer => ?_) (fun s answer hs hserved => ?_)
      fun s e he h404 => absurd h404 he
    · cases answer with
      | ok a => exact hQ (some a)
      | error e => exact fun s s' hmoves h h404 => hQ none s s' hmoves (h h404)
    · cases answer with
      | ok a => exact hfound s a hs hserved
      | error e => exact fun h404 => habsent s e hs h404 hserved
  refine hask.bind fun answer => ?_
  cases answer with
  | ok a => exact .pure (hQ (some a)) fun s h => h
  | error e =>
    dsimp only
    split
    · rename_i h404
      exact .pure (fun s s' hmoves h _ => hQ none s s' hmoves (h h404)) fun s h => h h404
    · rename_i h404
      exact .fail fun s s' _ _ h => absurd h h404

/-- The check of the installation only reads. -/
theorem guarded_checkInstallation (hasked : Honours p serde controllerName within asked) :
    Guarded within asked (fun _ => True) (p.checkInstallation serde) fun _ _ => True := by
  have hask : Guarded within asked (fun _ => True)
      (Routine.ask (Request.getObject .configMap p.config.templateConfigMap)) fun _ _ => True :=
    guarded_ask_read hasked (isRead_getObject _ _) (fun _ => stable_true) (fun _ _ _ _ => trivial)
      fun _ _ _ => trivial
  have hrequest : Guarded within asked (fun _ => True)
      (request (Request.getObject .configMap p.config.templateConfigMap)) fun _ _ => True :=
    hask.bind fun _ => .ofExcept stable_true fun _ _ _ _ => trivial
  exact hrequest.bind fun _ => .ofExcept stable_true fun _ _ _ _ => trivial

/-- What is known of an object is kept over the check of the installation. -/
theorem guarded_checkInstallation_seen (hasked : Honours p serde controllerName within asked)
    (kind : Kind) (o : DynamicObject) :
    Guarded within asked (Seen kind o) (p.checkInstallation serde) fun _ s => Seen kind o s :=
  ((guarded_checkInstallation hasked).frame (stable_seen kind o)).weaken
    (fun _ h => ⟨trivial, h⟩) fun _ _ h => h.2

/-- A Gateway is read as it is in one of the states. -/
theorem guarded_liveGateway (hasked : Honours p serde controllerName within asked)
    (namespace_ name : String) :
    Guarded within asked (fun _ => True) (Provisioner.liveGateway namespace_ name)
      fun live _ => ∃ s, within s ∧ s.gateways namespace_ name = live :=
  guarded_found_read hasked (isRead_getGateway namespace_ name) (fun _ => stable_const _)
    (fun s _ hs h => ⟨s, hs, h.2⟩) fun s _ hs h404 h => ⟨s, hs, h.2 h404⟩

/-- What the answer of `liveOwned` tells of a Gateway. -/
structure OwnedTold (controllerName : String) (within : Server → Prop) (g : Gateway)
    (owned : Bool) : Prop where
  live : owned = true → g.metadata.deletionTimestamp = none ∧
    ∃ s, within s ∧ LiveClass controllerName g.gatewayClassName s
  gone : owned = false → g.metadata.deletionTimestamp ≠ none ∨
    ∃ s, within s ∧ ¬LiveClass controllerName g.gatewayClassName s

/-- **A Gateway is owned** when it is not being deleted and its class is this controller's in one of
the states, and not owned when it is being deleted or its class is not, in one of the states. -/
theorem guarded_liveOwned (hasked : Honours p serde controllerName within asked) (g : Gateway) :
    Guarded within asked (fun _ => True) (Provisioner.liveOwned g controllerName)
      fun owned _ => OwnedTold controllerName within g owned := by
  unfold Provisioner.liveOwned
  split
  · rename_i hdeleted
    refine .pure stable_true fun _ _ => ⟨Bool.false_ne_true.elim, fun _ => ?_⟩
    exact .inl (Option.isSome_iff_ne_none.1 hdeleted)
  · rename_i hkept
    have hfound : Guarded within asked (fun _ => True)
        (found (.getGatewayClass g.gatewayClassName)) fun gatewayClass _ =>
          ∃ s, within s ∧ s.classes g.gatewayClassName = gatewayClass :=
      guarded_found_read hasked (isRead_getGatewayClass _) (fun _ => stable_const _)
        (fun s _ hs h => ⟨s, hs, h.2⟩) fun s _ hs h404 h => ⟨s, hs, h.2 h404⟩
    refine hfound.bind fun gatewayClass => .pure (stable_const _) ?_
    rintro - ⟨s, hs, hclass⟩
    constructor
    · intro howned
      refine ⟨by simpa using hkept, s, hs, ?_⟩
      obtain ⟨c, rfl, hc⟩ := (Option.any_eq_true _ _).1 howned
      obtain ⟨hdeleted, hname⟩ := Bool.and_eq_true_iff.1 hc
      exact ⟨c, hclass, Option.isNone_iff_eq_none.1 hdeleted, by simpa using hname⟩
    · intro howned
      refine .inr ⟨s, hs, ?_⟩
      rintro ⟨c, hc, hdeleted, hname⟩
      rw [← hclass, hc] at howned
      simp [hdeleted, hname] at howned

/-- **A Gateway that is not still owned is not live throughout.** -/
theorem guarded_stillOwned (hasked : Honours p serde controllerName within asked)
    (namespace_ name uid : String) :
    Guarded within asked (fun _ => True)
      (Provisioner.stillOwned namespace_ name uid controllerName)
      fun owned _ => owned = false → ¬Owner controllerName within namespace_ name uid := by
  refine (guarded_liveGateway hasked namespace_ name).bind fun live => .intro ?_
  rintro - ⟨s, hs, hlive⟩
  refine ⟨fun _ => True, trivial, ?_⟩
  cases live with
  | none =>
    refine .pure stable_true fun _ _ _ howner => ?_
    obtain ⟨g, hg, -⟩ := howner s hs
    rw [hlive] at hg
    cases hg
  | some g =>
    dsimp only
    split
    · refine (guarded_liveOwned hasked g).weaken (fun _ h => h) ?_
      intro owned _ howned hfalse howner
      obtain ⟨g', hg', huid, hdeleted, hclass⟩ := howner s hs
      rw [hlive] at hg'
      obtain rfl := Option.some.inj hg'
      rcases howned.gone hfalse with h | ⟨s', hs', h⟩
      · exact h hdeleted
      · exact h (hclass s' hs')
    · rename_i hne
      refine .pure stable_true fun _ _ _ howner => hne ?_
      obtain ⟨g', hg', huid, -⟩ := howner s hs
      rw [hlive] at hg'
      obtain rfl := Option.some.inj hg'
      exact huid

/-- An object is read as it is. -/
theorem guarded_liveObject (hasked : Honours p serde controllerName within asked) (kind : Kind)
    (name : String) :
    Guarded within asked (fun _ => True) (Provisioner.liveObject kind name)
      fun live s => ∀ o, live = some o → Seen kind o s := by
  have hstable : ∀ live : Option DynamicObject,
      Stable apiServer fun s => ∀ o, live = some o → Seen kind o s :=
    fun live s s' hmoves h o ho => stable_seen kind o s s' hmoves (h o ho)
  have hfound : Guarded within asked (fun _ => True) (found (.getObject kind name))
      fun live s => ∀ o, live = some o → Seen kind o s := by
    refine guarded_found_read hasked (isRead_getObject kind name) hstable ?_ ?_
    · rintro s a - h o ho
      obtain rfl := Option.some.inj ho
      exact seen_of_objects h.2
    · rintro s e - - - o ho
      cases ho
  refine hfound.bind fun live => ?_
  split
  · exact Routine.Guarded.bind (.modify (hstable live) fun _ h => h)
      fun _ => .pure (hstable live) fun _ h => h
  · exact .pure (hstable live) fun _ h => h

/-! ## Writes -/

/-- A request that takes effect in one way or not at all. -/
theorem Honours.of_served (hasked : Honours p serde controllerName within asked) {r : Request}
    {β : Type} {effect : β → Prop} {s s' : Server} {answer : Except Error β}
    (h : Served effect s s' answer)
    (heffect : ∀ a, effect a → Prescribed p serde controllerName within r s s') : asked r s s' := by
  cases answer with
  | ok a => exact hasked r s s' (heffect a h)
  | error e =>
    obtain rfl : s' = s := h
    exact hasked.same r s'

/-- A created object is made of its template. -/
theorem guarded_create (hasked : Honours p serde controllerName within asked) {i : Instance}
    {kind : Kind} {template desired : Value} {object : DynamicObject}
    (htemplated : Templated p serde controllerName within i kind template)
    (hdesired : Provisioner.annotated template (serde.text template) = .ok desired)
    (hobject : serde.fromValue desired = .ok object) :
    Guarded within asked (fun _ => True) (Routine.ask (Request.createObject kind object))
      fun _ _ => True :=
  .ask stable_true (fun _ => stable_true)
    (fun _ _ _ _ _ _ hserved =>
      ⟨hasked.of_served hserved fun _ h => .created htemplated hdesired hobject h, trivial⟩)
    fun _ _ _ _ => trivial

/-- A patch names the UID and the version of the object it was made for. -/
theorem patchOf_names {live : DynamicObject} {desired patch : Value}
    (h : Provisioner.patchOf serde live desired = .ok patch) :
    ∃ uid rv, live.metadata.uid = some uid ∧ live.metadata.resourceVersion = some rv ∧
      patch.at? ["metadata", "uid"] = some (.string uid) ∧
      patch.at? ["metadata", "resourceVersion"] = some (.string rv) := by
  unfold Provisioner.patchOf at h
  cases huid : live.metadata.uid with
  | none =>
    rw [huid] at h
    cases h
  | some uid =>
    cases hversion : live.metadata.resourceVersion with
    | none =>
      rw [huid, hversion] at h
      cases h
    | some rv =>
      rw [huid, hversion] at h
      obtain rfl := Except.ok.inj h
      refine ⟨uid, rv, rfl, rfl, ?_, Value.at?_putAt _ _ _⟩
      rw [Value.at?_putAt_of_ne (by decide), Value.at?_putAt]

/-- **What a patch is applied to is the object it was made for.** -/
theorem eq_of_matches {kind : Kind} {name : String} {o o' : DynamicObject} {desired patch : Value}
    {s : Server} (hpatch : Provisioner.patchOf serde o desired = .ok patch) (hseen : Seen kind o s)
    (h : s.objects kind name = some o') (hmatches : Matches patch o') : o' = o := by
  obtain ⟨uid, rv, huid, hversion, hpatchUid, hpatchVersion⟩ := patchOf_names hpatch
  have hnamed : ∀ {field : Option String} {text : String},
      field.map Value.string = some (.string text) → field = some text := by
    rintro (_ | _) text hfield
    · cases hfield
    · exact congrArg some (Value.string.inj (Option.some.inj hfield))
  refine (eq_of_seen hseen h ?_ ?_).1
  · rw [hnamed (hmatches.1 _ hpatchUid), huid]
  · rw [hnamed (hmatches.2 _ hpatchVersion), hversion]

/-- What the planned patch of an attempt was made of. -/
structure PatchPlanned (p : Provisioner) (serde : Serde) (kind : Kind) (template : Value)
    (gatewayUid : String) (patch : Value) (o : DynamicObject) (desired : Value) : Prop where
  owned : p.owned o gatewayUid = true
  kept : o.metadata.deletionTimestamp = none
  annotated : Provisioner.annotated (if kind = .service then
      preserveServiceAllocations template (serde.toValue kind o) else template)
    (serde.text template) = .ok desired
  patch : Provisioner.patchOf serde o desired = .ok patch

/-- **Only an owned object is patched, as it was read.** -/
theorem planned_patch {kind : Kind} {name gatewayUid : String} {template patch : Value}
    {entry : Option ConfirmedWrite} {live : Option DynamicObject}
    (h : p.planned serde kind name template gatewayUid entry live = .ok (.patch patch)) :
    ∃ o desired, live = some o ∧
      PatchPlanned p serde kind template gatewayUid patch o desired := by
  cases live with
  | none =>
    unfold Provisioner.planned at h
    simp only [bind, Except.bind, pure, Except.pure] at h
    split at h
    · cases h
    · split at h <;> cases h
  | some o =>
    unfold Provisioner.planned at h
    simp only [bind, Except.bind, pure, Except.pure] at h
    split at h
    · cases h
    rename_i howned
    split at h
    · cases h
    rename_i hkept
    split at h
    · cases h
    split at h
    · cases h
    rename_i desired hdesired
    split at h
    · cases h
    split at h
    · cases h
    rename_i patch' hpatch
    cases h
    exact ⟨o, desired, rfl, by simpa using howned, by simpa using hkept, hdesired, hpatch⟩

/-- Only what is not there is created, from the template. -/
theorem planned_create {kind : Kind} {name gatewayUid : String} {template : Value}
    {entry : Option ConfirmedWrite} {live : Option DynamicObject} {object : DynamicObject}
    (h : p.planned serde kind name template gatewayUid entry live = .ok (.create object)) :
    ∃ desired, Provisioner.annotated template (serde.text template) = .ok desired ∧
      serde.fromValue desired = .ok object := by
  cases live with
  | none =>
    unfold Provisioner.planned at h
    simp only [bind, Except.bind, pure, Except.pure] at h
    split at h
    · cases h
    rename_i desired hdesired
    cases hobject : serde.fromValue desired with
    | error e =>
      rw [hobject] at h
      cases h
    | ok object' =>
      rw [hobject] at h
      cases h
      exact ⟨desired, hdesired, hobject⟩
  | some o =>
    unfold Provisioner.planned at h
    simp only [bind, Except.bind, pure, Except.pure] at h
    split at h
    · cases h
    split at h
    · cases h
    split at h
    · cases h
    split at h
    · cases h
    split at h
    · cases h
    split at h <;> cases h

/-- **A patch that names what was read changes that object.** -/
theorem guarded_patch (hasked : Honours p serde controllerName within asked) {i : Instance}
    {kind : Kind} {name : String} {template desired patch : Value} {o : DynamicObject}
    (htemplated : Templated p serde controllerName within i kind template)
    (hname : ((template.index "metadata").index "name").str? = some name)
    (hplanned : PatchPlanned p serde kind template i.gatewayUid patch o desired) :
    Guarded within asked (Seen kind o) (Routine.ask (Request.patchObject kind name patch))
      fun _ _ => True := by
  refine .ask (stable_seen kind o) (fun _ => stable_true)
    (fun s answer s' _ _ hseen hserved => ⟨?_, trivial⟩) fun _ _ _ _ => trivial
  refine hasked.of_served hserved ?_
  rintro written hpatched
  obtain ⟨-, -, o', ho', hmatches, -⟩ := id hpatched
  obtain rfl := eq_of_matches hplanned.patch hseen ho' hmatches
  exact .patched htemplated hname hplanned.annotated hplanned.owned hplanned.kept hplanned.patch ho'
    hpatched

/-- **A deletion of what was listed deletes that object.** -/
theorem guarded_delete (hasked : Honours p serde controllerName within asked) {kind : Kind}
    {o : DynamicObject} {namespace_ name gatewayUid uid : String}
    (howned : p.owned o gatewayUid = true) (hmade : MadeFor o namespace_ name gatewayUid)
    (hwhy : p.obsoleteOptional kind o.metadata.nameAny = true ∨
      ¬Owner controllerName within namespace_ name gatewayUid)
    (huid : o.metadata.uid = some uid) :
    Guarded within asked (Seen kind o)
      (found (.deleteObject kind o.metadata.nameAny uid o.metadata.resourceVersion))
      fun _ _ => True := by
  have hask : Guarded within asked (Seen kind o)
      (Routine.ask (Request.deleteObject kind o.metadata.nameAny uid o.metadata.resourceVersion))
      fun _ _ => True := by
    refine .ask (stable_seen kind o) (fun _ => stable_true)
      (fun s answer s' _ _ hseen hserved => ⟨?_, trivial⟩) fun _ _ _ _ => trivial
    refine hasked.of_served hserved ?_
    rintro _ hdeleted
    obtain ⟨-, ⟨o', ho', huid', hversion'⟩, -⟩ := id hdeleted
    have hsome : o.metadata.resourceVersion.isSome := by
      obtain ⟨_, _, rv, _, _, hrv, _⟩ := hseen
      rw [hrv]
      rfl
    obtain ⟨rfl, -⟩ := eq_of_seen hseen ho' (huid'.trans huid.symm) (hversion' hsome)
    exact .deleted howned hmade hwhy ho' hdeleted
  refine hask.bind fun answer => ?_
  cases answer with
  | ok a => exact .pure stable_true fun _ h => h
  | error e =>
    dsimp only
    split
    · exact .pure stable_true fun _ h => h
    · exact .fail stable_true

/-- What a write came to is only remembered. -/
theorem guarded_settle (kind : Kind) (name gatewayUid template : String) (last : Bool)
    (answer : Except Error DynamicObject) :
    Guarded within asked (fun _ => True)
      (Provisioner.settle kind name gatewayUid template last answer) fun _ _ => True := by
  cases answer with
  | ok written =>
    have hconfirm : Guarded within asked (fun _ => True)
        (Provisioner.confirm kind name gatewayUid template written) fun _ _ => True :=
      .bind_ofExcept stable_true fun _ _ => .bind_ofExcept stable_true fun _ _ =>
        .modify stable_true fun _ h => h
    exact hconfirm.bind fun _ => .pure stable_true fun _ h => h
  | error e =>
    dsimp only [Provisioner.settle]
    split
    · exact .pure stable_true fun _ h => h
    · exact .fail stable_true

/-! ## Writing an object -/

/-- One attempt. -/
theorem guarded_ensureAttempt (hasked : Honours p serde controllerName within asked) {i : Instance}
    {kind : Kind} {name : String} {template : Value}
    (htemplated : Templated p serde controllerName within i kind template)
    (hname : ((template.index "metadata").index "name").str? = some name) (last : Bool) :
    Guarded within asked (fun _ => True)
      (p.ensureAttempt serde kind name template i.gatewayUid last) fun _ _ => True := by
  have hstable : ∀ live : Option DynamicObject,
      Stable apiServer fun s => ∀ o, live = some o → Seen kind o s :=
    fun live s s' hmoves h o ho => stable_seen kind o s s' hmoves (h o ho)
  refine (guarded_liveObject hasked kind name).bind fun live => ?_
  refine Routine.Guarded.bind (.get (hstable live) fun _ _ h => h) fun confirmed => ?_
  refine .bind_ofExcept (hstable live) fun write hwrite => .intro fun s hseen => ?_
  cases write with
  | nothing => exact ⟨fun _ => True, trivial, .pure stable_true fun _ h => h⟩
  | create object =>
    obtain ⟨desired, hdesired, hobject⟩ := planned_create hwrite
    refine ⟨fun _ => True, trivial, (guarded_checkInstallation hasked).bind fun _ => ?_⟩
    exact (guarded_create hasked htemplated hdesired hobject).bind fun answer =>
      guarded_settle _ _ _ _ _ answer
  | patch patch =>
    obtain ⟨o, desired, rfl, hplanned⟩ := planned_patch hwrite
    refine ⟨Seen kind o, hseen o rfl, (guarded_checkInstallation_seen hasked kind o).bind
      fun _ => ?_⟩
    exact (guarded_patch hasked htemplated hname hplanned).bind fun answer =>
      guarded_settle _ _ _ _ _ answer

/-- All attempts. -/
theorem guarded_ensureLoop (hasked : Honours p serde controllerName within asked) {i : Instance}
    {kind : Kind} {name : String} {template : Value}
    (htemplated : Templated p serde controllerName within i kind template)
    (hname : ((template.index "metadata").index "name").str? = some name) (left : ℕ) :
    Guarded within asked (fun _ => True)
      (p.ensureLoop serde kind name template i.gatewayUid left) fun _ _ => True := by
  induction left with
  | zero => exact .fail stable_true
  | succ left ih =>
    refine (guarded_ensureAttempt hasked htemplated hname _).bind fun settled => ?_
    split
    · exact .pure stable_true fun _ h => h
    · exact ih

theorem guarded_ensure (hasked : Honours p serde controllerName within asked) {i : Instance}
    {kind : Kind} {template : Value}
    (htemplated : Templated p serde controllerName within i kind template) :
    Guarded within asked (fun _ => True) (p.ensure serde kind template i.gatewayUid)
      fun _ _ => True :=
  .bind_ofExcept stable_true fun _ hname =>
    guarded_ensureLoop hasked htemplated (context_eq_ok hname) retries

/-- All objects of an instance. -/
theorem guarded_ensureAll (hasked : Honours p serde controllerName within asked) {i : Instance}
    (place : String) (resources : List (Kind × Value))
    (htemplated : ∀ r ∈ resources, Templated p serde controllerName within i r.1 r.2) :
    Guarded within asked (fun _ => True) (p.ensureAll serde i.gatewayUid place resources)
      fun _ _ => True := by
  induction resources with
  | nil => exact .pure stable_true fun _ h => h
  | cons resource rest ih =>
    have hattempt : Guarded within asked (fun _ => True)
        (p.ensure serde resource.1 resource.2 i.gatewayUid).attempt fun _ _ => True :=
      ((guarded_ensure hasked (htemplated resource List.mem_cons_self)).attempt
        fun _ => stable_true).weaken (fun _ h => h) fun _ _ _ => trivial
    exact hattempt.bind fun _ => .bind_ofExcept stable_true fun _ _ =>
      ih fun r hr => htemplated r (List.mem_cons_of_mem _ hr)

/-- **Objects are written for a Gateway that was read as live.** -/
theorem guarded_ensureGateway (hasked : Honours p serde controllerName within asked)
    (cached : Gateway) :
    Guarded within asked (fun _ => True) (p.ensureGateway serde cached controllerName)
      fun _ _ => True := by
  refine .bind_ofExcept stable_true fun namespace_ _ => ?_
  refine (guarded_liveGateway hasked namespace_ _).bind fun live => .intro ?_
  rintro - ⟨s, hs, hlive⟩
  refine ⟨fun _ => True, trivial, ?_⟩
  cases live with
  | none => exact .pure stable_true fun _ h => h
  | some g =>
    dsimp only
    split
    · exact .pure stable_true fun _ h => h
    refine (guarded_liveOwned hasked g).bind fun owned => .intro fun _ htold =>
      ⟨fun _ => True, trivial, ?_⟩
    split
    · exact .pure stable_true fun _ h => h
    rename_i howned
    obtain ⟨hkept, hclass⟩ := htold.live (by simpa using howned)
    refine .bind_ofExcept stable_true fun i hi => ?_
    refine .bind_ofExcept stable_true fun resources hresources => ?_
    refine (guarded_ensureAll hasked _ resources fun r hr => ?_).bind
      fun _ => .pure stable_true fun _ h => h
    exact ⟨⟨namespace_, _, g, ⟨⟨s, hs, hlive⟩, hkept, hclass⟩, hi⟩, resources, hresources, hr⟩

/-! ## Pruning -/

/-- An owned object tells the UID it is owned by. -/
theorem annotation_of_owned {o : DynamicObject} {uid : String} (h : p.owned o uid = true) :
    o.metadata.annotations[gatewayUidKey]? = some uid := by
  unfold Provisioner.owned at h
  simp only [Bool.and_eq_true, decide_eq_true_eq] at h
  exact h.1.2

/-- The deletion of a listed object. -/
theorem guarded_deleteListed (hasked : Honours p serde controllerName within asked) {kind : Kind}
    {o : DynamicObject} {namespace_ name gatewayUid : String}
    (howned : p.owned o gatewayUid = true) (hmade : MadeFor o namespace_ name gatewayUid)
    (hwhy : p.obsoleteOptional kind o.metadata.nameAny = true ∨
      ¬Owner controllerName within namespace_ name gatewayUid) :
    Guarded within asked (Seen kind o) (p.deleteListed serde kind o) fun _ _ => True := by
  refine .bind_ofExcept (stable_seen kind o) fun uid huid => ?_
  refine (guarded_checkInstallation_seen hasked kind o).bind fun _ => ?_
  exact (guarded_delete hasked howned hmade hwhy (context_eq_ok huid)).bind fun _ =>
    .modify stable_true fun _ h => h

/-- **A pruned object is obsolete, or its Gateway is not live throughout.** -/
theorem guarded_prune (hasked : Honours p serde controllerName within asked) {kind : Kind}
    {o : DynamicObject} {gatewayUid : String} (howned : p.owned o gatewayUid = true) :
    Guarded within asked (Seen kind o)
      (p.prune serde kind o controllerName (p.obsoleteOptional kind o.metadata.nameAny))
      fun _ _ => True := by
  have hstable := stable_seen kind o
  refine .bind_ofExcept hstable fun namespace_ hnamespace => ?_
  refine .bind_ofExcept hstable fun name hname => ?_
  refine .bind_ofExcept hstable fun uid huid => ?_
  have huid := context_eq_ok huid
  obtain rfl : gatewayUid = uid := Option.some.inj ((annotation_of_owned howned).symm.trans huid)
  have hmade : MadeFor o namespace_ name gatewayUid :=
    ⟨context_eq_ok hnamespace, context_eq_ok hname, huid⟩
  have hstill : Guarded within asked (Seen kind o)
      (Provisioner.stillOwned namespace_ name gatewayUid controllerName) fun owned s =>
        (owned = false → ¬Owner controllerName within namespace_ name gatewayUid) ∧
          Seen kind o s :=
    ((guarded_stillOwned hasked namespace_ name gatewayUid).frame hstable).weaken
      (fun _ h => ⟨trivial, h⟩) fun _ _ h => h
  refine hstill.bind fun owned => .intro ?_
  rintro s ⟨hnot, hseen⟩
  split
  · exact ⟨fun _ => True, trivial, .pure stable_true fun _ h => h⟩
  · rename_i hprune
    refine ⟨Seen kind o, hseen, guarded_deleteListed hasked howned hmade ?_⟩
    cases hobsolete : p.obsoleteOptional kind o.metadata.nameAny with
    | true => exact .inl rfl
    | false =>
      refine .inr (hnot (Bool.eq_false_iff.2 fun htrue => hprune ?_))
      rw [hobsolete]
      exact ⟨htrue, rfl⟩

/-! ## A pass -/

/-- All objects of a listing. -/
theorem guarded_pruneAll (hasked : Honours p serde controllerName within asked) (kind : Kind)
    (objects : List DynamicObject) (progress : Provisioner.Progress) :
    Guarded within asked (fun s => ∀ o ∈ objects, Seen kind o s)
      (p.pruneAll serde kind controllerName objects progress) fun _ _ => True := by
  induction objects generalizing progress with
  | nil => exact .weaken (.pure stable_true fun _ h => h) (fun _ _ => trivial) fun _ _ h => h
  | cons o objects ih =>
    have hrest : ∀ progress, Guarded within asked (fun s => ∀ o' ∈ o :: objects, Seen kind o' s)
        (p.pruneAll serde kind controllerName objects progress) fun _ _ => True :=
      fun progress => (ih progress).weaken
        (fun s h o' ho' => h o' (List.mem_cons_of_mem _ ho')) fun _ _ h => h
    rw [Provisioner.pruneAll]
    split
    · exact hrest progress
    rename_i hskip
    rw [not_or] at hskip
    have howned : p.owned o (o.metadata.annotations[gatewayUidKey]?.getD "") = true := by
      simpa using hskip.1
    have hstable : Stable apiServer fun s => ∀ o' ∈ objects, Seen kind o' s :=
      fun s s' hmoves h o' ho' => stable_seen kind o' s s' hmoves (h o' ho')
    have hprune : Guarded within asked (Seen kind o)
        (p.prune serde kind o controllerName
          (p.obsoleteOptional kind o.metadata.nameAny)).attempt fun _ _ => True :=
      ((guarded_prune hasked howned).attempt fun _ => stable_true).weaken
        (fun _ h => h) fun _ _ _ => trivial
    have hkept : Guarded within asked (fun s => ∀ o' ∈ o :: objects, Seen kind o' s)
        (p.prune serde kind o controllerName
          (p.obsoleteOptional kind o.metadata.nameAny)).attempt
        fun _ s => ∀ o' ∈ objects, Seen kind o' s :=
      (hprune.frame hstable).weaken (fun s h => ⟨h o List.mem_cons_self,
        fun o' ho' => h o' (List.mem_cons_of_mem _ ho')⟩) fun _ _ h => h.2
    exact hkept.bind fun result => ih _

/-- All kinds. -/
theorem guarded_cleanup (hasked : Honours p serde controllerName within asked) (kinds : List Kind)
    (progress : Provisioner.Progress) :
    Guarded within asked (fun _ => True) (p.cleanup serde controllerName kinds progress)
      fun _ _ => True := by
  induction kinds generalizing progress with
  | nil => exact .pure stable_true fun _ h => h
  | cons kind kinds ih =>
    have hlist : Guarded within asked (fun _ => True)
        (Routine.ask (Request.listObjects kind installationKey p.installationUid))
        fun listed s => ∀ objects, listed = .ok objects → ∀ o ∈ objects, Seen kind o s := by
      refine guarded_ask_read hasked (isRead_listObjects _ _ _)
        (fun listed s s' hmoves h => ?_) ?_ ?_
      · exact fun objects hobjects o ho => stable_seen kind o s s' hmoves (h objects hobjects o ho)
      · intro s listed _ hserved objects hobjects o ho
        obtain ⟨name, hname⟩ := ((hserved.2 objects hobjects o).1 ho).1
        exact seen_of_objects hname
      · intro s e _ objects hobjects
        cases hobjects
    refine hlist.bind fun listed => ?_
    cases listed with
    | ok objects =>
      refine ((guarded_pruneAll hasked kind objects progress).weaken ?_
        fun _ _ h => h).bind fun progress => ih progress
      exact fun s h => h objects rfl
    | error e =>
      dsimp only
      split
      · exact (ih _).weaken (fun _ _ => trivial) fun _ _ h => h
      · exact (ih _).weaken (fun _ _ => trivial) fun _ _ h => h

/-- All Gateways of the cache. -/
theorem guarded_provisionAll (hasked : Honours p serde controllerName within asked)
    (ours : Finset String) (gateways : List Gateway) (progress : Provisioner.Progress) :
    Guarded within asked (fun _ => True)
      (p.provisionAll serde ours controllerName gateways progress) fun _ _ => True := by
  induction gateways generalizing progress with
  | nil => exact .pure stable_true fun _ h => h
  | cons gateway gateways ih =>
    rw [Provisioner.provisionAll]
    split
    · exact ih progress
    · split
      · exact ih _
      · have hattempt : Guarded within asked (fun _ => True)
            (p.ensureGateway serde gateway controllerName).attempt fun _ _ => True :=
          ((guarded_ensureGateway hasked gateway).attempt fun _ => stable_true).weaken
            (fun _ h => h) fun _ _ _ => trivial
        exact hattempt.bind fun _ => ih _

/-- **All writes of a pass do what is asked**, if that is what is prescribed. -/
theorem guarded_pass (hasked : Honours p serde controllerName within asked)
    (gateways : List Gateway) (classes : List GatewayClass) :
    Guarded within asked (fun _ => True) (p.reconcile serde gateways classes controllerName)
      fun _ _ => True :=
  (guarded_checkInstallation hasked).bind fun _ =>
    (guarded_provisionAll hasked _ gateways _).bind fun progress =>
      (guarded_cleanup hasked _ progress).bind fun _ =>
        Routine.Guarded.bind (.modify stable_true fun _ h => h) fun _ =>
          .pure stable_true fun _ h => h

/-- **Every request that takes effect in a run does what is prescribed.** -/
theorem prescribed_of_run {gateways : List Gateway} {classes : List GatewayClass}
    {confirmed : Confirmed} {s t : Server} {log : List (Change Server Request)}
    {late : List Request}
    {q : Prog Request Request.Answer (Except Error ProvisionOutcome × Confirmed)}
    (hrun : Run apiServer s [] (p.reconcile serde gateways classes controllerName confirmed) log t
      late q) (hwithin : Throughout within s log) :
    ∀ c ∈ log, ∀ r, c.request = some r →
      Prescribed p serde controllerName within r c.before c.after :=
  ((guarded_pass (fun _ _ _ h => h) gateways classes) confirmed _ _ _ _ _ _ hrun hwithin trivial
    (by simp)).1

/-- The states of a run. -/
def Visited (s : Server) (log : List (Change Server Request)) (x : Server) : Prop :=
  x = s ∨ ∃ c ∈ log, x = c.after

theorem throughout_visited (s : Server) (log : List (Change Server Request)) :
    Throughout (Visited s log) s log := ⟨.inl rfl, fun c hc => .inr ⟨c, hc, rfl⟩⟩

end Guards

end Provision

end SozuGateway
