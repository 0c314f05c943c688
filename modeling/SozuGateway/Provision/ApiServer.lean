import SozuGateway.Provision.Reconcile

/-!
# The API server

What the provisioner relies on: reads are current, a resource version is one state of an object, and
a deletion or a patch that names a UID and a resource version is one of that state.

* `Server` — the objects of the server, and every version of an object it ever recorded.
* `serves`, `lost`, `apiServer` — how it answers; a request that failed may still take effect.
* `Seen` — an object as it was read; `eq_of_seen` — it is still that object under its UID and
  resource version.
-/

set_option autoImplicit false

namespace SozuGateway

namespace Provision

open Lib

/-- The state of the API server, as far as the provisioner reads and writes it. -/
structure Server where
  gateways : String → String → Option Gateway
  classes : String → Option GatewayClass
  /-- the objects of the provisioning namespace -/
  objects : Kind → String → Option DynamicObject
  /-- the objects as they were, by UID and resource version -/
  versions : Kind → String → String → Option DynamicObject
  recorded : ∀ kind name o, objects kind name = some o → o.metadata.name = some name ∧
    ∃ uid resourceVersion, o.metadata.uid = some uid ∧
      o.metadata.resourceVersion = some resourceVersion ∧
      versions kind uid resourceVersion = some o

namespace Server

/-- No version is forgotten. -/
def Grows (s s' : Server) : Prop :=
  ∀ kind uid resourceVersion o, s.versions kind uid resourceVersion = some o →
    s'.versions kind uid resourceVersion = some o

/-- Nothing but the object of this kind and name changes. -/
structure Writes (kind : Kind) (name : String) (s s' : Server) : Prop where
  gateways : s'.gateways = s.gateways
  classes : s'.classes = s.classes
  objects : ∀ kind' name', (kind', name') ≠ (kind, name) →
    s'.objects kind' name' = s.objects kind' name'
  grows : Grows s s'

end Server

/-! ## Answers -/

/-- A read returns what is there; only an absence is not found. -/
def Reads {α : Type} (there : Option α) : Except Error α → Prop
  | .ok a => there = some a
  | .error e => e.code = some 404 → there = none

/-- The patch names no other UID or resource version. -/
def Matches (patch : Value) (o : DynamicObject) : Prop :=
  (∀ v, patch.at? ["metadata", "uid"] = some v → o.metadata.uid.map Value.string = some v) ∧
    ∀ v, patch.at? ["metadata", "resourceVersion"] = some v →
      o.metadata.resourceVersion.map Value.string = some v

/-- A patched object is another version of it. -/
def Patched (kind : Kind) (name : String) (patch : Value) (s : Server) (written : DynamicObject)
    (s' : Server) : Prop :=
  s.Writes kind name s' ∧ s'.objects kind name = some written ∧
    ∃ o, s.objects kind name = some o ∧ Matches patch o ∧
      written.metadata.uid = o.metadata.uid ∧
      written.metadata.deletionTimestamp = o.metadata.deletionTimestamp

/-- An object is created where there is none. -/
def Created (kind : Kind) (object : DynamicObject) (s : Server) (written : DynamicObject)
    (s' : Server) : Prop :=
  ∃ name, object.metadata.name = some name ∧ s.Writes kind name s' ∧
    s.objects kind name = none ∧ s'.objects kind name = some written

/-- An object with this UID and, where it is given, this resource version is deleted, or marked as
being deleted. -/
def Deleted (kind : Kind) (name uid : String) (resourceVersion : Option String) (s s' : Server) :
    Prop :=
  s.Writes kind name s' ∧ (∃ o, s.objects kind name = some o ∧ o.metadata.uid = some uid ∧
    (resourceVersion.isSome → o.metadata.resourceVersion = resourceVersion)) ∧
    ∀ o', s'.objects kind name = some o' → o'.metadata.uid = some uid ∧
      o'.metadata.deletionTimestamp.isSome

/-- How a write is served: it takes effect, or it fails. -/
def Served {α : Type} (effect : α → Prop) (s s' : Server) : Except Error α → Prop
  | .ok a => effect a
  | .error _ => s' = s

/-- How the server answers a request, and what becomes of its state. -/
def serves (s : Server) : (r : Request) → r.Answer → Server → Prop
  | .getGateway namespace_ name, answer, s' => s' = s ∧ Reads (s.gateways namespace_ name) answer
  | .getGatewayClass name, answer, s' => s' = s ∧ Reads (s.classes name) answer
  | .getObject kind name, answer, s' => s' = s ∧ Reads (s.objects kind name) answer
  | .listObjects kind label value, answer, s' => s' = s ∧ ∀ objects, answer = .ok objects →
      ∀ o, o ∈ objects ↔
        (∃ name, s.objects kind name = some o) ∧ o.metadata.labels[label]? = some value
  | .patchObject kind name patch, answer, s' =>
      Served (fun written => Patched kind name patch s written s') s s' answer
  | .createObject kind object, answer, s' =>
      Served (fun written => Created kind object s written s') s s' answer
  | .deleteObject kind name uid resourceVersion, answer, s' =>
      Served (fun _ => Deleted kind name uid resourceVersion s s') s s' answer

/-- A request may fail and still take effect later, unless nothing was found. -/
def lost (r : Request) (answer : r.Answer) : Prop := ∃ e, answer = .error e ∧ e.code ≠ some 404

/-- The API server; others may change anything, but the past. -/
def apiServer : Service Server Request Request.Answer where
  serves := serves
  lost := lost
  other := Server.Grows

/-! ## Objects as they were read -/

/-- No move of the server forgets a version. -/
theorem grows_of_moves {s s' : Server} (h : apiServer.Moves s s') : s.Grows s' := by
  have hrefl : s.Grows s := fun _ _ _ _ h => h
  have hserved : ∀ {α : Type} {effect : α → Prop} {answer : Except Error α},
      (∀ a, effect a → s.Grows s') → Served effect s s' answer → s.Grows s' := by
    rintro α effect (e | a) heffect hanswer
    · obtain rfl : s' = s := hanswer
      exact hrefl
    · exact heffect a hanswer
  rcases h with h | ⟨r, a, h⟩
  · exact h
  cases r with
  | getGateway _ _ | getGatewayClass _ | getObject _ _ | listObjects _ _ _ =>
    obtain ⟨rfl, -⟩ := h
    exact hrefl
  | patchObject kind name patch => exact hserved (fun _ h => h.1.grows) h
  | createObject kind object => exact hserved (fun _ ⟨_, _, h, _⟩ => h.grows) h
  | deleteObject kind name uid resourceVersion => exact hserved (fun _ h => h.1.grows) h

/-- The object was read from the server, as it is. -/
def Seen (kind : Kind) (o : DynamicObject) (s : Server) : Prop :=
  ∃ name uid resourceVersion, o.metadata.name = some name ∧ o.metadata.uid = some uid ∧
    o.metadata.resourceVersion = some resourceVersion ∧
    s.versions kind uid resourceVersion = some o

theorem stable_seen (kind : Kind) (o : DynamicObject) : Stable apiServer (Seen kind o) := by
  rintro s s' hmoves ⟨name, uid, resourceVersion, hname, huid, hversion, hseen⟩
  exact ⟨name, uid, resourceVersion, hname, huid, hversion, grows_of_moves hmoves _ _ _ _ hseen⟩

/-- What is there may be read. -/
theorem seen_of_objects {kind : Kind} {name : String} {o : DynamicObject} {s : Server}
    (h : s.objects kind name = some o) : Seen kind o s := by
  obtain ⟨hname, uid, resourceVersion, huid, hversion, hrecorded⟩ := s.recorded kind name o h
  exact ⟨name, uid, resourceVersion, hname, huid, hversion, hrecorded⟩

/-- **An object with the UID and the resource version of one that was read is that object.** -/
theorem eq_of_seen {kind : Kind} {name : String} {o o' : DynamicObject} {s : Server}
    (hseen : Seen kind o s) (h : s.objects kind name = some o')
    (huid : o'.metadata.uid = o.metadata.uid)
    (hversion : o'.metadata.resourceVersion = o.metadata.resourceVersion) :
    o' = o ∧ o.metadata.name = some name := by
  obtain ⟨_, uid, rv, -, huid₁, hversion₁, hseen⟩ := hseen
  obtain ⟨hname, uid', rv', huid₂, hversion₂, hrecorded⟩ := s.recorded kind name o' h
  rw [huid, huid₁] at huid₂
  rw [hversion, hversion₁] at hversion₂
  cases huid₂
  cases hversion₂
  rw [hseen] at hrecorded
  obtain rfl := Option.some.inj hrecorded
  exact ⟨rfl, hname⟩

end Provision

end SozuGateway
