import SozuGateway.Provision.Guards

/-!
# Cleanup and live Gateways

* `Live` — a Gateway and the classes it may name exist, and are not being deleted.
* `cleanup_spares_live` — a pass deletes or patches only what passes the ownership test for the
  Gateway it is written for, and deletes of the objects of a live Gateway only optional ones that
  the templates no longer have.
* `cleanup_deletes_renamed` — a Deployment whose annotations others rewrote is deleted.
-/

set_option autoImplicit false

namespace SozuGateway

namespace Provision

open Lib

/-- The Gateway with this UID exists and is not being deleted, as does every class that it may
name. -/
structure Live (controllerName : String) (classNames : Set String) (namespace_ name uid : String)
    (s : Server) : Prop where
  gateway : ∃ g, s.gateways namespace_ name = some g ∧ g.metadata.uid = some uid ∧
    g.metadata.deletionTimestamp = none ∧ g.gatewayClassName ∈ classNames
  classes : ∀ className ∈ classNames, LiveClass controllerName className s

/-- The object is one this installation generated for the Gateway, by its labels, its owner and
its annotations. -/
structure Generated (p : Provisioner) (namespace_ name uid : String) (o : DynamicObject) :
    Prop where
  owned : p.owned o uid = true
  made : MadeFor o namespace_ name uid

section Live

variable {p : Provisioner} {controllerName namespace_ name uid : String} {classNames : Set String}

theorem owner_of_live : Owner controllerName (Live controllerName classNames namespace_ name uid)
    namespace_ name uid := by
  rintro s ⟨⟨g, hg, huid, hdeleted, hclass⟩, -⟩
  exact ⟨g, hg, huid, hdeleted, fun s' hs' => hs'.classes _ hclass⟩

/-- An object tells one Gateway. -/
theorem MadeFor.unique {o : DynamicObject} {ns' name' uid' : String}
    (h : MadeFor o namespace_ name uid) (h' : MadeFor o ns' name' uid') :
    ns' = namespace_ ∧ name' = name ∧ uid' = uid := by
  refine ⟨Option.some.inj ?_, Option.some.inj ?_, Option.some.inj ?_⟩
  · rw [← h.gatewayNamespace, ← h'.gatewayNamespace]
  · rw [← h.gatewayName, ← h'.gatewayName]
  · rw [← h.gatewayUid, ← h'.gatewayUid]

end Live

/-- What may be deleted of the objects of a live Gateway. -/
def MayDelete (p : Provisioner) (uid name : String) : Kind → Prop
  | .deployment | .configMap => False
  | .service => name ≠ p.instanceName uid ∧ p.config.metricsService = none
  | .podDisruptionBudget => p.config.podDisruptionBudget = none
  | .serviceMonitor => p.config.serviceMonitor = none

theorem mayDelete_of_obsoleteOptional {p : Provisioner} {uid name : String} {kind : Kind}
    (huid : isUuid uid = true) (h : p.obsoleteOptional kind name = true) :
    MayDelete p uid name kind := by
  cases kind with
  | deployment | configMap => cases h
  | podDisruptionBudget | serviceMonitor => exact Option.isNone_iff_eq_none.1 h
  | service =>
    obtain ⟨hnone, hmetrics⟩ := Bool.and_eq_true_iff.1 h
    refine ⟨?_, Option.isNone_iff_eq_none.1 hnone⟩
    rintro rfl
    rw [p.isMetricsName_instanceName huid] at hmetrics
    cases hmetrics

/-- **Cleanup spares live Gateways.**  However stale the caches, and whatever others change
meanwhile: a pass deletes and patches only objects that pass the ownership test for the Gateway the
write is for.  Of those generated for a Gateway that is live throughout, and that still say so, it
deletes none but optional ones that the templates no longer have. -/
theorem cleanup_spares_live (p : Provisioner) (serde : Serde) (gateways : List Gateway)
    (classes : List GatewayClass) (controllerName : String) (confirmed : Confirmed) {s t : Server}
    {log : List (Change Server Request)} {late : List Request}
    {q : Prog Request Request.Answer (Except Error ProvisionOutcome × Confirmed)}
    (hrun : Run apiServer s [] (p.reconcile serde gateways classes controllerName confirmed) log t
      late q) :
    (∀ c ∈ log, ∀ r, c.request = some r → ∀ kind name o, c.before.objects kind name = some o →
        c.after.objects kind name ≠ some o → ∃ uid, p.owned o uid = true ∧
          WrittenFor p serde controllerName (Visited s log) kind name o uid r) ∧
      ∀ namespace_ name uid classNames, isUuid uid = true →
        Throughout (Live controllerName classNames namespace_ name uid) s log →
          ∀ c ∈ log, ∀ r, c.request = some r → ∀ kind objectName o,
            c.before.objects kind objectName = some o → Generated p namespace_ name uid o →
              ¬Survives kind objectName o c.after → MayDelete p uid objectName kind := by
  constructor
  · intro c hc r hr kind name o ho hchanged
    have hprescribed := prescribed_of_run hrun (throughout_visited s log) c hc r hr
    obtain ⟨uid, howned, hwritten, -⟩ := (hprescribed.changed ho).resolve_left hchanged
    exact ⟨uid, howned, hwritten⟩
  · intro namespace_ name uid classNames huid hlive c hc r hr kind objectName o ho hgenerated hdead
    have hchanged : c.after.objects kind objectName ≠ some o := fun h => hdead ⟨o, h, rfl, id⟩
    obtain ⟨uid', -, -, hsurvives | ⟨_, _, hmade, hwhy⟩⟩ :=
      ((prescribed_of_run hrun hlive c hc r hr).changed ho).resolve_left hchanged
    · exact absurd hsurvives hdead
    · obtain ⟨rfl, rfl, rfl⟩ := hgenerated.made.unique hmade
      exact mayDelete_of_obsoleteOptional huid (hwhy.resolve_right fun hnot => hnot owner_of_live)

/-! ## A server that answers -/

namespace Server

/-- The objects without one. -/
def without (s : Server) (kind : Kind) (name : String) : Server where
  gateways := s.gateways
  classes := s.classes
  objects kind' name' := if kind' = kind ∧ name' = name then none else s.objects kind' name'
  versions := s.versions
  recorded kind' name' o h := by
    split at h
    · cases h
    · exact s.recorded kind' name' o h

/-- A read, as it is answered. -/
def read {α : Type} : Option α → Except Error α
  | some a => .ok a
  | none => .error { code := some 404, text := "not found" }

theorem reads_read {α : Type} (there : Option α) : Reads there (read there) := by
  cases there with
  | none => exact fun _ => rfl
  | some a => rfl

/-- A server whose objects have these names answers reads and deletions, and refuses other
writes. -/
def answer (names : List String) (s : Server) : (r : Request) → r.Answer × Server
  | .getGateway namespace_ name => (read (s.gateways namespace_ name), s)
  | .getGatewayClass name => (read (s.classes name), s)
  | .getObject kind name => (read (s.objects kind name), s)
  | .listObjects kind label value =>
      (.ok ((names.filterMap (s.objects kind)).filter fun o =>
        o.metadata.labels[label]? = some value), s)
  | .patchObject _ _ _ => (.error { code := some 403, text := "forbidden" }, s)
  | .createObject _ _ => (.error { code := some 403, text := "forbidden" }, s)
  | .deleteObject kind name uid resourceVersion =>
      if (s.objects kind name).any fun o => o.metadata.uid = some uid &&
          (resourceVersion.isNone || o.metadata.resourceVersion = resourceVersion) then
        (.ok (), s.without kind name)
      else (.error { code := some 409, text := "conflict" }, s)

/-- All objects have these names. -/
def Named (names : List String) (s : Server) : Prop :=
  ∀ kind name, name ∉ names → s.objects kind name = none

theorem named_answer {names : List String} {s : Server} (h : s.Named names) (r : Request) :
    (s.answer names r).2.Named names := by
  cases r with
  | deleteObject kind name uid resourceVersion =>
    dsimp only [answer]
    split
    · intro kind' name' hname'
      change (if kind' = kind ∧ name' = name then none else s.objects kind' name') = none
      split
      · rfl
      · exact h kind' name' hname'
    · exact h
  | _ => exact h

/-- **Such a server answers as the API server does.** -/
theorem serves_answer {names : List String} {s : Server} (h : s.Named names) (r : Request) :
    serves s r (s.answer names r).1 (s.answer names r).2 := by
  cases r with
  | getGateway _ _ | getGatewayClass _ | getObject _ _ => exact ⟨rfl, reads_read _⟩
  | patchObject _ _ _ | createObject _ _ => rfl
  | listObjects kind label value =>
    refine ⟨rfl, fun objects hobjects o => ?_⟩
    obtain rfl := Except.ok.inj hobjects
    rw [List.mem_filter, List.mem_filterMap, decide_eq_true_iff]
    refine and_congr_left fun _ => ⟨fun ⟨name, _, ho⟩ => ⟨name, ho⟩, fun ⟨name, ho⟩ => ?_⟩
    refine ⟨name, ?_, ho⟩
    by_contra hname
    rw [h kind name hname] at ho
    cases ho
  | deleteObject kind name uid resourceVersion =>
    dsimp only [answer]
    split
    · rename_i hmatch
      obtain ⟨o, ho, huid⟩ := (Option.any_eq_true _ _).1 hmatch
      rw [Bool.and_eq_true, Bool.or_eq_true, decide_eq_true_iff, decide_eq_true_iff] at huid
      refine ⟨⟨rfl, rfl, fun kind' name' hne => ?_, fun _ _ _ _ h => h⟩, ⟨o, ho, huid.1, ?_⟩, ?_⟩
      · have hne' : ¬(kind' = kind ∧ name' = name) := fun h => hne (by rw [h.1, h.2])
        exact if_neg hne'
      · intro hsome
        refine huid.2.resolve_left fun hnone => ?_
        rw [Option.isNone_iff_eq_none.1 hnone] at hsome
        cases hsome
      · intro o' ho'
        have hnone : (s.without kind name).objects kind name = none := if_pos ⟨rfl, rfl⟩
        rw [hnone] at ho'
        cases ho'
    · rfl

/-- A live Gateway stays one. -/
theorem live_answer {names : List String} {s : Server} {controllerName : String}
    {classNames : Set String} {namespace_ name uid : String}
    (h : Live controllerName classNames namespace_ name uid s) (r : Request) :
    Live controllerName classNames namespace_ name uid (s.answer names r).2 := by
  cases r with
  | deleteObject kind name' uid' resourceVersion =>
    dsimp only [answer]
    split
    · exact ⟨h.gateway, h.classes⟩
    · exact h
  | _ => exact h

/-- An object of a server: its kind and what identifies it, and the rest. -/
structure Entry where
  kind : Kind
  name : String
  uid : String
  resourceVersion : String
  rest : ObjectMeta
  data : Value

def Entry.object (e : Entry) : DynamicObject where
  metadata := { e.rest with
    name := some e.name, uid := some e.uid, resourceVersion := some e.resourceVersion }
  data := e.data

/-- The entry of a kind with a UID and a resource version. -/
def version (entries : List Entry) (kind : Kind) (uid resourceVersion : String) : Option Entry :=
  entries.find? fun e => e.kind = kind && e.uid = uid && e.resourceVersion = resourceVersion

/-- A server with one Gateway and one class; some of the entries it recorded are there. -/
def holding (gateway : Gateway) (gatewayClass : GatewayClass) (entries all : List Entry)
    (h : ∀ e ∈ entries, (version all e.kind e.uid e.resourceVersion).map Entry.object =
      some e.object) : Server where
  gateways namespace_ name :=
    if gateway.metadata.namespace_ = some namespace_ ∧ gateway.metadata.name = some name then
      some gateway
    else none
  classes name := if gatewayClass.metadata.name = some name then some gatewayClass else none
  objects kind name :=
    (entries.find? fun e => e.kind = kind && e.name = name).map Entry.object
  versions kind uid resourceVersion := (version all kind uid resourceVersion).map Entry.object
  recorded kind name o ho := by
    obtain ⟨e, he, rfl⟩ := Option.map_eq_some_iff.1 ho
    have hmatch := List.find?_some he
    rw [Bool.and_eq_true, decide_eq_true_iff, decide_eq_true_iff] at hmatch
    obtain ⟨rfl, rfl⟩ := hmatch
    exact ⟨rfl, e.uid, e.resourceVersion, rfl, rfl, h e (List.mem_of_find?_eq_some he)⟩

theorem named_holding {gateway : Gateway} {gatewayClass : GatewayClass} {entries all : List Entry}
    {h : ∀ e ∈ entries, (version all e.kind e.uid e.resourceVersion).map Entry.object =
      some e.object} {names : List String} (hnames : ∀ e ∈ entries, e.name ∈ names) :
    (holding gateway gatewayClass entries all h).Named names := by
  intro kind name hname
  change (entries.find? fun e => e.kind = kind && e.name = name).map Entry.object = none
  rw [Option.map_eq_none_iff, List.find?_eq_none]
  intro e he hmatch
  rw [Bool.and_eq_true, decide_eq_true_iff, decide_eq_true_iff] at hmatch
  exact hname (hmatch.2 ▸ hnames e he)

end Server

/-! ## A Gateway whose Deployment was rewritten -/

namespace Renamed

def installationUid : String := "6f1c2a34-5b6d-4e7f-8a90-b1c2d3e4f501"

def gatewayUid : String := "0a9b8c7d-6e5f-4a3b-9c2d-1e0f9a8b7c6d"

def config : ProvisionConfig where
  namespace_ := "gateways"
  templateConfigMap := "sozu-template"
  deployment := .ofFields [("apiVersion", .string "apps/v1"), ("kind", .string "Deployment"),
    ("metadata", .object []), ("spec", .ofFields [("selector", .object []),
      ("template", .ofFields [("spec", .ofFields
        [("containers", .array [.ofFields [("name", .string "controller")]]),
          ("volumes", .array [.ofFields [("name", .string "sozu-config")]])])])])]
  service := .ofFields [("apiVersion", .string "v1"), ("kind", .string "Service"),
    ("metadata", .object [])]
  configMap := .ofFields [("apiVersion", .string "v1"), ("kind", .string "ConfigMap"),
    ("metadata", .object [])]

def provisioner : Provisioner := ⟨config, installationUid⟩

/-- `template.json`. -/
def template : String :=
  "\x7b\"namespace\":\"gateways\",\"template_config_map\":\"sozu-template\"," ++
    "\"deployment\":\x7b\"apiVersion\":\"apps/v1\",\"kind\":\"Deployment\"," ++
    "\"metadata\":\x7b\x7d,\"spec\":\x7b\"selector\":\x7b\x7d,\"template\":\x7b\"spec\":" ++
    "\x7b\"containers\":[\x7b\"name\":\"controller\"\x7d]," ++
    "\"volumes\":[\x7b\"name\":\"sozu-config\"\x7d]\x7d\x7d\x7d\x7d," ++
    "\"service\":\x7b\"apiVersion\":\"v1\",\"kind\":\"Service\",\"metadata\":\x7b\x7d\x7d," ++
    "\"config_map\":\x7b\"apiVersion\":\"v1\",\"kind\":\"ConfigMap\",\"metadata\":\x7b\x7d\x7d\x7d"

/-- The template is read back; nothing else is read or written in this run. -/
def serde : Serde where
  text _ := ""
  parse _ := none
  parseConfig text := if text = template then .ok config else .error "expected value"
  toValue _ o := o.data
  fromValue _ := .error "missing field"

def gateway : Gateway where
  metadata := { name := some "web", namespace_ := some "default", uid := some gatewayUid }
  gatewayClassName := "sozu"

def gatewayClass : GatewayClass where
  metadata := { name := some "sozu" }
  controllerName := "sozu.io/gateway-controller"

def anchor : Server.Entry where
  kind := .configMap
  name := "sozu-template"
  uid := installationUid
  resourceVersion := "1"
  rest := { namespace_ := some "gateways" }
  data := .ofFields [("data", .ofFields [("template.json", .string template)])]

/-- An object of the Gateway, which says that its Gateway has this name. -/
def object (kind : Kind) (gatewayName uid resourceVersion : String) : Server.Entry where
  kind := kind
  name := provisioner.instanceName gatewayUid
  uid := uid
  resourceVersion := resourceVersion
  rest := {
    namespace_ := some "gateways"
    labels := (∅ : BTreeMap String String).insert installationKey installationUid
      |>.insert gatewayUidKey gatewayUid
    annotations := (∅ : BTreeMap String String).insert gatewayUidKey gatewayUid
      |>.insert gatewayNamespaceKey "default" |>.insert gatewayNameKey gatewayName
    ownerReferences := [⟨"v1", "ConfigMap", "sozu-template", installationUid, some true⟩] }
  data := .object []

def deploymentUid : String := "d3b07384-d9a0-4c6f-8f1e-2b7a5c9e1f40"

def budgetUid : String := "5e8c1d2b-7a4f-4d3e-b6a9-0c1f2e3d4b5a"

def budget : Server.Entry := object .podDisruptionBudget "web" budgetUid "8"

/-- The Deployment as it was generated, beside a PodDisruptionBudget that the templates no longer
have. -/
def generated : List Server.Entry := [anchor, object .deployment "web" deploymentUid "7", budget]

/-- The Deployment as others rewrote it. -/
def rewritten : List Server.Entry := [anchor, object .deployment "gone" deploymentUid "9", budget]

def names : List String := ["sozu-template", provisioner.instanceName gatewayUid]

def server : Server := .holding gateway gatewayClass generated generated (by
  simp only [generated, List.forall_mem_cons, List.not_mem_nil, false_imp_iff, implies_true,
    and_true]
  exact ⟨rfl, rfl, rfl⟩)

def rewrittenServer : Server := .holding gateway gatewayClass rewritten (rewritten ++ generated) (by
  simp only [rewritten, List.forall_mem_cons, List.not_mem_nil, false_imp_iff, implies_true,
    and_true]
  exact ⟨rfl, rfl, rfl⟩)

def pass : Prog Request Request.Answer (Except Error ProvisionOutcome × Confirmed) :=
  provisioner.reconcile serde [] [] "sozu.io/gateway-controller" ∅

/-- An object of this kind and UID is there before a request, and nothing of its name after it. -/
def removes (kind : Kind) (uid : String) (c : Change Server Request) : Bool :=
  let name := provisioner.instanceName gatewayUid
  c.request.isSome && (c.before.objects kind name).any (fun o => o.metadata.uid = some uid) &&
    (c.after.objects kind name).isNone

theorem removes_iff {kind : Kind} {uid : String} {c : Change Server Request} :
    removes kind uid c = true ↔ ∃ r o, c.request = some r ∧
      c.before.objects kind (provisioner.instanceName gatewayUid) = some o ∧
      o.metadata.uid = some uid ∧
      c.after.objects kind (provisioner.instanceName gatewayUid) = none := by
  unfold removes
  simp only [Bool.and_eq_true, Option.isSome_iff_exists, Option.any_eq_true, decide_eq_true_eq,
    Option.isNone_iff_eq_none]
  constructor
  · rintro ⟨⟨⟨r, hr⟩, o, ho, huid⟩, hgone⟩
    exact ⟨r, o, hr, ho, huid, hgone⟩
  · rintro ⟨r, o, hr, ho, huid, hgone⟩
    exact ⟨⟨⟨r, hr⟩, o, ho, huid⟩, hgone⟩

theorem live_holding {entries all : List Server.Entry}
    {h : ∀ e ∈ entries, (Server.version all e.kind e.uid e.resourceVersion).map
      Server.Entry.object = some e.object} :
    Live "sozu.io/gateway-controller" {"sozu"} "default" "web" gatewayUid
      (.holding gateway gatewayClass entries all h) where
  gateway := ⟨gateway, rfl, rfl, rfl, rfl⟩
  classes := by
    rintro className rfl
    exact ⟨gatewayClass, rfl, rfl, rfl⟩

/-- A pass over such a server is a run of the API server, in which the Gateway is live. -/
theorem run_pass {s : Server} (hnamed : s.Named names)
    (hlive : Live "sozu.io/gateway-controller" {"sozu"} "default" "web" gatewayUid s) :
    (∃ t q, Run apiServer s [] pass (pass.exec (Server.answer names) s).1 t [] q) ∧
      Throughout (Live "sozu.io/gateway-controller" {"sozu"} "default" "web" gatewayUid) s
        (pass.exec (Server.answer names) s).1 := by
  have hserves : ∀ s r, s.Named names → apiServer.serves s r (s.answer names r).1
      (s.answer names r).2 := fun s r hs => Server.serves_answer hs r
  exact ⟨⟨_, _, run_exec (fun _ r hs => Server.named_answer hs r) hserves pass hnamed⟩,
    exec_throughout (fun _ r hs => Server.live_answer hs r) pass hlive⟩

theorem named_server : server.Named names := Server.named_holding (by
  simp only [generated, List.forall_mem_cons, List.not_mem_nil, false_imp_iff, implies_true,
    and_true]
  exact ⟨.head _, .tail _ (.head _), .tail _ (.head _)⟩)

theorem named_rewrittenServer : rewrittenServer.Named names := Server.named_holding (by
  simp only [rewritten, List.forall_mem_cons, List.not_mem_nil, false_imp_iff, implies_true,
    and_true]
  exact ⟨.head _, .tail _ (.head _), .tail _ (.head _)⟩)

/-- The rewriting forgets no version. -/
theorem grows_rewritten : server.Grows rewrittenServer := by
  intro kind uid resourceVersion o h
  obtain ⟨e, he, rfl⟩ := Option.map_eq_some_iff.1 h
  have hversion : Server.version (rewritten ++ generated) kind uid resourceVersion = some e := by
    rw [Server.version, List.find?_append]
    cases hfind : rewritten.find? fun e =>
      e.kind = kind && e.uid = uid && e.resourceVersion = resourceVersion with
    | none => exact he
    | some e' =>
      have hmatch := List.find?_some hfind
      simp only [Bool.and_eq_true, decide_eq_true_eq] at hmatch
      obtain ⟨⟨rfl, rfl⟩, rfl⟩ := hmatch
      have hmem := List.mem_of_find?_eq_some hfind
      simp only [rewritten, List.mem_cons, List.not_mem_nil, or_false] at hmem
      -- what is not new is as it was
      rcases hmem with rfl | rfl | rfl <;> cases he <;> rfl
  change (Server.version (rewritten ++ generated) kind uid resourceVersion).map _ = _
  rw [hversion]
  rfl

end Renamed

/-- A run in which the templates' PodDisruptionBudget is gone deletes it, for its Gateway, and no
Deployment. -/
theorem cleanup_spares_live_budget :
    (∀ c ∈ (Renamed.pass.exec (Server.answer Renamed.names) Renamed.server).1, ∀ r,
      c.request = some r → ∀ name o, c.before.objects .deployment name = some o →
        Generated Renamed.provisioner "default" "web" Renamed.gatewayUid o →
          Survives .deployment name o c.after) ∧
      ∃ c ∈ (Renamed.pass.exec (Server.answer Renamed.names) Renamed.server).1, ∃ r o uid,
        c.request = some r ∧
          Renamed.removes .podDisruptionBudget Renamed.budgetUid c = true ∧
          c.before.objects .podDisruptionBudget
            (Renamed.provisioner.instanceName Renamed.gatewayUid) = some o ∧
          Renamed.provisioner.owned o uid = true ∧
          WrittenFor Renamed.provisioner Renamed.serde "sozu.io/gateway-controller"
            (Visited Renamed.server
              (Renamed.pass.exec (Server.answer Renamed.names) Renamed.server).1)
            .podDisruptionBudget (Renamed.provisioner.instanceName Renamed.gatewayUid) o uid r := by
  obtain ⟨⟨t, q, hrun⟩, hlive⟩ := Renamed.run_pass Renamed.named_server Renamed.live_holding
  obtain ⟨howned, hspared⟩ := cleanup_spares_live Renamed.provisioner Renamed.serde [] []
    "sozu.io/gateway-controller" ∅ hrun
  constructor
  · intro c hc r hr name o ho hgenerated
    by_contra hdead
    exact hspared "default" "web" Renamed.gatewayUid _ (by decide +kernel) hlive c hc r hr
      .deployment name o ho hgenerated hdead
  · have hany : (Renamed.pass.exec (Server.answer Renamed.names) Renamed.server).1.any
        (Renamed.removes .podDisruptionBudget Renamed.budgetUid) = true := by decide +kernel
    obtain ⟨c, hc, hremoved⟩ := List.any_eq_true.1 hany
    obtain ⟨r, o, hr, ho, -, hgone⟩ := Renamed.removes_iff.1 hremoved
    obtain ⟨uid, huid, hwritten⟩ := howned c hc r hr _ _ o ho (by rw [hgone]; exact nofun)
    exact ⟨c, hc, r, o, uid, hr, hremoved, ho, huid, hwritten⟩

/-- Others may make a pass delete the Deployment of a live Gateway: its annotations are not part of
the ownership test. -/
theorem cleanup_deletes_renamed :
    ¬∀ (p : Provisioner) (serde : Serde) (gateways : List Gateway) (classes : List GatewayClass)
        (controllerName : String) (confirmed : Confirmed) (s t : Server)
        (log : List (Change Server Request)) (late : List Request)
        (q : Prog Request Request.Answer (Except Error ProvisionOutcome × Confirmed)),
      Run apiServer s [] (p.reconcile serde gateways classes controllerName confirmed) log t late
        q →
        ∀ namespace_ name uid classNames, isUuid uid = true →
          Throughout (Live controllerName classNames namespace_ name uid) s log →
            ∀ objectName o, s.objects .deployment objectName = some o →
              Generated p namespace_ name uid o → ∀ c ∈ log, ∀ r, c.request = some r → ∀ o',
                c.before.objects .deployment objectName = some o' →
                  o'.metadata.uid = o.metadata.uid →
                    Survives .deployment objectName o' c.after := by
  intro h
  obtain ⟨⟨t, q, hrun⟩, hlive⟩ :=
    Renamed.run_pass Renamed.named_rewrittenServer Renamed.live_holding
  have hremoves : (Renamed.pass.exec (Server.answer Renamed.names) Renamed.rewrittenServer).1.any
      (Renamed.removes .deployment Renamed.deploymentUid) = true := by decide +kernel
  obtain ⟨c, hc, hremoved⟩ := List.any_eq_true.1 hremoves
  obtain ⟨r, o', hr, ho', huid', hgone⟩ := Renamed.removes_iff.1 hremoved
  have hthroughout : Throughout
      (Live "sozu.io/gateway-controller" {"sozu"} "default" "web" Renamed.gatewayUid)
      Renamed.server (⟨none, Renamed.server, Renamed.rewrittenServer⟩ ::
        (Renamed.pass.exec (Server.answer Renamed.names) Renamed.rewrittenServer).1) :=
    ⟨Renamed.live_holding, List.forall_mem_cons.2 ⟨hlive.1, hlive.2⟩⟩
  have hgenerated : Generated Renamed.provisioner "default" "web" Renamed.gatewayUid
      (Renamed.object .deployment "web" Renamed.deploymentUid "7").object :=
    ⟨by decide +kernel, by decide +kernel, by decide +kernel, by decide +kernel⟩
  obtain ⟨o'', ho'', -⟩ := h Renamed.provisioner Renamed.serde [] [] "sozu.io/gateway-controller" ∅
    Renamed.server t _ [] q (.other Renamed.grows_rewritten hrun) "default" "web"
    Renamed.gatewayUid _ (by decide +kernel) hthroughout
    (Renamed.provisioner.instanceName Renamed.gatewayUid) _ (by decide +kernel) hgenerated c
    (List.mem_cons_of_mem _ hc) r hr o' ho' huid'
  rw [hgone] at ho''
  cases ho''

end Provision

end SozuGateway
