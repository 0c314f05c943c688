import SozuGateway.Provision.Fence

/-!
# Whose objects a pass writes

* `pass_writes` — what a request of a pass does when it takes effect, whatever others change
  meanwhile.
* `instanceName_injective` — the instances of UUIDs have names of their own.
* `resources_apart` — so do their objects: two that share a kind and a name are one object of one
  instance.
-/

set_option autoImplicit false

namespace SozuGateway

namespace Provision

open Lib

/-! ## Runs -/

/-- **What a pass writes.**  However stale the caches, and whatever others change meanwhile: a
request that takes effect, at once or late, creates an object where there was none, or patches an
object at the version it was made for, and then for a Gateway that in states of this run was there,
not being deleted, and of a class of this controller; or it deletes, at the version it was listed
in, an object that passes the ownership test and is obsolete or of a Gateway that was not live
throughout. -/
theorem pass_writes (p : Provisioner) (serde : Serde) (gateways : List Gateway)
    (classes : List GatewayClass) (controllerName : String) (confirmed : Confirmed) {s t : Server}
    {log : List (Change Server Request)} {late : List Request}
    {q : Prog Request Request.Answer (Except Error ProvisionOutcome × Confirmed)}
    (hrun : Run apiServer s [] (p.reconcile serde gateways classes controllerName confirmed) log t
      late q) :
    ∀ c ∈ log, ∀ r, c.request = some r →
      Prescribed p serde controllerName (Visited s log) r c.before c.after :=
  prescribed_of_run hrun (throughout_visited s log)

/-- The rewritten Deployment is deleted, as is prescribed. -/
theorem pass_writes_rewritten :
    ∃ c ∈ (Renamed.pass.exec (Server.answer Renamed.names) Renamed.rewrittenServer).1, ∃ r,
      c.request = some r ∧ Renamed.removes .deployment Renamed.deploymentUid c = true ∧
        Prescribed Renamed.provisioner Renamed.serde "sozu.io/gateway-controller"
          (Visited Renamed.rewrittenServer
            (Renamed.pass.exec (Server.answer Renamed.names) Renamed.rewrittenServer).1) r
          c.before c.after := by
  have hany : (Renamed.pass.exec (Server.answer Renamed.names) Renamed.rewrittenServer).1.any
      (Renamed.removes .deployment Renamed.deploymentUid) = true := by decide +kernel
  obtain ⟨c, hc, hremoved⟩ := List.any_eq_true.1 hany
  obtain ⟨r, -, hr, -⟩ := Renamed.removes_iff.1 hremoved
  obtain ⟨⟨t, q, hrun⟩, -⟩ := Renamed.run_pass Renamed.named_rewrittenServer Renamed.live_holding
  exact ⟨c, hc, r, hr, hremoved, pass_writes _ _ _ _ _ _ hrun c hc r hr⟩

/-! ## Names -/

theorem length_of_isUuid {uid : String} (h : isUuid uid = true) : uid.toList.length = 36 := by
  obtain ⟨hlengths, -⟩ := Bool.and_eq_true_iff.1 h
  have hparts := decide_eq_true_iff.1 hlengths
  have hjoined : ['-'].intercalate (uid.toList.splitOn '-') = uid.toList :=
    List.intercalate_splitOn '-'
  rw [← hjoined]
  obtain ⟨a, parts, heq, ha, hparts⟩ := List.map_eq_cons_iff.1 hparts
  obtain ⟨b, parts, rfl, hb, hparts⟩ := List.map_eq_cons_iff.1 hparts
  obtain ⟨c, parts, rfl, hc, hparts⟩ := List.map_eq_cons_iff.1 hparts
  obtain ⟨d, parts, rfl, hd, hparts⟩ := List.map_eq_cons_iff.1 hparts
  obtain ⟨e, parts, rfl, he, hparts⟩ := List.map_eq_cons_iff.1 hparts
  obtain rfl := List.map_eq_nil_iff.1 hparts
  rw [heq]
  simp [List.intercalate, ha, hb, hc, hd, he]

/-- The characters of a UUID are one byte each, and those of a plain name. -/
theorem mem_uuid {uid : String} (h : isUuid uid = true) {c : Char} (hc : c ∈ uid.toList) :
    (String.utf8EncodeChar c).length = 1 ∧ isPlainChar c = true := by
  obtain ⟨-, hchars⟩ := Bool.and_eq_true_iff.1 h
  have hall : ('-' :: digits).all (fun c => c.utf8Size = 1 && isPlainChar c) = true := by decide
  rw [List.all_eq_true] at hall
  rw [String.length_utf8EncodeChar]
  have hmem := List.all_eq_true.1 hchars c hc
  rw [Bool.or_eq_true, decide_eq_true_iff, decide_eq_true_iff] at hmem
  have hplain : (c.utf8Size = 1 && isPlainChar c) = true := by
    rcases hmem with hdigit | rfl
    · exact hall c (List.mem_cons_of_mem _ hdigit)
    · exact hall _ List.mem_cons_self
  rw [Bool.and_eq_true, decide_eq_true_iff] at hplain
  exact hplain

theorem length_utf8_of_forall {l : List Char}
    (h : ∀ c ∈ l, (String.utf8EncodeChar c).length = 1) : (utf8 l).length = l.length := by
  induction l with
  | nil => rfl
  | cons c l ih =>
    rw [utf8_cons, List.length_append, h c List.mem_cons_self,
      ih fun d hd => h d (List.mem_cons_of_mem _ hd), List.length_cons, Nat.add_comm]

/-- A UUID stands in a name as it is. -/
theorem nameSuffix_eq_of_isUuid {uid : String} (h : isUuid uid = true) :
    nameSuffix uid = uid.toList := by
  have hbytes : uid.utf8ByteSize = 36 := by
    rw [← length_utf8, length_utf8_of_forall fun c hc => (mem_uuid h hc).1, length_of_isUuid h]
  rw [nameSuffix, if_pos ⟨hbytes.le, List.all_eq_true.2 fun c hc => (mem_uuid h hc).2⟩]

section Names

variable {p : Provisioner} {serde : Serde} {i : Instance} {uid uid' : String}

/-- **The name of an instance tells its UUID.** -/
theorem instanceName_injective (h : isUuid uid = true) (h' : isUuid uid' = true)
    (heq : p.instanceName uid = p.instanceName uid') : uid = uid' := by
  have hlist := congrArg String.toList heq
  rw [p.instanceName_toList, p.instanceName_toList, nameSuffix_eq_of_isUuid h,
    nameSuffix_eq_of_isUuid h'] at hlist
  exact String.toList_injective (List.cons.inj (List.append_cancel_left hlist)).2

theorem name_of_instance_ {g : Gateway} (h : p.instance_ g = .ok i) :
    i.name = p.instanceName i.gatewayUid := by
  unfold Provisioner.instance_ at h
  simp only [bind, Except.bind, pure, Except.pure] at h
  split at h
  · cases h
  split at h
  · cases h
  split at h
  · cases h
  cases h
  rfl

/-- The name an object is written under. -/
def templateName (template : Value) : Option String :=
  ((template.index "metadata").index "name").str?

theorem Carries.templateName_eq {name : String} {v : Value}
    (h : Carries p i name (v.index "metadata")) : templateName v = some name := by
  have hname := h.name
  unfold Value.at? at hname
  rw [templateName, Value.index]
  cases hget : (v.index "metadata").get "name" with
  | none =>
    rw [hget] at hname
    cases hname
  | some w =>
    rw [hget] at hname
    obtain rfl := Option.some.inj hname
    rfl

/-- The kinds and names of the objects of an instance, in order. -/
def Provisioner.objectKeys (p : Provisioner) (name : String) : List (Kind × String) :=
  [(.configMap, s!"{name}-sozu"), (.service, name)] ++
    (p.config.metricsService.map fun _ => (Kind.service, s!"{name}-metrics")).toList ++
    (p.config.podDisruptionBudget.map fun _ => (Kind.podDisruptionBudget, name)).toList ++
    [(.deployment, name)] ++
    (p.config.serviceMonitor.map fun _ => (Kind.serviceMonitor, name)).toList

theorem toList_sozu (name : String) : (s!"{name}-sozu").toList = name.toList ++ "-sozu".toList := by
  simp [toString]

theorem toList_metrics (name : String) :
    (s!"{name}-metrics").toList = name.toList ++ "-metrics".toList := by
  simp [toString]

/-- **The objects of an instance** have these kinds and names. -/
theorem map_resources {rs : List (Kind × Value)} (h : p.resources serde i = .ok rs) :
    rs.map (fun r => (r.1, templateName r.2)) =
      (p.objectKeys i.name).map fun key => (key.1, some key.2) := by
  unfold Provisioner.resources at h
  cases hdeployment : p.deploymentOf serde i with
  | error e =>
    rw [hdeployment] at h
    cases h
  | ok deployment =>
    rw [hdeployment] at h
    obtain rfl := Except.ok.inj h
    have hconfigMap : templateName (p.configMapOf i) = some s!"{i.name}-sozu" :=
      (carries_identity (p := p) (i := i) p.config.configMap).templateName_eq
    have hservice : ∀ template name, templateName (p.serviceOf template name i) = some name :=
      fun template _ => (carries_serviceOf (p := p) (i := i) template).templateName_eq
    have hbudget : ∀ template, templateName (p.podDisruptionBudgetOf template i) = some i.name := by
      intro template
      rw [templateName, Provisioner.podDisruptionBudgetOf, index_metadata_putAt]
      exact (carries_identity (p := p) (i := i) template).templateName_eq
    have hmonitor : ∀ template, templateName (p.serviceMonitorOf template i) = some i.name := by
      intro template
      rw [templateName, Provisioner.serviceMonitorOf, index_metadata_putAt, index_metadata_putAt]
      exact (carries_identity (p := p) (i := i) template).templateName_eq
    have hdeploymentName := (carries_deploymentOf hdeployment).templateName_eq
    rw [Provisioner.objectKeys]
    cases p.config.metricsService <;> cases p.config.podDisruptionBudget <;>
      cases p.config.serviceMonitor <;>
      simp [hconfigMap, hservice, hbudget, hmonitor, hdeploymentName]

theorem nodup_objectKeys (name : String) : (p.objectKeys name).Nodup := by
  have hmetrics : name ≠ s!"{name}-metrics" := by
    intro heq
    have hlength := congrArg (fun s : String => s.toList.length) heq
    simp only [toList_metrics, List.length_append] at hlength
    exact absurd hlength (Nat.ne_of_lt (Nat.lt_add_of_pos_right (by decide)))
  rw [Provisioner.objectKeys]
  cases p.config.metricsService <;> cases p.config.podDisruptionBudget <;>
    cases p.config.serviceMonitor <;> simp [hmetrics]

/-- A kind and a name tell the instance, unless its own name is that of a metrics Service. -/
theorem name_of_mem_objectKeys {name name' : String} {key : Kind × String}
    (hname : isMetricsName name = false) (hname' : isMetricsName name' = false)
    (h : key ∈ p.objectKeys name) (h' : key ∈ p.objectKeys name') : name = name' := by
  have hmetrics : ∀ name : String, isMetricsName s!"{name}-metrics" = true := by
    intro name
    rw [isMetricsName_iff, toList_metrics]
    exact List.suffix_append _ _
  have hcases : ∀ name, key ∈ p.objectKeys name → key = (.configMap, s!"{name}-sozu") ∨
      key = (.service, s!"{name}-metrics") ∨ key.1 ≠ .configMap ∧ key.2 = name := by
    intro name hmem
    simp only [Provisioner.objectKeys, List.mem_append, List.mem_cons, Option.mem_toList,
      Option.map_eq_some_iff, List.not_mem_nil, or_false] at hmem
    have hother : ∀ kind ≠ Kind.configMap, key = (kind, name) →
        key.1 ≠ Kind.configMap ∧ key.2 = name := by
      rintro kind hkind rfl
      exact ⟨hkind, rfl⟩
    rcases hmem with ((((hkey | hkey) | ⟨-, -, hkey⟩) | ⟨-, -, hkey⟩) | hkey) | ⟨-, -, hkey⟩
    · exact .inl hkey
    · exact .inr (.inr (hother .service (by decide) hkey))
    · exact .inr (.inl hkey.symm)
    · exact .inr (.inr (hother .podDisruptionBudget (by decide) hkey.symm))
    · exact .inr (.inr (hother .deployment (by decide) hkey))
    · exact .inr (.inr (hother .serviceMonitor (by decide) hkey.symm))
  have hcancel : ∀ {suffix : List Char}, name.toList ++ suffix = name'.toList ++ suffix →
      name = name' := fun heq => String.toList_injective (List.append_cancel_right heq)
  rcases hcases name h with rfl | rfl | ⟨hkind, rfl⟩ <;>
    rcases hcases name' h' with heq | heq | ⟨hkind', heq⟩
  · have hlist := congrArg String.toList (Prod.mk.inj heq).2
    rw [toList_sozu, toList_sozu] at hlist
    exact hcancel hlist
  · cases (Prod.mk.inj heq).1
  · exact absurd rfl hkind'
  · cases (Prod.mk.inj heq).1
  · have hlist := congrArg String.toList (Prod.mk.inj heq).2
    rw [toList_metrics, toList_metrics] at hlist
    exact hcancel hlist
  · rw [← heq, hmetrics] at hname'
    cases hname'
  · rw [heq] at hkind
    exact absurd rfl hkind
  · rw [heq, hmetrics] at hname
    cases hname
  · exact heq

end Names

/-- **The objects of all instances are apart.**  Two objects that are made for Gateways with UUIDs
and are written under one kind and name are the same object of the same Gateway. -/
theorem resources_apart (p : Provisioner) (serde : Serde) {g g' : Gateway} {i i' : Instance}
    (hg : p.instance_ g = .ok i) (hg' : p.instance_ g' = .ok i')
    (huid : isUuid i.gatewayUid = true) (huid' : isUuid i'.gatewayUid = true)
    {rs rs' : List (Kind × Value)} (hrs : p.resources serde i = .ok rs)
    (hrs' : p.resources serde i' = .ok rs') {n n' : ℕ} {kind : Kind} {v v' : Value}
    (hv : rs[n]? = some (kind, v)) (hv' : rs'[n']? = some (kind, v'))
    (hname : templateName v = templateName v') :
    i.gatewayUid = i'.gatewayUid ∧ n = n' := by
  -- both are the key of a place
  have hkey : ∀ {i : Instance} {rs : List (Kind × Value)} {n : ℕ} {v : Value},
      p.resources serde i = .ok rs → rs[n]? = some (kind, v) →
        ∃ name, templateName v = some name ∧ (p.objectKeys i.name)[n]? = some (kind, name) := by
    intro i rs n v hrs hv
    have hmap := congrArg (fun l => l[n]?) (map_resources hrs)
    simp only [List.getElem?_map, hv, Option.map_some] at hmap
    obtain ⟨key, hkey, heq⟩ := Option.map_eq_some_iff.1 hmap.symm
    obtain ⟨rfl, hkeyName⟩ := Prod.mk.inj heq
    exact ⟨key.2, hkeyName.symm, hkey⟩
  obtain ⟨name, hn, hplace⟩ := hkey hrs hv
  obtain ⟨name', hn', hplace'⟩ := hkey hrs' hv'
  rw [hn, hn'] at hname
  obtain rfl := Option.some.inj hname
  have hmetrics : isMetricsName i.name = false := by
    rw [name_of_instance_ hg]
    exact p.isMetricsName_instanceName huid
  have hmetrics' : isMetricsName i'.name = false := by
    rw [name_of_instance_ hg']
    exact p.isMetricsName_instanceName huid'
  have hnames : i.name = i'.name := name_of_mem_objectKeys hmetrics hmetrics'
    (List.mem_of_getElem? hplace) (List.mem_of_getElem? hplace')
  constructor
  · rw [name_of_instance_ hg, name_of_instance_ hg'] at hnames
    exact instanceName_injective huid huid' hnames
  · rw [← hnames] at hplace'
    have hlt : n < (p.objectKeys i.name).length := by
      rw [List.getElem?_eq_some_iff] at hplace
      exact hplace.1
    exact (List.getElem?_inj hlt (nodup_objectKeys i.name)).1 (hplace.trans hplace'.symm)

/-- The Gateway `web`, with another UID. -/
def recreated : Gateway where
  metadata := { Renamed.gateway.metadata with uid := some "7d1e2f3a-4b5c-4d6e-8f90-a1b2c3d4e5f6" }
  gatewayClassName := "sozu"

/-- The Deployment of a Gateway that was recreated is not the one it had before. -/
theorem resources_apart_recreated :
    ∃ v v', (∃ i rs, Renamed.provisioner.instance_ Renamed.gateway = .ok i ∧
        Renamed.provisioner.resources Renamed.serde i = .ok rs ∧ rs[2]? = some (.deployment, v)) ∧
      (∃ i rs, Renamed.provisioner.instance_ recreated = .ok i ∧
        Renamed.provisioner.resources Renamed.serde i = .ok rs ∧ rs[2]? = some (.deployment, v')) ∧
      templateName v ≠ templateName v' := by
  have hthird : ∀ g : Gateway,
      ((Renamed.provisioner.instance_ g).toOption.bind fun i =>
        (Renamed.provisioner.resources Renamed.serde i).toOption.bind fun rs =>
          rs[2]?.map fun r => (i.gatewayUid, r.1)) =
        g.metadata.uid.map (fun uid => (uid, Kind.deployment)) →
      g.metadata.uid.isSome →
      ∃ i rs v, Renamed.provisioner.instance_ g = .ok i ∧ some i.gatewayUid = g.metadata.uid ∧
        Renamed.provisioner.resources Renamed.serde i = .ok rs ∧
          rs[2]? = some (.deployment, v) := by
    intro g h hsome
    obtain ⟨uid, huid⟩ := Option.isSome_iff_exists.1 hsome
    rw [huid, Option.map_some, Option.bind_eq_some_iff] at h
    obtain ⟨i, hi, h⟩ := h
    obtain ⟨rs, hrs, h⟩ := Option.bind_eq_some_iff.1 h
    obtain ⟨⟨kind, v⟩, hv, heq⟩ := Option.map_eq_some_iff.1 h
    obtain ⟨rfl, rfl⟩ := Prod.mk.inj heq
    cases hinstance : Renamed.provisioner.instance_ g with
    | error e =>
      rw [hinstance] at hi
      cases hi
    | ok i' =>
      rw [hinstance] at hi
      obtain rfl := Option.some.inj hi
      cases hresources : Renamed.provisioner.resources Renamed.serde i' with
      | error e =>
        rw [hresources] at hrs
        cases hrs
      | ok rs' =>
        rw [hresources] at hrs
        obtain rfl := Option.some.inj hrs
        exact ⟨i', rs', v, rfl, huid.symm, hresources, hv⟩
  obtain ⟨i, rs, v, hi, huid, hrs, hv⟩ := hthird Renamed.gateway (by decide +kernel) rfl
  obtain ⟨i', rs', v', hi', huid', hrs', hv'⟩ := hthird recreated (by decide +kernel) rfl
  obtain huid := Option.some.inj huid
  obtain huid' := Option.some.inj huid'
  refine ⟨v, v', ⟨i, rs, hi, hrs, hv⟩, ⟨i', rs', hi', hrs', hv'⟩, fun hname => ?_⟩
  have hapart := (resources_apart Renamed.provisioner Renamed.serde hi hi'
    (by rw [huid]; decide) (by rw [huid']; decide) hrs hrs' hv hv' hname).1
  rw [huid, huid'] at hapart
  exact absurd hapart (by decide)

end Provision

end SozuGateway
