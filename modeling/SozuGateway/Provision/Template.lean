import SozuGateway.Lib.Text
import SozuGateway.Lib.Utf8
import SozuGateway.Provision.Objects

/-!
# Templates

What the provisioner makes of its templates for one Gateway.  An index into what is neither an
object nor null is a panic of the source; here it makes an object, and a run goes on.

* `instance_` — an instance and its name; `isMetricsName_instanceName` — with a UUID it is not that
  of a metrics Service.
* `podLabels`, `identity` — whom an object belongs to.
* `resources` — the objects of an instance.
-/

set_option autoImplicit false

namespace SozuGateway

namespace Provision

open Lib

/-- `serde_json` and `kube`, at the types that are read and written. -/
structure Serde where
  /-- `to_string` -/
  text : Value → String
  /-- `from_str` -/
  parse : String → Option Value
  /-- `from_str::<ProvisionConfig>` -/
  parseConfig : String → Except String ProvisionConfig
  /-- `to_value` of an object of a kind -/
  toValue : Kind → DynamicObject → Value
  /-- `from_value::<DynamicObject>` -/
  fromValue : Value → Except String DynamicObject

/-- `context` of what may not be there. -/
def context {α : Type} (what : String) : Option α → Except Error α
  | some a => .ok a
  | none => .error { text := what }

theorem context_eq_ok {α : Type} {what : String} {a? : Option α} {a : α}
    (h : context what a? = .ok a) : a? = some a := by
  cases a? with
  | none => cases h
  | some b => exact congrArg some (Except.ok.inj h)

/-! ## Names -/

/-- FNV-1a. -/
def stableHash (bytes : List UInt8) : UInt64 :=
  bytes.foldl (fun hash byte => (hash ^^^ byte.toUInt64) * 0x100000001b3) 0xcbf29ce484222325

/-- `{:016x}` of the hash of a text. -/
def hashText (text : String) : List Char :=
  (Nat.toDigits 16 (stableHash (utf8 text.toList)).toNat).leftpad 16 '0'

/-- A label is made of these, and starts and ends with none of the last three. -/
def isLabelChar (c : Char) : Bool := c.isAlphanum || c = '-' || c = '_' || c = '.'

def validateLabel (value what : String) : Except Error Unit :=
  if value.utf8ByteSize ≤ 63 ∧ value.toList.all isLabelChar ∧
      value.toList.head?.any Char.isAlphanum ∧ value.toList.getLast?.any Char.isAlphanum then
    .ok ()
  else .error { text := s!"{what} is not a Kubernetes label value" }

/-- Lower-case letters, digits and dashes. -/
def isPlainChar (c : Char) : Bool := c.isLower || c.isDigit || c = '-'

/-- The UID in a name, or the hash of an unusual one. -/
def nameSuffix (uid : String) : List Char :=
  if uid.utf8ByteSize ≤ 36 ∧ uid.toList.all isPlainChar then uid.toList else hashText uid

/-- The canonical spelling of a UUID. -/
def isUuid (uid : String) : Bool :=
  (uid.toList.splitOn '-').map List.length = [8, 4, 4, 4, 12] &&
    uid.toList.all fun c => c ∈ digits || c = '-'

namespace Provisioner

variable (p : Provisioner) (serde : Serde)

/-- The name of the instance of a Gateway's UID. -/
def instanceName (uid : String) : String :=
  String.ofList ("sozu-gw-".toList ++ (hashText p.installationUid).take 8 ++
    '-' :: nameSuffix uid)

/-- `instance`. -/
def instance_ (gateway : Gateway) : Except Error Instance := do
  let uid ← context "Gateway has no UID" gateway.metadata.uid
  validateLabel uid "Gateway UID"
  let gatewayNamespace ← context "Gateway has no namespace" gateway.metadata.namespace_
  return { name := p.instanceName uid, gatewayNamespace, gatewayName := gateway.metadata.nameAny,
           gatewayUid := uid }

/-- The hash of a text is written in hexadecimal digits. -/
theorem mem_digits_of_mem_hashText {text : String} {c : Char} (h : c ∈ hashText text) :
    c ∈ digits := by
  rw [hashText, List.leftpad, List.mem_append] at h
  rcases h with h | h
  · rw [List.eq_of_mem_replicate h]
    decide
  · exact mem_digits_of_mem_toDigits (by decide) (by decide) h

theorem hashText_ne_nil (text : String) : hashText text ≠ [] := by
  intro h
  have hlength : 16 ≤ (hashText text).length := by
    rw [hashText, List.length_leftpad]
    exact le_max_left _ _
  simp [h] at hlength

/-- A UUID's part of a name ends in a digit or a dash. -/
theorem nameSuffix_of_isUuid {uid : String} (h : isUuid uid = true) :
    ∃ front c, nameSuffix uid = front ++ [c] ∧ c ≠ 's' := by
  obtain ⟨hlengths, hchars⟩ := Bool.and_eq_true_iff.1 h
  have hne : nameSuffix uid ≠ [] := by
    rw [nameSuffix]
    split
    · intro hnil
      rw [hnil] at hlengths
      cases hlengths
    · exact hashText_ne_nil uid
  have hs : 's' ∉ nameSuffix uid := by
    rw [nameSuffix]
    split
    · intro hmem
      exact absurd (List.all_eq_true.1 hchars 's' hmem) (by decide)
    · exact fun hmem => absurd (mem_digits_of_mem_hashText hmem) (by decide)
  obtain hnil | ⟨front, c, hc⟩ := List.eq_nil_or_concat' (nameSuffix uid)
  · exact absurd hnil hne
  · refine ⟨front, c, hc, ?_⟩
    rintro rfl
    exact hs (hc ▸ List.mem_append_right _ List.mem_cons_self)

theorem instanceName_toList (uid : String) : (p.instanceName uid).toList =
    "sozu-gw-".toList ++ (hashText p.installationUid).take 8 ++ '-' :: nameSuffix uid :=
  String.toList_ofList

/-- **The name of a UUID's instance is not that of a metrics Service.** -/
theorem isMetricsName_instanceName {uid : String} (h : isUuid uid = true) :
    isMetricsName (p.instanceName uid) = false := by
  obtain ⟨front, c, hsuffix, hc⟩ := nameSuffix_of_isUuid h
  have hend : ∀ start : List Char, ¬"-metrics".toList <:+ start ++ '-' :: (front ++ [c]) := by
    rintro start ⟨t, ht⟩
    have hmetrics : "-metrics".toList.getLast? = some 's' := by decide
    have hlast := congrArg List.getLast? ht
    rw [List.getLast?_append, hmetrics, Option.some_or, ← List.cons_append, ← List.append_assoc,
      List.getLast?_concat, Option.some.injEq] at hlast
    exact hc hlast.symm
  rw [Bool.eq_false_iff, Ne, isMetricsName_iff, instanceName_toList, hsuffix]
  exact hend _

/-! ## Identity -/

/-- An object under a key, which is made where there is none. -/
def withObject (key : String) (v : Value) : Value :=
  if (v.index key).isObject then v else v.put key (.object [])

def podLabels (metadata : Value) (i : Instance) : Value :=
  let metadata := withObject "labels" metadata
  let metadata := metadata.putAt ["labels", installationKey] (.string p.installationUid)
  let metadata := metadata.putAt ["labels", gatewayUidKey] (.string i.gatewayUid)
  let metadata := metadata.putAt ["labels", "app.kubernetes.io/instance"]
    (.string s!"{i.name}_gw")
  let metadata := metadata.putAt ["labels", "app.kubernetes.io/managed-by"]
    (.string "sozu-gateway")
  let metadata := metadata.putAt ["labels", "sozu.io/gateway-instance"] (.string i.name)
  withObject "annotations" metadata

/-- The metadata of `identity`. -/
def identityMetadata (metadata : Value) (name : String) (i : Instance) : Value :=
  let metadata := metadata.put "name" (.string name)
  let metadata := metadata.put "namespace" (.string p.config.namespace_)
  let metadata := p.podLabels metadata i
  let metadata := metadata.putAt ["annotations", gatewayUidKey] (.string i.gatewayUid)
  let metadata := metadata.putAt ["annotations", gatewayNamespaceKey] (.string i.gatewayNamespace)
  let metadata := metadata.putAt ["annotations", gatewayNameKey] (.string i.gatewayName)
  let metadata := metadata.put "ownerReferences" (.array [.ofFields
    [("apiVersion", .string "v1"), ("kind", .string "ConfigMap"),
      ("name", .string p.config.templateConfigMap), ("uid", .string p.installationUid),
      ("controller", .bool true), ("blockOwnerDeletion", .bool false)]])
  if isMetricsName name then
    metadata.putAt ["labels", "sozu.io/metrics-service"] (.string "true")
  else metadata

def identity (resource : Value) (name : String) (i : Instance) : Value :=
  resource.put "metadata" (p.identityMetadata (resource.index "metadata") name i)

/-- The labels that select the Pods of an instance. -/
def selector (i : Instance) : Value :=
  .ofFields [(installationKey, .string p.installationUid), (gatewayUidKey, .string i.gatewayUid)]

end Provisioner

/-! ## Pods -/

/-- A selector that was the default one becomes that of the instance. -/
def rewriteSelector (previous selector v : Value) : Value :=
  if v.index "labelSelector" = previous then
    v.put "labelSelector" (.ofFields [("matchLabels", selector)])
  else v

def rewritePodSelectors (spec previous selector : Value) : Value :=
  let rewrite := rewriteSelector previous selector
  let spec := spec.modifyAt ["topologySpreadConstraints"] (.mapItems (List.map rewrite))
  ["podAffinity", "podAntiAffinity"].foldl (fun spec affinity =>
    let spec := spec.modifyAt
      ["affinity", affinity, "requiredDuringSchedulingIgnoredDuringExecution"]
      (.mapItems (List.map rewrite))
    spec.modifyAt ["affinity", affinity, "preferredDuringSchedulingIgnoredDuringExecution"]
      (.mapItems (List.map (.modifyAt ["podAffinityTerm"] rewrite)))) spec

/-- The first item that is found is changed; one must be. -/
def updateFirst (found : Value → Bool) (missing : String) (f : Value → Except Error Value) :
    List Value → Except Error (List Value)
  | [] => .error { text := missing }
  | v :: items =>
      if found v then do return (← f v) :: items
      else do return v :: (← updateFirst found missing f items)

namespace Provisioner

variable (p : Provisioner) (serde : Serde)

/-- The environment of the worker. -/
def workerEnv (i : Instance) (env : List Value) : List Value :=
  let settings := [
    ("SOZU_GW_GATEWAY_SCOPE", s!"{i.gatewayNamespace}/{i.gatewayName}"),
    ("SOZU_GW_GATEWAY_UID", i.gatewayUid),
    ("SOZU_GW_PUBLISH_SERVICE", s!"{p.config.namespace_}/{i.name}"),
    ("SOZU_GW_INGRESS_STATUS_WRITES", "false")]
  let env := settings.foldl (fun env setting =>
    env.filter (fun e => e.index "name" ≠ .string setting.1) ++
      [.ofFields [("name", .string setting.1), ("value", .string setting.2)]]) env
  env.filter fun e => (e.index "name").str? ∉ ["SOZU_GW_PROVISION_TEMPLATE",
    "SOZU_GW_INGRESS_ONLY", "SOZU_GW_EXCLUDE_GATEWAY"].map some

def worker (i : Instance) (container : Value) : Except Error Value := do
  let env ← context "worker env must be an array" ((container.get "env").getD (.array [])).array?
  return container.put "env" (.array (p.workerEnv i env))

/-- The Pod spec of an instance. -/
def podSpec (i : Instance) (oldSelector spec : Value) : Except Error Value := do
  let containers ← context "Deployment has no containers" (spec.index "containers").array?
  let containers ← updateFirst (fun c => c.index "name" = .string "controller")
    "Deployment requires a controller container" (p.worker i) containers
  let volumes ← context "Deployment requires volumes" (spec.index "volumes").array?
  let volumes ← updateFirst (fun v => v.index "name" = .string "sozu-config")
    "Deployment requires sozu-config volume"
    (fun v => .ok (v.putAt ["configMap", "name"] (.string s!"{i.name}-sozu"))) volumes
  let spec := (spec.put "containers" (.array containers)).put "volumes" (.array volumes)
  return rewritePodSelectors spec oldSelector (p.selector i)

/-! ## The objects of an instance -/

def configMapOf (i : Instance) : Value := p.identity p.config.configMap s!"{i.name}-sozu" i

def deploymentOf (i : Instance) : Except Error Value := do
  let deployment := p.identity p.config.deployment i.name i
  let oldSelector := (deployment.index "spec").index "selector"
  let deployment := deployment.putAt ["spec", "selector"]
    (.ofFields [("matchLabels", p.selector i)])
  let pod := (deployment.index "spec").index "template"
  if !pod.isObject then
    throw { text := "Deployment has no Pod template" }
  let metadata := p.podLabels ((pod.get "metadata").getD (.object [])) i
  let metadata := metadata.putAt ["annotations", "checksum/config"]
    (.string (String.ofList (hashText (serde.text (p.configMapOf i)))))
  let spec ← context "Deployment has no Pod spec" (pod.get "spec")
  let spec ← p.podSpec i oldSelector spec
  return deployment.putAt ["spec", "template"] ((pod.put "metadata" metadata).put "spec" spec)

def serviceOf (template : Value) (name : String) (i : Instance) : Value :=
  (p.identity template name i).putAt ["spec", "selector"] (p.selector i)

def podDisruptionBudgetOf (template : Value) (i : Instance) : Value :=
  (p.identity template i.name i).putAt ["spec", "selector"]
    (.ofFields [("matchLabels", p.selector i)])

def serviceMonitorOf (template : Value) (i : Instance) : Value :=
  let monitor := (p.identity template i.name i).putAt ["spec", "selector"]
    (.ofFields [("matchLabels", .ofFields [(installationKey, .string p.installationUid),
      (gatewayUidKey, .string i.gatewayUid), ("sozu.io/metrics-service", .string "true")])])
  monitor.putAt ["spec", "namespaceSelector"]
    (.ofFields [("matchNames", .array [.string p.config.namespace_])])

def resources (i : Instance) : Except Error (List (Kind × Value)) := do
  let deployment ← p.deploymentOf serde i
  return [(.configMap, p.configMapOf i), (.service, p.serviceOf p.config.service i.name i)] ++
    (p.config.metricsService.map fun template =>
      (Kind.service, p.serviceOf template s!"{i.name}-metrics" i)).toList ++
    (p.config.podDisruptionBudget.map fun template =>
      (Kind.podDisruptionBudget, p.podDisruptionBudgetOf template i)).toList ++
    [(.deployment, deployment)] ++
    (p.config.serviceMonitor.map fun template =>
      (Kind.serviceMonitor, p.serviceMonitorOf template i)).toList

end Provisioner

/-! ## Allocations -/

/-- A port of the template that is this one of the live Service. -/
def samePort (live port : Value) : Bool :=
  live.index "name" = port.index "name" &&
    (live.index "protocol").str?.getD "TCP" = (port.index "protocol").str?.getD "TCP"

def preserveServiceAllocations (desired live : Value) : Value :=
  if ((desired.index "spec").index "type").str? ∈ [some "NodePort", some "LoadBalancer"] then
    let livePorts := ((live.index "spec").index "ports").array?.getD []
    let allocate (port : Value) : Value :=
      match (livePorts.find? fun existing => samePort existing port).bind (·.get "nodePort") with
      | some nodePort => port.put "nodePort" nodePort
      | none => port
    desired.putAt ["spec", "ports"]
      (.mapItems (List.map allocate) ((desired.index "spec").index "ports"))
  else desired

/-! ## What an object of an instance carries -/

/-- The metadata of an object says whose it is. -/
structure Carries (p : Provisioner) (i : Instance) (name : String) (metadata : Value) : Prop where
  name : metadata.at? ["name"] = some (.string name)
  namespace_ : metadata.at? ["namespace"] = some (.string p.config.namespace_)
  installation : metadata.at? ["labels", installationKey] = some (.string p.installationUid)
  labelUid : metadata.at? ["labels", gatewayUidKey] = some (.string i.gatewayUid)
  gatewayUid : metadata.at? ["annotations", gatewayUidKey] = some (.string i.gatewayUid)
  gatewayNamespace :
    metadata.at? ["annotations", gatewayNamespaceKey] = some (.string i.gatewayNamespace)
  gatewayName : metadata.at? ["annotations", gatewayNameKey] = some (.string i.gatewayName)

section Carries

open Value

variable {p : Provisioner} {i : Instance} {name : String}

/-- A member is made where there is none, and others are left. -/
theorem at?_withObject {key k : String} (h : key ≠ k) (path : List String) (v : Value) :
    (Provisioner.withObject key v).at? (k :: path) = v.at? (k :: path) := by
  unfold Provisioner.withObject
  split
  · rfl
  · rw [at?_put, if_neg h]

/-- Labels under another key are left. -/
theorem at?_putAt_of_head_ne {k l : String} (h : k ≠ l) (v : Value) (path path' : List String)
    (x : Value) : (v.putAt (k :: path) x).at? (l :: path') = v.at? (l :: path') := by
  rw [putAt, at?_put, if_neg h]

/-- The labels of a Pod, and what else there was. -/
theorem at?_podLabels (metadata : Value) :
    (p.podLabels metadata i).at? ["labels", installationKey] = some (.string p.installationUid) ∧
      (p.podLabels metadata i).at? ["labels", gatewayUidKey] = some (.string i.gatewayUid) ∧
      ∀ k path, k ≠ "labels" → k ≠ "annotations" →
        (p.podLabels metadata i).at? (k :: path) = metadata.at? (k :: path) := by
  refine ⟨?_, ?_, fun k path hlabels hannotations => ?_⟩
  · simp only [Provisioner.podLabels]
    rw [at?_withObject (by decide), at?_putAt_of_ne (by decide), at?_putAt_of_ne (by decide),
      at?_putAt_of_ne (by decide), at?_putAt_of_ne (by decide), at?_putAt]
  · simp only [Provisioner.podLabels]
    rw [at?_withObject (by decide), at?_putAt_of_ne (by decide), at?_putAt_of_ne (by decide),
      at?_putAt_of_ne (by decide), at?_putAt]
  · simp only [Provisioner.podLabels]
    rw [at?_withObject hannotations.symm, at?_putAt_of_head_ne hlabels.symm,
      at?_putAt_of_head_ne hlabels.symm, at?_putAt_of_head_ne hlabels.symm,
      at?_putAt_of_head_ne hlabels.symm, at?_putAt_of_head_ne hlabels.symm,
      at?_withObject hlabels.symm]

/-- **An object with an identity carries it.** -/
theorem carries_identityMetadata (metadata : Value) :
    Carries p i name (p.identityMetadata metadata name i) := by
  -- the metadata before the mark of a metrics Service
  have hmark : ∀ v : Value, Carries p i name v →
      Carries p i name (if isMetricsName name then
        v.putAt ["labels", "sozu.io/metrics-service"] (.string "true") else v) := by
    intro v hv
    split
    · constructor
      · rw [at?_putAt_of_head_ne (by decide), hv.name]
      · rw [at?_putAt_of_head_ne (by decide), hv.namespace_]
      · rw [at?_putAt_of_ne (by decide), hv.installation]
      · rw [at?_putAt_of_ne (by decide), hv.labelUid]
      · rw [at?_putAt_of_head_ne (by decide), hv.gatewayUid]
      · rw [at?_putAt_of_head_ne (by decide), hv.gatewayNamespace]
      · rw [at?_putAt_of_head_ne (by decide), hv.gatewayName]
    · exact hv
  obtain ⟨hinstallation, huid, hother⟩ := @at?_podLabels p i
    ((metadata.put "name" (.string name)).put "namespace" (.string p.config.namespace_))
  refine hmark _ ⟨?_, ?_, ?_, ?_, ?_, ?_, ?_⟩
  all_goals rw [at?_put, if_neg (by decide)]
  · rw [at?_putAt_of_head_ne (by decide), at?_putAt_of_head_ne (by decide),
      at?_putAt_of_head_ne (by decide), hother _ _ (by decide) (by decide), at?_put,
      if_neg (by decide), at?_put, if_pos rfl]
    rfl
  · rw [at?_putAt_of_head_ne (by decide), at?_putAt_of_head_ne (by decide),
      at?_putAt_of_head_ne (by decide), hother _ _ (by decide) (by decide), at?_put, if_pos rfl]
    rfl
  · rw [at?_putAt_of_head_ne (by decide), at?_putAt_of_head_ne (by decide),
      at?_putAt_of_head_ne (by decide), hinstallation]
  · rw [at?_putAt_of_head_ne (by decide), at?_putAt_of_head_ne (by decide),
      at?_putAt_of_head_ne (by decide), huid]
  · rw [at?_putAt_of_ne (by decide), at?_putAt_of_ne (by decide), at?_putAt]
  · rw [at?_putAt_of_ne (by decide), at?_putAt]
  · rw [at?_putAt]

/-- The metadata of an object, whatever is put into its specification. -/
theorem index_metadata_putAt (v : Value) (path : List String) (x : Value) :
    (v.putAt ("spec" :: path) x).index "metadata" = v.index "metadata" := by
  rw [index, putAt, get_put, if_neg (by decide)]
  rfl

theorem index_metadata_identity (resource : Value) :
    (p.identity resource name i).index "metadata" =
      p.identityMetadata (resource.index "metadata") name i := by
  rw [index, Provisioner.identity, get_put, if_pos rfl]
  rfl

theorem carries_identity (resource : Value) :
    Carries p i name ((p.identity resource name i).index "metadata") := by
  rw [index_metadata_identity]
  exact carries_identityMetadata _

theorem carries_serviceOf (template : Value) :
    Carries p i name ((p.serviceOf template name i).index "metadata") := by
  rw [Provisioner.serviceOf, index_metadata_putAt]
  exact carries_identity template

theorem carries_deploymentOf {serde : Serde} {deployment : Value}
    (h : p.deploymentOf serde i = .ok deployment) :
    Carries p i i.name (deployment.index "metadata") := by
  unfold Provisioner.deploymentOf at h
  simp only [bind, Except.bind, pure, Except.pure] at h
  split at h
  · cases h
  · split at h
    · cases h
    · split at h
      · cases h
      · cases h
        rw [index_metadata_putAt, index_metadata_putAt]
        exact carries_identity _

end Carries

end Provision

end SozuGateway
