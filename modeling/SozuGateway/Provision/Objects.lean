import SozuGateway.Lib.BTreeMap
import SozuGateway.Lib.BTreeSet
import SozuGateway.Lib.Value

/-!
# What the provisioner reads and writes

* `Kind`, `DynamicObject` — the objects of the provisioning namespace.
* `Gateway`, `GatewayClass` — what is read of them.
* `ProvisionConfig`, `Provisioner` — the templates, and the installation they belong to.
* `owned` — the object belongs to a Gateway of this installation.
-/

set_option autoImplicit false

namespace SozuGateway

namespace Provision

open Lib

/-! ## Names -/

def installationKey : String := "sozu.io/installation-uid"

def gatewayUidKey : String := "sozu.io/gateway-uid"

def gatewayNamespaceKey : String := "sozu.io/gateway-namespace"

def gatewayNameKey : String := "sozu.io/gateway-name"

def lastTemplateKey : String := "sozu.io/provision-template"

/-- `RETRIES`. -/
def retries : ℕ := 3

/-! ## Objects -/

inductive Kind where
  | configMap
  | service
  | deployment
  | podDisruptionBudget
  | serviceMonitor
  deriving DecidableEq, Repr

namespace Kind

/-- `Kind::ALL`. -/
def all : List Kind := [deployment, service, podDisruptionBudget, serviceMonitor, configMap]

/-- The derived order. -/
def rank : Kind → ℕ
  | configMap => 0
  | service => 1
  | deployment => 2
  | podDisruptionBudget => 3
  | serviceMonitor => 4

theorem rank_injective : Function.Injective rank := by
  intro k k' h
  cases k <;> cases k' <;> first | rfl | cases h

instance : LinearOrder Kind := LinearOrder.lift' rank rank_injective

/-- `Debug`. -/
def debug : Kind → String
  | configMap => "ConfigMap"
  | service => "Service"
  | deployment => "Deployment"
  | podDisruptionBudget => "PodDisruptionBudget"
  | serviceMonitor => "ServiceMonitor"

end Kind

structure OwnerReference where
  apiVersion : String
  kind : String
  name : String
  uid : String
  controller : Option Bool
  deriving DecidableEq, Repr

/-- The metadata that is read. -/
structure ObjectMeta where
  name : Option String := none
  namespace_ : Option String := none
  uid : Option String := none
  resourceVersion : Option String := none
  deletionTimestamp : Option String := none
  labels : BTreeMap String String := ∅
  annotations : BTreeMap String String := ∅
  ownerReferences : List OwnerReference := []
  deriving DecidableEq

/-- An object of some kind: its metadata, and everything else. -/
structure DynamicObject where
  metadata : ObjectMeta
  data : Value
  deriving DecidableEq

/-- `name_any`. -/
def ObjectMeta.nameAny (metadata : ObjectMeta) : String := metadata.name.getD ""

structure Gateway where
  metadata : ObjectMeta
  gatewayClassName : String

structure GatewayClass where
  metadata : ObjectMeta
  controllerName : String

/-! ## The installation -/

/-- The templates, as the JSON they serialise to. -/
structure ProvisionConfig where
  namespace_ : String
  templateConfigMap : String
  deployment : Value
  service : Value
  configMap : Value
  podDisruptionBudget : Option Value := none
  metricsService : Option Value := none
  serviceMonitor : Option Value := none
  deriving DecidableEq

structure Instance where
  name : String
  gatewayNamespace : String
  gatewayName : String
  gatewayUid : String
  deriving DecidableEq, Repr

/-- A successful write of a template. -/
structure ConfirmedWrite where
  uid : String
  resourceVersion : String
  gatewayUid : String
  template : String
  deriving DecidableEq, Repr

/-- The confirmed writes, by kind and name. -/
abbrev Confirmed := BTreeMap (Kind ×ₗ String) ConfirmedWrite

/-- `Provisioner`, but for its client and its memo. -/
structure Provisioner where
  config : ProvisionConfig
  installationUid : String

structure ProvisionOutcome where
  instances : BTreeMap String Instance := ∅
  failures : BTreeMap String String := ∅

/-- An error: the code of the API server's answer, where there was one, and its text. -/
structure Error where
  code : Option ℕ := none
  text : String
  deriving DecidableEq, Repr

/-- `ends_with("-metrics")`. -/
def isMetricsName (name : String) : Bool := "-metrics".toList <:+ name.toList

theorem isMetricsName_iff {name : String} :
    isMetricsName name = true ↔ "-metrics".toList <:+ name.toList := decide_eq_true_iff

namespace Provisioner

variable (p : Provisioner)

/-- The object belongs to the Gateway of this UID, of this installation. -/
def owned (resource : DynamicObject) (gatewayUid : String) : Bool :=
  gatewayUid ≠ "" &&
    resource.metadata.namespace_ = some p.config.namespace_ &&
    resource.metadata.labels[installationKey]? = some p.installationUid &&
    resource.metadata.labels[gatewayUidKey]? = some gatewayUid &&
    resource.metadata.annotations[gatewayUidKey]? = some gatewayUid &&
    resource.metadata.ownerReferences.any fun o =>
      o.apiVersion = "v1" && o.kind = "ConfigMap" && o.name = p.config.templateConfigMap &&
        o.uid = p.installationUid && o.controller = some true

/-- An object of this kind and name is optional, and the templates no longer have it. -/
def obsoleteOptional (kind : Kind) (name : String) : Bool :=
  match kind with
  | .podDisruptionBudget => p.config.podDisruptionBudget.isNone
  | .serviceMonitor => p.config.serviceMonitor.isNone
  | .service => p.config.metricsService.isNone && isMetricsName name
  | _ => false

end Provisioner

end Provision

end SozuGateway
