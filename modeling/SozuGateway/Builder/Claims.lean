import SozuGateway.Builder.Problem
import SozuGateway.Lib.BTreeMap

/-!
# Claims

Who asked for a route or a certificate, and since when: `OwnerClaim` and `OwnerIdent`
of `crates/builder/src/lib.rs`.

* `OwnerKind`, `OwnerIdent` — a source object's identity.
* `OwnerClaim` — its age and its `namespace/name`, ordered oldest first.
* `FrontendSource`, `CertificateSource` — where a frontend or a certificate comes from;
  `claimOf`, `claimFor` — its claim.
-/

set_option autoImplicit false

namespace SozuGateway

namespace Builder

/-! ## Identity and age -/

/-- The kind of a source object. -/
inductive OwnerKind where
  | ingress
  | httpRoute
  | gateway
  deriving DecidableEq, Repr

/-- The number the source gives a kind. -/
def OwnerKind.toNat : OwnerKind → ℕ
  | .ingress => 0
  | .httpRoute => 1
  | .gateway => 2

theorem OwnerKind.toNat_injective : Function.Injective OwnerKind.toNat := by
  intro k k' h
  cases k <;> cases k' <;> simp_all [OwnerKind.toNat]

instance : LinearOrder OwnerKind := LinearOrder.lift' OwnerKind.toNat OwnerKind.toNat_injective

/-- A source object's kind, namespace and name. -/
abbrev OwnerIdent := OwnerKind ×ₗ (String ×ₗ String)

instance (priority := 1100) transCmp_ownerIdent :
    Std.TransCmp (compare : OwnerIdent → OwnerIdent → Ordering) := Lib.transCmp

def ownerIdent (kind : OwnerKind) (namespace_ name : String) : OwnerIdent :=
  toLex (kind, toLex (namespace_, name))

/-- The Kubernetes kind an identity stands for, as a report names it. -/
def ownerKind (ident : OwnerIdent) : String :=
  match (ofLex ident).1 with
  | .ingress => "Ingress"
  | .httpRoute => "HTTPRoute"
  | .gateway => "Gateway"

/-- Oldest `creationTimestamp` first, absent last, then `namespace/name`. -/
abbrev OwnerClaim := Bool ×ₗ (WithBot String ×ₗ String)

/-- `format!("{namespace}/{name}")`. -/
def slashed (namespace_ name : String) : String := namespace_ ++ "/" ++ name

/-- The claim of an object created at `creation`. -/
def ownerClaim (namespace_ name : String) (creation : Option String) : OwnerClaim :=
  toLex (creation.isNone, toLex (creation, slashed namespace_ name))

/-- The claim recorded for an identity, or a last-place fallback. -/
def claimFor (ident : OwnerIdent) (claims : BTreeMap OwnerIdent OwnerClaim) : OwnerClaim :=
  match claims[ident]? with
  | some claim => claim
  | none => ownerClaim (ofLex (ofLex ident).2).1 (ofLex (ofLex ident).2).2 none

/-! ## Sources -/

/-- Where an HTTP(S) frontend came from: an Ingress, or a rule of an HTTPRoute under one
of its parentRefs. -/
inductive FrontendSource where
  | ingress (namespace_ name : String)
  | httpRoute (namespace_ name gatewayNamespace gatewayName : String)
      (sectionName : Option String) (port : Option Int32)
  deriving DecidableEq, Repr

def FrontendSource.ownerIdent : FrontendSource → OwnerIdent
  | .ingress namespace_ name => Builder.ownerIdent .ingress namespace_ name
  | .httpRoute namespace_ name _ _ _ _ => Builder.ownerIdent .httpRoute namespace_ name

/-- The claim recorded for a source. -/
def claimOf (source : FrontendSource) (claims : BTreeMap OwnerIdent OwnerClaim) : OwnerClaim :=
  claimFor source.ownerIdent claims

/-- A frontend paired with its source. -/
structure SourcedFrontend where
  frontend : Frontend
  source : FrontendSource
  deriving DecidableEq, Repr

/-- The object that asked for a certificate: the claimant of its SNI names. -/
inductive CertificateSource where
  | ingress (namespace_ name : String)
  | gateway (namespace_ name listener : String)
  deriving DecidableEq, Repr

namespace CertificateSource

def ownerIdent : CertificateSource → OwnerIdent
  | ingress namespace_ name => Builder.ownerIdent .ingress namespace_ name
  | gateway namespace_ name _ => Builder.ownerIdent .gateway namespace_ name

def listener : CertificateSource → Option String
  | ingress _ _ => none
  | gateway _ _ listener => some listener

/-- The fields of a source, in the order the derived comparison reads them. -/
def orderKey : CertificateSource → ℕ ×ₗ (String ×ₗ (String ×ₗ String))
  | ingress namespace_ name => toLex (0, toLex (namespace_, toLex (name, "")))
  | gateway namespace_ name listener => toLex (1, toLex (namespace_, toLex (name, listener)))

theorem orderKey_injective : Function.Injective orderKey := by
  rintro (⟨n, m⟩ | ⟨n, m, l⟩) (⟨n', m'⟩ | ⟨n', m', l'⟩) heq <;>
    simp_all [orderKey]

instance : LinearOrder CertificateSource := LinearOrder.lift' orderKey orderKey_injective

end CertificateSource

end Builder

end SozuGateway
