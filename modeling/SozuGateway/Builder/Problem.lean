import SozuGateway.Ir

/-!
# Problems

`Problem` of `crates/builder/src/lib.rs`: what the builder reports on one object while
the rest of it still translates.

* `ClaimedName` — one SNI name a certificate lost, and who keeps it; ordered as the
  source's derived order.
* `Problem.listener` — the listener a problem is scoped to.
-/

set_option autoImplicit false

namespace SozuGateway

namespace Builder

/-! ## Lost names -/

/-- One SNI name a certificate lost, and the object that keeps it. -/
structure ClaimedName where
  /-- As this object spelled it. -/
  name : String
  /-- `Ingress` or `Gateway`. -/
  ownerKind : String
  /-- `namespace/name`. -/
  owner : String
  deriving DecidableEq, Repr

namespace ClaimedName

/-- The fields of a lost name, in the order the derived comparison reads them. -/
def orderKey (c : ClaimedName) : String ×ₗ (String ×ₗ String) :=
  toLex (c.name, toLex (c.ownerKind, c.owner))

theorem orderKey_injective : Function.Injective orderKey := by
  rintro ⟨n, k, o⟩ ⟨n', k', o'⟩ heq
  simp only [orderKey, EmbeddingLike.apply_eq_iff_eq, Prod.mk.injEq] at heq
  obtain ⟨rfl, rfl, rfl⟩ := heq
  rfl

instance : LinearOrder ClaimedName := LinearOrder.lift' orderKey orderKey_injective

end ClaimedName

/-! ## Problems -/

/-- A problem found while building one object. -/
inductive Problem where
  | secretNotFound (secret : String)
  | tlsEntryWithoutSecret
  | tlsEntryWithoutHosts (secret : String)
  | invalidCertificate (secret reason : String)
  | certificateNameClaimed (secret : String) (listener : Option String) (names : List ClaimedName)
  | nonServiceBackend
  | defaultBackendUnsupported
  | serviceNotFound (service : String)
  | servicePortNotFound (service port : String)
  | noReadyEndpoints (service : String)
  | fqdnEndpointsUnsupported (service : String)
  | invalidHealthCheck (service reason : String)
  | healthCheckNotApplied (service reason : String)
  /-- `keyOnly` when the dropped match is not the winner's match. -/
  | routeCollision (hostname path winner : String) (keyOnly : Bool)
  | invalidPathRegex (path reason : String)
  | invalidHostname (hostname reason : String) (listener : Option String)
  | unsupportedTlsMode (mode : String)
  | unsupportedProtocol (protocol : String)
  | unsupportedAppProtocol (service : String) (port : Int32) (appProtocol : String)
  | portNotExposed (listener : String) (declared : Int32) (protocol : String)
      (exposed : List UInt16)
  | listenerPortNotOwned (listener : String) (port : UInt16) (owner claimedBy : String)
  | l4RouteConflict (port : UInt16) (protocol winner : String)
  | weightedBackendsUnsupported
  | zeroWeightBackendUnsupported (service : String)
  | timeoutsUnsupported
  | queryMatchUnsupported
  | headerMatchRefused (header reason : String)
  | headerMatchPrecedenceLimit (hostname : String) (limit : ℕ)
  | headerMatchLimit (hostname : String) (limit : ℕ)
  | headerMatchOutranksRoute (hostname headerMatch route : String) (copyOf : Option String)
      (reason : String)
  | headerMatchOverlap (hostname headerMatch route : String) (copyOf : Option String)
      (reason : String)
  | headerMatchCopyKeyTaken (hostname headerMatch route holder : String)
  | namespaceSelectorInvalid (listener reason : String)
  | filterUnsupported (kind : String)
  | backendRefNotPermitted (reference : String)
  | gatewaySpecUnsupported (field : String)
  | gatewayParametersUnsupported (reference : String)
  deriving DecidableEq, Repr

/-- Push a problem unless it is already there. -/
def pushOnce (problems : List Problem) (problem : Problem) : List Problem :=
  if problem ∈ problems then problems else problems ++ [problem]

end Builder

end SozuGateway
