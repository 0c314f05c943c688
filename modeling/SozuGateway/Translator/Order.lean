import SozuGateway.Translator.Requests

/-!
# The order of a batch

`tier` and `canonicalize_ranked`: a batch is sorted by dependency tier, then by
certificate rank, then by the JSON encoding.

* `sortedByTier` — a batch is ordered by tier, whatever the ranks.
* `canonicalize_eq_of_perm` — the plain order depends on the requests only up to
  a permutation.
-/

set_option autoImplicit false

namespace SozuGateway

namespace Translator

open Lib Sozu

/-! ## Tiers -/

/-- The dependency tier of a verb. -/
def verbTier : RequestType → ℕ
  | .addTcpListener _ | .addUdpListener _ => 0
  | .activateListener _ => 1
  | .addCluster _ => 2
  | .addBackend _ => 3
  | .addCertificate _ | .replaceCertificate _ => 4
  -- a route re-pointed at another cluster is removed before it is added
  | .removeFrontend _ _ | .removeTcpFrontend _ | .removeUdpFrontend _ => 5
  | .addFrontend _ _ | .addTcpFrontend _ | .addUdpFrontend _ => 6
  | .removeBackend _ => 7
  | .removeCertificate _ => 9
  | .deactivateListener _ => 10
  | .removeListener _ => 11
  | .removeCluster _ => 12
  | _ => 100

/-- The dependency tier of a request. -/
def tier (req : Request) : ℕ :=
  match req.requestType with
  | some t => verbTier t
  | none => 100

@[simp] theorem tier_into (t : RequestType) : tier t.into = verbTier t := rfl

/-! ## Ranks -/

/-- Where a certificate request sits among the adds and replaces of one batch. -/
inductive CertRank where
  /-- Takes no name away. -/
  | gains
  /-- Takes a name away and gives another, at its place among the trades. -/
  | trades (position : ℕ)
  /-- Only takes names away. -/
  | withdraws
  deriving DecidableEq, Repr

/-- The rank in the order the derived comparison gives it. -/
def CertRank.orderKey : CertRank → ℕ ×ₗ ℕ
  | gains => toLex (0, 0)
  | trades position => toLex (1, position)
  | withdraws => toLex (2, 0)

/-! ## Canonical order -/

section Json

variable (lib : Library)

/-- What a batch is sorted by. -/
def sortKey (r : CertRank × Request) : ℕ ×ₗ ((ℕ ×ₗ ℕ) ×ₗ String) :=
  toLex (tier r.2, toLex (r.1.orderKey, lib.json r.2))

/-- Sort by tier, rank and JSON encoding. -/
def canonicalizeRanked (requests : List (CertRank × Request)) : List Request :=
  (sortBy (sortKey lib) requests).map Prod.snd

/-- Sort by tier and JSON encoding. -/
def canonicalize (requests : List Request) : List Request :=
  canonicalizeRanked lib (requests.map fun r => (.gains, r))

variable {lib}

theorem tier_le_of_sortKey_le {r r' : CertRank × Request} (h : sortKey lib r ≤ sortKey lib r') :
    tier r.2 ≤ tier r'.2 := by
  rcases Prod.Lex.toLex_le_toLex.1 h with hlt | ⟨heq, -⟩
  · exact le_of_lt hlt
  · exact le_of_eq heq

theorem canonicalizeRanked_perm (requests : List (CertRank × Request)) :
    (canonicalizeRanked lib requests).Perm (requests.map Prod.snd) :=
  (sortBy_perm _ _).map _

@[simp] theorem mem_canonicalizeRanked {requests : List (CertRank × Request)} {r : Request} :
    r ∈ canonicalizeRanked lib requests ↔ ∃ rank, (rank, r) ∈ requests := by
  rw [(canonicalizeRanked_perm requests).mem_iff]
  simp

@[simp] theorem mem_canonicalize {requests : List Request} {r : Request} :
    r ∈ canonicalize lib requests ↔ r ∈ requests := by
  simp [canonicalize]

/-- **A canonical batch is ordered by tier.** -/
theorem sortedByTier (requests : List (CertRank × Request)) :
    (canonicalizeRanked lib requests).Pairwise fun a b => tier a ≤ tier b :=
  List.pairwise_map.2 ((pairwise_sortBy (sortKey lib) requests).imp tier_le_of_sortKey_le)

theorem canonicalize_perm (requests : List Request) :
    (canonicalize lib requests).Perm requests := by
  have h := @canonicalizeRanked_perm lib (requests.map fun r => (CertRank.gains, r))
  simpa [canonicalize, Function.comp_def] using h

theorem orderKey_injective : Function.Injective CertRank.orderKey := by
  intro r r' h
  cases r <;> cases r' <;> simp_all [CertRank.orderKey]

/-- With an injective encoding, the sort key tells ranked requests apart. -/
theorem keyInjOn (hjson : Function.Injective lib.json) (l : List (CertRank × Request)) :
    KeyInjOn (sortKey lib) l := by
  rintro ⟨r, req⟩ - ⟨r', req'⟩ - h
  simp only [sortKey, EmbeddingLike.apply_eq_iff_eq, Prod.mk.injEq] at h
  exact Prod.ext (orderKey_injective h.2.1) (hjson h.2.2)

/-- **The plain order depends on the requests only up to a permutation.** -/
theorem canonicalize_eq_of_perm (hjson : Function.Injective lib.json)
    {requests requests' : List Request}
    (h : requests.Perm requests') : canonicalize lib requests = canonicalize lib requests' := by
  unfold canonicalize canonicalizeRanked
  rw [sortBy_eq_of_perm (keyInjOn hjson _) (h.map _)]

end Json

end Translator

end SozuGateway
