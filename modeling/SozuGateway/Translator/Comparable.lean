import SozuGateway.Translator.Convergence
import SozuGateway.Sozu.Reference

/-!
# States up to what they route with

`comparable` reduces a routing state to what it routes with: no request census, no
emptied bucket, each bucket in one order.

* `comparable_eq_iff` — two states have one comparable form exactly when they
  agree.
* `reconcile_converges` — the routing requests of a batch, dispatched in order on
  the state of the previous IR, are all accepted and lead to the state of the
  desired one.
-/

set_option autoImplicit false

namespace SozuGateway

namespace Translator

open Lib Sozu

variable (lib : Library)

/-! ## The comparable form -/

/-- Drop the emptied buckets and sort each other one. -/
def sortBuckets {α : Type} (json : α → String) (buckets : BTreeMap String (List α)) :
    BTreeMap String (List α) :=
  (buckets.filter fun _ held => !held.isEmpty).map fun _ held => sortBy json held

/-- The state reduced to what it routes with. -/
def comparable (s : ConfigState) : ConfigState :=
  { s with
    requestCounts := ∅
    backends := sortBuckets lib.backendJson s.backends
    tcpFronts := sortBuckets lib.tcpJson s.tcpFronts
    udpFronts := sortBuckets lib.udpJson s.udpFronts }

variable {lib}

theorem getElem?_sortBuckets {α : Type} (json : α → String) (m : BTreeMap String (List α))
    (id : String) : (sortBuckets json m)[id]? =
      if m[id]?.getD [] = [] then none else some (sortBy json (m[id]?.getD [])) := by
  unfold sortBuckets
  rw [Std.ExtTreeMap.getElem?_map, BTreeMap.getElem?_filter]
  cases m[id]? with
  | none => rfl
  | some held => cases held <;> simp [Option.filter]

theorem sortBuckets_eq_iff {α : Type} {json : α → String} (hjson : Function.Injective json)
    {m m' : BTreeMap String (List α)} : sortBuckets json m = sortBuckets json m' ↔
      ∀ id : String, (m[id]?.getD []).Perm (m'[id]?.getD []) := by
  constructor
  · intro h id
    have hget := congrArg (fun x : BTreeMap String (List α) => x[id]?) h
    simp only [getElem?_sortBuckets] at hget
    generalize m[id]?.getD [] = l at hget ⊢
    generalize m'[id]?.getD [] = l' at hget ⊢
    by_cases hl : l = [] <;> by_cases hl' : l' = [] <;> simp [hl, hl'] at hget ⊢
    calc
      l.Perm (sortBy json l) := (sortBy_perm json l).symm
      _ = sortBy json l' := hget
      List.Perm _ l' := sortBy_perm json l'
  · intro h
    refine BTreeMap.ext fun id => ?_
    have hsort := sortBy_eq_of_perm (fun a _ b _ hab => hjson hab) (h id)
    rw [getElem?_sortBuckets, getElem?_sortBuckets, hsort]
    by_cases hnil : m'[id]?.getD [] = []
    · have hnil' : m[id]?.getD [] = [] := by
        have hperm := h id
        rw [hnil] at hperm
        exact hperm.eq_nil
      simp [hnil, hnil']
    · have hnil' : m[id]?.getD [] ≠ [] := fun h' => by
        have hperm := h id
        rw [h'] at hperm
        exact hnil hperm.symm.eq_nil
      simp [hnil, hnil']

/-- **Two states have one comparable form exactly when they agree.** -/
theorem comparable_eq_iff (hlib : lib.Documented) {s t : ConfigState} :
    comparable lib s = comparable lib t ↔ s.Agrees t := by
  simp only [comparable, ConfigState.mk.injEq, sortBuckets_eq_iff hlib.backendJson_injective,
    sortBuckets_eq_iff hlib.tcpJson_injective, sortBuckets_eq_iff hlib.udpJson_injective]
  constructor
  · rintro ⟨h1, h2, h3, h4, h5, h6, h7, h8, -⟩
    exact ⟨h1, h3, h4, h7, h8, h2, h5, h6⟩
  · intro h
    exact ⟨h.clusters, h.backendsOf, h.httpFronts, h.httpsFronts, h.tcpOf, h.udpOf,
      h.tcpListeners, h.udpListeners, trivial⟩

/-! ## A batch converges -/

/-- **A batch converges.**  Dispatched one by one on the state of the previous IR,
its routing requests are all accepted, and leave the state of the desired one. -/
theorem reconcile_converges [CharTable] (hlib : lib.Documented) {previous desired : Ir}
    {batch : List Request} (hok : reconcile lib previous desired = .ok batch) :
    ∃ a b final, routingState lib previous = .ok a ∧ routingState lib desired = .ok b ∧
      dispatchAll lib a (batch.filter fun r => !r.namesACertificate) = .ok final ∧
      comparable lib final = comparable lib b := by
  obtain ⟨a, b, prev, des, h, rfl⟩ := reconcile_ok_iff.1 hok
  have hconv := h.convergent hlib
  obtain ⟨final, hfinal, hagrees⟩ :=
    converges hlib hconv (hconv.toDiffable.routingHalf hlib prev des)
  exact ⟨a, b, final, h.previousState, h.desiredState, hfinal, (comparable_eq_iff hlib).2 hagrees⟩

/-- A route to a cluster of one backend. -/
def oneRoute (cluster : String) : Ir where
  clusters := [⟨cluster, .roundRobin, false, false, none, none, false, none⟩]
  frontends := [⟨"a.example.com", .pathPrefix "/", none, some cluster, false,
    .v4 ⟨0, 0, 0, 0⟩ 80, {}, []⟩]
  backends := [⟨cluster, "b", .v4 ⟨10, 0, 0, 1⟩ 8080, none, none⟩]

attribute [local instance] asciiTable

/-- A route moved to a new cluster. -/
theorem reconcile_converges_oneRoute :
    ∃ batch a b final, reconcile reference (oneRoute "old") (oneRoute "new") = .ok batch ∧
      routingState reference (oneRoute "old") = .ok a ∧
      routingState reference (oneRoute "new") = .ok b ∧
      dispatchAll reference a (batch.filter fun r => !r.namesACertificate) = .ok final ∧
      comparable reference final = comparable reference b := by
  have hisOk : (reconcile reference (oneRoute "old") (oneRoute "new")).isOk = true := by
    decide +kernel
  obtain ⟨batch, hok⟩ := exists_ok_of_isOk hisOk
  obtain ⟨a, b, final, ha, hb, hfinal, hcmp⟩ := reconcile_converges reference_documented hok
  exact ⟨batch, a, b, final, hok, ha, hb, hfinal, hcmp⟩

end Translator

end SozuGateway
