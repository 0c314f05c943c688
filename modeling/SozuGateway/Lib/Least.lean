import SozuGateway.Lib.BTreeMap

/-!
# The least holder of each key

A fold that leaves at each key of an ordered map the first of the values with the
least rank.

* `keepLeast` — offer one value for a key; `leastByKey` — offer a list of them.
* `mem_of_leastByKey`, `leastByKey_le`, `leastByKey_eq_none_iff` — what the map holds.
-/

set_option autoImplicit false

namespace SozuGateway
namespace Lib

variable {K V : Type} {R : Type*} [LinearOrder K] [LinearOrder R]

/-- Give a key to a value, unless it is held by one at most as high. -/
def keepLeast (rank : V → R) (m : BTreeMap K V) (offer : K × V) : BTreeMap K V :=
  match m[offer.1]? with
  | none => m.insert offer.1 offer.2
  | some best => if rank offer.2 < rank best then m.insert offer.1 offer.2 else m

/-- Each key with the least of the values offered for it. -/
def leastByKey (rank : V → R) (offers : List (K × V)) : BTreeMap K V :=
  offers.foldl (keepLeast rank) ∅

variable {rank : V → R}

/-- The map holds the least of the values offered for a key. -/
def HoldsLeast (rank : V → R) (offers : List (K × V)) (m : BTreeMap K V) (k : K) : Prop :=
  match m[k]? with
  | none => ∀ v, (k, v) ∉ offers
  | some best => (k, best) ∈ offers ∧ ∀ v, (k, v) ∈ offers → rank best ≤ rank v

theorem HoldsLeast.keepLeast {offers : List (K × V)} {m : BTreeMap K V} {k : K}
    (h : HoldsLeast rank offers m k) (offer : K × V) :
    HoldsLeast rank (offers ++ [offer]) (keepLeast rank m offer) k := by
  obtain ⟨a, v⟩ := offer
  by_cases ha : a = k
  · subst ha
    unfold HoldsLeast at h ⊢
    unfold Lib.keepLeast
    cases hm : m[a]? with
    | none =>
      rw [hm] at h
      simp only [BTreeMap.getElem?_insert, if_true, List.mem_append, List.mem_singleton]
      refine ⟨.inr trivial, fun w hw => ?_⟩
      rcases hw with hw | hw
      · exact absurd hw (h w)
      · rw [(Prod.mk.inj hw).2]
    | some best =>
      rw [hm] at h
      by_cases hlt : rank v < rank best
      · simp only [hlt, if_true, BTreeMap.getElem?_insert, List.mem_append, List.mem_singleton]
        refine ⟨.inr trivial, fun w hw => ?_⟩
        rcases hw with hw | hw
        · exact hlt.le.trans (h.2 w hw)
        · rw [(Prod.mk.inj hw).2]
      · simp only [hlt, if_false, hm, List.mem_append, List.mem_singleton]
        refine ⟨.inl h.1, fun w hw => ?_⟩
        rcases hw with hw | hw
        · exact h.2 w hw
        · rw [(Prod.mk.inj hw).2]
          exact not_lt.1 hlt
  · have hsame : (Lib.keepLeast rank m (a, v))[k]? = m[k]? := by
      unfold Lib.keepLeast
      cases hm : m[a]? with
      | none => exact (BTreeMap.getElem?_insert _ _ _ _).trans (if_neg ha)
      | some best =>
        by_cases hlt : rank v < rank best
        · simpa [hlt] using (BTreeMap.getElem?_insert m a k v).trans (if_neg ha)
        · simp [hlt]
    unfold HoldsLeast at h ⊢
    have hother : ∀ w, (k, w) ≠ (a, v) := fun w hw => ha (Prod.mk.inj hw).1.symm
    rw [hsame]
    cases hm : m[k]? <;> rw [hm] at h <;> simpa [hother] using h

theorem holdsLeast_foldl {offers : List (K × V)} {m : BTreeMap K V} {k : K}
    (h : HoldsLeast rank offers m k) (more : List (K × V)) :
    HoldsLeast rank (offers ++ more) (more.foldl (keepLeast rank) m) k := by
  induction more generalizing offers m with
  | nil => rwa [List.append_nil]
  | cons offer more ih =>
    have hstep := ih (h.keepLeast offer)
    rwa [List.append_assoc] at hstep

/-- **Each key holds the least of the values offered for it.** -/
theorem holdsLeast_leastByKey (rank : V → R) (offers : List (K × V)) (k : K) :
    HoldsLeast rank offers (leastByKey rank offers) k := by
  have hempty : HoldsLeast rank ([] : List (K × V)) ∅ k := by simp [HoldsLeast]
  exact holdsLeast_foldl hempty offers

theorem mem_of_leastByKey {offers : List (K × V)} {k : K} {best : V}
    (h : (leastByKey rank offers)[k]? = some best) : (k, best) ∈ offers := by
  have hleast := holdsLeast_leastByKey rank offers k
  rw [HoldsLeast, h] at hleast
  exact hleast.1

theorem leastByKey_le {offers : List (K × V)} {k : K} {best v : V}
    (h : (leastByKey rank offers)[k]? = some best) (hv : (k, v) ∈ offers) :
    rank best ≤ rank v := by
  have hleast := holdsLeast_leastByKey rank offers k
  rw [HoldsLeast, h] at hleast
  exact hleast.2 v hv

theorem leastByKey_eq_none_iff {offers : List (K × V)} {k : K} :
    (leastByKey rank offers)[k]? = none ↔ ∀ v, (k, v) ∉ offers := by
  have hleast := holdsLeast_leastByKey rank offers k
  rw [HoldsLeast] at hleast
  cases h : (leastByKey rank offers)[k]? with
  | none =>
    rw [h] at hleast
    exact ⟨fun _ => hleast, fun _ => rfl⟩
  | some best =>
    rw [h] at hleast
    exact ⟨nofun, fun hnone => absurd hleast.1 (hnone best)⟩

end Lib
end SozuGateway
