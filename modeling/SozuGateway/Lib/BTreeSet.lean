import SozuGateway.Lib.Sorting

/-!
# Ordered sets

`std::collections::BTreeSet`: a strictly increasing list.  Two sets with the same
members are equal (`BTreeSet.ext`), so an equality test of two sets compares
lists.

* `BTreeSet.ofList` — collecting an iterator.
* `BTreeSet.difference`, `BTreeSet.union` — as in the standard library.
-/

set_option autoImplicit false

namespace SozuGateway

/-- `std::collections::BTreeSet`, in iteration order. -/
structure BTreeSet (α : Type*) [LinearOrder α] where
  toList : List α
  sorted : toList.Pairwise (· < ·)

namespace BTreeSet

open Lib

variable {α : Type*} [LinearOrder α]

instance : DecidableEq (BTreeSet α) := fun s t =>
  decidable_of_iff (s.toList = t.toList) (by cases s; cases t; simp)

instance : Membership α (BTreeSet α) := ⟨fun s a => a ∈ s.toList⟩

instance (s : BTreeSet α) (a : α) : Decidable (a ∈ s) := inferInstanceAs (Decidable (a ∈ s.toList))

@[simp] theorem mem_toList {s : BTreeSet α} {a : α} : a ∈ s.toList ↔ a ∈ s := Iff.rfl

theorem nodup (s : BTreeSet α) : s.toList.Nodup := s.sorted.imp ne_of_lt

/-- **Two sets with the same members are equal.** -/
theorem ext {s t : BTreeSet α} (h : ∀ a, a ∈ s ↔ a ∈ t) : s = t := by
  have hlist : s.toList = t.toList := by
    refine List.Perm.eq_of_pairwise (fun a b _ _ hab hba => ?_) s.sorted t.sorted
      ((List.perm_ext_iff_of_nodup s.nodup t.nodup).2 h)
    exact absurd hab (lt_asymm hba)
  cases s
  cases t
  simpa using hlist

theorem ext_iff {s t : BTreeSet α} : s = t ↔ ∀ a, a ∈ s ↔ a ∈ t :=
  ⟨fun h _ => h ▸ Iff.rfl, ext⟩

/-- The elements of a list, each once, in order. -/
def sortedDedup (l : List α) : List α := dedupAdjacent (sortBy id l)

theorem pairwise_sortedDedup (l : List α) : (sortedDedup l).Pairwise (· < ·) := by
  have hle : (sortedDedup l).Pairwise (· ≤ ·) :=
    (pairwise_sortBy id l).sublist (dedupAdjacent_sublist _)
  have hne : (sortedDedup l).Pairwise (· ≠ ·) :=
    nodup_dedupAdjacent_sortBy fun _ _ _ _ => id
  exact (hle.and hne).imp fun h => lt_of_le_of_ne h.1 h.2

@[simp] theorem mem_sortedDedup {l : List α} {a : α} : a ∈ sortedDedup l ↔ a ∈ l := by
  show a ∈ dedupAdjacent (sortBy id l) ↔ a ∈ l
  rw [mem_dedupAdjacent, mem_sortBy]

theorem nodup_sortedDedup (l : List α) : (sortedDedup l).Nodup :=
  (pairwise_sortedDedup l).imp ne_of_lt

/-- Collecting a list into a set. -/
def ofList (l : List α) : BTreeSet α := ⟨sortedDedup l, pairwise_sortedDedup l⟩

@[simp] theorem mem_ofList {l : List α} {a : α} : a ∈ ofList l ↔ a ∈ l := mem_sortedDedup

theorem ofList_eq_ofList {l l' : List α} : ofList l = ofList l' ↔ ∀ a, a ∈ l ↔ a ∈ l' := by
  simp [ext_iff]

instance : EmptyCollection (BTreeSet α) := ⟨⟨[], .nil⟩⟩

/-- The set holds nothing. -/
def isEmpty (s : BTreeSet α) : Bool := s.toList.isEmpty

theorem isEmpty_iff {s : BTreeSet α} : s.isEmpty = true ↔ ∀ a, a ∉ s := by
  rw [isEmpty, List.isEmpty_iff, List.eq_nil_iff_forall_not_mem]
  rfl

theorem isEmpty_eq_false_iff {s : BTreeSet α} : s.isEmpty = false ↔ ∃ a, a ∈ s := by
  rw [← Bool.not_eq_true, isEmpty_iff]
  push Not
  rfl

/-- The members of `s` that are not in `t`. -/
def difference (s t : BTreeSet α) : BTreeSet α :=
  ⟨s.toList.filter (· ∉ t), s.sorted.sublist List.filter_sublist⟩

/-- The members of either set. -/
def union (s t : BTreeSet α) : BTreeSet α := ofList (s.toList ++ t.toList)

@[simp] theorem mem_union {s t : BTreeSet α} {a : α} : a ∈ s.union t ↔ a ∈ s ∨ a ∈ t := by
  simp [union]

end BTreeSet

end SozuGateway
