import SozuGateway.Lib.Sorting

/-!
# What a stable sort keeps

A stable sort is determined by the elements of each key in their order.

* `sortBy_eq_self` — a sorted list is left as it is.
* `eq_of_filter_key_eq` — two sorted lists with the same elements of each key, in order,
  are equal; `sortBy_congr_filter` — so are two lists sorted by the key.
* `sortBy_sortBy_append` — sorting part of a list first changes nothing.
-/

set_option autoImplicit false

namespace SozuGateway
namespace Lib

variable {α κ : Type*} [LinearOrder κ] {key : α → κ}

theorem sortBy_eq_self {l : List α} (h : l.Pairwise fun a b => key a ≤ key b) :
    sortBy key l = l := h.insertionSort_eq

/-- The elements of one key keep their order. -/
theorem filter_key_sortBy (l : List α) (k : κ) :
    (sortBy key l).filter (fun a => key a = k) = l.filter fun a => key a = k := by
  rw [filter_sortBy]
  apply sortBy_eq_self
  apply List.pairwise_of_forall_mem_list
  intro a ha b hb
  have hak : key a = k := by simpa using (List.mem_filter.1 ha).2
  have hbk : key b = k := by simpa using (List.mem_filter.1 hb).2
  exact le_of_eq (hak.trans hbk.symm)

theorem eq_of_filter_key_eq {l l' : List α} (hl : l.Pairwise fun a b => key a ≤ key b)
    (hl' : l'.Pairwise fun a b => key a ≤ key b)
    (h : ∀ k, l.filter (fun a => key a = k) = l'.filter fun a => key a = k) : l = l' := by
  induction l generalizing l' with
  | nil =>
    symm
    rw [List.eq_nil_iff_forall_not_mem]
    intro b hb
    have hmem : b ∈ l'.filter fun a => key a = key b := List.mem_filter.2 ⟨hb, by simp⟩
    rw [← h (key b)] at hmem
    simp at hmem
  | cons a l ih =>
    cases l' with
    | nil =>
      have hmem : a ∈ (a :: l).filter fun c => key c = key a := List.mem_filter.2 ⟨by simp, by simp⟩
      rw [h (key a)] at hmem
      simp at hmem
    | cons b l' =>
      rw [List.pairwise_cons] at hl hl'
      -- each head is the least of its list, and both lists hold the same keys
      have hab : key a ≤ key b := by
        have hmem : b ∈ (b :: l').filter fun c => key c = key b :=
          List.mem_filter.2 ⟨by simp, by simp⟩
        rw [← h (key b)] at hmem
        rcases List.mem_cons.1 (List.mem_filter.1 hmem).1 with rfl | hin
        · exact le_refl _
        · exact hl.1 b hin
      have hba : key b ≤ key a := by
        have hmem : a ∈ (a :: l).filter fun c => key c = key a :=
          List.mem_filter.2 ⟨by simp, by simp⟩
        rw [h (key a)] at hmem
        rcases List.mem_cons.1 (List.mem_filter.1 hmem).1 with rfl | hin
        · exact le_refl _
        · exact hl'.1 a hin
      have hkey : key a = key b := le_antisymm hab hba
      have hhead := h (key a)
      rw [List.filter_cons_of_pos (by simp), List.filter_cons_of_pos (by simp [hkey])] at hhead
      obtain ⟨rfl, htail⟩ := List.cons.inj hhead
      refine congrArg (a :: ·) (ih hl.2 hl'.2 fun k => ?_)
      have hk := h k
      by_cases hak : key a = k
      · rw [List.filter_cons_of_pos (by simpa using hak),
          List.filter_cons_of_pos (by simpa using hak)] at hk
        exact (List.cons.inj hk).2
      · rw [List.filter_cons_of_neg (by simpa using hak),
          List.filter_cons_of_neg (by simpa using hak)] at hk
        exact hk

/-- **The sorted list depends only on the elements of each key, in their order.** -/
theorem sortBy_congr_filter {l l' : List α}
    (h : ∀ k, l.filter (fun a => key a = k) = l'.filter fun a => key a = k) :
    sortBy key l = sortBy key l' := by
  refine eq_of_filter_key_eq (pairwise_sortBy key l) (pairwise_sortBy key l') fun k => ?_
  rw [filter_key_sortBy, filter_key_sortBy, h k]

theorem sortBy_sortBy_append (l l' : List α) :
    sortBy key (sortBy key l ++ l') = sortBy key (l ++ l') := by
  refine sortBy_congr_filter fun k => ?_
  rw [List.filter_append, List.filter_append, filter_key_sortBy]

end Lib
end SozuGateway
