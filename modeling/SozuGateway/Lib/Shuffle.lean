import SozuGateway.Lib.StableSort

/-!
# Shuffled lists

What does not depend on the order of a list.

* `find?_perm` — a search with one element to find.
* `filter_flatMap_perm` — the elements of each key, when each key belongs to one element.
* `map_sortBy` — sorting before or after a map that keeps the key.
* `sortBy_index` — ties broken by place are a stable sort.
-/

set_option autoImplicit false

namespace SozuGateway

namespace Lib

variable {α β : Type*}

/-! ## Searches -/

/-- A search that can find one element only does not depend on the order. -/
theorem find?_perm {p : α → Bool} {l l' : List α} (h : l.Perm l')
    (hunique : ∀ a ∈ l, ∀ b ∈ l, p a = true → p b = true → a = b) : l.find? p = l'.find? p := by
  cases hl : l.find? p with
  | none =>
      symm
      rw [List.find?_eq_none] at hl ⊢
      intro a ha
      exact hl a (h.mem_iff.2 ha)
  | some a =>
      have ha := List.mem_of_find?_eq_some hl
      have hpa := List.find?_some hl
      cases hl' : l'.find? p with
      | none =>
          rw [List.find?_eq_none] at hl'
          exact absurd hpa (hl' a (h.mem_iff.1 ha))
      | some b =>
          have hb := h.mem_iff.2 (List.mem_of_find?_eq_some hl')
          rw [hunique a ha b hb hpa (List.find?_some hl')]

/-! ## Sorts -/

variable {κ : Type*} [LinearOrder κ]

/-- The elements of one key, when all of them are in one list. -/
theorem filter_flatMap_perm {f : α → List β} {key : β → κ} {owner : α → κ} {l l' : List α}
    (h : l.Perm l') (howner : ∀ a ∈ l, ∀ b ∈ f a, key b = owner a)
    (hnodup : (l.map owner).Nodup) (k : κ) :
    (l.flatMap f).filter (fun b => key b = k) = (l'.flatMap f).filter fun b => key b = k := by
  have hfilter : ∀ m : List α, (∀ a ∈ m, a ∈ l) → (m.flatMap f).filter (fun b => key b = k) =
      (m.filter fun a => owner a = k).flatMap f := by
    intro m hm
    induction m with
    | nil => rfl
    | cons a m ih =>
        have ha := howner a (hm a List.mem_cons_self)
        rw [List.flatMap_cons, List.filter_append, ih fun b hb => hm b (List.mem_cons_of_mem _ hb)]
        by_cases hk : owner a = k
        · have hall : (f a).filter (fun b => key b = k) = f a :=
            List.filter_eq_self.2 fun b hb => decide_eq_true ((ha b hb).trans hk)
          rw [hall, List.filter_cons_of_pos (by simpa using hk), List.flatMap_cons]
        · have hnone : (f a).filter (fun b => key b = k) = [] :=
            List.filter_eq_nil_iff.2 fun b hb => by simpa [ha b hb] using hk
          rw [hnone, List.nil_append, List.filter_cons_of_neg (by simpa using hk)]
  -- one element at most has the key
  have halone : ∀ m : List α, (m.map owner).Nodup →
      (m.filter fun a => owner a = k).Pairwise fun _ _ => False := by
    intro m hm
    refine ((List.pairwise_map.1 hm).filter _).imp_of_mem fun ha hb hne => hne ?_
    have hka := of_decide_eq_true (List.mem_filter.1 ha).2
    have hkb := of_decide_eq_true (List.mem_filter.1 hb).2
    exact hka.trans hkb.symm
  rw [hfilter l fun _ ha => ha, hfilter l' fun _ ha => h.mem_iff.2 ha]
  have hnodup' : (l'.map owner).Nodup := (h.map owner).nodup_iff.1 hnodup
  rw [List.Perm.eq_of_pairwise (fun _ _ _ _ hfalse _ => hfalse.elim) (halone l hnodup)
    (halone l' hnodup') (h.filter _)]

/-- Sorting before or after a map that keeps the key. -/
theorem map_sortBy {f : α → β} {key : α → κ} {key' : β → κ} (hkey : ∀ a, key' (f a) = key a)
    (l : List α) : (sortBy key l).map f = sortBy key' (l.map f) := by
  unfold sortBy
  refine List.map_insertionSort _ _ f l fun a _ b _ => ?_
  rw [hkey, hkey]

/-- **Ties broken by place are a stable sort.** -/
theorem sortBy_index (key : α → κ) (l : List α) :
    (sortBy (fun x : ℕ × α => (toLex (key x.2, x.1) : κ ×ₗ ℕ)) (l.zipIdx.map Prod.swap)).map
      Prod.snd = sortBy key l := by
  have hplaces : (l.zipIdx.map Prod.swap).Pairwise fun a b => a.1 ≤ b.1 := by
    have hindices : (l.zipIdx.map Prod.snd).Pairwise fun a b => a ≤ b := by
      rw [List.zipIdx_map_snd]
      exact List.pairwise_le_range'
    exact List.pairwise_map.2 (List.pairwise_map.1 hindices)
  have hsort : sortBy (fun x : ℕ × α => (toLex (key x.2, x.1) : κ ×ₗ ℕ))
      (l.zipIdx.map Prod.swap) = sortBy (fun x => key x.2) (l.zipIdx.map Prod.swap) := by
    refine eq_of_filter_key_eq (?_ : List.Pairwise (fun a b : ℕ × α => key a.2 ≤ key b.2) _)
      (pairwise_sortBy _ _) ?_
    · refine (pairwise_sortBy _ _).imp fun {a b} hab => ?_
      exact Prod.Lex.monotone_fst _ _ hab
    · intro k
      rw [filter_key_sortBy, filter_sortBy]
      refine sortBy_eq_self ((hplaces.filter _).imp_of_mem fun {a b} ha hb hab => ?_)
      have hka : key a.2 = k := of_decide_eq_true (List.mem_filter.1 ha).2
      have hkb : key b.2 = k := of_decide_eq_true (List.mem_filter.1 hb).2
      rw [Prod.Lex.toLex_le_toLex, hka, hkb]
      exact .inr ⟨rfl, hab⟩
  have hmap : (sortBy (fun x : ℕ × α => key x.2) (l.zipIdx.map Prod.swap)).map Prod.snd =
      sortBy key ((l.zipIdx.map Prod.swap).map Prod.snd) := map_sortBy (fun _ => rfl) _
  rw [hsort, hmap, List.map_map]
  congr 1
  exact List.zipIdx_map_fst 0 l

end Lib

end SozuGateway
