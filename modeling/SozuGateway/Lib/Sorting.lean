import Mathlib

/-!
# Stable sorting by a key

Facts about a list sorted by a key, for any element type and any linearly
ordered key.

* `sortBy` — the stable sort by a key (`slice::sort_by_cached_key`).
* `sortBy_eq_of_perm` — when the key tells the elements apart, the sorted list
  depends on the list only up to a permutation.
* `filter_sortBy` — a filter commutes with the sort.
* `eq_filter_append_filter` — a sorted list splits at any rank.
* `sortBy_append` — sorting two lists one of which goes before the other.
* `find?_eq_some_iff_least` — in a sorted list the first element of a kind is the least.
* `dedupAdjacent` — dropping repeated neighbours (`Vec::dedup`); on a sorted list
  it leaves each element once (`nodup_dedupAdjacent_sortBy`).
* `eq_of_mem_iff` — two lists without repetition, sorted by a key that tells
  their elements apart and holding the same elements, are equal.
-/

namespace SozuGateway
namespace Lib

variable {α κ : Type*} [LinearOrder κ]

/-! ## The sort -/

/-- The stable sort by a key. -/
def sortBy (key : α → κ) (l : List α) : List α := l.insertionSort fun a b => key a ≤ key b

instance total_key (key : α → κ) : Std.Total fun a b => key a ≤ key b :=
  ⟨fun a b => le_total (key a) (key b)⟩

instance isTrans_key (key : α → κ) : IsTrans α fun a b => key a ≤ key b := ⟨fun _ _ _ => le_trans⟩

theorem sortBy_perm (key : α → κ) (l : List α) : (sortBy key l).Perm l :=
  List.perm_insertionSort _ _

@[simp] theorem mem_sortBy {key : α → κ} {l : List α} {a : α} : a ∈ sortBy key l ↔ a ∈ l :=
  (sortBy_perm key l).mem_iff

theorem pairwise_sortBy (key : α → κ) (l : List α) :
    (sortBy key l).Pairwise fun a b => key a ≤ key b := List.pairwise_insertionSort _ _

theorem nodup_sortBy {key : α → κ} {l : List α} : (sortBy key l).Nodup ↔ l.Nodup :=
  (sortBy_perm key l).nodup_iff

/-- A key that tells the elements of `l` apart. -/
def KeyInjOn (key : α → κ) (l : List α) : Prop := ∀ a ∈ l, ∀ b ∈ l, key a = key b → a = b

/-- **The sorted list depends on the list only up to a permutation**, when the
key tells the elements apart. -/
theorem sortBy_eq_of_perm {key : α → κ} {l l' : List α} (hkey : KeyInjOn key l)
    (h : l.Perm l') : sortBy key l = sortBy key l' := by
  refine List.Perm.eq_of_pairwise (fun a b ha hb hab hba => ?_) (pairwise_sortBy key l)
    (pairwise_sortBy key l') (((sortBy_perm key l).trans h).trans (sortBy_perm key l').symm)
  exact hkey a (mem_sortBy.1 ha) b (h.mem_iff.2 (mem_sortBy.1 hb)) (le_antisymm hab hba)

theorem filter_orderedInsert {key : α → κ} (p : α → Bool) (a : α) {l : List α}
    (hl : l.Pairwise fun a b => key a ≤ key b) :
    (l.orderedInsert (fun a b => key a ≤ key b) a).filter p =
      if p a then (l.filter p).orderedInsert (fun a b => key a ≤ key b) a else l.filter p := by
  induction l with
  | nil => by_cases ha : p a <;> simp [ha]
  | cons b l ih =>
    rw [List.pairwise_cons] at hl
    by_cases hab : key a ≤ key b
    · have hhead : ∀ m : List α, (∀ c ∈ m, key b ≤ key c) →
          m.orderedInsert (fun a b => key a ≤ key b) a = a :: m := by
        intro m hm
        cases m with
        | nil => rfl
        | cons c m =>
          have hc : key a ≤ key c := le_trans hab (hm c (by simp))
          rw [List.orderedInsert, if_pos hc]
      have hfilter : ∀ c ∈ (b :: l).filter p, key b ≤ key c := by
        intro c hc
        rcases List.mem_cons.1 (List.mem_of_mem_filter hc) with rfl | hcl
        · exact le_refl _
        · exact hl.1 c hcl
      rw [List.orderedInsert, if_pos hab, List.filter_cons, hhead _ hfilter]
    · rw [List.orderedInsert, if_neg hab, List.filter_cons, ih hl.2, List.filter_cons]
      by_cases ha : p a <;> by_cases hb : p b <;> simp [ha, hb, hab]

theorem sortBy_cons (key : α → κ) (a : α) (l : List α) :
    sortBy key (a :: l) = (sortBy key l).orderedInsert (fun a b => key a ≤ key b) a := rfl

/-- A filter commutes with the sort. -/
theorem filter_sortBy (key : α → κ) (p : α → Bool) (l : List α) :
    (sortBy key l).filter p = sortBy key (l.filter p) := by
  induction l with
  | nil => rfl
  | cons a l ih =>
    rw [sortBy_cons, filter_orderedInsert p a (pairwise_sortBy key l), ih, List.filter_cons]
    by_cases ha : p a
    · simp [ha, sortBy_cons]
    · simp [ha]

/-- A list sorted by a rank splits at any rank. -/
theorem eq_filter_append_filter {rank : α → ℕ} {l : List α} (n : ℕ)
    (h : l.Pairwise fun a b => rank a ≤ rank b) :
    l = (l.filter fun a => rank a < n) ++ l.filter fun a => n ≤ rank a := by
  induction l with
  | nil => rfl
  | cons a l ih =>
    rw [List.pairwise_cons] at h
    by_cases ha : rank a < n
    · have hge : ¬n ≤ rank a := by omega
      simpa [List.filter_cons, ha, hge] using ih h.2
    · have hnone : (l.filter fun b => rank b < n) = [] := by
        rw [List.filter_eq_nil_iff]
        intro b hb
        have hab := h.1 b hb
        simp only [decide_eq_true_eq]
        omega
      have hall : (l.filter fun b => n ≤ rank b) = l := by
        rw [List.filter_eq_self]
        intro b hb
        have hab := h.1 b hb
        simp only [decide_eq_true_eq]
        omega
      have hge : n ≤ rank a := by omega
      simp [ha, hge, hnone, hall]

/-- Keys that agree on the elements sort them alike. -/
theorem sortBy_congr {key key' : α → κ} {l : List α} (h : ∀ a ∈ l, key a = key' a) :
    sortBy key l = sortBy key' l := by
  induction l with
  | nil => rfl
  | cons a l ih =>
    have hins : ∀ m : List α, (∀ c ∈ m, key c = key' c) →
        m.orderedInsert (fun a b => key a ≤ key b) a =
          m.orderedInsert (fun a b => key' a ≤ key' b) a := by
      intro m hm
      induction m with
      | nil => rfl
      | cons c m ihm =>
        rw [List.orderedInsert, List.orderedInsert, h a (by simp), hm c (by simp),
          ihm fun c' hc' => hm c' (by simp [hc'])]
    rw [sortBy_cons, sortBy_cons, ← ih fun c hc => h c (by simp [hc])]
    exact hins _ fun c hc => h c (by simpa using Or.inr (mem_sortBy.1 hc))

/-- **Two lists one of which goes before the other are sorted apart.** -/
theorem sortBy_append {key : α → κ} {l l' : List α} (h : ∀ a ∈ l, ∀ b ∈ l', key a < key b) :
    sortBy key (l ++ l') = sortBy key l ++ sortBy key l' := by
  induction l with
  | nil => rfl
  | cons a l ih =>
    have hins : ∀ m m' : List α, (∀ b ∈ m', key a < key b) →
        (m ++ m').orderedInsert (fun a b => key a ≤ key b) a =
          m.orderedInsert (fun a b => key a ≤ key b) a ++ m' := by
      intro m m' hm'
      induction m with
      | nil =>
        cases m' with
        | nil => rfl
        | cons b m' =>
          have hle := (hm' b (by simp)).le
          simp [List.orderedInsert, hle]
      | cons c m ihm =>
        rw [List.cons_append, List.orderedInsert, List.orderedInsert, ihm]
        by_cases hac : key a ≤ key c
        · rw [if_pos hac, if_pos hac]
          rfl
        · rw [if_neg hac, if_neg hac]
          rfl
    rw [List.cons_append, sortBy_cons, sortBy_cons, ih fun c hc => h c (by simp [hc])]
    exact hins _ _ fun b hb => h a (by simp) b (mem_sortBy.1 hb)

/-- **In a sorted list the first element of a kind is the least.** -/
theorem find?_eq_some_iff_least {key : α → κ} {l : List α} {p : α → Bool} {a : α}
    (h : l.Pairwise fun a b => key a < key b) :
    l.find? p = some a ↔ a ∈ l ∧ p a = true ∧ ∀ b ∈ l, p b = true → key a ≤ key b := by
  induction l with
  | nil => simp
  | cons c l ih =>
    rw [List.pairwise_cons] at h
    rw [List.find?_cons]
    by_cases hc : p c = true
    · rw [hc]
      simp only [Option.some.injEq, List.mem_cons]
      constructor
      · rintro rfl
        refine ⟨.inl rfl, hc, fun b hb _ => ?_⟩
        rcases hb with rfl | hb
        · exact le_refl _
        · exact (h.1 b hb).le
      · rintro ⟨ha | ha, -, hleast⟩
        · exact ha.symm
        · exact absurd (hleast c (.inl rfl) hc) (not_le.2 (h.1 a ha))
    · have hc' : p c = false := by simpa using hc
      rw [hc', ih h.2]
      constructor
      · rintro ⟨ha, hpa, hleast⟩
        refine ⟨by simp [ha], hpa, fun b hb hpb => ?_⟩
        rcases List.mem_cons.1 hb with rfl | hb
        · exact absurd hpb hc
        · exact hleast b hb hpb
      · rintro ⟨ha, hpa, hleast⟩
        rcases List.mem_cons.1 ha with rfl | ha
        · exact absurd hpa hc
        · exact ⟨ha, hpa, fun b hb => hleast b (by simp [hb])⟩

/-- **In front of a sorted list stand all that pass a test its order respects.** -/
theorem takeWhile_eq_filter {p : α → Bool} {l : List α}
    (h : l.Pairwise fun a b => p b = true → p a = true) : l.takeWhile p = l.filter p := by
  induction l with
  | nil => rfl
  | cons a l ih =>
    rw [List.pairwise_cons] at h
    by_cases ha : p a = true
    · rw [List.takeWhile_cons_of_pos ha, List.filter_cons_of_pos ha, ih h.2]
    · rw [List.takeWhile_cons_of_neg ha, List.filter_cons_of_neg ha, eq_comm,
        List.filter_eq_nil_iff]
      exact fun b hb hpb => ha (h.1 b hb hpb)

/-! ## Dropping repeated neighbours -/

section Dedup

variable [DecidableEq α]

/-- Drop every element equal to the one before it. -/
def dedupAdjacent (l : List α) : List α := l.destutter (· ≠ ·)

theorem destutter'_ne_mem (a : α) (l : List α) (c : α) :
    c ∈ l.destutter' (· ≠ ·) a ↔ c = a ∨ c ∈ l := by
  induction l generalizing a with
  | nil => simp
  | cons b l ih =>
    by_cases hab : a = b
    · subst hab
      rw [List.destutter'_cons_neg _ (by simp), ih]
      simp
    · rw [List.destutter'_cons_pos _ hab, List.mem_cons, ih, List.mem_cons]

@[simp] theorem mem_dedupAdjacent {l : List α} {c : α} : c ∈ dedupAdjacent l ↔ c ∈ l := by
  cases l with
  | nil => simp [dedupAdjacent]
  | cons a l => rw [dedupAdjacent, List.destutter_cons', destutter'_ne_mem, List.mem_cons]

theorem dedupAdjacent_sublist (l : List α) : (dedupAdjacent l).Sublist l :=
  List.destutter_sublist _ l

theorem dedupAdjacent_eq_self {l : List α} (h : l.Nodup) : dedupAdjacent l = l :=
  List.destutter_of_isChain _ l (List.Pairwise.isChain h)

/-- On a list sorted by a key that tells the elements apart, dropping repeated
neighbours leaves each element once. -/
theorem nodup_dedupAdjacent_sortBy {key : α → κ} {l : List α} (hkey : KeyInjOn key l) :
    (dedupAdjacent (sortBy key l)).Nodup := by
  have hsorted : ∀ m : List α, (m.Pairwise fun a b => key a ≤ key b) → KeyInjOn key m →
      ∀ a, (∀ c ∈ m, key a ≤ key c) → (∀ c ∈ m, key a = key c → a = c) →
        (m.destutter' (· ≠ ·) a).Nodup := by
    intro m
    induction m with
    | nil => intro _ _ a _ _; simp
    | cons b m ih =>
      intro hm hinj a ha hainj
      rw [List.pairwise_cons] at hm
      have hinj' : KeyInjOn key m := fun x hx y hy => hinj x (by simp [hx]) y (by simp [hy])
      by_cases hab : a = b
      · subst hab
        rw [List.destutter'_cons_neg _ (by simp)]
        exact ih hm.2 hinj' a hm.1 fun c hc => hainj c (by simp [hc])
      · rw [List.destutter'_cons_pos _ hab, List.nodup_cons, destutter'_ne_mem]
        refine ⟨?_, ih hm.2 hinj' b hm.1 fun c hc => hinj b (by simp) c (by simp [hc])⟩
        rintro (h | h)
        · exact hab h
        · -- a repeated `a` would be squeezed onto `b`
          have hba : key b = key a := le_antisymm (hm.1 a h) (ha b (by simp))
          exact hab (hainj b (by simp) hba.symm)
  have hperm : KeyInjOn key (sortBy key l) := fun a ha b hb =>
    hkey a (mem_sortBy.1 ha) b (mem_sortBy.1 hb)
  have hpair := pairwise_sortBy key l
  rw [dedupAdjacent]
  cases hl : sortBy key l with
  | nil => simp
  | cons a m =>
    rw [hl] at hperm hpair
    rw [List.pairwise_cons] at hpair
    rw [List.destutter_cons']
    exact hsorted m hpair.2 (fun x hx y hy => hperm x (by simp [hx]) y (by simp [hy])) a hpair.1
      fun c hc => hperm a (by simp) c (by simp [hc])

end Dedup

/-! ## Sorted lists with the same elements -/

/-- **Two sorted lists without repetition that hold the same elements are
equal**, when the key tells the elements apart. -/
theorem eq_of_mem_iff {key : α → κ} {l l' : List α} (hkey : KeyInjOn key l)
    (hl : l.Pairwise fun a b => key a ≤ key b) (hl' : l'.Pairwise fun a b => key a ≤ key b)
    (hnd : l.Nodup) (hnd' : l'.Nodup) (hmem : ∀ a, a ∈ l ↔ a ∈ l') : l = l' := by
  refine List.Perm.eq_of_pairwise (fun a b ha hb hab hba => ?_) hl hl'
    ((List.perm_ext_iff_of_nodup hnd hnd').2 hmem)
  exact hkey a ha b ((hmem b).2 hb) (le_antisymm hab hba)

/-! ## Sorted lists without repetition -/

section Dedup

variable [DecidableEq α]

theorem pairwise_dedupAdjacent_sortBy (key : α → κ) (l : List α) :
    (dedupAdjacent (sortBy key l)).Pairwise fun a b => key a ≤ key b :=
  (pairwise_sortBy key l).sublist (dedupAdjacent_sublist _)

/-- A filter commutes with sorting and dropping repetitions. -/
theorem filter_dedupAdjacent_sortBy {key : α → κ} (p : α → Bool) {l : List α}
    (hkey : KeyInjOn key l) :
    (dedupAdjacent (sortBy key l)).filter p = dedupAdjacent (sortBy key (l.filter p)) := by
  have hkey' : KeyInjOn key (l.filter p) := fun a ha b hb =>
    hkey a (List.mem_of_mem_filter ha) b (List.mem_of_mem_filter hb)
  refine @eq_of_mem_iff _ _ _ key _ _ (fun a ha b hb => ?_)
    ((pairwise_dedupAdjacent_sortBy key l).sublist List.filter_sublist)
    (pairwise_dedupAdjacent_sortBy key _) ((nodup_dedupAdjacent_sortBy hkey).filter p)
    (nodup_dedupAdjacent_sortBy hkey') (by simp)
  exact hkey a (by simpa using List.mem_of_mem_filter ha) b
    (by simpa using List.mem_of_mem_filter hb)

/-- Dropping repeated neighbours commutes with a map that tells the elements
apart. -/
theorem dedupAdjacent_map {β : Type*} [DecidableEq β] {f : α → β} {l : List α}
    (hf : ∀ a ∈ l, ∀ b ∈ l, f a = f b → a = b) :
    dedupAdjacent (l.map f) = (dedupAdjacent l).map f :=
  (List.map_destutter fun a ha b hb => not_congr ⟨congrArg f, hf a ha b hb⟩).symm

theorem destutter'_ne_eq_cons (a : α) (l : List α) : ∃ m, l.destutter' (· ≠ ·) a = a :: m := by
  induction l with
  | nil => exact ⟨[], rfl⟩
  | cons b l ih =>
    by_cases hab : a = b
    · subst hab
      rw [List.destutter'_cons_neg _ (by simp)]
      exact ih
    · exact ⟨_, List.destutter'_cons_pos _ hab⟩

theorem destutter'_map_destutter' {β : Type*} [DecidableEq β] (f : α → β) (l : List α) (a : α)
    (b : β) : ((l.destutter' (· ≠ ·) a).map f).destutter' (· ≠ ·) b =
      ((a :: l).map f).destutter' (· ≠ ·) b := by
  induction l generalizing a b with
  | nil => rfl
  | cons c l ih =>
    simp only [List.map_cons] at ih ⊢
    by_cases hac : a = c
    · subst hac
      rw [List.destutter'_cons_neg _ (by simp), ih]
      by_cases hb : b = f a
      · subst hb
        rw [List.destutter'_cons_neg _ (by simp), List.destutter'_cons_neg _ (by simp),
          List.destutter'_cons_neg _ (by simp)]
      · rw [List.destutter'_cons_pos _ hb, List.destutter'_cons_pos _ hb,
          List.destutter'_cons_neg _ (by simp)]
    · rw [List.destutter'_cons_pos _ hac, List.map_cons]
      by_cases hb : b = f a
      · subst hb
        rw [List.destutter'_cons_neg _ (by simp), List.destutter'_cons_neg _ (by simp), ih]
      · rw [List.destutter'_cons_pos _ hb, List.destutter'_cons_pos _ hb, ih]

/-- Dropping repeated neighbours before a map changes nothing after it. -/
theorem dedupAdjacent_map_dedupAdjacent {β : Type*} [DecidableEq β] (f : α → β) (l : List α) :
    dedupAdjacent ((dedupAdjacent l).map f) = dedupAdjacent (l.map f) := by
  cases l with
  | nil => rfl
  | cons a l =>
    obtain ⟨m, hm⟩ := destutter'_ne_eq_cons a l
    have h := destutter'_map_destutter' f l a (f a)
    rw [hm, List.map_cons, List.map_cons, List.destutter'_cons_neg _ (by simp),
      List.destutter'_cons_neg _ (by simp)] at h
    rw [dedupAdjacent, dedupAdjacent, dedupAdjacent, List.destutter_cons', hm, List.map_cons,
      List.map_cons, List.destutter_cons', List.destutter_cons', h]

/-- Elements that occur once survive the dropping of repeated neighbours. -/
theorem filter_dedupAdjacent_of_nodup {p : α → Bool} {l : List α} (h : (l.filter p).Nodup) :
    (dedupAdjacent l).filter p = l.filter p := by
  have hsub : ((dedupAdjacent l).filter p).Sublist (l.filter p) :=
    (dedupAdjacent_sublist l).filter p
  have hperm : ((dedupAdjacent l).filter p).Perm (l.filter p) :=
    (List.perm_ext_iff_of_nodup (h.sublist hsub) h).2 (by simp)
  exact hsub.eq_of_length hperm.length_eq

end Dedup

end Lib
end SozuGateway
