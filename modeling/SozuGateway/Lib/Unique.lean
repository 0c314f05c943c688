import Mathlib

/-!
# First occurrence of a key

`uniqueBy key l` keeps of each key's elements the first (a `BTreeSet::insert` as
an iterator's filter).

* `mem_uniqueBy` — an element is kept exactly when it is the first of its key.
* `nodup_map_uniqueBy` — each key is kept once, and `exists_mem_uniqueBy` — every
  key is kept.
* `uniqueBy_eq_filter` — so the elements kept are a filter of the list.
* `uniqueBy_eq_self` — nothing is dropped when the keys are pairwise distinct.
* `IsFirst` — the first element with a property, which is what `find?` finds.
* `nodup_filterMap_of_split`, `not_repeated_of_nodup_filterMap` — no repeated key,
  read at each position of a list.
-/

set_option autoImplicit false

namespace SozuGateway
namespace Lib

variable {α κ : Type*} [DecidableEq κ]

/-- The elements of `l` whose key is not in `seen`, the first of each key. -/
def uniqueFrom (key : α → κ) : List κ → List α → List α
  | _, [] => []
  | seen, a :: l =>
      if key a ∈ seen then uniqueFrom key seen l else a :: uniqueFrom key (key a :: seen) l

/-- The first element of each key, in order. -/
def uniqueBy (key : α → κ) (l : List α) : List α := uniqueFrom key [] l

variable {key : α → κ}

theorem uniqueFrom_sublist (seen : List κ) (l : List α) : (uniqueFrom key seen l).Sublist l := by
  induction l generalizing seen with
  | nil => exact .slnil
  | cons a l ih =>
    rw [uniqueFrom]
    split
    · exact (ih seen).cons a
    · exact (ih _).cons_cons a

theorem mem_uniqueFrom {seen : List κ} {l : List α} {a : α} :
    a ∈ uniqueFrom key seen l ↔ key a ∉ seen ∧ l.find? (fun b => key b = key a) = some a := by
  induction l generalizing seen with
  | nil => simp [uniqueFrom]
  | cons b l ih =>
    rw [uniqueFrom, List.find?_cons]
    by_cases hb : key b ∈ seen
    · rw [if_pos hb, ih]
      by_cases hab : key b = key a
      · simp [← hab, hb]
      · simp [hab]
    · rw [if_neg hb, List.mem_cons, ih]
      by_cases hab : key b = key a
      · have hseen : key a ∉ seen := hab ▸ hb
        simp [hab, hseen, eq_comm]
      · have hne : a ≠ b := fun h => hab (by rw [h])
        simp [hab, hne, Ne.symm hab]

/-- **An element is kept exactly when it is the first of its key.** -/
theorem mem_uniqueBy {l : List α} {a : α} :
    a ∈ uniqueBy key l ↔ l.find? (fun b => key b = key a) = some a := by
  simp [uniqueBy, mem_uniqueFrom]

theorem uniqueBy_sublist (key : α → κ) (l : List α) : (uniqueBy key l).Sublist l :=
  uniqueFrom_sublist [] l

theorem mem_of_mem_uniqueBy {l : List α} {a : α} (h : a ∈ uniqueBy key l) : a ∈ l :=
  (uniqueBy_sublist key l).subset h

theorem nodup_map_uniqueFrom (seen : List κ) (l : List α) :
    ((uniqueFrom key seen l).map key).Nodup := by
  induction l generalizing seen with
  | nil => simp [uniqueFrom]
  | cons a l ih =>
    rw [uniqueFrom]
    split
    · exact ih seen
    · rw [List.map_cons, List.nodup_cons]
      refine ⟨?_, ih _⟩
      intro hmem
      obtain ⟨b, hb, hkey⟩ := List.mem_map.1 hmem
      have hseen := (mem_uniqueFrom.1 hb).1
      exact hseen (by simp [hkey])

/-- Each key is kept once. -/
theorem nodup_map_uniqueBy (key : α → κ) (l : List α) : ((uniqueBy key l).map key).Nodup :=
  nodup_map_uniqueFrom [] l

/-- Every key is kept. -/
theorem exists_mem_uniqueBy (key : α → κ) {l : List α} {a : α} (h : a ∈ l) :
    ∃ b ∈ uniqueBy key l, key b = key a := by
  cases hfind : l.find? (fun b => key b = key a) with
  | none =>
    have hnot := List.find?_eq_none.1 hfind a h
    simp at hnot
  | some b =>
    have hb : key b = key a := by simpa using List.find?_some hfind
    refine ⟨b, mem_uniqueBy.2 ?_, hb⟩
    rw [hb]
    exact hfind

theorem uniqueFrom_eq_self {seen : List κ} {l : List α} (hnd : (l.map key).Nodup)
    (hseen : ∀ a ∈ l, key a ∉ seen) : uniqueFrom key seen l = l := by
  induction l generalizing seen with
  | nil => rfl
  | cons a l ih =>
    rw [List.map_cons, List.nodup_cons] at hnd
    rw [uniqueFrom, if_neg (hseen a (by simp)), ih hnd.2]
    intro b hb
    rw [List.mem_cons, not_or]
    refine ⟨fun h => hnd.1 ?_, hseen b (by simp [hb])⟩
    exact h ▸ List.mem_map_of_mem hb

/-- **Nothing is dropped when the keys are pairwise distinct.** -/
theorem uniqueBy_eq_self {l : List α} (hnd : (l.map key).Nodup) : uniqueBy key l = l :=
  uniqueFrom_eq_self hnd (by simp)

/-- An element whose key no other element has is kept. -/
theorem mem_uniqueBy_of_inj {l : List α} {a : α} (ha : a ∈ l)
    (hinj : ∀ b ∈ l, key b = key a → b = a) : a ∈ uniqueBy key l := by
  obtain ⟨b, hb, hkey⟩ := exists_mem_uniqueBy key ha
  rwa [hinj b (mem_of_mem_uniqueBy hb) hkey] at hb

theorem filter_uniqueFrom (seen : List κ) (l : List α) (k : κ) :
    (uniqueFrom key seen l).filter (fun a => key a = k) =
      if k ∈ seen then [] else (l.filter fun a => key a = k).take 1 := by
  induction l generalizing seen with
  | nil => simp [uniqueFrom]
  | cons a l ih =>
    rw [uniqueFrom]
    by_cases hseen : key a ∈ seen
    · rw [if_pos hseen, ih]
      by_cases hk : k ∈ seen
      · rw [if_pos hk, if_pos hk]
      · have hne : key a ≠ k := fun h => hk (h ▸ hseen)
        rw [if_neg hk, if_neg hk, List.filter_cons_of_neg (by simpa using hne)]
    · rw [if_neg hseen]
      by_cases ha : key a = k
      · subst ha
        rw [List.filter_cons_of_pos (by simp), ih, if_neg hseen, if_pos (by simp),
          List.filter_cons_of_pos (by simp)]
        rfl
      · rw [List.filter_cons_of_neg (by simpa using ha), ih,
          List.filter_cons_of_neg (by simpa using ha)]
        have hcons : k ∈ key a :: seen ↔ k ∈ seen := by simp [Ne.symm ha]
        by_cases hk : k ∈ seen
        · rw [if_pos hk, if_pos (hcons.2 hk)]
        · rw [if_neg hk, if_neg fun h => hk (hcons.1 h)]

/-- Of each key the first element is kept. -/
theorem filter_uniqueBy (l : List α) (k : κ) :
    (uniqueBy key l).filter (fun a => key a = k) = (l.filter fun a => key a = k).take 1 := by
  rw [uniqueBy, filter_uniqueFrom, if_neg (by simp)]

/-- The first element of a key is the one kept. -/
theorem find?_uniqueBy (l : List α) (k : κ) :
    (uniqueBy key l).find? (fun a => key a = k) = l.find? fun a => key a = k := by
  rw [← List.head?_filter, ← List.head?_filter, filter_uniqueBy]
  cases l.filter fun a => key a = k <;> rfl

theorem uniqueFrom_congr {seen seen' : List κ} (h : ∀ k, k ∈ seen ↔ k ∈ seen') (l : List α) :
    uniqueFrom key seen l = uniqueFrom key seen' l := by
  induction l generalizing seen seen' with
  | nil => rfl
  | cons a l ih =>
    have hcons : ∀ k, k ∈ key a :: seen ↔ k ∈ key a :: seen' := fun k => by
      rw [List.mem_cons, List.mem_cons, h]
    rw [uniqueFrom, uniqueFrom, ih h, ih hcons]
    simp only [h]

theorem uniqueFrom_append (seen : List κ) (l l' : List α) :
    uniqueFrom key seen (l ++ l') =
      uniqueFrom key seen l ++ uniqueFrom key (l.map key ++ seen) l' := by
  induction l generalizing seen with
  | nil => rfl
  | cons a l ih =>
    rw [List.cons_append, uniqueFrom, uniqueFrom]
    by_cases ha : key a ∈ seen
    · rw [if_pos ha, if_pos ha, ih]
      refine congrArg _ (uniqueFrom_congr (fun k => ?_) l')
      simp only [List.map_cons, List.cons_append, List.mem_cons, List.mem_append]
      constructor
      · exact .inr
      · rintro (rfl | hk)
        · exact .inr ha
        · exact hk
    · rw [if_neg ha, if_neg ha, ih, List.cons_append]
      refine congrArg _ (congrArg _ (uniqueFrom_congr (fun k => ?_) l'))
      simp only [List.map_cons, List.cons_append, List.mem_cons, List.mem_append]
      tauto

theorem uniqueFrom_map {β : Type*} (f : β → α) (seen : List κ) (l : List β) :
    uniqueFrom key seen (l.map f) = (uniqueFrom (fun b => key (f b)) seen l).map f := by
  induction l generalizing seen with
  | nil => rfl
  | cons b l ih =>
    rw [List.map_cons, uniqueFrom, uniqueFrom]
    by_cases hb : key (f b) ∈ seen
    · rw [if_pos hb, if_pos hb, ih]
    · rw [if_neg hb, if_neg hb, ih, List.map_cons]

theorem uniqueFrom_eq_filter [DecidableEq α] {l : List α} (hnd : l.Nodup) (seen : List κ) :
    uniqueFrom key seen l =
      l.filter fun a => key a ∉ seen ∧ l.find? (fun b => key b = key a) = some a := by
  induction l generalizing seen with
  | nil => rfl
  | cons a l ih =>
    rw [List.nodup_cons] at hnd
    have hrest : ∀ b ∈ l, ((a :: l).find? fun c => key c = key b) = some b ↔
        key a ≠ key b ∧ (l.find? fun c => key c = key b) = some b := by
      intro b hb
      have hne : a ≠ b := fun h => hnd.1 (h ▸ hb)
      rw [List.find?_cons]
      by_cases hab : key a = key b
      · simp [hab, hne]
      · simp [hab]
    rw [uniqueFrom]
    by_cases ha : key a ∈ seen
    · rw [if_pos ha, List.filter_cons_of_neg (by simp [ha]), ih hnd.2]
      refine List.filter_congr fun b hb => ?_
      rw [decide_eq_decide, hrest b hb]
      exact ⟨fun h => ⟨h.1, fun hab => h.1 (hab ▸ ha), h.2⟩, fun h => ⟨h.1, h.2.2⟩⟩
    · rw [if_neg ha, List.filter_cons_of_pos (by simp [ha]), ih hnd.2]
      refine congrArg _ (List.filter_congr fun b hb => ?_)
      rw [decide_eq_decide, hrest b hb, List.mem_cons, not_or, ne_comm]
      tauto

/-- **The elements kept are those that come first of their key.** -/
theorem uniqueBy_eq_filter [DecidableEq α] {l : List α} (hnd : l.Nodup) :
    uniqueBy key l = l.filter fun a => l.find? (fun b => key b = key a) = some a := by
  rw [uniqueBy, uniqueFrom_eq_filter hnd]
  simp

/-! ## Keys some elements have -/

section Partial

variable {β : Type*} {f : α → Option β} {l : List α}

/-- A list is free of repeated keys when no element repeats a key before it. -/
theorem nodup_filterMap_of_split
    (h : ∀ p a rest, l = p ++ a :: rest → ∀ x, f a = some x → ∀ b ∈ p, f b ≠ some x) :
    (l.filterMap f).Nodup := by
  induction l using List.reverseRecOn with
  | nil => simp
  | append_singleton l a ih =>
    have hl : (l.filterMap f).Nodup := ih fun p b rest hsplit =>
      h p b (rest ++ [a]) (by rw [hsplit]; simp)
    rw [List.filterMap_append, List.nodup_append]
    refine ⟨hl, ?_, ?_⟩
    · cases hfa : f a <;> simp [hfa]
    · intro x hx y hy
      obtain ⟨b, hb, hfb⟩ := List.mem_filterMap.1 hx
      obtain ⟨c, hc, hfc⟩ := List.mem_filterMap.1 hy
      rw [List.mem_singleton.1 hc] at hfc
      rintro rfl
      exact h l a [] rfl x hfc b hb hfb

/-- In a list free of repeated keys, no element repeats a key before it. -/
theorem not_repeated_of_nodup_filterMap (h : (l.filterMap f).Nodup) {p rest : List α} {a b : α}
    {x : β} (hsplit : l = p ++ a :: rest) (ha : f a = some x) (hb : b ∈ p) : f b ≠ some x := by
  intro hfb
  rw [hsplit, List.filterMap_append, List.nodup_append] at h
  refine h.2.2 x (List.mem_filterMap.2 ⟨b, hb, hfb⟩) x ?_ rfl
  exact List.mem_filterMap.2 ⟨a, by simp, ha⟩

/-- In a list free of repeated keys, elements with one key are one element. -/
theorem eq_of_nodup_filterMap (h : (l.filterMap f).Nodup) {a b : α} {x : β} (ha : a ∈ l)
    (hb : b ∈ l) (hfa : f a = some x) (hfb : f b = some x) : a = b := by
  obtain ⟨p, rest, hsplit⟩ := List.append_of_mem ha
  have hb' := hb
  rw [hsplit, List.mem_append, List.mem_cons] at hb'
  rcases hb' with hb' | rfl | hb'
  · exact absurd hfb (not_repeated_of_nodup_filterMap h hsplit hfa hb')
  · rfl
  · obtain ⟨q, rest', hsplit'⟩ := List.append_of_mem hb'
    have hsplit₂ : l = (p ++ a :: q) ++ b :: rest' := by rw [hsplit, hsplit']; simp
    exact absurd hfa (not_repeated_of_nodup_filterMap h hsplit₂ hfb (by simp))

/-- The elements that give something, against what they give. -/
theorem forall₂_filterMap {p : α → Bool} {r : α → β → Prop}
    (hp : ∀ a ∈ l, p a = (f a).isSome) (hr : ∀ a ∈ l, ∀ b, f a = some b → r a b) :
    List.Forall₂ r (l.filter p) (l.filterMap f) := by
  induction l with
  | nil => exact .nil
  | cons a l ih =>
    have hrest := ih (fun c hc => hp c (by simp [hc])) fun c hc => hr c (by simp [hc])
    have ha := hp a (by simp)
    cases hfa : f a with
    | none =>
      rw [List.filter_cons_of_neg (by simp [ha, hfa]), List.filterMap_cons_none hfa]
      exact hrest
    | some b =>
      rw [List.filter_cons_of_pos (by simp [ha, hfa]), List.filterMap_cons_some hfa]
      exact .cons (hr a (by simp) b hfa) hrest

end Partial

/-! ## The first element with a property -/

/-- `a` is the first element of `l` with `P`. -/
def IsFirst {α : Type*} (P : α → Prop) (l : List α) (a : α) : Prop :=
  ∃ before after, l = before ++ a :: after ∧ P a ∧ ∀ b ∈ before, ¬P b

theorem find?_eq_some_iff_isFirst {α : Type*} {P : α → Prop} [DecidablePred P] {l : List α}
    {a : α} :
    l.find? (fun a => P a) = some a ↔ IsFirst P l a := by
  rw [List.find?_eq_some_iff_append, IsFirst]
  simp only [decide_eq_true_eq, Bool.not_eq_true', decide_eq_false_iff_not]
  constructor
  · rintro ⟨ha, before, after, hl, hbefore⟩
    exact ⟨before, after, hl, ha, hbefore⟩
  · rintro ⟨before, after, hl, ha, hbefore⟩
    exact ⟨ha, before, after, hl, hbefore⟩

end Lib
end SozuGateway
