import Mathlib.Data.List.Basic

/-!
# Partial maps over a list

A list traversed by a function that may fail: the traversal gives one result for each
element, or nothing when one of them fails.

* `mapM_eq_some_iff` — a traversal as a map.
* `exists_of_mem_mapM`, `exists_mem_mapM` — a result comes from an element, and an element
  gives a result.
* `mapM_agree` — two functions that agree on what the first gives traverse alike.
* `forall_mapM_iff` — what is asked of all results, asked of each element.
-/

set_option autoImplicit false

namespace SozuGateway

namespace Lib

variable {α β : Type*}

/-- A traversal of a longer list, at its head and its tail. -/
theorem mapM_cons_eq_some {f : α → Option β} {a : α} {l : List α} {results : List β} :
    (a :: l).mapM f = some results ↔
      ∃ b rest, f a = some b ∧ l.mapM f = some rest ∧ results = b :: rest := by
  simp only [List.mapM_cons, Option.bind_eq_bind, Option.bind_eq_some_iff, Option.pure_def,
    Option.some.injEq]
  constructor
  · rintro ⟨b, hb, rest, hrest, rfl⟩
    exact ⟨b, rest, hb, hrest, rfl⟩
  · rintro ⟨b, rest, hb, hrest, rfl⟩
    exact ⟨b, hb, rest, hrest, rfl⟩

/-- A traversal succeeds with what the function gives each element. -/
theorem mapM_eq_some_iff {f : α → Option β} {l : List α} {results : List β} :
    l.mapM f = some results ↔ l.map f = results.map some := by
  induction l generalizing results with
  | nil => cases results <;> simp
  | cons a l ih =>
      rw [mapM_cons_eq_some, List.map_cons]
      constructor
      · rintro ⟨b, rest, hb, hrest, rfl⟩
        rw [hb, ih.1 hrest, List.map_cons]
      · intro h
        cases results with
        | nil => cases h
        | cons b rest =>
            obtain ⟨hb, hrest⟩ := List.cons.inj h
            exact ⟨b, rest, hb, ih.2 hrest, rfl⟩

/-- A result of a traversal is that of some element. -/
theorem exists_of_mem_mapM {f : α → Option β} {l : List α} {results : List β}
    (h : l.mapM f = some results) {b : β} (hb : b ∈ results) : ∃ a ∈ l, f a = some b := by
  induction l generalizing results with
  | nil =>
      obtain rfl : results = [] := by simpa using h.symm
      exact absurd hb List.not_mem_nil
  | cons a l ih =>
      obtain ⟨c, rest, hc, hrest, rfl⟩ := mapM_cons_eq_some.1 h
      rcases List.mem_cons.1 hb with rfl | hb
      · exact ⟨a, List.mem_cons_self, hc⟩
      · obtain ⟨a', ha', hfa'⟩ := ih hrest hb
        exact ⟨a', List.mem_cons_of_mem _ ha', hfa'⟩

/-- Every element gives a result of the traversal. -/
theorem exists_mem_mapM {f : α → Option β} {l : List α} {results : List β}
    (h : l.mapM f = some results) {a : α} (ha : a ∈ l) : ∃ b ∈ results, f a = some b := by
  induction l generalizing results with
  | nil => exact absurd ha List.not_mem_nil
  | cons c l ih =>
      obtain ⟨b, rest, hb, hrest, rfl⟩ := mapM_cons_eq_some.1 h
      rcases List.mem_cons.1 ha with rfl | ha
      · exact ⟨b, List.mem_cons_self, hb⟩
      · obtain ⟨b', hb', hfb'⟩ := ih hrest ha
        exact ⟨b', List.mem_cons_of_mem _ hb', hfb'⟩

/-- Traversals that agree one by one agree; `P` is what each is asked of what the first one
gives, all of it together. -/
theorem mapM_agree {f g : α → Option (List β)} {P : List β → Prop}
    (hmono : ∀ l l', (∀ b ∈ l', b ∈ l) → P l → P l')
    (hstep : ∀ a results, f a = some results → P results → g a = some results) {l : List α}
    {all : List (List β)} (hall : l.mapM f = some all) (h : P all.flatten) :
    l.mapM g = some all := by
  induction l generalizing all with
  | nil => simpa using hall
  | cons a l ih =>
      obtain ⟨results, rest, ha, hrest, rfl⟩ := mapM_cons_eq_some.1 hall
      have hresults : P results := hmono _ _ (fun b hb => by simp [hb]) h
      have hrest' : P rest.flatten :=
        hmono _ _ (fun b hb => by rw [List.flatten_cons]; exact List.mem_append_right _ hb) h
      exact mapM_cons_eq_some.2 ⟨results, rest, hstep a results ha hresults, ih hrest hrest', rfl⟩

/-- A traversal succeeds, with results that all have a property, exactly when each element
gives one that has it. -/
theorem forall_mapM_iff {ε : Type*} {f : α → Except ε β} {P : β → Prop} {l : List α} :
    (∃ results, l.mapM f = .ok results ∧ ∀ b ∈ results, P b) ↔
      ∀ a ∈ l, ∃ b, f a = .ok b ∧ P b := by
  induction l with
  | nil => simp [pure, Except.pure]
  | cons a l ih =>
      rw [List.forall_mem_cons, ← ih]
      simp only [List.mapM_cons, bind, Except.bind, pure, Except.pure]
      cases f a with
      | error e => simp
      | ok b =>
          cases l.mapM f with
          | error e => simp
          | ok results => simp

end Lib

end SozuGateway
