import Mathlib

/-!
# Runs of keyed writes

A store is a partial map from slots to values; a write sets or clears one slot.
These are the facts about a run of writes that do not depend on what the slots
are.

* `run` — the store a list of writes leaves; `run_append` splits it.
* `run_of_forall_ne` — a slot no write names keeps its value.
* `run_eq_some` — what a slot holds was there before or was written, and
  `run_ne_none` — a slot that is set stays set under writes that set.
* `run_of_nodup` — a slot written once holds what was written.
* `run_of_last` — a slot holds what the last write naming it left there.
* `run_cases` — a slot holds what was there before, or what the last element
  writing it left there.
-/

namespace SozuGateway
namespace Lib

variable {K V : Type*}

/-- One write: the slot it names, and what the slot holds after it. -/
structure Write (K V : Type*) where
  slot : K
  value : Option V

/-- A store: what each slot holds. -/
abbrev Store (K V : Type*) := K → Option V

variable [DecidableEq K]

/-- The store after one write. -/
def Write.apply (w : Write K V) (S : Store K V) : Store K V := Function.update S w.slot w.value

/-- The store after a list of writes. -/
def run (S : Store K V) (ws : List (Write K V)) : Store K V := ws.foldl (fun S w => w.apply S) S

@[simp] theorem run_nil (S : Store K V) : run S [] = S := rfl

@[simp] theorem run_cons (S : Store K V) (w : Write K V) (ws : List (Write K V)) :
    run S (w :: ws) = run (w.apply S) ws := rfl

theorem run_append (S : Store K V) (ws ws' : List (Write K V)) :
    run S (ws ++ ws') = run (run S ws) ws' := List.foldl_append

@[simp] theorem Write.apply_same (w : Write K V) (S : Store K V) : w.apply S w.slot = w.value :=
  Function.update_self ..

theorem Write.apply_mk_same (k : K) (v : Option V) (S : Store K V) :
    (⟨k, v⟩ : Write K V).apply S k = v := Function.update_self ..

theorem Write.apply_of_ne {w : Write K V} {k : K} (h : k ≠ w.slot) (S : Store K V) :
    w.apply S k = S k := Function.update_of_ne h ..

/-- A slot no write names keeps its value. -/
theorem run_of_forall_ne {ws : List (Write K V)} {k : K} (h : ∀ w ∈ ws, w.slot ≠ k)
    (S : Store K V) : run S ws k = S k := by
  induction ws generalizing S with
  | nil => rfl
  | cons w ws ih =>
    rw [run_cons, ih fun w' hw' => h w' (by simp [hw']),
      Write.apply_of_ne (Ne.symm (h w (by simp)))]

/-- What a slot holds depends on the writes naming it alone. -/
theorem run_filter_slot (ws : List (Write K V)) (k : K) (S : Store K V) :
    run S (ws.filter fun w => w.slot = k) k = run S ws k := by
  have hstep : ∀ S' : Store K V, S' k = S k →
      run S' (ws.filter fun w => w.slot = k) k = run S ws k := by
    induction ws generalizing S with
    | nil => exact fun S' h => h
    | cons w ws ih =>
      intro S' h
      by_cases hw : w.slot = k
      · rw [List.filter_cons_of_pos (by simpa using hw), run_cons, run_cons]
        refine ih _ _ ?_
        rw [← hw, Write.apply_same, Write.apply_same]
      · rw [List.filter_cons_of_neg (by simpa using hw), run_cons]
        refine ih _ _ ?_
        rw [Write.apply_of_ne (Ne.symm hw), h]
  exact hstep S rfl

/-- A slot holds what the last write naming it left there. -/
theorem run_of_last {ws ws' : List (Write K V)} {w : Write K V}
    (h : ∀ w' ∈ ws', w'.slot ≠ w.slot) (S : Store K V) :
    run S (ws ++ w :: ws') w.slot = w.value := by
  rw [run_append, run_cons, run_of_forall_ne h, Write.apply_same]

/-- **A slot written once holds what was written.** -/
theorem run_of_nodup {ws : List (Write K V)} (hnd : (ws.map Write.slot).Nodup) {w : Write K V}
    (hw : w ∈ ws) (S : Store K V) : run S ws w.slot = w.value := by
  obtain ⟨p, rest, rfl⟩ := List.append_of_mem hw
  refine run_of_last (fun w' hw' hslot => ?_) S
  rw [List.map_append, List.map_cons, List.nodup_append, List.nodup_cons] at hnd
  exact hnd.2.1.1 (hslot ▸ List.mem_map_of_mem hw')

/-- What a slot holds was there before, or a write put it there. -/
theorem run_eq_some {S : Store K V} {ws : List (Write K V)} {k : K} {v : V}
    (h : run S ws k = some v) : S k = some v ∨ ∃ w ∈ ws, w.slot = k ∧ w.value = some v := by
  induction ws generalizing S with
  | nil => exact .inl h
  | cons w ws ih =>
    rw [run_cons] at h
    rcases ih h with hS | ⟨w', hw', hslot, hvalue⟩
    · by_cases hk : k = w.slot
      · subst hk
        rw [Write.apply_same] at hS
        exact .inr ⟨w, by simp, rfl, hS⟩
      · rw [Write.apply_of_ne hk] at hS
        exact .inl hS
    · exact .inr ⟨w', by simp [hw'], hslot, hvalue⟩

/-- A slot that is set stays set under writes that set. -/
theorem run_ne_none {S : Store K V} {ws : List (Write K V)} {k : K}
    (hsets : ∀ w ∈ ws, w.slot = k → w.value ≠ none)
    (h : S k ≠ none ∨ ∃ w ∈ ws, w.slot = k) : run S ws k ≠ none := by
  induction ws generalizing S with
  | nil =>
    rcases h with hS | ⟨w, hw, -⟩
    · exact hS
    · simp at hw
  | cons w ws ih =>
    rw [run_cons]
    refine ih (fun w' hw' => hsets w' (by simp [hw'])) ?_
    by_cases hk : w.slot = k
    · left
      rw [← hk, Write.apply_same]
      exact hsets w (by simp) hk
    · rcases h with hS | ⟨w', hw', hslot⟩
      · left
        rwa [Write.apply_of_ne (Ne.symm hk)]
      · rcases List.mem_cons.1 hw' with rfl | hw'
        · exact absurd hslot hk
        · exact .inr ⟨w', hw', hslot⟩

/-- **A slot of a run holds what was there before, when nothing writes it, and
otherwise what the last element writing it left there.** -/
theorem run_cases {α : Type*} (write : α → Option (Write K V)) (S : Store K V) (xs : List α)
    (k : K) :
    (run S (xs.filterMap write) k = S k ∧ ∀ x ∈ xs, ∀ w, write x = some w → w.slot ≠ k) ∨
      ∃ p x rest w, xs = p ++ x :: rest ∧ write x = some w ∧ w.slot = k ∧
        run S (xs.filterMap write) k = w.value ∧
          ∀ y ∈ rest, ∀ w', write y = some w' → w'.slot ≠ k := by
  induction xs using List.reverseRecOn with
  | nil => exact .inl ⟨rfl, by simp⟩
  | append_singleton xs x ih =>
    rw [List.filterMap_append, run_append]
    by_cases hx : ∃ w, write x = some w ∧ w.slot = k
    · -- the last element writes the slot
      obtain ⟨w, hw, rfl⟩ := hx
      refine .inr ⟨xs, x, [], w, rfl, hw, rfl, ?_, by simp⟩
      simp [hw]
    · have hne : ∀ w, write x = some w → w.slot ≠ k := fun w hw hk => hx ⟨w, hw, hk⟩
      have hlast : run (run S (xs.filterMap write)) (List.filterMap write [x]) k =
          run S (xs.filterMap write) k := by
        refine run_of_forall_ne (fun w hw => ?_) _
        obtain ⟨y, hy, hwy⟩ := List.mem_filterMap.1 hw
        rw [List.mem_singleton.1 hy] at hwy
        exact hne w hwy
      rw [hlast]
      rcases ih with ⟨hrun, hnone⟩ | ⟨p, y, rest, w, hsplit, hw, hslot, hrun, hrest⟩
      · refine .inl ⟨hrun, fun y hy w hw => ?_⟩
        rcases List.mem_append.1 hy with hy | hy
        · exact hnone y hy w hw
        · rw [List.mem_singleton.1 hy] at hw
          exact hne w hw
      · refine .inr ⟨p, y, rest ++ [x], w, by rw [hsplit]; simp, hw, hslot, hrun, ?_⟩
        intro z hz w' hw'
        rcases List.mem_append.1 hz with hz | hz
        · exact hrest z hz w' hw'
        · rw [List.mem_singleton.1 hz] at hw'
          exact hne w' hw'

end Lib
end SozuGateway
