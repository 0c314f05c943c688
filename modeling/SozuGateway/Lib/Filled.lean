import SozuGateway.Lib.BTreeMap

/-!
# Maps filled from a list

A map that takes one entry from each element of a list, a later element replacing an
earlier one of its key.

* `fill` — the map.
* `getElem?_fill` — the entry of a key.
* `exists_of_fill`, `getElem?_fill_of_mem` — an entry comes from an element; where the keys
  are distinct, an element gives its entry.
* `fill_perm` — where the keys are distinct, the order of the list does not matter.
-/

set_option autoImplicit false

namespace SozuGateway

namespace Lib

variable {α K V : Type} [LinearOrder K]

/-- Insert an entry for each element. -/
def fill (key : α → K) (value : α → V) (m : BTreeMap K V) (l : List α) : BTreeMap K V :=
  l.foldl (fun m a => m.insert (key a) (value a)) m

variable {key : α → K} {value : α → V}

/-- An entry was there before, or comes from an element. -/
theorem exists_of_fill {m : BTreeMap K V} {l : List α} {k : K} {v : V}
    (h : (fill key value m l)[k]? = some v) :
    m[k]? = some v ∨ ∃ a ∈ l, key a = k ∧ value a = v := by
  induction l generalizing m with
  | nil => exact .inl h
  | cons a l ih =>
      rcases ih h with hm | ⟨b, hb, hkey, hvalue⟩
      · rw [BTreeMap.getElem?_insert] at hm
        split at hm
        · rename_i hk
          exact .inr ⟨a, List.mem_cons_self, hk, Option.some.inj hm⟩
        · exact .inl hm
      · exact .inr ⟨b, List.mem_cons_of_mem _ hb, hkey, hvalue⟩

/-- A key no element has keeps its entry. -/
theorem getElem?_fill_of_not_mem {m : BTreeMap K V} {l : List α} {k : K}
    (h : ∀ a ∈ l, key a ≠ k) : (fill key value m l)[k]? = m[k]? := by
  induction l generalizing m with
  | nil => rfl
  | cons a l ih =>
      have hrest := ih (m := m.insert (key a) (value a)) fun b hb => h b (List.mem_cons_of_mem _ hb)
      rw [BTreeMap.getElem?_insert, if_neg (h a List.mem_cons_self)] at hrest
      exact hrest

/-- Where the elements of a key agree on a value, it is the key's. -/
theorem getElem?_fill_of_agree {m : BTreeMap K V} {l : List α} {k : K} {v : V}
    (hagree : ∀ a ∈ l, key a = k → value a = v) (h : m[k]? = some v ∨ ∃ a ∈ l, key a = k) :
    (fill key value m l)[k]? = some v := by
  induction l generalizing m with
  | nil =>
      rcases h with h | ⟨a, ha, -⟩
      · exact h
      · exact absurd ha List.not_mem_nil
  | cons b l ih =>
      show (fill key value (m.insert (key b) (value b)) l)[k]? = some v
      refine ih (fun a ha => hagree a (List.mem_cons_of_mem _ ha)) ?_
      rw [BTreeMap.getElem?_insert]
      by_cases hb : key b = k
      · rw [if_pos hb, hagree b List.mem_cons_self hb]
        exact .inl rfl
      · rw [if_neg hb]
        refine h.imp id fun ⟨a, ha, hkey⟩ => ⟨a, (List.mem_cons.1 ha).resolve_left ?_, hkey⟩
        rintro rfl
        exact hb hkey

/-- Where the keys are distinct, an element gives its entry. -/
theorem getElem?_fill_of_mem {m : BTreeMap K V} {l : List α} (hkeys : (l.map key).Nodup) {a : α}
    (ha : a ∈ l) : (fill key value m l)[key a]? = some (value a) := by
  induction l generalizing m with
  | nil => exact absurd ha List.not_mem_nil
  | cons b l ih =>
      rw [List.map_cons, List.nodup_cons] at hkeys
      show (fill key value (m.insert (key b) (value b)) l)[key a]? = some (value a)
      rcases List.mem_cons.1 ha with rfl | ha
      · rw [getElem?_fill_of_not_mem, BTreeMap.getElem?_insert, if_pos rfl]
        intro c hc hkey
        exact hkeys.1 (hkey ▸ List.mem_map_of_mem hc)
      · exact ih hkeys.2 ha

/-- **Where the keys are distinct, the order of the list does not matter.** -/
theorem fill_perm {m : BTreeMap K V} {l l' : List α} (hkeys : (l.map key).Nodup)
    (h : l.Perm l') : fill key value m l = fill key value m l' := by
  have hkeys' : (l'.map key).Nodup := (h.map key).nodup_iff.1 hkeys
  refine BTreeMap.ext fun k => ?_
  by_cases hk : ∃ a ∈ l, key a = k
  · obtain ⟨a, ha, rfl⟩ := hk
    rw [getElem?_fill_of_mem hkeys ha, getElem?_fill_of_mem hkeys' (h.mem_iff.1 ha)]
  · push Not at hk
    rw [getElem?_fill_of_not_mem hk, getElem?_fill_of_not_mem fun a ha => hk a (h.mem_iff.2 ha)]

end Lib

end SozuGateway
