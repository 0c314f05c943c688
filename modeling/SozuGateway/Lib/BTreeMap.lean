import Mathlib

/-!
# Ordered maps

`std::collections::BTreeMap`, as `Std.ExtTreeMap` over a linear order: two maps
with the same lookups are equal (`BTreeMap.ext`).  The lookup lemmas are the
library's, with the comparison of keys read as an equality.
-/

namespace SozuGateway
namespace Lib

/-- The comparison of a linear order tells its elements apart. -/
instance (priority := low) lawfulEqCmp {α : Type*} [LinearOrder α] :
    Std.LawfulEqCmp (compare : α → α → Ordering) := ⟨compare_eq_iff_eq.1⟩

/-- The comparison of a linear order is one of an order. -/
instance (priority := 1050) transCmp {α : Type*} [LinearOrder α] :
    Std.TransCmp (compare : α → α → Ordering) := inferInstance

end Lib

/-- `std::collections::BTreeMap`. -/
abbrev BTreeMap (K V : Type) [LinearOrder K] := Std.ExtTreeMap K V compare

namespace BTreeMap

variable {K V : Type} [LinearOrder K]

theorem ext {m m' : BTreeMap K V} (h : ∀ k : K, m[k]? = m'[k]?) : m = m' :=
  Std.ExtTreeMap.ext_getElem? h

theorem getElem?_insert (m : BTreeMap K V) (k a : K) (v : V) :
    (m.insert k v)[a]? = if k = a then some v else m[a]? := by
  simp [Std.ExtTreeMap.getElem?_insert]

theorem getElem?_erase (m : BTreeMap K V) (k a : K) :
    (m.erase k)[a]? = if k = a then none else m[a]? := by
  simp [Std.ExtTreeMap.getElem?_erase]

theorem getElem?_modify (m : BTreeMap K V) (k a : K) (f : V → V) :
    (m.modify k f)[a]? = if k = a then m[a]?.map f else m[a]? := by
  rw [Std.ExtTreeMap.getElem?_modify]
  by_cases h : k = a
  · subst h; simp
  · simp [h]

theorem getElem?_filter (m : BTreeMap K V) (p : K → V → Bool) (a : K) :
    (m.filter p)[a]? = m[a]?.filter (p a) := Std.ExtTreeMap.getElem?_filter'

@[simp] theorem getElem?_empty (a : K) : (∅ : BTreeMap K V)[a]? = none :=
  Std.ExtTreeMap.getElem?_empty

end BTreeMap

end SozuGateway
