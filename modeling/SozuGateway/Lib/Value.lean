import Mathlib

/-!
# JSON values

`serde_json::Value`, whose objects are ordered maps, and the JSON merge patch of RFC 7396.

* `get`, `insert`, `remove` — an ordered map as the list of its fields, by increasing key;
  `Sorted.ext` — two such maps with the same lookups are equal.
* `Value.ind` — induction over a value, with one hypothesis for all fields of an object.
* `Value.Ordered` — every object in a value is such a map.
* `Value.patched` — the application of a merge patch; `get_patchedFields` — what it
  leaves under a key.
-/

set_option autoImplicit false

namespace SozuGateway

namespace Lib

/-! ## Ordered fields -/

namespace Fields

variable {κ α : Type*} [LinearOrder κ]

/-- The value under a key. -/
def get (key : κ) : List (κ × α) → Option α
  | [] => none
  | (k, v) :: fields => if k = key then some v else get key fields

/-- The fields with a value put under a key. -/
def insert (key : κ) (value : α) : List (κ × α) → List (κ × α)
  | [] => [(key, value)]
  | (k, v) :: fields =>
      if key < k then (key, value) :: (k, v) :: fields
      else if key = k then (key, value) :: fields
      else (k, v) :: insert key value fields

/-- The fields without a key. -/
def remove (key : κ) (fields : List (κ × α)) : List (κ × α) :=
  fields.filter fun field => field.1 ≠ key

/-- The keys increase. -/
def Sorted (fields : List (κ × α)) : Prop := fields.Pairwise fun a b => a.1 < b.1

instance (fields : List (κ × α)) : Decidable (Sorted fields) :=
  inferInstanceAs (Decidable (fields.Pairwise fun a b => a.1 < b.1))

@[simp] theorem get_nil (key : κ) : get key ([] : List (κ × α)) = none := rfl

theorem get_cons (key k : κ) (v : α) (fields : List (κ × α)) :
    get key ((k, v) :: fields) = if k = key then some v else get key fields := rfl

@[simp] theorem sorted_nil : Sorted ([] : List (κ × α)) := List.Pairwise.nil

theorem sorted_cons {k : κ} {v : α} {fields : List (κ × α)} :
    Sorted ((k, v) :: fields) ↔ (∀ field ∈ fields, k < field.1) ∧ Sorted fields :=
  List.pairwise_cons

/-- A value under a key is a field. -/
theorem mem_of_get {key : κ} {v : α} {fields : List (κ × α)} (h : get key fields = some v) :
    (key, v) ∈ fields := by
  induction fields with
  | nil => cases h
  | cons field fields ih =>
    obtain ⟨k, w⟩ := field
    rw [get_cons] at h
    split at h
    · rename_i hk
      obtain rfl := Option.some.inj h
      exact hk ▸ List.mem_cons_self
    · exact List.mem_cons_of_mem _ (ih h)

/-- A key below all others is not among them. -/
theorem get_eq_none_of_lt {key : κ} {fields : List (κ × α)} (h : ∀ field ∈ fields, key < field.1) :
    get key fields = none := by
  cases hget : get key fields with
  | none => rfl
  | some v => exact absurd (h _ (mem_of_get hget)) (lt_irrefl _)

/-- In ordered fields, the fields are the values under the keys. -/
theorem Sorted.get_iff {key : κ} {v : α} {fields : List (κ × α)} (h : Sorted fields) :
    get key fields = some v ↔ (key, v) ∈ fields := by
  refine ⟨mem_of_get, fun hmem => ?_⟩
  induction fields with
  | nil => cases hmem
  | cons field fields ih =>
    obtain ⟨k, w⟩ := field
    obtain ⟨hlt, hsorted⟩ := sorted_cons.1 h
    rw [get_cons]
    rcases List.mem_cons.1 hmem with heq | hmem
    · cases heq
      exact if_pos rfl
    · rw [if_neg (hlt _ hmem).ne]
      exact ih hsorted hmem

/-- **Two ordered maps with the same lookups are equal.** -/
theorem Sorted.ext {a b : List (κ × α)} (ha : Sorted a) (hb : Sorted b)
    (h : ∀ key, get key a = get key b) : a = b := by
  have hmem : ∀ field, field ∈ a ↔ field ∈ b := by
    rintro ⟨key, v⟩
    rw [← ha.get_iff, ← hb.get_iff, h key]
  have hnodup : ∀ {l : List (κ × α)}, Sorted l → l.Nodup := fun hl =>
    hl.imp fun hlt heq => hlt.ne (congrArg Prod.fst heq)
  exact ((List.perm_ext_iff_of_nodup (hnodup ha) (hnodup hb)).2 hmem).eq_of_pairwise
    (fun x y _ _ hxy hyx => absurd hxy hyx.asymm) ha hb

theorem get_insert (key k : κ) (value : α) (fields : List (κ × α)) :
    get k (insert key value fields) = if key = k then some value else get k fields := by
  induction fields with
  | nil => rfl
  | cons field fields ih =>
    obtain ⟨k', v⟩ := field
    rw [insert]
    split
    · rfl
    · split
      · rename_i hk
        subst hk
        rw [get_cons, get_cons]
        split <;> rfl
      · rename_i hne
        rw [get_cons, get_cons, ih]
        split
        · rename_i hk
          rw [if_neg (hk ▸ hne)]
        · rfl

theorem mem_insert {key : κ} {value : α} {fields : List (κ × α)} {field : κ × α}
    (h : field ∈ insert key value fields) : field = (key, value) ∨ field ∈ fields := by
  induction fields with
  | nil => exact .inl (List.mem_singleton.1 h)
  | cons f fields ih =>
    obtain ⟨k, v⟩ := f
    rw [insert] at h
    split at h
    · exact List.mem_cons.1 h
    · split at h
      · exact (List.mem_cons.1 h).imp_right (List.mem_cons_of_mem _)
      · rcases List.mem_cons.1 h with rfl | h
        · exact .inr List.mem_cons_self
        · exact (ih h).imp_right (List.mem_cons_of_mem _)

theorem Sorted.insert {fields : List (κ × α)} (h : Sorted fields) (key : κ) (value : α) :
    Sorted (insert key value fields) := by
  induction fields with
  | nil => exact List.pairwise_singleton _ _
  | cons field fields ih =>
    obtain ⟨k, v⟩ := field
    obtain ⟨hlt, hsorted⟩ := sorted_cons.1 h
    rw [Fields.insert]
    split
    · rename_i hkey
      refine sorted_cons.2 ⟨fun field hfield => ?_, h⟩
      rcases List.mem_cons.1 hfield with rfl | hfield
      · exact hkey
      · exact hkey.trans (hlt _ hfield)
    · rename_i hge
      split
      · rename_i hkey
        exact sorted_cons.2 ⟨hkey ▸ hlt, hsorted⟩
      · rename_i hne
        refine sorted_cons.2 ⟨fun field hfield => ?_, ih hsorted⟩
        rcases mem_insert hfield with rfl | hfield
        · exact lt_of_le_of_ne (not_lt.1 hge) (Ne.symm hne)
        · exact hlt _ hfield

theorem get_remove (key k : κ) (fields : List (κ × α)) :
    get k (remove key fields) = if key = k then none else get k fields := by
  induction fields with
  | nil => rw [remove, List.filter_nil, get_nil, ite_self]
  | cons field fields ih =>
    obtain ⟨k', v⟩ := field
    rw [remove] at ih ⊢
    by_cases hk : k' = key
    · subst hk
      rw [List.filter_cons_of_neg (by simp), ih, get_cons]
      split <;> rfl
    · rw [List.filter_cons_of_pos (by simpa using hk), get_cons, ih, get_cons]
      split
      · rename_i hkey
        rw [if_neg fun h => hk (hkey.trans h.symm)]
      · rfl

theorem Sorted.remove {fields : List (κ × α)} (h : Sorted fields) (key : κ) :
    Sorted (remove key fields) := List.Pairwise.filter _ h

end Fields

/-! ## Values -/

/-- `serde_json::Number`; a finite float by its value. -/
inductive Number where
  | posInt (n : ℕ)
  | negInt (n : ℤ)
  | float (value : ℚ)
  deriving DecidableEq

/-- `serde_json::Value`; an object by its fields. -/
inductive Value where
  | null
  | bool (b : Bool)
  | number (n : Number)
  | string (s : String)
  | array (items : List Value)
  | object (fields : List (String × Value))

namespace Value

/-- Induction over a value. -/
@[elab_as_elim, induction_eliminator] theorem ind {motive : Value → Prop} (null : motive .null)
    (bool : ∀ b, motive (.bool b)) (number : ∀ n, motive (.number n))
    (string : ∀ s, motive (.string s))
    (array : ∀ items, (∀ v ∈ items, motive v) → motive (.array items))
    (object : ∀ fields, (∀ k v, (k, v) ∈ fields → motive v) → motive (.object fields))
    (v : Value) : motive v := by
  refine @Value.rec motive (fun items => ∀ v ∈ items, motive v)
    (fun fields => ∀ k v, (k, v) ∈ fields → motive v) (fun field => motive field.2)
    null bool number string array object ?_ ?_ ?_ ?_ ?_ v
  · exact fun v hv => absurd hv List.not_mem_nil
  · intro v items hv hitems w hw
    rcases List.mem_cons.1 hw with rfl | hw
    · exact hv
    · exact hitems w hw
  · exact fun k v hv => absurd hv List.not_mem_nil
  · intro field fields hfield hfields k v hv
    rcases List.mem_cons.1 hv with rfl | hv
    · exact hfield
    · exact hfields k v hv
  · exact fun _ _ hv => hv

mutual

/-- `PartialEq`. -/
def eq : Value → Value → Bool
  | .null, .null => true
  | .bool a, .bool b => a = b
  | .number a, .number b => a = b
  | .string a, .string b => a = b
  | .array a, .array b => eqItems a b
  | .object a, .object b => eqFields a b
  | _, _ => false

/-- The items are pairwise equal. -/
def eqItems : List Value → List Value → Bool
  | [], [] => true
  | a :: as, b :: bs => eq a b && eqItems as bs
  | _, _ => false

/-- The fields are pairwise equal. -/
def eqFields : List (String × Value) → List (String × Value) → Bool
  | [], [] => true
  | (k, a) :: as, (l, b) :: bs => decide (k = l) && eq a b && eqFields as bs
  | _, _ => false

end

theorem eqItems_iff {a b : List Value} (h : ∀ v ∈ a, ∀ w, eq v w = true ↔ v = w) :
    eqItems a b = true ↔ a = b := by
  induction a generalizing b with
  | nil => cases b <;> simp [eqItems]
  | cons v a ih =>
    cases b with
    | nil => simp [eqItems]
    | cons w b =>
      rw [eqItems, Bool.and_eq_true, h v List.mem_cons_self,
        ih fun x hx => h x (List.mem_cons_of_mem _ hx), List.cons.injEq]

theorem eqFields_iff {a b : List (String × Value)}
    (h : ∀ k v, (k, v) ∈ a → ∀ w, eq v w = true ↔ v = w) : eqFields a b = true ↔ a = b := by
  induction a generalizing b with
  | nil => cases b <;> simp [eqFields]
  | cons field a ih =>
    obtain ⟨k, v⟩ := field
    cases b with
    | nil => simp [eqFields]
    | cons field b =>
      obtain ⟨l, w⟩ := field
      rw [eqFields, Bool.and_eq_true, Bool.and_eq_true, decide_eq_true_iff,
        h k v List.mem_cons_self, ih fun k x hx => h k x (List.mem_cons_of_mem _ hx),
        List.cons.injEq, Prod.mk.injEq]

/-- The comparison of values decides their equality. -/
theorem eq_iff (v w : Value) : eq v w = true ↔ v = w := by
  induction v generalizing w with
  | null => cases w <;> simp [eq]
  | bool b => cases w <;> simp [eq]
  | number n => cases w <;> simp [eq]
  | string s => cases w <;> simp [eq]
  | array items ih => cases w <;> simp [eq, eqItems_iff ih]
  | object fields ih => cases w <;> simp [eq, eqFields_iff ih]

instance : DecidableEq Value := fun v w => decidable_of_iff _ (eq_iff v w)

/-- `Value::get`: what an object holds under a key. -/
def get (v : Value) (key : String) : Option Value :=
  match v with
  | .object fields => Fields.get key fields
  | _ => none

@[simp] theorem get_object (fields : List (String × Value)) (key : String) :
    (object fields).get key = Fields.get key fields := rfl

/-- What a path of keys leads to. -/
def at? : List String → Value → Option Value
  | [], v => some v
  | key :: path, v => (v.get key).bind (at? path)

/-- What an object at a path holds under a key. -/
def member (path : List String) (key : String) (v : Value) : Option Value :=
  (v.at? path).bind (get · key)

@[simp] theorem member_nil (key : String) (v : Value) : v.member [] key = v.get key := rfl

theorem member_cons (k : String) (path : List String) (key : String) (v : Value) :
    v.member (k :: path) key = (v.get k).bind (member path key) := by
  rw [member, at?, Option.bind_assoc]
  rfl

/-- The null of what is not there has no members. -/
theorem member_getD (path : List String) (key : String) (v : Option Value) :
    (v.getD .null).member path key = v.bind (member path key) := by
  cases v with
  | none => cases path <;> rfl
  | some v => rfl

/-! ### Indexing -/

/-- `value[key]`, which is null where there is none. -/
def index (v : Value) (key : String) : Value := (v.get key).getD .null

/-- `value[key] = x`; what is no object becomes one. -/
def put (v : Value) (key : String) (x : Value) : Value :=
  match v with
  | .object fields => .object (Fields.insert key x fields)
  | _ => .object [(key, x)]

/-- An assignment along a path. -/
def putAt : Value → List String → Value → Value
  | _, [], x => x
  | v, key :: path, x => v.put key (putAt (v.index key) path x)

theorem get_put (v : Value) (key k : String) (x : Value) :
    (v.put key x).get k = if key = k then some x else v.get k := by
  cases v with
  | object fields => exact Fields.get_insert key k x fields
  | _ => rfl

/-- What is under a path whose first key was assigned. -/
theorem at?_put (v : Value) (key k : String) (path : List String) (x : Value) :
    (v.put key x).at? (k :: path) = if key = k then x.at? path else v.at? (k :: path) := by
  rw [at?, get_put]
  split <;> rfl

/-- What was assigned along a path is there. -/
@[simp] theorem at?_putAt (v : Value) (path : List String) (x : Value) :
    (v.putAt path x).at? path = some x := by
  induction path generalizing v with
  | nil => rfl
  | cons key path ih => rw [putAt, at?_put, if_pos rfl, ih]

/-- Null has nothing under a path. -/
theorem at?_index (v : Value) (key k : String) (path : List String) :
    (v.index key).at? (k :: path) = v.at? (key :: k :: path) := by
  rw [index, at?.eq_2 v]
  cases v.get key with
  | none => rfl
  | some w => rfl

/-- An assignment leaves what is on another path. -/
theorem at?_putAt_of_ne {k l : String} (h : k ≠ l) (v : Value) (key : String)
    (path path' : List String) (x : Value) :
    (v.putAt (key :: k :: path) x).at? (key :: l :: path') = v.at? (key :: l :: path') := by
  rw [putAt, at?_put, if_pos rfl, putAt, at?_put, if_neg h, at?_index]

/-- A change of what a path leads to, where it leads somewhere. -/
def modifyAt : List String → (Value → Value) → Value → Value
  | [], f, v => f v
  | key :: path, f, v =>
      match v.get key with
      | some w => v.put key (modifyAt path f w)
      | none => v

/-- `json!` of an object. -/
def ofFields (fields : List (String × Value)) : Value :=
  .object (fields.foldl (fun fields field => Fields.insert field.1 field.2 fields) [])

/-- `as_str`. -/
def str? : Value → Option String
  | .string s => some s
  | _ => none

/-- `as_array`. -/
def array? : Value → Option (List Value)
  | .array items => some items
  | _ => none

/-- `is_object`. -/
def isObject : Value → Bool
  | .object _ => true
  | _ => false

/-- A change of the items of an array. -/
def mapItems (f : List Value → List Value) : Value → Value
  | .array items => .array (f items)
  | v => v

/-! ### Values as the library builds them -/

mutual

/-- Every object is an ordered map. -/
def Ordered : Value → Prop
  | .array items => OrderedItems items
  | .object fields => Fields.Sorted fields ∧ OrderedFields fields
  | _ => True

def OrderedItems : List Value → Prop
  | [] => True
  | v :: items => Ordered v ∧ OrderedItems items

def OrderedFields : List (String × Value) → Prop
  | [] => True
  | (_, v) :: fields => Ordered v ∧ OrderedFields fields

end

mutual

/-- No null anywhere. -/
def NoNull : Value → Prop
  | .null => False
  | .array items => NoNullItems items
  | .object fields => NoNullFields fields
  | _ => True

def NoNullItems : List Value → Prop
  | [] => True
  | v :: items => NoNull v ∧ NoNullItems items

def NoNullFields : List (String × Value) → Prop
  | [] => True
  | (_, v) :: fields => NoNull v ∧ NoNullFields fields

end

theorem orderedItems_iff {items : List Value} : OrderedItems items ↔ ∀ v ∈ items, Ordered v := by
  induction items with
  | nil => simp [OrderedItems]
  | cons v items ih => rw [OrderedItems, ih, List.forall_mem_cons]

theorem orderedFields_iff {fields : List (String × Value)} :
    OrderedFields fields ↔ ∀ field ∈ fields, Ordered field.2 := by
  induction fields with
  | nil => simp [OrderedFields]
  | cons field fields ih => rw [OrderedFields, ih, List.forall_mem_cons]

theorem noNullFields_iff {fields : List (String × Value)} :
    NoNullFields fields ↔ ∀ field ∈ fields, NoNull field.2 := by
  induction fields with
  | nil => simp [NoNullFields]
  | cons field fields ih => rw [NoNullFields, ih, List.forall_mem_cons]

/-- An object is ordered when its keys increase and its lookups are ordered. -/
theorem ordered_object {fields : List (String × Value)} :
    Ordered (.object fields) ↔
      Fields.Sorted fields ∧ ∀ key v, Fields.get key fields = some v → Ordered v := by
  rw [Ordered, orderedFields_iff]
  refine and_congr_right fun hsorted => ⟨fun h key v hget => h _ (Fields.mem_of_get hget), ?_⟩
  rintro h ⟨key, v⟩ hmem
  exact h key v (hsorted.get_iff.2 hmem)

theorem Ordered.get {v w : Value} (h : v.Ordered) {key : String} (hget : v.get key = some w) :
    w.Ordered := by
  cases v with
  | object fields => exact (ordered_object.1 h).2 key w hget
  | _ => cases hget

theorem NoNull.get {fields : List (String × Value)} (h : NoNull (.object fields)) {key : String}
    {v : Value} (hget : Fields.get key fields = some v) : v.NoNull :=
  noNullFields_iff.1 h _ (Fields.mem_of_get hget)

theorem NoNull.ne_null {v : Value} (h : v.NoNull) : v ≠ .null := by
  rintro rfl
  exact h

/-- What is under a key is ordered, as is the null of what is not there. -/
theorem Ordered.getD {v : Value} (h : v.Ordered) (key : String) :
    ((v.get key).getD .null).Ordered := by
  cases hget : v.get key with
  | none => trivial
  | some w => exact h.get hget

/-! ### Merge patches -/

/-- The fields of an object; those of anything else are none. -/
def fields : Value → List (String × Value)
  | .object fields => fields
  | _ => []

@[simp] theorem get_fields (v : Value) (key : String) : Fields.get key v.fields = v.get key := by
  cases v <;> rfl

mutual

/-- `MergePatch(Target, Patch)` of RFC 7396; a member that is not there is no object either. -/
def patched : Value → Value → Value
  | .object patch, target => .object (patchedFields patch target.fields)
  | patch, _ => patch

/-- The loop over the members of a patch. -/
def patchedFields : List (String × Value) → List (String × Value) → List (String × Value)
  | [], target => target
  | (name, value) :: patch, target =>
      patchedFields patch
        (if value = .null then Fields.remove name target
          else Fields.insert name (patched value ((Fields.get name target).getD .null)) target)

end

/-- What a patch leaves under a name it holds. -/
def patchedMember (value : Value) (target : Option Value) : Option Value :=
  if value = .null then none else some (patched value (target.getD .null))

/-- **What an applied patch leaves under a name.** -/
theorem get_patchedFields {patch : List (String × Value)} (h : Fields.Sorted patch)
    (target : List (String × Value)) (key : String) :
    Fields.get key (patchedFields patch target) =
      match Fields.get key patch with
      | none => Fields.get key target
      | some value => patchedMember value (Fields.get key target) := by
  induction patch generalizing target with
  | nil => simp [patchedFields]
  | cons member patch ih =>
    obtain ⟨name, value⟩ := member
    obtain ⟨hlt, hsorted⟩ := Fields.sorted_cons.1 h
    rw [patchedFields, ih hsorted, Fields.get_cons]
    by_cases hname : name = key
    · subst hname
      rw [Fields.get_eq_none_of_lt hlt, if_pos rfl]
      by_cases hnull : value = .null
      · simp [hnull, patchedMember, Fields.get_remove]
      · simp [hnull, patchedMember, Fields.get_insert]
    · have hkept : Fields.get key (if value = .null then Fields.remove name target
          else Fields.insert name (patched value ((Fields.get name target).getD .null)) target) =
            Fields.get key target := by
        split
        · rw [Fields.get_remove, if_neg hname]
        · rw [Fields.get_insert, if_neg hname]
      rw [hkept, if_neg hname]

theorem sorted_patchedFields (patch : List (String × Value)) {target : List (String × Value)}
    (h : Fields.Sorted target) : Fields.Sorted (patchedFields patch target) := by
  induction patch generalizing target with
  | nil => rwa [patchedFields]
  | cons member patch ih =>
    obtain ⟨name, value⟩ := member
    rw [patchedFields]
    split
    · exact ih (h.remove name)
    · exact ih (h.insert name _)

theorem Ordered.sorted_fields {v : Value} (h : v.Ordered) : Fields.Sorted v.fields := by
  cases v with
  | object fields => exact (ordered_object.1 h).1
  | _ => exact Fields.sorted_nil

/-- **A patch keeps values ordered.** -/
theorem Ordered.patched {patch target : Value} (hpatch : patch.Ordered) (htarget : target.Ordered) :
    (patched patch target).Ordered := by
  induction patch generalizing target with
  | object patch ih =>
    obtain ⟨hsorted, hmembers⟩ := ordered_object.1 hpatch
    rw [Value.patched]
    refine ordered_object.2 ⟨sorted_patchedFields patch htarget.sorted_fields, fun key v hget => ?_⟩
    rw [get_patchedFields hsorted, get_fields] at hget
    cases hmember : Fields.get key patch with
    | none =>
      rw [hmember] at hget
      exact htarget.get hget
    | some value =>
      rw [hmember] at hget
      dsimp only [patchedMember] at hget
      split at hget
      · cases hget
      · obtain rfl := Option.some.inj hget
        exact ih key value (Fields.mem_of_get hmember) (hmembers key value hmember)
          (htarget.getD key)
  | _ => exact hpatch

end Value

/-- A value as the library builds it. -/
structure Document where
  value : Value
  ordered : value.Ordered

namespace Document

theorem ext {a b : Document} (h : a.value = b.value) : a = b := by
  cases a
  cases b
  cases h
  rfl

/-- A document with a merge patch applied. -/
def patched (patch target : Document) : Document :=
  ⟨Value.patched patch.value target.value, patch.ordered.patched target.ordered⟩

end Document

end Lib

end SozuGateway
