import SozuGateway.Lib.Value

/-!
# Provisioning patches

How the provisioner compares a template with a live object, and the merge patch it writes.

* `subset`, `mergePatch` — the source's functions.
* `get_merged` — what a patched object holds under a key: the template's value merged in, nothing
  where only the previous template had it, else what was there.
* `merge_patch_merges` — the patch is a three-way merge, and writing it again changes nothing.
-/

set_option autoImplicit false

namespace SozuGateway

namespace Controller

open Lib

mutual

/-- Everything a template asks for is in a live object. -/
def subset : Value → Value → Bool
  | .object fields, live => subsetFields fields live
  | .array items, live =>
      match live with
      | .array current => items.length = current.length && subsetItems items current
      | _ => false
  | desired, live => desired = live

def subsetFields : List (String × Value) → Value → Bool
  | [], _ => true
  | (key, value) :: fields, live =>
      (match live.get key with
        | some current => subset value current
        | none => false) && subsetFields fields live

def subsetItems : List Value → List Value → Bool
  | a :: items, b :: current => subset a b && subsetItems items current
  | _, _ => true

end

mutual

/-- The patch from one template to the next. -/
def mergePatch : Value → Value → Value
  | .object old, .object new => .object (mergeFields new old new)
  | _, desired => desired

/-- The loop over the fields of the previous template; the patch starts as the new one. -/
def mergeFields (new : List (String × Value)) :
    List (String × Value) → List (String × Value) → List (String × Value)
  | [], patch => patch
  | (key, value) :: old, patch =>
      mergeFields new old (Fields.insert key
        (match Fields.get key new with
          | some next => mergePatch value next
          | none => .null) patch)

end

/-! ## Templates and live objects -/

theorem subsetFields_iff {fields : List (String × Value)} {live : Value} :
    subsetFields fields live = true ↔
      ∀ field ∈ fields, ∃ current, live.get field.1 = some current ∧
        subset field.2 current = true := by
  induction fields with
  | nil => simp [subsetFields]
  | cons field fields ih =>
    obtain ⟨key, value⟩ := field
    rw [subsetFields, Bool.and_eq_true, ih, List.forall_mem_cons]
    refine and_congr_left fun _ => ?_
    cases live.get key <;> simp

theorem subsetItems_self {items : List Value} (h : ∀ v ∈ items, subset v v = true) :
    subsetItems items items = true := by
  induction items with
  | nil => rfl
  | cons v items ih =>
    rw [subsetItems, h v List.mem_cons_self, Bool.true_and]
    exact ih fun w hw => h w (List.mem_cons_of_mem _ hw)

/-- An object is all that it asks for. -/
theorem subset_self {v : Value} (h : v.Ordered) : subset v v = true := by
  induction v with
  | array items ih =>
    have hitems := Value.orderedItems_iff.1 h
    simp only [subset, decide_true, Bool.true_and]
    exact subsetItems_self fun v hv => ih v hv (hitems v hv)
  | object fields ih =>
    obtain ⟨hsorted, hvalues⟩ := Value.ordered_object.1 h
    rw [subset, subsetFields_iff]
    rintro ⟨key, value⟩ hmem
    have hget := hsorted.get_iff.2 hmem
    exact ⟨value, hget, ih key value hmem (hvalues key value hget)⟩
  | _ => simp [subset]

/-! ## The patch -/

/-- A template that is no object, or follows none, is the whole patch. -/
theorem mergePatch_of_not_object {previous desired : Value}
    (h : ¬∃ old new, previous = .object old ∧ desired = .object new) :
    mergePatch previous desired = desired := by
  cases previous with
  | object old =>
    cases desired with
    | object new => exact absurd ⟨old, new, rfl, rfl⟩ h
    | _ => rfl
  | _ => rfl

theorem mergePatch_null (desired : Value) : mergePatch .null desired = desired :=
  mergePatch_of_not_object (by simp)

theorem mergePatch_ne_null {previous desired : Value} (h : desired ≠ .null) :
    mergePatch previous desired ≠ .null := by
  cases previous with
  | object old =>
    cases desired with
    | object new => simp [mergePatch]
    | _ => exact h
  | _ => exact h

/-- What the loop leaves under a key. -/
theorem get_mergeFields {new old : List (String × Value)} (h : Fields.Sorted old)
    (patch : List (String × Value)) (key : String) :
    Fields.get key (mergeFields new old patch) =
      match Fields.get key old with
      | none => Fields.get key patch
      | some value => some (match Fields.get key new with
          | some next => mergePatch value next
          | none => .null) := by
  induction old generalizing patch with
  | nil => simp [mergeFields]
  | cons field old ih =>
    obtain ⟨k, value⟩ := field
    obtain ⟨hlt, hsorted⟩ := Fields.sorted_cons.1 h
    rw [mergeFields, ih hsorted, Fields.get_cons, Fields.get_insert]
    by_cases hk : k = key
    · subst hk
      rw [Fields.get_eq_none_of_lt hlt, if_pos rfl, if_pos rfl]
    · rw [if_neg hk, if_neg hk]

theorem sorted_mergeFields {new : List (String × Value)} (old : List (String × Value))
    {patch : List (String × Value)} (h : Fields.Sorted patch) :
    Fields.Sorted (mergeFields new old patch) := by
  induction old generalizing patch with
  | nil => rwa [mergeFields]
  | cons field old ih =>
    obtain ⟨key, value⟩ := field
    rw [mergeFields]
    exact ih (h.insert key _)

/-- What the patch to an object holds under a key. -/
theorem get_mergePatch {previous : Value} (h : previous.Ordered) (new : List (String × Value))
    (key : String) :
    (mergePatch previous (.object new)).get key =
      match Fields.get key new with
      | some next => some (mergePatch ((previous.get key).getD .null) next)
      | none => (previous.get key).map fun _ => .null := by
  cases previous with
  | object old =>
    rw [mergePatch, Value.get_object, get_mergeFields (Value.ordered_object.1 h).1,
      Value.get_object]
    cases Fields.get key old with
    | none => cases Fields.get key new <;> simp [mergePatch_null]
    | some value => cases Fields.get key new <;> simp
  | _ =>
    rw [mergePatch_of_not_object (by simp), Value.get_object]
    cases hnew : Fields.get key new <;> simp [Value.get, mergePatch_null]

/-- The patch to an object is one. -/
theorem exists_mergePatch (previous : Value) {new : List (String × Value)}
    (h : Fields.Sorted new) :
    ∃ patch, mergePatch previous (.object new) = .object patch ∧ Fields.Sorted patch := by
  cases previous with
  | object old => exact ⟨_, rfl, sorted_mergeFields old h⟩
  | _ => exact ⟨new, rfl, h⟩

/-- **The patch is ordered.** -/
theorem ordered_mergePatch {previous desired : Value} (hprevious : previous.Ordered)
    (hdesired : desired.Ordered) : (mergePatch previous desired).Ordered := by
  induction desired generalizing previous with
  | object new ih =>
    obtain ⟨hsorted, hvalues⟩ := Value.ordered_object.1 hdesired
    obtain ⟨patch, hpatch, hpatchSorted⟩ := exists_mergePatch previous hsorted
    rw [hpatch]
    refine Value.ordered_object.2 ⟨hpatchSorted, fun key v hget => ?_⟩
    have hv : (mergePatch previous (.object new)).get key = some v := by
      rw [hpatch]
      exact hget
    rw [get_mergePatch hprevious] at hv
    cases hnew : Fields.get key new with
    | some next =>
      rw [hnew] at hv
      obtain rfl := Option.some.inj hv
      exact ih key next (Fields.mem_of_get hnew) (hprevious.getD key) (hvalues key next hnew)
    | none =>
      rw [hnew] at hv
      obtain ⟨w, -, rfl⟩ := Option.map_eq_some_iff.1 hv
      trivial
  | _ =>
    rw [mergePatch_of_not_object (by simp)]
    exact hdesired

/-! ## The patched object -/

/-- A live value with the patch to a template applied. -/
def merged (previous desired live : Value) : Value := (mergePatch previous desired).patched live

/-- A template that is no object replaces the value. -/
theorem merged_of_not_object {desired : Value} (h : ¬∃ new, desired = .object new)
    (previous live : Value) : merged previous desired live = desired := by
  rw [merged, mergePatch_of_not_object fun ⟨_, new, _, hnew⟩ => h ⟨new, hnew⟩]
  cases desired with
  | object new => exact absurd ⟨new, rfl⟩ h
  | _ => rfl

section Objects

variable {previous live : Value} {new : List (String × Value)}

theorem exists_merged (previous : Value) (hnew : Fields.Sorted new) (hlive : live.Ordered) :
    ∃ fields, merged previous (.object new) live = .object fields ∧ Fields.Sorted fields := by
  obtain ⟨patch, hpatch, -⟩ := exists_mergePatch previous hnew
  refine ⟨Value.patchedFields patch live.fields, ?_,
    Value.sorted_patchedFields patch hlive.sorted_fields⟩
  rw [merged, hpatch, Value.patched]

/-- **What the patched object holds under a key.** -/
theorem get_merged (hprevious : previous.Ordered) (hnew : (Value.object new).Ordered)
    (hnull : (Value.object new).NoNull) (key : String) :
    (merged previous (.object new) live).get key =
      match Fields.get key new with
      | some next =>
          some (merged ((previous.get key).getD .null) next ((live.get key).getD .null))
      | none => if previous.get key = none then live.get key else none := by
  have hsorted : Fields.Sorted new := (Value.ordered_object.1 hnew).1
  obtain ⟨patch, hpatch, hpatchSorted⟩ := exists_mergePatch previous hsorted
  have hmember : Fields.get key patch = (mergePatch previous (.object new)).get key := by
    rw [hpatch]
    rfl
  rw [merged, hpatch, Value.patched, Value.get_object, Value.get_patchedFields hpatchSorted,
    hmember, get_mergePatch hprevious, Value.get_fields]
  cases hkey : Fields.get key new with
  | some next =>
    have hne : mergePatch ((previous.get key).getD .null) next ≠ .null :=
      mergePatch_ne_null (hnull.get hkey).ne_null
    simp only [Value.patchedMember, if_neg hne, merged]
  | none => cases previous.get key <;> simp [Value.patchedMember]

end Objects

/-- The patched object is all that the template asks for. -/
theorem subset_merged {previous desired live : Value} (hprevious : previous.Ordered)
    (hdesired : desired.Ordered) (hnull : desired.NoNull) :
    subset desired (merged previous desired live) = true := by
  induction desired generalizing previous live with
  | object new ih =>
    obtain ⟨hsorted, hvalues⟩ := Value.ordered_object.1 hdesired
    rw [subset, subsetFields_iff]
    rintro ⟨key, next⟩ hmem
    have hget := hsorted.get_iff.2 hmem
    rw [get_merged hprevious hdesired hnull, hget]
    exact ⟨_, rfl, ih key next hmem (hprevious.getD key) (hvalues key next hget)
      (hnull.get hget)⟩
  | _ =>
    rw [merged_of_not_object (by simp)]
    exact subset_self hdesired

/-- Where the template is an object, the keys it does not have are those of the live value that
the previous template did not have either. -/
theorem member_merged {previous desired live : Value} (hprevious : previous.Ordered)
    (hdesired : desired.Ordered) (hlive : live.Ordered) (hnull : desired.NoNull)
    {path : List String} {new : List (String × Value)}
    (hpath : desired.at? path = some (.object new)) :
    (∃ fields, (merged previous desired live).at? path = some (.object fields)) ∧
      ∀ key, Fields.get key new = none → (merged previous desired live).member path key =
        if previous.member path key = none then live.member path key else none := by
  induction path generalizing previous desired live with
  | nil =>
    obtain rfl := Option.some.inj hpath
    obtain ⟨fields, hfields, -⟩ :=
      exists_merged previous (Value.ordered_object.1 hdesired).1 hlive
    refine ⟨⟨fields, congrArg some hfields⟩, fun key hkey => ?_⟩
    rw [Value.member_nil, get_merged hprevious hdesired hnull, hkey]
    rfl
  | cons k path ih =>
    obtain ⟨next, hnext, hrest⟩ := Option.bind_eq_some_iff.1 hpath
    cases desired with
    | object fields =>
      have hget : Fields.get k fields = some next := hnext
      have hk : (merged previous (.object fields) live).get k =
          some (merged ((previous.get k).getD .null) next ((live.get k).getD .null)) := by
        rw [get_merged hprevious hdesired hnull, hget]
      obtain ⟨hobject, hmembers⟩ := ih (hprevious.getD k) (hdesired.get hnext) (hlive.getD k)
        (hnull.get hget) hrest
      refine ⟨?_, fun key hkey => ?_⟩
      · rw [Value.at?, hk]
        exact hobject
      · rw [Value.member_cons, hk, Option.bind_some, hmembers key hkey, Value.member_getD,
          Value.member_getD, ← Value.member_cons, ← Value.member_cons]
    | _ => cases hnext

/-- A template is its own patch. -/
theorem mergePatch_self {v : Value} (h : v.Ordered) : mergePatch v v = v := by
  induction v with
  | object fields ih =>
    obtain ⟨hsorted, hvalues⟩ := Value.ordered_object.1 h
    obtain ⟨patch, hpatch, hpatchSorted⟩ := exists_mergePatch (.object fields) hsorted
    rw [hpatch]
    refine congrArg Value.object (hpatchSorted.ext hsorted fun key => ?_)
    have hmember :
        Fields.get key patch = (mergePatch (.object fields) (.object fields)).get key := by
      rw [hpatch]
      rfl
    rw [hmember, get_mergePatch h, Value.get_object]
    cases hkey : Fields.get key fields with
    | none => rfl
    | some v =>
      exact congrArg some (ih key v (Fields.mem_of_get hkey) (hvalues key v hkey))
  | _ => exact mergePatch_of_not_object (by simp)

/-- The template applied to the patched object changes nothing. -/
theorem patched_merged {previous desired live : Value} (hprevious : previous.Ordered)
    (hdesired : desired.Ordered) (hlive : live.Ordered) (hnull : desired.NoNull) :
    desired.patched (merged previous desired live) = merged previous desired live := by
  induction desired generalizing previous live with
  | object new ih =>
    obtain ⟨hsorted, hvalues⟩ := Value.ordered_object.1 hdesired
    obtain ⟨fields, hfields, hfieldsSorted⟩ := exists_merged previous hsorted hlive
    have hget : ∀ key, Fields.get key fields = (merged previous (.object new) live).get key :=
      fun key => by rw [hfields]; rfl
    rw [hfields, Value.patched]
    refine congrArg Value.object
      ((Value.sorted_patchedFields new hfieldsSorted).ext hfieldsSorted fun key => ?_)
    rw [Value.get_patchedFields hsorted]
    cases hkey : Fields.get key new with
    | none => rfl
    | some next =>
      have hne : next ≠ .null := (hnull.get hkey).ne_null
      have hmerged : Fields.get key fields =
          some (merged ((previous.get key).getD .null) next ((live.get key).getD .null)) := by
        rw [hget, get_merged hprevious hdesired hnull, hkey]
      have hsame := ih key next (Fields.mem_of_get hkey)
        (hprevious.getD key) (hvalues key next hkey) (hlive.getD key) (hnull.get hkey)
      show Value.patchedMember next (Fields.get key fields) = Fields.get key fields
      rw [hmerged, Value.patchedMember, if_neg hne, Option.getD_some, hsame]
  | _ =>
    rw [merged_of_not_object (by simp)]
    rfl

/-- The patch from one template to the next, as the library builds it. -/
def templatePatch (previous desired : Document) : Document :=
  ⟨mergePatch previous.value desired.value, ordered_mergePatch previous.ordered desired.ordered⟩

/-- **The patch is a three-way merge**, and writing it again changes nothing. -/
theorem merge_patch_merges (previous desired live : Document) (hnull : desired.value.NoNull) :
    let r := (templatePatch previous desired).patched live
    subset desired.value r.value = true ∧
      (∀ path new, desired.value.at? path = some (.object new) →
        (∃ fields, r.value.at? path = some (.object fields)) ∧
          ∀ key, Fields.get key new = none →
            (previous.value.member path key ≠ none → r.value.member path key = none) ∧
            (previous.value.member path key = none →
              r.value.member path key = live.value.member path key)) ∧
      (templatePatch desired desired).patched r = r := by
  intro r
  have hr : r.value = merged previous.value desired.value live.value := rfl
  refine ⟨?_, fun path new hpath => ?_, ?_⟩
  · exact hr ▸ subset_merged previous.ordered desired.ordered hnull
  · obtain ⟨hobject, hmembers⟩ :=
      member_merged previous.ordered desired.ordered live.ordered hnull hpath
    refine ⟨hr ▸ hobject, fun key hkey => ⟨fun hheld => ?_, fun hnone => ?_⟩⟩
    · rw [hr, hmembers key hkey, if_neg hheld]
    · rw [hr, hmembers key hkey, if_pos hnone]
  · have hvalue : ((templatePatch desired desired).patched r).value = r.value := by
      show (mergePatch desired.value desired.value).patched r.value = r.value
      rw [mergePatch_self desired.ordered, hr,
        patched_merged previous.ordered desired.ordered live.ordered hnull]
    exact Document.ext hvalue

/-! A template that no longer sets the replicas, on a live object that another has scaled. -/

/-- The template that was written before. -/
def scaledTemplate : Document where
  value := .object [("spec", .object [("image", .string "a"), ("replicas", .number (.posInt 1))])]
  ordered := ⟨by decide +kernel, ⟨by decide +kernel, trivial, trivial, trivial⟩, trivial⟩

/-- The template now. -/
def imageTemplate : Document where
  value := .object [("spec", .object [("image", .string "b")])]
  ordered := ⟨by decide +kernel, ⟨by decide +kernel, trivial, trivial⟩, trivial⟩

/-- The live object. -/
def scaledObject : Document where
  value := .object [("spec", .object [("image", .string "a"), ("paused", .bool true),
    ("replicas", .number (.posInt 3))])]
  ordered := ⟨by decide +kernel, ⟨by decide +kernel, trivial, trivial, trivial, trivial⟩, trivial⟩

/-- The replicas are gone, and the other field stays. -/
theorem merge_patch_merges_scaled :
    let r := (templatePatch scaledTemplate imageTemplate).patched scaledObject
    subset imageTemplate.value r.value = true ∧
      r.value.member ["spec"] "replicas" = none ∧
      r.value.member ["spec"] "paused" = some (.bool true) ∧
      (templatePatch imageTemplate imageTemplate).patched r = r := by
  have hnull : imageTemplate.value.NoNull := by
    simp [imageTemplate, Value.NoNull, Value.NoNullFields]
  obtain ⟨hsubset, hmembers, hagain⟩ :=
    merge_patch_merges scaledTemplate imageTemplate scaledObject hnull
  obtain ⟨-, hkeys⟩ := hmembers ["spec"] [("image", .string "b")] rfl
  exact ⟨hsubset, (hkeys "replicas" rfl).1 (by decide +kernel),
    (hkeys "paused" rfl).2 rfl, hagain⟩

end Controller

end SozuGateway
