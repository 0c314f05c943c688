import SozuGateway.Lib.BTreeMap
import SozuGateway.Lib.Sorting

/-!
# Objects grouped under a key

`Keyed` of the replay: the objects of one kind, grouped under the key the translator
identifies them by, each with its place in the output.

* `Keyed.new`, `Keyed.set`, `Keyed.remove`, `Keyed.intoObjects` — as in the source.
* `Keyed.WellKeyed` — each object is in the group of its key, in the order of its
  places; every operation keeps it.
* `Keyed.group` — the objects of a key, in order; `under_intoObjects` — the objects
  of a key in the output are those kept of its group.
-/

set_option autoImplicit false

namespace SozuGateway

namespace Translator

open Lib

/-- The objects of one key. -/
structure Group (T : Type) where
  /-- The step of the request that set the group, 0 for the previous one's. -/
  since : ℕ
  /-- The objects, each with its output position. -/
  objects : List (ℕ × T)

/-- One kind of object, grouped under its key. -/
structure Keyed (K T : Type) [LinearOrder K] where
  groups : BTreeMap K (Group T)
  /-- The next output position. -/
  next : ℕ

/-- Objects with their output positions, counted from `n`. -/
def numbered {T : Type} (n : ℕ) (objects : List T) : List (ℕ × T) :=
  (objects.zipIdx n).map Prod.swap

namespace Keyed

variable {K T : Type} [LinearOrder K]

/-- File one object at the end of its group, as the previous state's. -/
def file (key : T → K) (groups : BTreeMap K (Group T)) (entry : ℕ × T) : BTreeMap K (Group T) :=
  groups.insert (key entry.2)
    ⟨(groups[key entry.2]?.map Group.since).getD 0,
      (groups[key entry.2]?.map Group.objects).getD [] ++ [entry]⟩

/-- The objects of the previous state, under their keys. -/
def new (objects : List T) (key : T → K) : Keyed K T where
  groups := (numbered 0 objects).foldl (file key) ∅
  next := objects.length

/-- The group under `key` becomes `wanted`, set at `step`; without anything wanted it
stays. -/
def set (q : Keyed K T) (key : K) (wanted : Option (List T)) (step : ℕ) : Keyed K T :=
  match wanted with
  | none => q
  | some wanted =>
      { groups := q.groups.insert key ⟨step, numbered q.next wanted⟩
        next := q.next + wanted.length }

def remove (q : Keyed K T) (key : K) : Keyed K T := { q with groups := q.groups.erase key }

/-- The objects `keep` returns for each group, in output order. -/
def intoObjects (q : Keyed K T) (keep : K → ℕ → List (ℕ × T) → List (ℕ × T)) : List T :=
  (sortBy Prod.fst
    (q.groups.toList.flatMap fun kg => keep kg.1 kg.2.since kg.2.objects)).map Prod.snd

end Keyed

/-- The objects of a list under a key. -/
def under {K T : Type} [LinearOrder K] (key : T → K) (k : K) (objects : List T) : List T :=
  objects.filter fun o => key o = k

/-- What a list holds under each key. -/
def wanted {K T : Type} [LinearOrder K] (objects : List T) (key : T → K) : BTreeMap K (List T) :=
  objects.foldl (fun out object => out.insert (key object) (out[key object]?.getD [] ++ [object])) ∅

theorem map_snd_numbered {T : Type} (n : ℕ) (objects : List T) :
    (numbered n objects).map Prod.snd = objects := by
  have hsnd : (Prod.snd ∘ Prod.swap : T × ℕ → T) = Prod.fst := rfl
  rw [numbered, List.map_map, hsnd, List.zipIdx_map_fst]

theorem pairwise_numbered {T : Type} (n : ℕ) (objects : List T) :
    (numbered n objects).Pairwise fun entry entry' => entry.1 ≤ entry'.1 := by
  induction objects generalizing n with
  | nil => simp [numbered]
  | cons o objects ih =>
    rw [numbered, List.zipIdx_cons, List.map_cons, List.pairwise_cons]
    refine ⟨fun entry hentry => ?_, ih (n + 1)⟩
    obtain ⟨⟨o', i⟩, hmem, rfl⟩ := List.mem_map.1 hentry
    have hle := (List.mem_zipIdx hmem).1
    show n ≤ i
    omega

/-! ## What is under a key -/

section Lookups

variable {K T : Type} [LinearOrder K] {key : T → K}

theorem under_cons (key : T → K) (k : K) (o : T) (objects : List T) :
    under key k (o :: objects) =
      if key o = k then o :: under key k objects else under key k objects := by
  by_cases ho : key o = k
  · simp [under, ho]
  · simp [under, ho]

theorem mem_under {k : K} {objects : List T} {o : T} :
    o ∈ under key k objects ↔ o ∈ objects ∧ key o = k := by
  simp [under]

theorem under_eq_filter {k : K} {objects : List T} {p : T → Bool}
    (h : ∀ o ∈ objects, key o = k ↔ p o = true) : under key k objects = objects.filter p :=
  List.filter_congr fun o ho => Bool.eq_iff_iff.2 (decide_eq_true_iff.trans (h o ho))

theorem under_eq_self {k : K} {objects : List T} (h : ∀ o ∈ objects, key o = k) :
    under key k objects = objects :=
  List.filter_eq_self.2 fun o ho => decide_eq_true (h o ho)

theorem getElem?_foldl_wanted (objects : List T) (out : BTreeMap K (List T)) (k : K) :
    (objects.foldl
      (fun out object => out.insert (key object) (out[key object]?.getD [] ++ [object]))
      out)[k]? =
      if under key k objects = [] then out[k]?
      else some (out[k]?.getD [] ++ under key k objects) := by
  induction objects generalizing out with
  | nil => simp [under]
  | cons o objects ih =>
    rw [List.foldl_cons, ih, BTreeMap.getElem?_insert, under_cons]
    by_cases ho : key o = k
    · subst ho
      by_cases hrest : under key (key o) objects = []
      · simp [hrest]
      · simp [hrest]
    · simp [ho]

/-- **What a list holds under a key**: its objects of that key, in order. -/
theorem getElem?_wanted (objects : List T) (k : K) :
    (wanted objects key)[k]? =
      if under key k objects = [] then none else some (under key k objects) := by
  rw [wanted, getElem?_foldl_wanted]
  simp

theorem key_of_wanted {objects : List T} {k : K} {l : List T}
    (hl : l ∈ (wanted objects key)[k]?) {o : T} (ho : o ∈ l) : key o = k := by
  rw [getElem?_wanted] at hl
  split at hl
  · cases hl
  · obtain rfl := Option.some.inj hl
    exact (mem_under.1 ho).2

end Lookups

namespace Keyed

variable {K T : Type} [LinearOrder K] {key : T → K}

/-- The objects of a key, in order. -/
def group (q : Keyed K T) (k : K) : List T :=
  (q.groups[k]?.map fun g => g.objects.map Prod.snd).getD []

/-- The step that set a key's group. -/
def since (q : Keyed K T) (k : K) : ℕ := (q.groups[k]?.map Group.since).getD 0

/-- Each object is in the group of its key, in the order of its places. -/
structure WellKeyed (key : T → K) (q : Keyed K T) : Prop where
  keyed : ∀ (k : K) g, q.groups[k]? = some g → ∀ entry ∈ g.objects, key entry.2 = k
  ordered : ∀ (k : K) g, q.groups[k]? = some g →
    g.objects.Pairwise fun entry entry' => entry.1 ≤ entry'.1

theorem getElem?_foldl_file (entries : List (ℕ × T)) (groups : BTreeMap K (Group T)) (k : K) :
    (entries.foldl (file key) groups)[k]? =
      if (entries.filter fun entry => key entry.2 = k) = [] then groups[k]?
      else some ⟨(groups[k]?.map Group.since).getD 0, (groups[k]?.map Group.objects).getD [] ++
        entries.filter fun entry => key entry.2 = k⟩ := by
  induction entries generalizing groups with
  | nil => simp
  | cons entry entries ih =>
    rw [List.foldl_cons, ih, file, BTreeMap.getElem?_insert]
    by_cases hentry : key entry.2 = k
    · subst hentry
      by_cases hrest : (entries.filter fun entry' => key entry'.2 = key entry.2) = []
      · simp [hrest]
      · simp [hrest]
    · rw [if_neg hentry, List.filter_cons_of_neg (by simpa using hentry)]

theorem filter_numbered (objects : List T) (k : K) :
    ((numbered 0 objects).filter fun entry => key entry.2 = k).map Prod.snd =
      under key k objects := by
  have hcomp : (fun entry : ℕ × T => decide (key entry.2 = k)) =
      (fun o => decide (key o = k)) ∘ Prod.snd := rfl
  rw [hcomp, ← List.filter_map, map_snd_numbered]
  rfl

/-- The groups of the previous state's objects. -/
theorem getElem?_new (objects : List T) (k : K) :
    (new objects key).groups[k]? =
      if under key k objects = [] then none
      else some ⟨0, (numbered 0 objects).filter fun entry => key entry.2 = k⟩ := by
  have hnil : ((numbered 0 objects).filter fun entry => key entry.2 = k) = [] ↔
      under key k objects = [] := by
    rw [← filter_numbered objects k, List.map_eq_nil_iff]
  rw [new, getElem?_foldl_file]
  by_cases hempty : under key k objects = []
  · rw [if_pos hempty, if_pos (hnil.2 hempty), BTreeMap.getElem?_empty]
  · rw [if_neg hempty, if_neg fun h => hempty (hnil.1 h)]
    simp

/-- **The group of a key, before anything is replayed**: the objects of that key. -/
@[simp] theorem group_new (objects : List T) (k : K) :
    (new objects key).group k = under key k objects := by
  rw [group, getElem?_new]
  by_cases hempty : under key k objects = []
  · rw [if_pos hempty, hempty]
    rfl
  · rw [if_neg hempty, Option.map_some, Option.getD_some, filter_numbered]

theorem wellKeyed_new (objects : List T) : WellKeyed key (new objects key) := by
  refine ⟨fun k g hg entry hentry => ?_, fun k g hg => ?_⟩
  · rw [getElem?_new] at hg
    split at hg
    · cases hg
    · obtain rfl := Option.some.inj hg
      simpa using List.of_mem_filter hentry
  · rw [getElem?_new] at hg
    split at hg
    · cases hg
    · obtain rfl := Option.some.inj hg
      exact (pairwise_numbered 0 objects).sublist List.filter_sublist

theorem WellKeyed.set {q : Keyed K T} (hq : WellKeyed key q) {k : K} {objects : Option (List T)}
    (hobjects : ∀ l ∈ objects, ∀ o ∈ l, key o = k) (step : ℕ) :
    WellKeyed key (q.set k objects step) := by
  cases objects with
  | none => exact hq
  | some l =>
    have hl := hobjects l rfl
    refine ⟨fun k' g hg entry hentry => ?_, fun k' g hg => ?_⟩
    · simp only [Keyed.set, BTreeMap.getElem?_insert] at hg
      split at hg
      · rename_i hk
        obtain rfl := Option.some.inj hg
        rw [← hk]
        refine hl entry.2 ?_
        rw [← map_snd_numbered q.next l]
        exact List.mem_map_of_mem hentry
      · exact hq.keyed k' g hg entry hentry
    · simp only [Keyed.set, BTreeMap.getElem?_insert] at hg
      split at hg
      · obtain rfl := Option.some.inj hg
        exact pairwise_numbered q.next l
      · exact hq.ordered k' g hg

theorem WellKeyed.remove {q : Keyed K T} (hq : WellKeyed key q) (k : K) :
    WellKeyed key (q.remove k) := by
  have hget : ∀ (k' : K) g, (q.remove k).groups[k']? = some g → q.groups[k']? = some g := by
    intro k' g hg
    simp only [Keyed.remove, BTreeMap.getElem?_erase] at hg
    split at hg
    · cases hg
    · exact hg
  exact ⟨fun k' g hg => hq.keyed k' g (hget k' g hg), fun k' g hg => hq.ordered k' g (hget k' g hg)⟩

theorem group_set {q : Keyed K T} {k : K} {l : List T} {step : ℕ} (k' : K) :
    (q.set k (some l) step).group k' = if k = k' then l else q.group k' := by
  simp only [group, Keyed.set, BTreeMap.getElem?_insert]
  by_cases hk : k = k'
  · rw [if_pos hk, if_pos hk, Option.map_some, Option.getD_some]
    exact map_snd_numbered q.next l
  · rw [if_neg hk, if_neg hk]

@[simp] theorem group_remove {q : Keyed K T} {k : K} (k' : K) :
    (q.remove k).group k' = if k = k' then [] else q.group k' := by
  simp only [group, Keyed.remove, BTreeMap.getElem?_erase]
  by_cases hk : k = k'
  · simp [hk]
  · simp [hk]

/-! ## The output -/

/-- The entries a list of groups gives under one key, when each gives entries of its
own key only. -/
theorem filter_flatMap_of_keyed {groups : List (K × Group T)}
    {keep : K → ℕ → List (ℕ × T) → List (ℕ × T)} (hnd : (groups.map Prod.fst).Nodup)
    (hkeep : ∀ kg ∈ groups, ∀ entry ∈ keep kg.1 kg.2.since kg.2.objects, key entry.2 = kg.1)
    {k : K} {g : Group T} (hk : (k, g) ∈ groups) :
    ((groups.flatMap fun kg => keep kg.1 kg.2.since kg.2.objects).filter
      fun entry => key entry.2 = k) = keep k g.since g.objects := by
  obtain ⟨before, after, rfl⟩ := List.append_of_mem hk
  rw [List.map_append, List.map_cons, List.nodup_append, List.nodup_cons] at hnd
  have hother : ∀ l : List (K × Group T), (∀ kg ∈ l, kg ∈ before ++ (k, g) :: after) →
      (∀ kg ∈ l, kg.1 ≠ k) → ((l.flatMap fun kg => keep kg.1 kg.2.since kg.2.objects).filter
        fun entry => key entry.2 = k) = [] := by
    intro l hl hne
    rw [List.filter_eq_nil_iff]
    intro entry hentry
    obtain ⟨kg, hkg, hentry⟩ := List.mem_flatMap.1 hentry
    have hkey := hkeep kg (hl kg hkg) entry hentry
    simp [hkey, hne kg hkg]
  have hself : ((keep k g.since g.objects).filter fun entry => key entry.2 = k) =
      keep k g.since g.objects := by
    rw [List.filter_eq_self]
    intro entry hentry
    simpa using hkeep (k, g) (by simp) entry hentry
  have hbefore := hother before (fun kg hkg => by simp [hkg]) fun kg hkg heq =>
    hnd.2.2 kg.1 (List.mem_map_of_mem hkg) k (by simp) heq
  have hafter := hother after (fun kg hkg => by simp [hkg]) fun kg hkg heq =>
    hnd.2.1.1 (List.mem_map.2 ⟨kg, hkg, heq⟩)
  rw [List.flatMap_append, List.flatMap_cons, List.filter_append, List.filter_append, hbefore,
    hafter, hself, List.nil_append, List.append_nil]

/-- **The objects of a key in the output are those kept of its group**, in order. -/
theorem under_intoObjects {q : Keyed K T} (hq : WellKeyed key q)
    {keep : K → ℕ → List (ℕ × T) → List (ℕ × T)}
    (hkeep : ∀ k since objects, (keep k since objects).Sublist objects) (k : K) :
    under key k (q.intoObjects keep) =
      (q.groups[k]?.map fun g => (keep k g.since g.objects).map Prod.snd).getD [] := by
  have hnd : (q.groups.toList.map Prod.fst).Nodup := by
    rw [Std.ExtTreeMap.map_fst_toList_eq_keys]
    have hdistinct := @Std.ExtTreeMap.distinct_keys _ _ _ q.groups _
    exact hdistinct.imp fun h heq => h (by simp [heq])
  have hmem : ∀ kg : K × Group T, kg ∈ q.groups.toList ↔ q.groups[kg.1]? = some kg.2 :=
    fun kg => Std.ExtTreeMap.mem_toList_iff_getElem?_eq_some
  have hkeyed : ∀ kg ∈ q.groups.toList, ∀ entry ∈ keep kg.1 kg.2.since kg.2.objects,
      key entry.2 = kg.1 := fun kg hkg entry hentry =>
    hq.keyed kg.1 kg.2 ((hmem kg).1 hkg) entry ((hkeep _ _ _).subset hentry)
  have hfilter : under key k (q.intoObjects keep) =
      ((sortBy Prod.fst ((q.groups.toList.flatMap fun kg =>
        keep kg.1 kg.2.since kg.2.objects).filter fun entry => key entry.2 = k)).map Prod.snd) := by
    rw [under, intoObjects, List.filter_map, ← filter_sortBy]
    rfl
  rw [hfilter]
  cases hg : q.groups[k]? with
  | none =>
    have hnil : ((q.groups.toList.flatMap fun kg => keep kg.1 kg.2.since kg.2.objects).filter
        fun entry => key entry.2 = k) = [] := by
      rw [List.filter_eq_nil_iff]
      intro entry hentry
      obtain ⟨kg, hkg, hentry⟩ := List.mem_flatMap.1 hentry
      have hne : kg.1 ≠ k := by
        rintro rfl
        rw [(hmem kg).1 hkg] at hg
        cases hg
      simp [hkeyed kg hkg entry hentry, hne]
    rw [hnil]
    rfl
  | some g =>
    rw [filter_flatMap_of_keyed hnd hkeyed ((hmem (k, g)).2 hg)]
    have hordered : (keep k g.since g.objects).Pairwise fun entry entry' => entry.1 ≤ entry'.1 :=
      (hq.ordered k g hg).sublist (hkeep _ _ _)
    have hsorted : sortBy Prod.fst (keep k g.since g.objects) = keep k g.since g.objects :=
      List.Pairwise.insertionSort_eq hordered
    rw [hsorted]
    rfl

/-- The same, when what is kept of a group is a filter of its objects. -/
theorem under_intoObjects_filter {q : Keyed K T} (hq : WellKeyed key q) (P : ℕ → T → Bool) (k : K) :
    under key k (q.intoObjects fun _ since objects => objects.filter fun entry => P since entry.2) =
      (q.group k).filter (P (q.since k)) := by
  rw [under_intoObjects hq (fun _ _ _ => List.filter_sublist) k, group, since]
  cases q.groups[k]? with
  | none => rfl
  | some g =>
    simp only [Option.map_some, Option.getD_some]
    rw [List.filter_map]
    rfl

end Keyed

end Translator

end SozuGateway
