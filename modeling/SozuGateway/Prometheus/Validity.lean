import SozuGateway.Prometheus.Series

/-!
# Valid expositions

When a scrape takes what `render` writes.

* `labels_injective` — a label set tells the scope and the synthetic label.
* `samples_perm` — the samples are those of the series that are kept, and the count of the others.
* `Clean` — the metrics whose exposition is valid.
* `render_valid_iff` — no others have one; and a rendered id is read back.
-/

set_option autoImplicit false

namespace SozuGateway

namespace Prometheus

open Lib Exposition

/-! ## Label sets -/

/-- The value of a label. -/
def labelValue (key : String) (labels : List (String × String)) : Option String :=
  (labels.find? fun l => l.1 = key).map Prod.snd

/-- Two lists of labels with one set, and each key once, have the same values. -/
theorem labelValue_congr {labels labels' : List (String × String)}
    (h : (labels.map Prod.fst).Nodup) (h' : (labels'.map Prod.fst).Nodup)
    (hset : labels.toFinset = labels'.toFinset) (key : String) :
    labelValue key labels = labelValue key labels' := by
  have hmem : ∀ {labels : List (String × String)}, (labels.map Prod.fst).Nodup → ∀ value,
      labelValue key labels = some value ↔ (key, value) ∈ labels := by
    intro labels hnodup value
    rw [labelValue, Option.map_eq_some_iff]
    constructor
    · rintro ⟨⟨k, v⟩, hfind, rfl⟩
      obtain rfl : k = key := by simpa using List.find?_some hfind
      exact List.mem_of_find?_eq_some hfind
    · intro hin
      obtain ⟨l, hl⟩ : ∃ l, labels.find? (fun l => l.1 = key) = some l :=
        Option.isSome_iff_exists.1 (List.find?_isSome.2 ⟨_, hin, by simp⟩)
      have hkey : l.1 = key := by simpa using List.find?_some hl
      have heq : l = (key, value) :=
        List.inj_on_of_nodup_map hnodup (List.mem_of_find?_eq_some hl) hin hkey
      exact ⟨l, hl, heq ▸ rfl⟩
  refine Option.ext fun value => ?_
  rw [hmem h, hmem h', ← List.mem_toFinset, hset, List.mem_toFinset]

theorem nodup_labels (scope : Scope) (extra : Extra) :
    ((scope.labels ++ extra.labels).map Prod.fst).Nodup := by
  cases scope <;> cases extra <;> simp [Scope.labels, Extra.labels]

/-- **A label set tells the scope and the synthetic label.** -/
theorem labels_injective {scope scope' : Scope} {extra extra' : Extra}
    (h : (scope.labels ++ extra.labels).toFinset = (scope'.labels ++ extra'.labels).toFinset) :
    scope = scope' ∧ extra = extra' := by
  have hlabel := labelValue_congr (nodup_labels scope extra) (nodup_labels scope' extra') h
  have hscope : scope = scope' := by
    have hprocess := hlabel "process"
    have hcluster := hlabel "cluster_id"
    have hbackend := hlabel "backend_id"
    cases extra <;> cases extra' <;> cases scope <;> cases scope' <;>
      simp_all [labelValue, Scope.labels, Extra.labels, List.find?]
  subst hscope
  refine ⟨rfl, ?_⟩
  have hle := hlabel "le"
  have hquantile := hlabel "quantile"
  cases scope <;> cases extra <;> cases extra' <;>
    simp_all [labelValue, Scope.labels, Extra.labels, List.find?]

/-! ## Names -/

/-- A name is cut before its suffix. -/
theorem append_suffix_inj {a b x y : String} (hx : x ∈ suffixes) (hy : y ∈ suffixes)
    (h : a ++ x = b ++ y) : a = b ∧ x = y := by
  have hreverse : x.toList.reverse ++ a.toList.reverse = y.toList.reverse ++ b.toList.reverse := by
    rw [← List.reverse_append, ← List.reverse_append, ← String.toList_append,
      ← String.toList_append, h]
  have hxy : x = y := by
    simp only [suffixes, List.mem_cons, List.not_mem_nil, or_false] at hx hy
    rcases hx with rfl | rfl | rfl <;> rcases hy with rfl | rfl | rfl <;>
      first | rfl | simp at hreverse
  subst hxy
  exact ⟨String.toList_inj.1 (List.reverse_injective (List.append_cancel_left hreverse)), rfl⟩

theorem suffix_ne_empty {x : String} (hx : x ∈ suffixes) : x ≠ "" := by
  rintro rfl
  exact absurd hx (by decide +kernel)

/-- A name is not another one that is longer. -/
theorem append_suffix_ne {a x : String} (hx : x ∈ suffixes) : a ++ x ≠ a := by
  intro h
  rw [← String.toList_inj, String.toList_append] at h
  exact suffix_ne_empty hx (String.toList_inj.1 (List.append_right_eq_self.1 h))

/-- The name of the dropped series is no part of a histogram or of a summary. -/
theorem append_suffix_ne_droppedName {a x : String} (hx : x ∈ suffixes) : a ++ x ≠ droppedName := by
  intro h
  have hreverse : x.toList.reverse ++ a.toList.reverse = droppedName.toList.reverse := by
    rw [← List.reverse_append, ← String.toList_append, h]
  simp only [suffixes, List.mem_cons, List.not_mem_nil, or_false] at hx
  rcases hx with rfl | rfl | rfl <;> simp [droppedName] at hreverse

/-! ## Points -/

namespace Kind

variable {k k' : Kind}

/-- The type has parts that belong to it by their suffix. -/
def Compound (k : Kind) : Prop := k.mtype = .histogram ∨ k.mtype = .summary

/-- A sample is emitted with this suffix. -/
def Emits (k : Kind) (suffix : String) : Prop :=
  suffix = "" ∧ k.mtype ≠ .histogram ∨
    suffix ∈ suffixes ∧ (k.mtype = .histogram ∨ k.mtype = .summary ∧ suffix ≠ "_bucket")

/-- The suffixes of the points are those that the type emits. -/
theorem exists_point_iff (suffix : String) :
    (∃ p ∈ k.points, p.suffix = suffix) ↔ k.Emits suffix := by
  cases k with
  | gauge v => simp [points, Emits, mtype, eq_comm]
  | counter v => simp [points, Emits, mtype, eq_comm]
  | histogram h =>
    simp only [points, Emits, mtype, suffixes, List.mem_append, List.mem_map, List.mem_cons,
      List.not_mem_nil, or_false]
    constructor
    · rintro ⟨p, ⟨b, -, rfl⟩ | rfl | rfl | rfl, rfl⟩ <;> simp
    · rintro (⟨-, h⟩ | ⟨rfl | rfl | rfl, -⟩)
      · exact absurd rfl h
      · exact ⟨_, .inr (.inl rfl), rfl⟩
      · exact ⟨_, .inr (.inr (.inl rfl)), rfl⟩
      · exact ⟨_, .inr (.inr (.inr rfl)), rfl⟩
  | summary p =>
    simp only [points, Emits, mtype, suffixes, List.mem_append, List.mem_map, List.mem_cons,
      List.not_mem_nil, or_false]
    constructor
    · rintro ⟨p, ⟨q, -, rfl⟩ | rfl | rfl, rfl⟩ <;> simp
    · rintro (⟨rfl, -⟩ | ⟨rfl | rfl | rfl, h⟩)
      · exact ⟨_, .inl ⟨("0.5", p.p_50), by simp [quantiles], rfl⟩, rfl⟩
      · simp at h
      · exact ⟨_, .inr (.inl rfl), rfl⟩
      · exact ⟨_, .inr (.inr rfl), rfl⟩

/-- Two kinds of one type have a sample with the same suffix and synthetic label. -/
theorem exists_common_point (h : k.mtype = k'.mtype) :
    ∃ p ∈ k.points, ∃ p' ∈ k'.points, p.suffix = p'.suffix ∧ p.extra = p'.extra := by
  cases k with
  | gauge v =>
    cases k' with
    | gauge v' => exact ⟨_, List.mem_singleton_self _, _, List.mem_singleton_self _, rfl, rfl⟩
    | _ => cases h
  | counter v =>
    cases k' with
    | counter v' => exact ⟨_, List.mem_singleton_self _, _, List.mem_singleton_self _, rfl, rfl⟩
    | _ => cases h
  | histogram x =>
    cases k' with
    | histogram x' =>
      exact ⟨⟨"_sum", .none, decimal x.sum⟩, by simp [points], ⟨"_sum", .none, decimal x'.sum⟩,
        by simp [points], rfl, rfl⟩
    | _ => cases h
  | summary x =>
    cases k' with
    | summary x' =>
      exact ⟨⟨"_sum", .none, decimal x.sum⟩, by simp [points], ⟨"_sum", .none, decimal x'.sum⟩,
        by simp [points], rfl, rfl⟩
    | _ => cases h

/-- What tells the samples of a series apart. -/
def pointKey (p : Point) : String × Extra := (p.suffix, p.extra)

theorem decimal_injective : Function.Injective decimal := toDigits_ten_injective

/-- No bound is the infinite one. -/
theorem decimal_ne_inf (n : ℕ) : String.ofList (decimal n) ≠ "+Inf" := by
  intro h
  have hplus : '+' ∈ decimal n := by
    rw [← String.toList_ofList (l := decimal n), h]
    decide +kernel
  have hdigit : '+'.isDigit = true := Nat.isDigit_of_mem_toDigits (by decide) (by decide) hplus
  exact absurd hdigit (by decide)

/-- **The samples of a series are apart where the bounds of its buckets are.** -/
theorem nodup_points :
    (k.points.map pointKey).Nodup ↔
      ∀ h, k = .histogram h → (h.buckets.map Bucket.le).Nodup := by
  cases k with
  | gauge v => simp [points]
  | counter v => simp [points]
  | histogram h =>
    have hle : Function.Injective fun n : ℕ =>
        (("_bucket", Extra.le (String.ofList (decimal n))) : String × Extra) := by
      intro m n hmn
      have hbounds := Extra.le.inj (Prod.mk.inj hmn).2
      exact decimal_injective (String.ofList_inj.1 hbounds)
    have hmap : h.buckets.map (fun b =>
        (("_bucket", Extra.le (String.ofList (decimal b.le))) : String × Extra)) =
          (h.buckets.map Bucket.le).map fun n =>
            ("_bucket", Extra.le (String.ofList (decimal n))) := by
      rw [List.map_map]
      rfl
    have hpoints : (Kind.histogram h).points.map pointKey =
        (h.buckets.map Bucket.le).map (fun n =>
          ("_bucket", Extra.le (String.ofList (decimal n)))) ++
            [("_bucket", .le "+Inf"), ("_sum", .none), ("_count", .none)] := by
      simp [points, pointKey]
    rw [hpoints, List.nodup_append, List.nodup_map_iff hle]
    simp only [Kind.histogram.injEq, forall_eq']
    refine and_iff_left ⟨by decide, ?_⟩
    intro x hx y hy hxy
    obtain ⟨n, -, rfl⟩ := List.mem_map.1 hx
    subst hxy
    have hne := decimal_ne_inf n
    simp [hne] at hy
  | summary p =>
    refine iff_of_true ?_ (by simp)
    simp [points, pointKey, quantiles]

end Kind

/-! ## What the exposition holds -/

section Parts

variable {α κ : Type*} [DecidableEq κ] {key : α → κ}

/-- A list is the parts of its keys. -/
theorem perm_parts (l : List α) {keys : List κ} (hkeys : keys.Nodup) :
    (keys.flatMap fun k => l.filter fun a => key a = k).Perm (l.filter fun a => key a ∈ keys) := by
  induction keys with
  | nil => simp
  | cons k keys ih =>
    obtain ⟨hk, hkeys⟩ := List.nodup_cons.1 hkeys
    have hone : (l.filter fun a => key a ∈ k :: keys).filter (fun a => key a = k) =
        l.filter fun a => key a = k := by
      rw [List.filter_filter]
      refine List.filter_congr fun a _ => ?_
      by_cases ha : key a = k <;> simp [ha]
    have hrest : (l.filter fun a => key a ∈ k :: keys).filter (fun a => !decide (key a = k)) =
        l.filter fun a => key a ∈ keys := by
      rw [List.filter_filter]
      refine List.filter_congr fun a _ => ?_
      by_cases ha : key a = k
      · simp [ha, hk]
      · simp [ha]
    have hsplit := List.filter_append_perm (fun a => decide (key a = k))
      (l.filter fun a => key a ∈ k :: keys)
    rw [hone, hrest] at hsplit
    rw [List.flatMap_cons]
    exact ((ih hkeys).append_left _).trans hsplit

end Parts

/-- The names and the types of the families. -/
def table (l : List Series) : List (String × MetricType) :=
  (added l).map.toList.map fun f => (f.1, f.2.mtype)

theorem mem_table {l : List Series} {base : String} {mtype : MetricType} :
    (base, mtype) ∈ table l ↔ firstType l base = some mtype := by
  rw [table, List.mem_map]
  constructor
  · rintro ⟨f, hf, heq⟩
    cases heq
    have hat := Std.ExtTreeMap.mem_toList_iff_getElem?_eq_some.1 hf
    rw [map_added, familyOf] at hat
    obtain ⟨mtype, hmtype, heq⟩ := Option.map_eq_some_iff.1 hat
    rw [hmtype, ← heq]
  · intro h
    refine ⟨(base, ⟨mtype, (familySeries l base mtype).map fun s => (s.key, s.lines)⟩),
      Std.ExtTreeMap.mem_toList_iff_getElem?_eq_some.2 ?_, rfl⟩
    rw [map_added, familyOf, h]
    rfl

theorem nodup_table (l : List Series) : (table l).Nodup := by
  rw [table, List.Nodup, List.pairwise_map]
  refine Std.ExtTreeMap.distinct_keys_toList.imp fun hdistinct heq => ?_
  exact hdistinct (by rw [(Prod.mk.inj heq).1]; exact Std.ReflCmp.compare_self)

/-- The series that are rendered. -/
def keptSeries (l : List Series) : List Series := l.filter fun s => Kept l s

theorem mem_keptSeries {l : List Series} {s : Series} : s ∈ keptSeries l ↔ s ∈ l ∧ Kept l s := by
  simp [keptSeries]

/-- The families hold the series that are rendered. -/
theorem familySeries_perm (l : List Series) :
    ((table l).flatMap fun f => familySeries l f.1 f.2).Perm (keptSeries l) := by
  have hparts := @perm_parts _ _ _ (fun s : Series => (s.base, s.mtype)) l _ (nodup_table l)
  have hfamily : (table l).flatMap (fun f => familySeries l f.1 f.2) =
      (table l).flatMap fun f => l.filter fun s => (s.base, s.mtype) = f :=
    List.flatMap_congr fun f _ => List.filter_congr fun s _ =>
      decide_eq_decide.2 (Prod.ext_iff (x := (s.base, s.mtype)) (y := f)).symm
  have hkept : (l.filter fun s => Kept l s) = keptSeries l := rfl
  rw [hfamily, ← hkept]
  exact hparts.trans (.of_eq (List.filter_congr fun s _ => decide_eq_decide.2 mem_table))

/-- The family of the dropped series, where there are any. -/
def droppedTable (l : List Series) : List (String × MetricType) :=
  if (added l).dropped > 0 then [(droppedName, .gauge)] else []

/-- Their sample. -/
def droppedSamples (l : List Series) : List Sample :=
  if (added l).dropped > 0 then
    [⟨droppedName, [], String.ofList (decimal (added l).dropped)⟩]
  else []

theorem families_append (a b : List Line) : families (a ++ b) = families a ++ families b :=
  List.filterMap_append

theorem samples_append (a b : List Line) :
    Exposition.samples (a ++ b) = Exposition.samples a ++ Exposition.samples b :=
  List.filterMap_append

@[simp] theorem families_samples (l : List Sample) : families (l.map .sample) = [] := by
  simp [families, List.filterMap_map]

@[simp] theorem samples_samples (l : List Sample) : Exposition.samples (l.map .sample) = l := by
  simp [Exposition.samples, List.filterMap_map]

/-- **The families of an exposition.** -/
theorem families_exposition (l : List Series) :
    families (expositionLines l) = table l ++ droppedTable l := by
  have hfamily : ∀ base mtype, families (familyLines l base mtype) = [(base, mtype)] := by
    intro base mtype
    show (base, mtype) :: families (List.map .sample _) = _
    rw [families_samples]
  have hall : ∀ L : List (String × Family),
      families (L.flatMap fun f => familyLines l f.1 f.2.mtype) =
        L.map fun f => (f.1, f.2.mtype) := by
    intro L
    induction L with
    | nil => rfl
    | cons f L ih => rw [List.flatMap_cons, families_append, hfamily, ih]; rfl
  rw [expositionLines, families_append, hall, table, droppedLines, droppedTable]
  congr 1
  split <;> rfl

/-- **The samples of an exposition**, in some order. -/
theorem samples_perm (l : List Series) :
    (Exposition.samples (expositionLines l)).Perm
      ((keptSeries l).flatMap Series.samples ++ droppedSamples l) := by
  have hfamily : ∀ base mtype, Exposition.samples (familyLines l base mtype) =
      (sortBy Series.key (familySeries l base mtype)).flatMap Series.samples := by
    intro base mtype
    exact samples_samples _
  have hall : ∀ L : List (String × Family),
      (Exposition.samples (L.flatMap fun f => familyLines l f.1 f.2.mtype)).Perm
        ((L.map fun f => (f.1, f.2.mtype)).flatMap fun f =>
          (familySeries l f.1 f.2).flatMap Series.samples) := by
    intro L
    induction L with
    | nil => exact .refl _
    | cons f L ih =>
      rw [List.flatMap_cons, samples_append, hfamily, List.map_cons, List.flatMap_cons]
      exact ((sortBy_perm _ _).flatMap_right _).append ih
  have hdropped : Exposition.samples (droppedLines (added l).dropped) = droppedSamples l := by
    rw [droppedLines, droppedSamples]
    split <;> rfl
  rw [expositionLines, samples_append, hdropped]
  refine List.Perm.append_right _ ((hall _).trans ?_)
  rw [← List.flatMap_assoc]
  exact (familySeries_perm l).flatMap_right _

/-! ## Clean metrics -/

/-- The metrics whose exposition is valid, among those that are rendered. -/
structure Clean (l : List Series) : Prop where
  /-- no two names of one scope are sanitised to one name -/
  named : ∀ s ∈ l, ∀ s' ∈ l, Kept l s → Kept l s' → s.scope = s'.scope → s.base = s'.base →
    s.name = s'.name
  /-- no two buckets of a histogram have one bound -/
  bounds : ∀ s ∈ l, Kept l s → ∀ h, s.kind = .histogram h → (h.buckets.map Bucket.le).Nodup
  /-- no name is that of a part of a histogram or of a summary; a histogram beside the buckets
  that a summary does not have is none -/
  apart : ∀ s ∈ l, ∀ s' ∈ l, Kept l s → Kept l s' → s.kind.Compound →
    ∀ suffix ∈ suffixes, s'.base = s.base ++ suffix →
      s.mtype = .summary ∧ suffix = "_bucket" ∧ s'.mtype = .histogram
  /-- where a series is dropped, no name is that of their count -/
  marked : (∃ s ∈ l, ¬Kept l s) → ∀ s ∈ l, s.base ≠ droppedName

/-- Each metric is there once. -/
def Once (l : List Series) : Prop :=
  l.Pairwise fun s s' => ¬(s.scope = s'.scope ∧ s.name = s'.name)

section Exactness

variable {l : List Series}

theorem dropped_pos_iff : (added l).dropped > 0 ↔ ∃ s ∈ l, ¬Kept l s := by
  rw [dropped_added, gt_iff_lt, List.countP_pos_iff]
  simp

/-- The samples, by name and label set. -/
def seriesKeys (l : List Series) : List (String × Finset (String × String)) :=
  ((keptSeries l).flatMap Series.samples ++ droppedSamples l).map Sample.series

theorem distinct_iff :
    ((Exposition.samples (expositionLines l)).map Sample.series).Nodup ↔ (seriesKeys l).Nodup :=
  ((samples_perm l).map _).nodup_iff

theorem mem_samples_iff {x : Sample} :
    x ∈ Exposition.samples (expositionLines l) ↔
      (∃ s ∈ keptSeries l, ∃ p ∈ s.kind.points, x = s.sample p) ∨ x ∈ droppedSamples l := by
  rw [(samples_perm l).mem_iff, List.mem_append, List.mem_flatMap]
  simp only [Series.samples, List.mem_map, eq_comm]

/-- The key of a sample tells its name and its point. -/
theorem series_eq_iff {s s' : Series} {p p' : Point} :
    (s.sample p).series = (s'.sample p').series ↔
      s.base ++ p.suffix = s'.base ++ p'.suffix ∧ s.scope = s'.scope ∧ p.extra = p'.extra := by
  rw [Sample.series, Sample.series, Prod.mk.injEq]
  refine and_congr_right fun _ => ⟨labels_injective, ?_⟩
  rintro ⟨hscope, hextra⟩
  simp only [Series.sample, hscope, hextra]

/-- The family of a rendered series. -/
theorem mem_table_of_kept {s : Series} (h : Kept l s) : (s.base, s.mtype) ∈ table l :=
  mem_table.2 h

/-- A family has a rendered series. -/
theorem exists_kept_of_table {base : String} {mtype : MetricType} (h : (base, mtype) ∈ table l) :
    ∃ s ∈ l, Kept l s ∧ s.base = base ∧ s.mtype = mtype := by
  obtain ⟨s, hs, hbase, hmtype⟩ := exists_of_firstType (mem_table.1 h)
  refine ⟨s, hs, ?_, hbase, hmtype⟩
  rw [Kept, hbase, hmtype]
  exact mem_table.1 h

/-- The suffix of a point: none, or one of a compound type. -/
theorem suffix_cases {k : Kind} {p : Point} (h : p ∈ k.points) :
    p.suffix = "" ∧ k.mtype ≠ .histogram ∨
      p.suffix ∈ suffixes ∧ k.Compound ∧ (k.mtype = .summary → p.suffix ≠ "_bucket") := by
  have hemits : k.Emits p.suffix := (Kind.exists_point_iff p.suffix).1 ⟨p, h, rfl⟩
  rcases hemits with hscalar | ⟨hsuffix, hhistogram | ⟨hsummary, hbucket⟩⟩
  · exact .inl hscalar
  · refine .inr ⟨hsuffix, .inl hhistogram, fun hsummary => ?_⟩
    rw [hhistogram] at hsummary
    cases hsummary
  · exact .inr ⟨hsuffix, .inr hsummary, fun _ => hbucket⟩

theorem suffix_append_injective (base : String) : Function.Injective (base ++ ·) := by
  intro x y h
  have hlist : base.toList ++ x.toList = base.toList ++ y.toList := by
    rw [← String.toList_append, ← String.toList_append]
    exact congrArg String.toList h
  exact String.toList_inj.1 (List.append_cancel_left hlist)

/-- The samples of a series are apart where its points are. -/
theorem nodup_samples (s : Series) :
    (s.samples.map Sample.series).Nodup ↔ (s.kind.points.map Kind.pointKey).Nodup := by
  have hinjective : Function.Injective fun x : String × Extra =>
      (s.base ++ x.1, (s.scope.labels ++ x.2.labels).toFinset) := by
    rintro ⟨x, e⟩ ⟨y, e'⟩ h
    obtain ⟨hname, hlabels⟩ := Prod.mk.inj h
    exact Prod.ext (suffix_append_injective s.base hname) (labels_injective hlabels).2
  rw [← List.nodup_map_iff hinjective, Series.samples, List.map_map, List.map_map]
  rfl

section Counting

variable {α : Type*} {p : α → Bool} {L : List α} {a b : α}

theorem countP_eq_one (hL : L.Nodup) (ha : a ∈ L) (hp : p a = true)
    (h : ∀ b ∈ L, p b = true → b = a) : L.countP p = 1 := by
  have hfilter : L.filter p = [a] := by
    refine List.perm_singleton.1 ((List.perm_ext_iff_of_nodup (hL.filter _)
      (List.nodup_singleton a)).2 fun b => ?_)
    rw [List.mem_filter, List.mem_singleton]
    exact ⟨fun hb => h b hb.1 hb.2, fun hb => hb ▸ ⟨ha, hp⟩⟩
  rw [List.countP_eq_length_filter, hfilter, List.length_singleton]

theorem eq_of_countP_eq_one (h : L.countP p = 1) (ha : a ∈ L) (hb : b ∈ L) (hpa : p a = true)
    (hpb : p b = true) : a = b := by
  rw [List.countP_eq_length_filter, List.length_eq_one_iff] at h
  obtain ⟨c, hc⟩ := h
  have hone : ∀ x ∈ L, p x = true → x = c := fun x hx hpx =>
    List.mem_singleton.1 (hc ▸ List.mem_filter.2 ⟨hx, hpx⟩)
  rw [hone a ha hpa, hone b hb hpb]

end Counting

/-! ### Clean metrics have a valid exposition -/

namespace Clean

variable (h : Clean l)

include h

/-- A name that a series emits is that of no other family. -/
theorem belongs_iff {s : Series} (hs : s ∈ l) (hkept : Kept l s) {p : Point}
    (hp : p ∈ s.kind.points) {f : String × MetricType} (hf : f ∈ table l ++ droppedTable l)
    (hbelongs : Belongs (s.base ++ p.suffix) f) : f = (s.base, s.mtype) := by
  rcases List.mem_append.1 hf with hf | hf
  · obtain ⟨base, mtype⟩ := f
    obtain ⟨s', hs', hkept', rfl, rfl⟩ := exists_kept_of_table hf
    have hsame : s'.base = s.base → (s'.base, s'.mtype) = (s.base, s.mtype) := by
      intro hbase
      have htype : some s'.mtype = some s.mtype := by rw [← hkept', hbase, hkept]
      rw [hbase, Option.some.inj htype]
    rcases suffix_cases hp with ⟨hempty, hscalar⟩ | ⟨hsuffix, hcompound, hbucket⟩
    · rw [hempty, String.append_empty] at hbelongs
      rcases hbelongs with hname | ⟨hcompound', suffix, hsuffix, hname⟩
      · exact hsame hname.symm
      · exact absurd (h.apart s' hs' s hs hkept' hkept hcompound' suffix hsuffix hname).2.2 hscalar
    · rcases hbelongs with hname | ⟨-, suffix, hsuffix', hname⟩
      · obtain ⟨hsummary, hbad, -⟩ :=
          h.apart s hs s' hs' hkept hkept' hcompound p.suffix hsuffix hname.symm
        exact absurd hbad (hbucket hsummary)
      · exact hsame (append_suffix_inj hsuffix hsuffix' hname).1.symm
  · rw [droppedTable] at hf
    split at hf
    · rename_i hdropped
      obtain rfl := List.mem_singleton.1 hf
      have hmarked := h.marked (dropped_pos_iff.1 hdropped) s hs
      rcases hbelongs with hname | ⟨hcompound, -⟩
      · rcases suffix_cases hp with ⟨hempty, -⟩ | ⟨hsuffix, -⟩
        · rw [hempty, String.append_empty] at hname
          exact absurd hname hmarked
        · exact absurd hname (append_suffix_ne_droppedName hsuffix)
      · simp at hcompound
    · cases hf

theorem droppedName_notMem (hdropped : (added l).dropped > 0) {mtype : MetricType} :
    (droppedName, mtype) ∉ table l := by
  intro hmem
  obtain ⟨s, hs, -, hbase, -⟩ := exists_kept_of_table hmem
  exact h.marked (dropped_pos_iff.1 hdropped) s hs hbase

theorem nodup_families : (table l ++ droppedTable l).Nodup := by
  refine List.nodup_append.2 ⟨nodup_table l, ?_, ?_⟩
  · rw [droppedTable]
    split <;> simp
  · intro f hf f' hf' heq
    subst heq
    rw [droppedTable] at hf'
    split at hf'
    · rename_i hdropped
      obtain rfl := List.mem_singleton.1 hf'
      exact h.droppedName_notMem hdropped hf
    · cases hf'

/-- Each sample belongs to one family. -/
theorem one {x : Sample} (hx : x ∈ Exposition.samples (expositionLines l)) :
    (table l ++ droppedTable l).countP (Belongs x.name ·) = 1 := by
  rcases mem_samples_iff.1 hx with ⟨s, hs, p, hp, rfl⟩ | hx
  · obtain ⟨hs, hkept⟩ := mem_keptSeries.1 hs
    have hbelongs : Belongs (s.base ++ p.suffix) (s.base, s.mtype) := by
      rcases suffix_cases hp with ⟨hempty, -⟩ | ⟨hsuffix, hcompound, -⟩
      · exact .inl (by rw [hempty, String.append_empty])
      · exact .inr ⟨hcompound, p.suffix, hsuffix, rfl⟩
    refine countP_eq_one h.nodup_families
      (List.mem_append_left _ (mem_table_of_kept hkept)) (decide_eq_true hbelongs) ?_
    exact fun f hf hbelongs => h.belongs_iff hs hkept hp hf (of_decide_eq_true hbelongs)
  · rw [droppedSamples] at hx
    split at hx
    · rename_i hdropped
      obtain rfl := List.mem_singleton.1 hx
      have hmem : (droppedName, MetricType.gauge) ∈ droppedTable l := by
        rw [droppedTable, if_pos hdropped]
        exact List.mem_singleton_self _
      refine countP_eq_one h.nodup_families (List.mem_append_right _ hmem)
        (decide_eq_true (.inl rfl)) fun f hf hbelongs => ?_
      obtain ⟨base, mtype⟩ := f
      rcases List.mem_append.1 hf with hf | hf
      · rcases of_decide_eq_true hbelongs with hname | ⟨-, suffix, hsuffix, hname⟩
        · obtain rfl : droppedName = base := hname
          exact absurd hf (h.droppedName_notMem hdropped)
        · exact absurd hname.symm (append_suffix_ne_droppedName hsuffix)
      · rw [droppedTable, if_pos hdropped] at hf
        exact List.mem_singleton.1 hf
    · cases hx

/-- No two samples are of one series. -/
theorem distinct (honce : Once l) : (seriesKeys l).Nodup := by
  have hkeys : ∀ s ∈ keptSeries l, ∀ s' ∈ keptSeries l, ∀ p ∈ s.kind.points,
      ∀ p' ∈ s'.kind.points, (s.sample p).series = (s'.sample p').series →
        s.scope = s'.scope ∧ s.name = s'.name := by
    intro s hs s' hs' p hp p' hp' heq
    obtain ⟨hs, hkept⟩ := mem_keptSeries.1 hs
    obtain ⟨hs', hkept'⟩ := mem_keptSeries.1 hs'
    obtain ⟨hname, hscope, -⟩ := series_eq_iff.1 heq
    have hbelongs : Belongs (s.base ++ p.suffix) (s'.base, s'.mtype) := by
      rw [hname]
      rcases suffix_cases hp' with ⟨hempty, -⟩ | ⟨hsuffix, hcompound, -⟩
      · exact .inl (by rw [hempty, String.append_empty])
      · exact .inr ⟨hcompound, p'.suffix, hsuffix, rfl⟩
    have hfamily := h.belongs_iff hs hkept hp
      (List.mem_append_left _ (mem_table_of_kept hkept')) hbelongs
    have hbase : s.base = s'.base := (Prod.mk.inj hfamily).1.symm
    exact ⟨hscope, h.named s hs s' hs' hkept hkept' hscope hbase⟩
  rw [seriesKeys, List.map_append, List.nodup_append, List.map_flatMap, List.nodup_flatMap]
  refine ⟨⟨fun s hs => ?_, ?_⟩, ?_, ?_⟩
  · obtain ⟨hs, hkept⟩ := mem_keptSeries.1 hs
    exact (nodup_samples s).2 (Kind.nodup_points.2 (h.bounds s hs hkept))
  · have hkeptOnce : (keptSeries l).Pairwise fun s s' =>
        ¬(s.scope = s'.scope ∧ s.name = s'.name) := List.Pairwise.filter _ honce
    refine hkeptOnce.imp_of_mem fun {s s'} hs hs' hne x hx hx' => ?_
    obtain ⟨y, hy, rfl⟩ := List.mem_map.1 hx
    obtain ⟨y', hy', heq⟩ := List.mem_map.1 hx'
    obtain ⟨p, hp, rfl⟩ := List.mem_map.1 hy
    obtain ⟨p', hp', rfl⟩ := List.mem_map.1 hy'
    exact hne (hkeys s hs s' hs' p hp p' hp' heq.symm)
  · rw [droppedSamples]
    split <;> simp
  · intro x hx x' hx' heq
    subst heq
    obtain ⟨s, hs, hx⟩ := List.mem_flatMap.1 hx
    obtain ⟨y, hy, rfl⟩ := List.mem_map.1 hx
    obtain ⟨p, hp, rfl⟩ := List.mem_map.1 hy
    obtain ⟨hs, hkept⟩ := mem_keptSeries.1 hs
    rw [droppedSamples] at hx'
    split at hx'
    · rename_i hdropped
      obtain ⟨d, hd, heq⟩ := List.mem_map.1 hx'
      obtain rfl := List.mem_singleton.1 hd
      have hname : droppedName = s.base ++ p.suffix := (Prod.mk.inj heq).1
      rcases suffix_cases hp with ⟨hempty, -⟩ | ⟨hsuffix, -⟩
      · rw [hempty, String.append_empty] at hname
        exact h.marked (dropped_pos_iff.1 hdropped) s hs hname.symm
      · exact append_suffix_ne_droppedName hsuffix hname.symm
    · cases hx'

end Clean

/-! ### No others have one -/

/-- A rendered name that two families have is a clash. -/
theorem families_eq (hone : ∀ x ∈ Exposition.samples (expositionLines l),
      (table l ++ droppedTable l).countP (Belongs x.name ·) = 1)
    {x : Sample} (hx : x ∈ Exposition.samples (expositionLines l)) {f g : String × MetricType}
    (hf : f ∈ table l ++ droppedTable l) (hg : g ∈ table l ++ droppedTable l)
    (hxf : Belongs x.name f) (hxg : Belongs x.name g) : f = g :=
  eq_of_countP_eq_one (hone x hx) hf hg (decide_eq_true hxf) (decide_eq_true hxg)

/-- **A valid exposition is that of clean metrics.** -/
theorem clean_of_valid (h : Valid (expositionLines l)) : Clean l := by
  have hdistinct := distinct_iff.1 h.distinct
  have hone := h.one
  rw [families_exposition] at hone
  rw [seriesKeys, List.map_append, List.nodup_append, List.map_flatMap, List.nodup_flatMap]
    at hdistinct
  obtain ⟨⟨heach, hpairs⟩, -, -⟩ := hdistinct
  constructor
  case named =>
    intro s hs s' hs' hkept hkept' hscope hbase
    by_contra hname
    have hmtype : s.kind.mtype = s'.kind.mtype := by
      have htype : some s.mtype = some s'.mtype := by rw [← hkept, hbase, hkept']
      exact Option.some.inj htype
    obtain ⟨p, hp, p', hp', hsuffix, hextra⟩ := Kind.exists_common_point hmtype
    have hsymm : Std.Symm (Function.onFun List.Disjoint fun s : Series =>
        s.samples.map Sample.series) := ⟨fun _ _ hd => hd.symm⟩
    have hne : s ≠ s' := fun heq => hname (congrArg Series.name heq)
    have hdisjoint := hpairs.forall (mem_keptSeries.2 ⟨hs, hkept⟩)
      (mem_keptSeries.2 ⟨hs', hkept'⟩) hne
    have heq : (s.sample p).series = (s'.sample p').series :=
      series_eq_iff.2 ⟨by rw [hbase, hsuffix], hscope, hextra⟩
    have hmem : ∀ {s : Series} {p : Point}, p ∈ s.kind.points →
        (s.sample p).series ∈ s.samples.map Sample.series := fun hp =>
      List.mem_map_of_mem (List.mem_map_of_mem hp)
    exact hdisjoint (hmem hp) (heq ▸ hmem hp')
  case bounds =>
    intro s hs hkept
    exact Kind.nodup_points.1 ((nodup_samples s).1 (heach s (mem_keptSeries.2 ⟨hs, hkept⟩)))
  case apart =>
    intro s hs s' hs' hkept hkept' hcompound suffix hsuffix hbase
    by_contra hbad
    -- one of the two emits the name
    have hemitted : ∃ x ∈ Exposition.samples (expositionLines l), x.name = s.base ++ suffix := by
      by_cases hown : s.kind.Emits suffix
      · obtain ⟨p, hp, rfl⟩ := (Kind.exists_point_iff suffix).2 hown
        exact ⟨_, mem_samples_iff.2 (.inl ⟨s, mem_keptSeries.2 ⟨hs, hkept⟩, p, hp, rfl⟩), rfl⟩
      · have hsummary : s.mtype = .summary ∧ suffix = "_bucket" := by
          rcases hcompound with hhistogram | hsummary
          · exact absurd (.inr ⟨hsuffix, .inl hhistogram⟩) hown
          · refine ⟨hsummary, ?_⟩
            by_contra hbucket
            exact hown (.inr ⟨hsuffix, .inr ⟨hsummary, hbucket⟩⟩)
        have hscalar : s'.mtype ≠ .histogram := fun hhistogram =>
          hbad ⟨hsummary.1, hsummary.2, hhistogram⟩
        obtain ⟨p, hp, hempty⟩ := (Kind.exists_point_iff "").2 (.inl ⟨rfl, hscalar⟩)
        refine ⟨_, mem_samples_iff.2 (.inl ⟨s', mem_keptSeries.2 ⟨hs', hkept'⟩, p, hp, rfl⟩), ?_⟩
        rw [Series.sample, hempty, String.append_empty, hbase]
    obtain ⟨x, hx, hname⟩ := hemitted
    have hfamily := families_eq hone hx (List.mem_append_left _ (mem_table_of_kept hkept))
      (List.mem_append_left _ (mem_table_of_kept hkept'))
      (.inr ⟨hcompound, suffix, hsuffix, hname⟩) (.inl (hname.trans hbase.symm))
    exact append_suffix_ne hsuffix (hbase.symm.trans (Prod.mk.inj hfamily).1.symm)
  case marked =>
    intro hdropped s hs hbase
    have hpos := dropped_pos_iff.2 hdropped
    have hsample : (⟨droppedName, [], String.ofList (decimal (added l).dropped)⟩ : Sample) ∈
        Exposition.samples (expositionLines l) := by
      refine mem_samples_iff.2 (.inr ?_)
      rw [droppedSamples, if_pos hpos]
      exact List.mem_singleton_self _
    obtain ⟨mtype, hmtype⟩ := exists_firstType hs
    have htable : (droppedName, mtype) ∈ table l := mem_table.2 (hbase ▸ hmtype)
    -- the name is in the table and on the line of the dropped series
    have hcount := hone _ hsample
    rw [droppedTable, if_pos hpos, List.countP_append, List.countP_singleton,
      if_pos (decide_eq_true (.inl rfl))] at hcount
    have htwo : 0 < (table l).countP (Belongs droppedName ·) :=
      List.countP_pos_iff.2 ⟨_, htable, decide_eq_true (.inl rfl)⟩
    exact absurd (Nat.succ.inj hcount) htwo.ne'

/-- **The exposition of metrics that are each there once is valid exactly where they are clean.** -/
theorem valid_iff_clean (honce : Once l) : Valid (expositionLines l) ↔ Clean l := by
  refine ⟨clean_of_valid, fun h => ⟨distinct_iff.2 (h.distinct honce), fun x hx => ?_⟩⟩
  rw [families_exposition]
  exact h.one hx

end Exactness

/-! ## The metrics of Sōzu -/

theorem scope_of_mem_scopeSeries {scope : Scope} {metrics : BTreeMap String FilteredMetrics}
    {s : Series} (h : s ∈ scopeSeries scope metrics) : s.scope = scope := by
  obtain ⟨m, -, hm⟩ := List.mem_filterMap.1 h
  obtain ⟨kind, -, rfl⟩ := Option.map_eq_some_iff.1 hm
  rfl

/-- A map names each metric once. -/
theorem once_scopeSeries (scope : Scope) (metrics : BTreeMap String FilteredMetrics) :
    Once (scopeSeries scope metrics) := by
  rw [Once, scopeSeries, List.pairwise_filterMap]
  refine Std.ExtTreeMap.distinct_keys_toList.imp fun {m m'} hdistinct s hs s' hs' heq => ?_
  obtain ⟨kind, -, rfl⟩ := Option.map_eq_some_iff.1 hs
  obtain ⟨kind', -, rfl⟩ := Option.map_eq_some_iff.1 hs'
  have hname : m.1 = m'.1 := heq.2
  exact hdistinct (by rw [hname]; exact Std.ReflCmp.compare_self)

/-- The cluster of a scope. -/
def Scope.clusterId : Scope → Option String
  | .cluster id => some id
  | .backend id _ => some id
  | _ => none

theorem clusterId_of_mem {id : String} {cm : ClusterMetrics} {s : Series}
    (h : s ∈ clusterSeries id cm) : s.scope.clusterId = some id := by
  rcases List.mem_append.1 h with h | h
  · rw [scope_of_mem_scopeSeries h]
    rfl
  · obtain ⟨b, -, hb⟩ := List.mem_flatMap.1 h
    rw [scope_of_mem_scopeSeries hb]
    rfl

/-- A cluster counts each metric of a backend once, where its backends have ids of their own. -/
theorem once_clusterSeries (id : String) {cm : ClusterMetrics}
    (h : (cm.backends.map BackendMetrics.backendId).Nodup) : Once (clusterSeries id cm) := by
  refine List.pairwise_append.2 ⟨once_scopeSeries _ _, ?_, ?_⟩
  · rw [List.pairwise_flatMap]
    refine ⟨fun b _ => once_scopeSeries _ _, (List.pairwise_map.1 h).imp ?_⟩
    rintro b b' hne s hs s' hs' ⟨hscope, -⟩
    rw [scope_of_mem_scopeSeries hs, scope_of_mem_scopeSeries hs'] at hscope
    exact hne (Scope.backend.inj hscope).2
  · rintro s hs s' hs' ⟨hscope, -⟩
    obtain ⟨b, -, hb⟩ := List.mem_flatMap.1 hs'
    rw [scope_of_mem_scopeSeries hs, scope_of_mem_scopeSeries hb] at hscope
    cases hscope

/-- **Sōzu's metrics are each there once.** -/
theorem once_series {m : AggregatedMetrics}
    (h : ∀ (id : String) cm, m.clusters[id]? = some cm →
      (cm.backends.map BackendMetrics.backendId).Nodup) : Once (series m) := by
  refine List.pairwise_append.2 ⟨List.pairwise_append.2
    ⟨once_scopeSeries _ _, once_scopeSeries _ _, ?_⟩, ?_, ?_⟩
  · rintro s hs s' hs' ⟨hscope, -⟩
    rw [scope_of_mem_scopeSeries hs, scope_of_mem_scopeSeries hs'] at hscope
    cases hscope
  · rw [List.pairwise_flatMap]
    refine ⟨fun c hc => once_clusterSeries _ (h c.1 c.2
      (Std.ExtTreeMap.mem_toList_iff_getElem?_eq_some.1 hc)), ?_⟩
    refine Std.ExtTreeMap.distinct_keys_toList.imp ?_
    rintro c c' hdistinct s hs s' hs' ⟨hscope, -⟩
    have hid : some c.1 = some c'.1 := by
      rw [← clusterId_of_mem hs, ← clusterId_of_mem hs', hscope]
    exact hdistinct (by rw [Option.some.inj hid]; exact Std.ReflCmp.compare_self)
  · rintro s hs s' hs' ⟨hscope, -⟩
    obtain ⟨c, -, hc⟩ := List.mem_flatMap.1 hs'
    have hid := clusterId_of_mem hc
    rw [← hscope] at hid
    rcases List.mem_append.1 hs with hs | hs
    · rw [scope_of_mem_scopeSeries hs] at hid
      cases hid
    · rw [scope_of_mem_scopeSeries hs] at hid
      cases hid

/-- **The exposition is valid exactly where the metrics are clean**, and every id is read back from
its label. -/
theorem render_valid_iff (m : AggregatedMetrics)
    (hbackends : ∀ (id : String) cm, m.clusters[id]? = some cm →
      (cm.backends.map BackendMetrics.backendId).Nodup) :
    (∃ lines, read (render m).toList = some lines ∧ (Valid lines ↔ Clean (series m))) ∧
      ∀ id, unescape (escape id) = some id.toList :=
  ⟨⟨expositionLines (series m), read_render m, valid_iff_clean (once_series hbackends)⟩,
    unescape_escape⟩

/-! Metrics of one cluster, and two names that are sanitised to one. -/

/-- A request counter, and the response times of a cluster. -/
def clusterMetrics : AggregatedMetrics where
  proxying := (∅ : BTreeMap String FilteredMetrics).insert "requests" ⟨some (.count 1000)⟩
  clusters := (∅ : BTreeMap String ClusterMetrics).insert "demo/app"
    ⟨(∅ : BTreeMap String FilteredMetrics).insert "response_time"
      ⟨some (.histogram ⟨1234, 50, [⟨10, 0⟩, ⟨25, 1⟩]⟩)⟩,
      [⟨"demo-backend-0", (∅ : BTreeMap String FilteredMetrics).insert "requests"
        ⟨some (.count 500)⟩⟩]⟩

theorem render_valid_iff_clusterMetrics :
    ∃ lines, read (render clusterMetrics).toList = some lines ∧ Valid lines := by
  have hbackends : ∀ (id : String) cm, clusterMetrics.clusters[id]? = some cm →
      (cm.backends.map BackendMetrics.backendId).Nodup := by
    intro id cm hcm
    rw [clusterMetrics, BTreeMap.getElem?_insert] at hcm
    split at hcm
    · obtain rfl := Option.some.inj hcm
      exact List.nodup_singleton _
    · simp at hcm
  have hseries : series clusterMetrics =
      [⟨.proxy, "requests", .counter 1000⟩,
        ⟨.cluster "demo/app", "response_time", .histogram ⟨1234, 50, [⟨10, 0⟩, ⟨25, 1⟩]⟩⟩,
        ⟨.backend "demo/app" "demo-backend-0", "requests", .counter 500⟩] := by
    decide +kernel
  have hclean : Clean (series clusterMetrics) := by
    rw [hseries]
    exact
      { named := by decide +kernel
        bounds := by simp
        apart := by
          have happart : ∀ s ∈ series clusterMetrics, ∀ s' ∈ series clusterMetrics,
              ∀ suffix ∈ suffixes, s'.base ≠ s.base ++ suffix := by decide +kernel
          intro s hs s' hs' _ _ _ suffix hsuffix hbase
          exact absurd hbase (happart s (hseries ▸ hs) s' (hseries ▸ hs') suffix hsuffix)
        marked := by decide +kernel }
  obtain ⟨⟨lines, hread, hvalid⟩, -⟩ := render_valid_iff clusterMetrics hbackends
  exact ⟨lines, hread, hvalid.2 hclean⟩

/-- Two gauges of the proxy. -/
def alikeMetrics : AggregatedMetrics where
  proxying := ((∅ : BTreeMap String FilteredMetrics).insert "a.b" ⟨some (.gauge 1)⟩).insert "a_b"
    ⟨some (.gauge 2)⟩

/-- **The exposition of two names that are sanitised to one is not valid.** -/
theorem render_invalid_alike :
    (∀ (id : String) cm, alikeMetrics.clusters[id]? = some cm →
      (cm.backends.map BackendMetrics.backendId).Nodup) ∧
      ¬∃ lines, read (render alikeMetrics).toList = some lines ∧ Valid lines := by
  refine ⟨fun id cm hcm => by simp [alikeMetrics] at hcm, ?_⟩
  rintro ⟨lines, hread, hvalid⟩
  rw [read_render, Option.some.injEq] at hread
  have hseries : series alikeMetrics =
      [⟨.proxy, "a.b", .gauge 1⟩, ⟨.proxy, "a_b", .gauge 2⟩] := by
    decide +kernel
  rw [← hread, hseries] at hvalid
  have hkept : ∀ s ∈ [(⟨.proxy, "a.b", .gauge 1⟩ : Series), ⟨.proxy, "a_b", .gauge 2⟩],
      Kept [⟨.proxy, "a.b", .gauge 1⟩, ⟨.proxy, "a_b", .gauge 2⟩] s := by
    decide +kernel
  have hbase : (⟨.proxy, "a.b", .gauge 1⟩ : Series).base =
      (⟨.proxy, "a_b", .gauge 2⟩ : Series).base := by
    decide +kernel
  have hname := (clean_of_valid hvalid).named ⟨.proxy, "a.b", .gauge 1⟩ (by simp)
    ⟨.proxy, "a_b", .gauge 2⟩ (by simp) (hkept _ (by simp)) (hkept _ (by simp)) rfl hbase
  exact absurd hname (by decide +kernel)

end Prometheus

end SozuGateway
