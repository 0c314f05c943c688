import SozuGateway.Lib.Shuffle
import SozuGateway.Prometheus.Render

/-!
# The series of an exposition

What `render` writes, as a list of samples.

* `Series` — a metric of a kind that is rendered, with its scope; `series` — those of the
  metrics, in the order they are added.
* `collect_eq` — the families are the series added one by one.
* `readSample_line` — a sample is read back from its line.
* `map_added`, `dropped_added` — what the families hold after all were added.
* `read_render` — the text is read back, family by family.
-/

set_option autoImplicit false

namespace SozuGateway

namespace Prometheus

open Lib Exposition

/-! ## Series -/

/-- Where a metric was counted. -/
inductive Scope where
  | proxy
  | main
  | cluster (id : String)
  | backend (clusterId backendId : String)
  deriving DecidableEq, Repr

/-- The labels of a scope. -/
def Scope.labels : Scope → List (String × String)
  | proxy => []
  | main => [("process", "main")]
  | cluster id => [("cluster_id", id)]
  | backend clusterId backendId => [("cluster_id", clusterId), ("backend_id", backendId)]

/-- The label that tells the samples of one series apart. -/
inductive Extra where
  | none
  | le (bound : String)
  | quantile (q : String)
  deriving DecidableEq, Repr

/-- The synthetic label. -/
def Extra.labels : Extra → List (String × String)
  | none => []
  | le bound => [("le", bound)]
  | quantile q => [("quantile", q)]

/-- One sample of a series: what it appends to the name and to the labels. -/
structure Point where
  suffix : String
  extra : Extra
  value : List Char
  deriving DecidableEq, Repr

/-- What is rendered of a metric. -/
inductive Kind where
  | gauge (v : ℕ)
  | counter (v : ℤ)
  | histogram (h : FilteredHistogram)
  | summary (p : Percentiles)
  deriving DecidableEq, Repr

namespace Kind

/-- The type of the family. -/
def mtype : Kind → MetricType
  | gauge _ => .gauge
  | counter _ => .counter
  | histogram _ => .histogram
  | summary _ => .summary

/-- The samples. -/
def points : Kind → List Point
  | gauge v => [⟨"", .none, decimal v⟩]
  | counter v => [⟨"", .none, signed v⟩]
  | histogram h =>
      h.buckets.map (fun b => ⟨"_bucket", .le (String.ofList (decimal b.le)), decimal b.count⟩) ++
        [⟨"_bucket", .le "+Inf", decimal h.count⟩, ⟨"_sum", .none, decimal h.sum⟩,
          ⟨"_count", .none, decimal h.count⟩]
  | summary p =>
      (quantiles p).map (fun q => ⟨"", .quantile q.1, decimal q.2⟩) ++
        [⟨"_sum", .none, decimal p.sum⟩, ⟨"_count", .none, decimal p.samples⟩]

end Kind

/-- A metric that is rendered, with its scope and its name as Sōzu has it. -/
structure Series where
  scope : Scope
  name : String
  kind : Kind
  deriving DecidableEq, Repr

namespace Series

/-- The name of its family. -/
def base (s : Series) : String := sanitize s.name

def mtype (s : Series) : MetricType := s.kind.mtype

def sample (s : Series) (p : Point) : Sample :=
  ⟨s.base ++ p.suffix, s.scope.labels ++ p.extra.labels, String.ofList p.value⟩

def samples (s : Series) : List Sample := s.kind.points.map s.sample

/-- The sort key. -/
def key (s : Series) : List Char := fmtLabels s.scope.labels []

end Series

/-- The line of a sample. -/
def sampleLine (s : Sample) : List Char :=
  s.name.toList ++ fmtLabels s.labels [] ++ ' ' :: s.value.toList

/-- The lines of a series. -/
def Series.lines (s : Series) : List Char := s.samples.flatMap fun x => sampleLine x ++ ['\n']

/-- A series attached to its family. -/
def Families.add (families : Families) (s : Series) : Families :=
  families.insert s.base s.mtype s.key s.lines

/-- The kinds that are rendered. -/
def kindOf (fm : FilteredMetrics) : Option Kind :=
  match fm.inner with
  | some (.gauge v) => some (.gauge v)
  | some (.count v) => some (.counter v)
  | some (.histogram h) => some (.histogram h)
  | some (.percentiles p) => some (.summary p)
  | some (.time _) | some .timeSerie | none => none

/-- The series of one scope. -/
def scopeSeries (scope : Scope) (metrics : BTreeMap String FilteredMetrics) : List Series :=
  metrics.toList.filterMap fun m => (kindOf m.2).map fun kind => ⟨scope, m.1, kind⟩

/-- The series of a cluster and of its backends. -/
def clusterSeries (id : String) (cm : ClusterMetrics) : List Series :=
  scopeSeries (.cluster id) cm.cluster ++
    cm.backends.flatMap fun b => scopeSeries (.backend id b.backendId) b.metrics

/-- The series of the metrics, in the order they are added. -/
def series (m : AggregatedMetrics) : List Series :=
  scopeSeries .proxy m.proxying ++ scopeSeries .main m.main ++
    m.clusters.toList.flatMap fun c => clusterSeries c.1 c.2

/-! ### What is added -/

theorem fmtLabels_append (base extra : List (String × String)) :
    fmtLabels base extra = fmtLabels (base ++ extra) [] := by
  cases base <;> cases extra <;> simp [fmtLabels]

/-- The lines of a series, point by point. -/
theorem Series.lines_eq (s : Series) :
    s.lines = s.kind.points.flatMap fun p =>
      s.base.toList ++ p.suffix.toList ++ fmtLabels s.scope.labels p.extra.labels ++
        ' ' :: p.value ++ ['\n'] := by
  rw [lines, samples, List.flatMap_map]
  refine List.flatMap_congr fun p _ => ?_
  rw [sampleLine, fmtLabels_append s.scope.labels, sample, String.toList_append,
    String.toList_ofList]

/-- A rendered metric is attached as its series. -/
theorem addMetric_eq (families : Families) (scope : Scope) (name : String) (fm : FilteredMetrics) :
    addMetric families name scope.labels fm =
      match kindOf fm with
      | some kind => families.add ⟨scope, name, kind⟩
      | none => families := by
  obtain ⟨inner⟩ := fm
  cases inner with
  | none => rfl
  | some inner =>
    cases inner with
    | gauge v =>
      simp [addMetric, kindOf, pushScalar, Families.add, Series.lines_eq, Series.base,
        Series.mtype, Kind.mtype, Series.key, Kind.points, Extra.labels]
    | count v =>
      simp [addMetric, kindOf, pushScalar, Families.add, Series.lines_eq, Series.base,
        Series.mtype, Kind.mtype, Series.key, Kind.points, Extra.labels]
    | histogram h =>
      simp [addMetric, kindOf, pushHistogram, Families.add, Series.lines_eq, Series.base,
        Series.mtype, Kind.mtype, Series.key, Kind.points, Extra.labels, List.flatMap_map]
    | percentiles p =>
      simp [addMetric, kindOf, pushSummary, Families.add, Series.lines_eq, Series.base,
        Series.mtype, Kind.mtype, Series.key, Kind.points, Extra.labels, List.flatMap_map]
    | time v => rfl
    | timeSerie => rfl

theorem addMetrics_eq (families : Families) (scope : Scope)
    (metrics : BTreeMap String FilteredMetrics) :
    addMetrics families scope.labels metrics =
      (scopeSeries scope metrics).foldl Families.add families := by
  rw [addMetrics, scopeSeries]
  induction metrics.toList generalizing families with
  | nil => rfl
  | cons m l ih =>
    rw [List.foldl_cons, addMetric_eq, ih]
    cases hkind : kindOf m.2 with
    | none => rw [List.filterMap_cons_none (by rw [hkind]; rfl)]
    | some kind => rw [List.filterMap_cons_some (by rw [hkind]; rfl), List.foldl_cons]

/-- A cluster's metrics are added as its series. -/
theorem addCluster_eq (families : Families) (id : String) (cm : ClusterMetrics) :
    cm.backends.foldl (fun families backend =>
      addMetrics families [("cluster_id", id), ("backend_id", backend.backendId)] backend.metrics)
        (addMetrics families [("cluster_id", id)] cm.cluster) =
      (clusterSeries id cm).foldl Families.add families := by
  have hfirst : addMetrics families [("cluster_id", id)] cm.cluster =
      (scopeSeries (.cluster id) cm.cluster).foldl Families.add families :=
    addMetrics_eq families (.cluster id) cm.cluster
  rw [clusterSeries, List.foldl_append, List.foldl_flatMap, hfirst]
  refine congrArg (fun f => List.foldl f _ _) (funext fun families => funext fun backend => ?_)
  exact addMetrics_eq families (.backend id backend.backendId) backend.metrics

/-- **The families are the series added one by one.** -/
theorem collect_eq (m : AggregatedMetrics) : collect m = (series m).foldl Families.add {} := by
  have hproxy : addMetrics {} [] m.proxying =
      (scopeSeries .proxy m.proxying).foldl Families.add {} := addMetrics_eq {} .proxy _
  have hmain : ∀ families, addMetrics families [("process", "main")] m.main =
      (scopeSeries .main m.main).foldl Families.add families :=
    fun families => addMetrics_eq families .main _
  rw [collect, series, List.foldl_append, List.foldl_append, List.foldl_flatMap, hproxy, hmain]
  refine congrArg (fun f => List.foldl f _ _) (funext fun families => funext fun c => ?_)
  exact addCluster_eq families c.1 c.2

/-! ## Reading the lines -/

/-- **An escaped value is read back**, up to its quote. -/
theorem readValue_escape (v : String) (text : List Char) :
    readValue false (escape v ++ '"' :: text) = some (v.toList, text) := by
  rw [escape]
  induction v.toList with
  | nil => rfl
  | cons c l ih =>
    rw [List.flatMap_cons, List.append_assoc]
    by_cases hslash : c = '\\'
    · subst hslash
      rw [if_pos rfl]
      simp [readValue, unescapeChar, ih]
    · by_cases hquote : c = '"'
      · subst hquote
        rw [if_neg hslash, if_pos rfl]
        simp [readValue, unescapeChar, ih]
      · by_cases hline : c = '\n'
        · subst hline
          rw [if_neg hslash, if_neg hquote, if_pos rfl]
          simp [readValue, unescapeChar, ih]
        · rw [if_neg hslash, if_neg hquote, if_neg hline, List.singleton_append, readValue,
            if_neg hquote, if_neg hslash, ih]
          rfl

/-- **Unescaping a rendered label value gives it back.** -/
theorem unescape_escape (v : String) : unescape (escape v) = some v.toList := by
  rw [unescape, readValue_escape v []]

theorem newline_notMem_escape (v : String) : '\n' ∉ escape v := by
  intro h
  obtain ⟨c, -, hc⟩ := List.mem_flatMap.1 h
  split at hc
  · simp at hc
  · split at hc
    · simp at hc
    · split at hc
      · simp at hc
      · rename_i hline
        exact hline (List.mem_singleton.1 hc).symm

/-- The text is a name. -/
def IsName (s : String) : Prop := ∀ c ∈ s.toList, isNameChar c = true

theorem isName_of_all {s : String} (h : s.toList.all isNameChar = true) : IsName s :=
  List.all_eq_true.1 h

theorem isName_append {s t : String} (hs : IsName s) (ht : IsName t) : IsName (s ++ t) := by
  intro c hc
  rw [String.toList_append, List.mem_append] at hc
  exact hc.elim (hs c) (ht c)

theorem newline_notMem_name {s : String} (h : IsName s) : '\n' ∉ s.toList := fun hc =>
  absurd (h _ hc) (by decide)

/-- The labels of a sample are read back, up to the closing brace. -/
theorem readLabels_join {labels : List (String × String)} (hne : labels ≠ [])
    (hkeys : ∀ l ∈ labels, IsName l.1) {n : ℕ} (hn : labels.length ≤ n) (text : List Char) :
    readLabels n (joinLabels labels ++ '\x7d' :: text) = some (labels, text) := by
  induction labels generalizing n with
  | nil => exact absurd rfl hne
  | cons label labels ih =>
    obtain ⟨k, v⟩ := label
    obtain ⟨m, rfl⟩ : ∃ m, n = m + 1 := ⟨n - 1, by simp at hn; omega⟩
    have hk : IsName k := hkeys (k, v) List.mem_cons_self
    cases labels with
    | nil =>
      have htext : joinLabels [(k, v)] ++ '\x7d' :: text =
          k.toList ++ '=' :: '"' :: (escape v ++ '"' :: '\x7d' :: text) := by
        simp [joinLabels]
      obtain ⟨htake, hdrop⟩ := takeWhile_name hk (c := '=') (by decide)
        ('"' :: (escape v ++ '"' :: '\x7d' :: text))
      rw [htext, readLabels, htake, hdrop]
      simp only [readValue_escape, String.ofList_toList]
      rfl
    | cons l labels =>
      have htext : joinLabels ((k, v) :: l :: labels) ++ '\x7d' :: text =
          k.toList ++ '=' :: '"' ::
            (escape v ++ '"' :: ',' :: (joinLabels (l :: labels) ++ '\x7d' :: text)) := by
        simp [joinLabels]
      obtain ⟨htake, hdrop⟩ := takeWhile_name hk (c := '=') (by decide)
        ('"' :: (escape v ++ '"' :: ',' :: (joinLabels (l :: labels) ++ '\x7d' :: text)))
      have hrest := ih (by simp) (fun l hl => hkeys l (List.mem_cons_of_mem _ hl))
        (n := m) (by simp at hn ⊢; omega)
      rw [htext, readLabels, htake, hdrop]
      simp only [readValue_escape, String.ofList_toList, if_pos, hrest, Option.map_some]

/-- There are no fewer characters than labels. -/
theorem length_le_joinLabels (labels : List (String × String)) :
    labels.length ≤ (joinLabels labels).length := by
  induction labels with
  | nil => exact le_refl _
  | cons label labels ih =>
    obtain ⟨k, v⟩ := label
    cases labels with
    | nil => simp [joinLabels]; omega
    | cons l labels => simp [joinLabels] at ih ⊢; omega

theorem newline_notMem_joinLabels {labels : List (String × String)}
    (hkeys : ∀ l ∈ labels, IsName l.1) : '\n' ∉ joinLabels labels := by
  induction labels with
  | nil => exact List.not_mem_nil
  | cons label labels ih =>
    obtain ⟨k, v⟩ := label
    have hk : '\n' ∉ k.toList := newline_notMem_name (hkeys (k, v) List.mem_cons_self)
    have hrest := ih fun l hl => hkeys l (List.mem_cons_of_mem _ hl)
    cases labels with
    | nil => simp [joinLabels, hk, newline_notMem_escape]
    | cons l labels => simp [joinLabels, hk, newline_notMem_escape] at hrest ⊢; exact hrest

/-- A sample that is written on one line. -/
structure Plain (s : Sample) : Prop where
  name : IsName s.name
  nonempty : s.name.toList ≠ []
  keys : ∀ l ∈ s.labels, IsName l.1
  value : '\n' ∉ s.value.toList

/-- **A sample is read back from its line.** -/
theorem readSample_line {s : Sample} (h : Plain s) : readSample (sampleLine s) = some s := by
  obtain ⟨name, labels, value⟩ := s
  rw [sampleLine]
  cases labels with
  | nil =>
    obtain ⟨htake, hdrop⟩ := takeWhile_name h.name (c := ' ') (by decide) value.toList
    have htext : name.toList ++ fmtLabels [] [] ++ ' ' :: value.toList =
        name.toList ++ ' ' :: value.toList := by
      simp [fmtLabels]
    rw [htext, readSample, htake, hdrop]
    simp only [String.ofList_toList]
  | cons l labels =>
    have htext : name.toList ++ fmtLabels (l :: labels) [] ++ ' ' :: value.toList =
        name.toList ++ '\x7b' :: (joinLabels (l :: labels) ++ '\x7d' :: ' ' :: value.toList) := by
      simp [fmtLabels]
    obtain ⟨htake, hdrop⟩ := takeWhile_name h.name (c := '\x7b') (by decide)
      (joinLabels (l :: labels) ++ '\x7d' :: ' ' :: value.toList)
    have hlabels := readLabels_join (by simp) h.keys
      (n := (joinLabels (l :: labels) ++ '\x7d' :: ' ' :: value.toList).length)
      (by rw [List.length_append]; exact (length_le_joinLabels _).trans (Nat.le_add_right _ _))
      (' ' :: value.toList)
    rw [htext, readSample, htake, hdrop]
    simp only [hlabels, String.ofList_toList]

theorem newline_notMem_line {s : Sample} (h : Plain s) : '\n' ∉ sampleLine s := by
  have hlabels : '\n' ∉ fmtLabels s.labels [] := by
    rw [fmtLabels]
    split
    · exact List.not_mem_nil
    · simp [newline_notMem_joinLabels h.keys]
  simp [sampleLine, newline_notMem_name h.name, hlabels, h.value]

/-- The lines of samples are read back. -/
theorem read_samples {samples : List Sample} (h : ∀ s ∈ samples, Plain s) {text : List Char}
    {lines : List Line} (htext : read text = some lines) :
    read ((samples.flatMap fun s => sampleLine s ++ ['\n']) ++ text) =
      some (samples.map .sample ++ lines) := by
  induction samples with
  | nil => exact htext
  | cons s samples ih =>
    have hs : Plain s := h s List.mem_cons_self
    have hhead : (sampleLine s).head? ≠ some '#' := by
      obtain ⟨c, name, hname⟩ := List.exists_cons_of_ne_nil hs.nonempty
      have hc : isNameChar c = true := hs.name c (hname ▸ List.mem_cons_self)
      rw [sampleLine, hname]
      rintro heq
      obtain rfl : c = '#' := by simpa using heq
      exact absurd hc (by decide)
    have hline := readLine_sample hhead (readSample_line hs)
    have hrest := ih fun s' hs' => h s' (List.mem_cons_of_mem _ hs')
    have happend := read_append (newline_notMem_line hs) hline hrest
    rw [List.flatMap_cons, List.map_cons, List.append_assoc, List.append_assoc,
      List.singleton_append, List.cons_append]
    exact happend

/-! ### The samples of a series -/

theorem toList_sanitize (raw : String) : (sanitize raw).toList =
    "sozu_".toList ++ raw.toList.map fun c => if isNameChar c then c else '_' := by
  unfold sanitize
  rw [String.toList_ofList]
  rfl

theorem isName_sanitize (raw : String) : IsName (sanitize raw) := by
  intro c hc
  rw [toList_sanitize, List.mem_append] at hc
  rcases hc with hc | hc
  · exact isName_of_all (s := "sozu_") (by decide +kernel) c hc
  · obtain ⟨d, -, rfl⟩ := List.mem_map.1 hc
    split
    · rename_i hd
      exact hd
    · decide

theorem sanitize_ne_nil (raw : String) : (sanitize raw).toList ≠ [] := by
  rw [toList_sanitize]
  exact fun h => absurd (List.append_eq_nil_iff.1 h).1 (by decide +kernel)

theorem newline_notMem_decimal (n : ℕ) : '\n' ∉ decimal n := by
  intro h
  have hdigit : '\n'.isDigit = true := Nat.isDigit_of_mem_toDigits (by decide) (by decide) h
  exact absurd hdigit (by decide)

theorem newline_notMem_signed (n : ℤ) : '\n' ∉ signed n := by
  rw [signed]
  split
  · simp [newline_notMem_decimal]
  · exact newline_notMem_decimal _

/-- What the points of a kind are. -/
theorem Kind.mem_points {k : Kind} {p : Point} (h : p ∈ k.points) :
    IsName p.suffix ∧ '\n' ∉ p.value := by
  have hempty : IsName "" := isName_of_all (by decide +kernel)
  have hbucket : IsName "_bucket" := isName_of_all (by decide +kernel)
  have hsum : IsName "_sum" := isName_of_all (by decide +kernel)
  have hcount : IsName "_count" := isName_of_all (by decide +kernel)
  cases k with
  | gauge v =>
    obtain rfl := List.mem_singleton.1 h
    exact ⟨hempty, newline_notMem_decimal v⟩
  | counter v =>
    obtain rfl := List.mem_singleton.1 h
    exact ⟨hempty, newline_notMem_signed v⟩
  | histogram hist =>
    rcases List.mem_append.1 h with h | h
    · obtain ⟨b, -, rfl⟩ := List.mem_map.1 h
      exact ⟨hbucket, newline_notMem_decimal _⟩
    · simp only [List.mem_cons, List.not_mem_nil, or_false] at h
      rcases h with rfl | rfl | rfl
      · exact ⟨hbucket, newline_notMem_decimal _⟩
      · exact ⟨hsum, newline_notMem_decimal _⟩
      · exact ⟨hcount, newline_notMem_decimal _⟩
  | summary pct =>
    rcases List.mem_append.1 h with h | h
    · obtain ⟨q, -, rfl⟩ := List.mem_map.1 h
      exact ⟨hempty, newline_notMem_decimal _⟩
    · simp only [List.mem_cons, List.not_mem_nil, or_false] at h
      rcases h with rfl | rfl
      · exact ⟨hsum, newline_notMem_decimal _⟩
      · exact ⟨hcount, newline_notMem_decimal _⟩

theorem isName_label (scope : Scope) (extra : Extra) :
    ∀ l ∈ scope.labels ++ extra.labels, IsName l.1 := by
  have hprocess : IsName "process" := isName_of_all (by decide +kernel)
  have hcluster : IsName "cluster_id" := isName_of_all (by decide +kernel)
  have hbackend : IsName "backend_id" := isName_of_all (by decide +kernel)
  have hle : IsName "le" := isName_of_all (by decide +kernel)
  have hquantile : IsName "quantile" := isName_of_all (by decide +kernel)
  intro l hl
  rcases List.mem_append.1 hl with hl | hl
  · cases scope <;> simp [Scope.labels] at hl
    · exact hl ▸ hprocess
    · exact hl ▸ hcluster
    · rcases hl with rfl | rfl
      · exact hcluster
      · exact hbackend
  · cases extra <;> simp [Extra.labels] at hl
    · exact hl ▸ hle
    · exact hl ▸ hquantile

/-- Every sample is written on one line. -/
theorem Series.plain (s : Series) : ∀ x ∈ s.samples, Plain x := by
  intro x hx
  obtain ⟨p, hp, rfl⟩ := List.mem_map.1 hx
  obtain ⟨hsuffix, hvalue⟩ := Kind.mem_points hp
  exact
    { name := isName_append (isName_sanitize _) hsuffix
      nonempty := by
        rw [Series.sample, String.toList_append]
        exact fun h => sanitize_ne_nil _ (List.append_eq_nil_iff.1 h).1
      keys := isName_label s.scope p.extra
      value := by rwa [Series.sample, String.toList_ofList] }

/-! ## The families -/

/-- The type of a family: that of the first series under its name. -/
def firstType (l : List Series) (base : String) : Option MetricType :=
  (l.find? fun s => s.base = base).map Series.mtype

/-- The series is rendered: it has the type of its family. -/
def Kept (l : List Series) (s : Series) : Prop := firstType l s.base = some s.mtype

instance (l : List Series) (s : Series) : Decidable (Kept l s) :=
  inferInstanceAs (Decidable (_ = _))

/-- The series of a family. -/
def familySeries (l : List Series) (base : String) (mtype : MetricType) : List Series :=
  l.filter fun s => s.base = base ∧ s.mtype = mtype

theorem firstType_append (l : List Series) (s : Series) (base : String) :
    firstType (l ++ [s]) base =
      (firstType l base).or (if s.base = base then some s.mtype else none) := by
  rw [firstType, firstType, List.find?_append]
  cases l.find? fun s => decide (s.base = base) with
  | some s' => rfl
  | none =>
    by_cases hs : s.base = base <;> simp [List.find?, hs]

theorem exists_firstType {l : List Series} {s : Series} (h : s ∈ l) :
    ∃ mtype, firstType l s.base = some mtype := by
  obtain ⟨s', hs'⟩ : ∃ s', l.find? (fun x => x.base = s.base) = some s' :=
    Option.isSome_iff_exists.1 (List.find?_isSome.2 ⟨s, h, by simp⟩)
  exact ⟨s'.mtype, by rw [firstType, hs']; rfl⟩

/-- A later series does not change what was dropped before. -/
theorem kept_append {l : List Series} {s s' : Series} (h : s ∈ l) :
    Kept (l ++ [s']) s ↔ Kept l s := by
  obtain ⟨mtype, hmtype⟩ := exists_firstType h
  rw [Kept, Kept, firstType_append, hmtype, Option.some_or]

/-- The families after all series of a list were added. -/
def added (l : List Series) : Families := l.foldl Families.add {}

theorem added_append (l : List Series) (s : Series) : added (l ++ [s]) = (added l).add s := by
  rw [added, List.foldl_append]
  rfl

/-- The family under a name. -/
def familyOf (l : List Series) (base : String) : Option Family :=
  (firstType l base).map fun mtype =>
    ⟨mtype, (familySeries l base mtype).map fun s => (s.key, s.lines)⟩

theorem familySeries_append (l : List Series) (s : Series) (base : String) (mtype : MetricType) :
    familySeries (l ++ [s]) base mtype = familySeries l base mtype ++
      if s.base = base ∧ s.mtype = mtype then [s] else [] := by
  rw [familySeries, List.filter_append]
  refine congrArg (familySeries l base mtype ++ ·) ?_
  by_cases h : s.base = base ∧ s.mtype = mtype <;> simp [List.filter, h]

/-- Without a first series, a family has none. -/
theorem familySeries_eq_nil {l : List Series} {base : String} (h : firstType l base = none)
    (mtype : MetricType) : familySeries l base mtype = [] := by
  rw [familySeries, List.filter_eq_nil_iff]
  intro s hs hmem
  obtain ⟨rfl, -⟩ := of_decide_eq_true hmem
  obtain ⟨mtype', hmtype'⟩ := exists_firstType hs
  rw [h] at hmtype'
  cases hmtype'

/-- **What the families hold after a list of series.** -/
theorem map_added (l : List Series) (base : String) : (added l).map[base]? = familyOf l base := by
  induction l using List.reverseRecOn generalizing base with
  | nil => simp [added, familyOf, firstType]
  | append_singleton l s ih =>
    rw [added_append, Families.add, Families.insert, ih, familyOf, familyOf, firstType_append]
    by_cases hbase : s.base = base
    · subst hbase
      cases hfirst : firstType l s.base with
      | none =>
        simp [familySeries_append, familySeries_eq_nil hfirst]
      | some mtype =>
        by_cases hmtype : mtype = s.mtype
        · subst hmtype
          simp [familySeries_append]
        · simp [familySeries_append, hmtype, Ne.symm hmtype]
    · have hkeep : ∀ family : Family,
          ((added l).map.insert s.base family)[base]? = familyOf l base := by
        intro family
        rw [BTreeMap.getElem?_insert, if_neg hbase, ih]
      split <;> rw [hkeep, familyOf] <;> simp [familySeries_append, hbase]

/-- **What was dropped after a list of series.** -/
theorem dropped_added (l : List Series) : (added l).dropped = l.countP fun s => ¬Kept l s := by
  induction l using List.reverseRecOn with
  | nil => rfl
  | append_singleton l s ih =>
    have hbefore : l.countP (fun x => decide ¬Kept (l ++ [s]) x) =
        l.countP fun x => decide ¬Kept l x :=
      List.countP_congr fun x hx => by simp [kept_append hx]
    rw [added_append, Families.add, Families.insert, List.countP_append, hbefore, ← ih, map_added,
      familyOf]
    cases hfirst : firstType l s.base with
    | none => simp [Kept, firstType_append, hfirst]
    | some mtype =>
      by_cases hmtype : mtype = s.mtype
      · simp [Kept, firstType_append, hfirst, hmtype]
      · simp [Kept, firstType_append, hfirst, hmtype]

/-! ## The text -/

/-- The lines of a family. -/
def familyLines (l : List Series) (base : String) (mtype : MetricType) : List Line :=
  .comment :: .type base mtype ::
    ((sortBy Series.key (familySeries l base mtype)).flatMap Series.samples).map .sample

/-- The name that the dropped series are counted under. -/
def droppedName : String := "sozu_gw_dropped_series"

/-- The lines about the series that were dropped. -/
def droppedLines (dropped : ℕ) : List Line :=
  if dropped > 0 then
    [.comment, .type droppedName .gauge,
      .sample ⟨droppedName, [], String.ofList (decimal dropped)⟩]
  else []

/-- The lines of an exposition. -/
def expositionLines (l : List Series) : List Line :=
  ((added l).map.toList.flatMap fun f => familyLines l f.1 f.2.mtype) ++
    droppedLines (added l).dropped

/-- A comment line is read. -/
theorem read_comment {line : List Char} (h : '\n' ∉ line) (htype : ¬typeMark <+: '#' :: line)
    {text : List Char} {lines : List Line} (htext : read text = some lines) :
    read ('#' :: line ++ '\n' :: text) = some (.comment :: lines) := by
  refine read_append (fun hmem => ?_) (readLine_comment htype) htext
  rcases List.mem_cons.1 hmem with heq | hmem
  · exact absurd heq (by decide)
  · exact h hmem

/-- The line of a type is read. -/
theorem read_type {base : String} (h : IsName base) (mtype : MetricType) {text : List Char}
    {lines : List Line} (htext : read text = some lines) :
    read (typeMark ++ (base.toList ++ ' ' :: mtype.word) ++ '\n' :: text) =
      some (.type base mtype :: lines) := by
  have hword : '\n' ∉ mtype.word := by cases mtype <;> decide
  have hline : '\n' ∉ typeMark ++ (base.toList ++ ' ' :: mtype.word) := by
    simp [newline_notMem_name h, hword, typeMark]
  have hread := read_append hline (readLine_type h mtype) htext
  rwa [String.ofList_toList] at hread

/-- The series of a list, by their keys, as the lines of their family. -/
theorem sorted_lines (l : List Series) :
    (sortBy Prod.fst (l.map fun s => (s.key, s.lines))).flatMap Prod.snd =
      ((sortBy Series.key l).flatMap Series.samples).flatMap fun x => sampleLine x ++ ['\n'] := by
  have hsort : (sortBy Series.key l).map (fun s => (s.key, s.lines)) =
      sortBy Prod.fst (l.map fun s => (s.key, s.lines)) :=
    @map_sortBy _ _ _ _ _ Series.key Prod.fst (fun _ => rfl) l
  rw [← hsort, List.flatMap_map, List.flatMap_assoc]
  rfl

/-- **The text of a family is read back.** -/
theorem read_family {l : List Series} {base : String} {family : Family}
    (hfamily : familyOf l base = some family) (hbase : IsName base) {text : List Char}
    {lines : List Line} (htext : read text = some lines) :
    read (familyText base family ++ text) =
      some (familyLines l base family.mtype ++ lines) := by
  obtain ⟨mtype, -, rfl⟩ := Option.map_eq_some_iff.1 hfamily
  have hplain : ∀ x ∈ (sortBy Series.key (familySeries l base mtype)).flatMap Series.samples,
      Plain x := by
    intro x hx
    obtain ⟨s, -, hs⟩ := List.mem_flatMap.1 hx
    exact s.plain x hs
  obtain ⟨mark, hmark, hnohash, hnotype⟩ : ∃ mark, "# HELP ".toList = '#' :: mark ∧
      '\n' ∉ mark ∧ ∀ doc, ¬typeMark <+: '#' :: (mark ++ doc) := by
    refine ⟨[' ', 'H', 'E', 'L', 'P', ' '], by decide +kernel, by decide, fun doc => ?_⟩
    simp [typeMark]
  obtain ⟨doc, hdoc, hnewline⟩ : ∃ doc, " Sozu data-plane metric.\n".toList = doc ++ ['\n'] ∧
      '\n' ∉ doc := ⟨" Sozu data-plane metric.".toList, by decide +kernel, by decide +kernel⟩
  have htype : "# TYPE ".toList = typeMark := by decide +kernel
  have hline : '\n' ∉ mark ++ (base.toList ++ doc) := by
    simp [newline_notMem_name hbase, hnewline, hnohash]
  have hcomment := read_comment hline (hnotype _)
    (read_type hbase mtype (read_samples hplain htext))
  unfold familyText
  rw [sorted_lines, hmark, hdoc, htype]
  simp only [List.append_assoc, List.cons_append, List.nil_append] at hcomment ⊢
  rw [hcomment]
  rfl

/-- The text about the dropped series is read back. -/
theorem read_dropped (dropped : ℕ) : read (droppedText dropped) = some (droppedLines dropped) := by
  unfold droppedText droppedLines
  split
  · have hname : IsName droppedName := isName_of_all (by decide +kernel)
    have hplain : Plain ⟨droppedName, [], String.ofList (decimal dropped)⟩ :=
      { name := hname
        nonempty := by
          show droppedName.toList ≠ []
          decide +kernel
        keys := by simp
        value := by simpa using newline_notMem_decimal dropped }
    have hnil : read [] = some [] := rfl
    have hsample := read_samples (List.forall_mem_singleton.2 hplain) hnil
    obtain ⟨doc, hdoc, hnewline, hnotype⟩ : ∃ doc, droppedHelp.toList = '#' :: doc ++ ['\n'] ∧
        '\n' ∉ doc ∧ ¬typeMark <+: '#' :: doc :=
      ⟨droppedHelp.toList.tail.dropLast, by decide +kernel, by decide +kernel, by decide +kernel⟩
    have htype : "# TYPE sozu_gw_dropped_series gauge\n".toList =
        typeMark ++ (droppedName.toList ++ ' ' :: MetricType.gauge.word) ++ ['\n'] := by
      decide +kernel
    have hvalue : "sozu_gw_dropped_series ".toList = droppedName.toList ++ [' '] := by
      decide +kernel
    have hcomment := read_comment hnewline hnotype (read_type hname .gauge hsample)
    rw [hdoc, htype, hvalue]
    simp only [List.append_assoc, List.cons_append, List.nil_append, List.flatMap_cons,
      List.flatMap_nil, List.append_nil, sampleLine, fmtLabels, List.isEmpty_nil, Bool.and_self,
      if_true, String.toList_ofList] at hcomment ⊢
    rw [hcomment]
    rfl
  · rfl

/-- A family is under the name of a series of its type. -/
theorem exists_of_firstType {l : List Series} {base : String} {mtype : MetricType}
    (h : firstType l base = some mtype) : ∃ s ∈ l, s.base = base ∧ s.mtype = mtype := by
  obtain ⟨s, hs, hmtype⟩ := Option.map_eq_some_iff.1 h
  exact ⟨s, List.mem_of_find?_eq_some hs, by simpa using List.find?_some hs, hmtype⟩

/-- **The exposition is read back**, family by family. -/
theorem read_render (m : AggregatedMetrics) :
    read (render m).toList = some (expositionLines (series m)) := by
  have hfamilies : ∀ families : List (String × Family),
      (∀ f ∈ families, familyOf (series m) f.1 = some f.2) →
        read ((families.flatMap fun f => familyText f.1 f.2) ++
          droppedText (added (series m)).dropped) =
            some ((families.flatMap fun f => familyLines (series m) f.1 f.2.mtype) ++
              droppedLines (added (series m)).dropped) := by
    intro families hall
    induction families with
    | nil => exact read_dropped _
    | cons f families ih =>
      have hf := hall f List.mem_cons_self
      obtain ⟨mtype, hmtype, -⟩ := Option.map_eq_some_iff.1 hf
      obtain ⟨s, -, hbase, -⟩ := exists_of_firstType hmtype
      have hname : IsName f.1 := hbase ▸ isName_sanitize s.name
      have hrest := ih fun f' hf' => hall f' (List.mem_cons_of_mem _ hf')
      rw [List.flatMap_cons, List.flatMap_cons, List.append_assoc, List.append_assoc]
      exact read_family hf hname hrest
  have hrender : (render m).toList =
      ((added (series m)).map.toList.flatMap fun f => familyText f.1 f.2) ++
        droppedText (added (series m)).dropped := by
    unfold render
    rw [String.toList_ofList, collect_eq]
    rfl
  rw [hrender]
  refine hfamilies _ fun f hf => ?_
  rw [← map_added]
  exact Std.ExtTreeMap.mem_toList_iff_getElem?_eq_some.1 hf

end Prometheus

end SozuGateway
