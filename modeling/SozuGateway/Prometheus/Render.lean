import SozuGateway.Lib.BTreeMap
import SozuGateway.Lib.Exposition
import SozuGateway.Lib.Sorting

/-!
# The metrics exposition

Sōzu's `AggregatedMetrics` rendered as a Prometheus text.  A text under construction is the list
of its characters.

* `Families.insert` — the first kind under a name fixes the type of its family; a series of
  another kind is dropped and counted.
* `render` — the text, families in the order of their names.
-/

set_option autoImplicit false

namespace SozuGateway

namespace Prometheus

open Lib Exposition

/-! ## The metrics -/

structure Bucket where
  count : ℕ
  le : ℕ
  deriving DecidableEq, Repr

structure FilteredHistogram where
  sum : ℕ
  count : ℕ
  buckets : List Bucket
  deriving DecidableEq, Repr

structure Percentiles where
  samples : ℕ
  p_50 : ℕ
  p_90 : ℕ
  p_99 : ℕ
  p_99_9 : ℕ
  p_99_99 : ℕ
  p_99_999 : ℕ
  p_100 : ℕ
  sum : ℕ
  deriving DecidableEq, Repr

/-- `filtered_metrics::Inner`; a time series carries nothing that is rendered. -/
inductive Inner where
  | gauge (v : ℕ)
  | count (v : ℤ)
  | time (v : ℕ)
  | percentiles (p : Percentiles)
  | timeSerie
  | histogram (h : FilteredHistogram)
  deriving DecidableEq, Repr

structure FilteredMetrics where
  inner : Option Inner
  deriving DecidableEq, Repr

structure BackendMetrics where
  backendId : String
  metrics : BTreeMap String FilteredMetrics

structure ClusterMetrics where
  cluster : BTreeMap String FilteredMetrics
  backends : List BackendMetrics

/-- `AggregatedMetrics`, without the `workers` that are not rendered. -/
structure AggregatedMetrics where
  main : BTreeMap String FilteredMetrics := ∅
  clusters : BTreeMap String ClusterMetrics := ∅
  proxying : BTreeMap String FilteredMetrics := ∅

/-! ## The families -/

/-- A metric family: its type, and the sort key and the lines of every series. -/
structure Family where
  mtype : MetricType
  series : List (List Char × List Char)

/-- The families under construction, and the count of the series that were dropped. -/
structure Families where
  map : BTreeMap String Family := ∅
  dropped : ℕ := 0

/-- Attach a rendered series to its family. -/
def Families.insert (families : Families) (base : String) (mtype : MetricType)
    (sortKey lines : List Char) : Families :=
  let family := families.map[base]?.getD ⟨mtype, []⟩
  if family.mtype ≠ mtype then
    { map := families.map.insert base family, dropped := families.dropped + 1 }
  else
    { families with
      map := families.map.insert base
        { family with series := family.series ++ [(sortKey, lines)] } }

/-- `sozu_` followed by the name with every other character turned into `_`. -/
def sanitize (raw : String) : String :=
  String.ofList ("sozu_".toList ++ raw.toList.map fun c =>
    if c.isAlphanum || c = '_' then c else '_')

/-- Escape a label value. -/
def escape (v : String) : List Char :=
  v.toList.flatMap fun c =>
    if c = '\\' then ['\\', '\\']
    else if c = '"' then ['\\', '"']
    else if c = '\n' then ['\\', 'n']
    else [c]

/-- The labels, with a comma before each but the first. -/
def joinLabels : List (String × String) → List Char
  | [] => []
  | [(k, v)] => k.toList ++ '=' :: '"' :: (escape v ++ ['"'])
  | (k, v) :: l :: labels =>
      k.toList ++ '=' :: '"' :: (escape v ++ '"' :: ',' :: joinLabels (l :: labels))

/-- Format a label set, or nothing where there are no labels. -/
def fmtLabels (base extra : List (String × String)) : List Char :=
  if base.isEmpty && extra.isEmpty then []
  else '\x7b' :: (joinLabels (base ++ extra) ++ ['\x7d'])

/-- `u64::to_string`. -/
def decimal (n : ℕ) : List Char := Nat.toDigits 10 n

/-- `i64::to_string`. -/
def signed (n : ℤ) : List Char :=
  if n < 0 then '-' :: decimal n.natAbs else decimal n.natAbs

def pushScalar (families : Families) (base : String) (mtype : MetricType)
    (labels : List (String × String)) (value : List Char) : Families :=
  let lset := fmtLabels labels []
  let line := base.toList ++ lset ++ ' ' :: value ++ ['\n']
  families.insert base mtype lset line

/-- The buckets are cumulative already; the last one is the total count. -/
def pushHistogram (families : Families) (base : String) (labels : List (String × String))
    (h : FilteredHistogram) : Families :=
  let lines := h.buckets.flatMap fun b =>
    base.toList ++ "_bucket".toList ++ fmtLabels labels [("le", String.ofList (decimal b.le))] ++
      ' ' :: decimal b.count ++ ['\n']
  let inf := fmtLabels labels [("le", "+Inf")]
  let lines := lines ++ (base.toList ++ "_bucket".toList ++ inf ++ ' ' :: decimal h.count ++ ['\n'])
  let lset := fmtLabels labels []
  let lines := lines ++ (base.toList ++ "_sum".toList ++ lset ++ ' ' :: decimal h.sum ++ ['\n'])
  let lines := lines ++ (base.toList ++ "_count".toList ++ lset ++ ' ' :: decimal h.count ++ ['\n'])
  families.insert base .histogram lset lines

/-- The quantiles of a summary. -/
def quantiles (p : Percentiles) : List (String × ℕ) :=
  [("0.5", p.p_50), ("0.9", p.p_90), ("0.99", p.p_99), ("0.999", p.p_99_9),
    ("0.9999", p.p_99_99), ("0.99999", p.p_99_999), ("1", p.p_100)]

def pushSummary (families : Families) (base : String) (labels : List (String × String))
    (p : Percentiles) : Families :=
  let lines := (quantiles p).flatMap fun q =>
    base.toList ++ fmtLabels labels [("quantile", q.1)] ++ ' ' :: decimal q.2 ++ ['\n']
  let lset := fmtLabels labels []
  let lines := lines ++ (base.toList ++ "_sum".toList ++ lset ++ ' ' :: decimal p.sum ++ ['\n'])
  let lines := lines ++
    (base.toList ++ "_count".toList ++ lset ++ ' ' :: decimal p.samples ++ ['\n'])
  families.insert base .summary lset lines

def addMetric (families : Families) (rawName : String) (labels : List (String × String))
    (fm : FilteredMetrics) : Families :=
  let base := sanitize rawName
  match fm.inner with
  | some (.gauge v) => pushScalar families base .gauge labels (decimal v)
  | some (.count v) => pushScalar families base .counter labels (signed v)
  | some (.histogram h) => pushHistogram families base labels h
  | some (.percentiles p) => pushSummary families base labels p
  -- Sōzu never emits the other kinds
  | some (.time _) | some .timeSerie | none => families

/-- The metrics of one scope. -/
def addMetrics (families : Families) (labels : List (String × String))
    (metrics : BTreeMap String FilteredMetrics) : Families :=
  metrics.toList.foldl (fun families m => addMetric families m.1 labels m.2) families

/-- The families of the metrics. -/
def collect (metrics : AggregatedMetrics) : Families :=
  let families := addMetrics {} [] metrics.proxying
  let families := addMetrics families [("process", "main")] metrics.main
  metrics.clusters.toList.foldl (fun families c =>
    let families := addMetrics families [("cluster_id", c.1)] c.2.cluster
    c.2.backends.foldl (fun families backend =>
      addMetrics families [("cluster_id", c.1), ("backend_id", backend.backendId)] backend.metrics)
      families) families

/-- The lines of a family. -/
def familyText (base : String) (family : Family) : List Char :=
  "# HELP ".toList ++ base.toList ++ " Sozu data-plane metric.\n".toList ++
    ("# TYPE ".toList ++ base.toList ++ ' ' :: family.mtype.word ++ ['\n']) ++
      (sortBy Prod.fst family.series).flatMap Prod.snd

/-- The help about the dropped series. -/
def droppedHelp : String :=
  "# HELP sozu_gw_dropped_series Series dropped from this exposition because their metric kind " ++
    "conflicted with their family's established type.\n"

/-- The series that were dropped, on the scrape itself. -/
def droppedText (dropped : ℕ) : List Char :=
  if dropped > 0 then
    droppedHelp.toList ++ "# TYPE sozu_gw_dropped_series gauge\n".toList ++
        ("sozu_gw_dropped_series ".toList ++ decimal dropped ++ ['\n'])
  else []

/-- Render the metrics as a Prometheus text. -/
def render (metrics : AggregatedMetrics) : String :=
  let families := collect metrics
  String.ofList ((families.map.toList.flatMap fun f => familyText f.1 f.2) ++
    droppedText families.dropped)

end Prometheus

end SozuGateway
