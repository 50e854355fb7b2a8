import NvidiaBuildLb.Operations.RollupRuns

namespace NvidiaBuildLb.Operations

open Foundation NvidiaBuildLb.Core Gateway

/-! The public metrics: the minute buckets of a window, put together again, and
the percentile read off their histograms. -/

/-- One row of `metric_rows`; the columns are summed as the buckets are. -/
structure MetricRow where
  bucket : Micros
  sums : BucketCounts
  successCount : Nat
  cancelledCount : Nat
  eligibleProviderCount : Option Int
  deriving DecidableEq, Repr

/-- A rate is kept as its numerator and its denominator. -/
structure PublicMetric where
  sampleCount : Nat
  successRate : Option (Nat × Nat)
  failoverRate : Option (Nat × Nat)
  cancellationRate : Option (Nat × Nat)
  latencyP95Ms : Option Nat
  ttfbP95Ms : Option Nat
  eligibleProviderCount : Option Nat
  deriving DecidableEq, Repr

def PublicMetric.default : PublicMetric where
  sampleCount := 0
  successRate := none
  failoverRate := none
  cancellationRate := none
  latencyP95Ms := none
  ttfbP95Ms := none
  eligibleProviderCount := none

def saturate (value : Int) : Int := max (-i64Max - 1) (min value i64Max)

/-- `saturating_mul(95).saturating_add(99) / 100`. -/
def percentileTarget (sampleCount : Int) : Int :=
  saturate (saturate (sampleCount * 95) + 99) / 100

def percentileBucket (sampleCount : Int) (buckets : List (Int × Nat)) :
    Option Nat :=
  if sampleCount ≤ 0 then
    none
  else
    ((buckets.find? fun bucket =>
        percentileTarget sampleCount ≤ bucket.1).map Prod.snd).or
      (buckets.getLast?.map fun bucket => saturatingAdd bucket.2 1)

def Histogram.boundaries (counts : Histogram) : List (Int × Nat) := [
  (counts.le250, 250),
  (counts.le500, 500),
  (counts.le1000, 1000),
  (counts.le2500, 2500),
  (counts.le5000, 5000)]

/-- `u8::try_from(value).ok()`. -/
def providerCount (value : Option Int) : Option Nat :=
  value.bind fun count =>
    if 0 ≤ count ∧ count ≤ 255 then some count.toNat else none

def metricFromRow (row : MetricRow) : PublicMetric :=
  let samples := row.sums.requestCount
  if samples < 5 then
    { PublicMetric.default with
      eligibleProviderCount := providerCount row.eligibleProviderCount }
  else {
    sampleCount := samples
    successRate := some (row.successCount, samples)
    failoverRate := some (row.sums.failoverCount, samples)
    cancellationRate := some (row.cancelledCount, samples)
    latencyP95Ms :=
      percentileBucket row.sums.duration.samples row.sums.duration.boundaries
    ttfbP95Ms :=
      percentileBucket row.sums.ttfb.samples row.sums.ttfb.boundaries
    eligibleProviderCount := providerCount row.eligibleProviderCount }

/-- `date_bin(step, time, timestamptz '2000-01-01')`. -/
def dateBin (step : Int) (time : Micros) : Micros :=
  946684800000000 + (time - 946684800000000) / step * step

structure CapacityBucket where
  bucketStart : Micros
  eligibleProviderCount : Int
  deriving DecidableEq, Repr

/-- `(array_agg(... ORDER BY bucket_start DESC))[1]`. -/
def newestCapacity : List CapacityBucket → Option CapacityBucket
  | [] => none
  | bucket :: rest =>
      match newestCapacity rest with
      | some other =>
          if bucket.bucketStart < other.bucketStart then some other
          else some bucket
      | none => some bucket

def metricRow (bucket : Micros) (metrics : List MetricBucket)
    (capacities : List CapacityBucket) : MetricRow where
  bucket
  sums := (metrics.map MetricBucket.counts).sum
  successCount := ((metrics.filter fun metric =>
    metric.key.outcomeClass = .success).map MetricBucket.counts).sum.requestCount
  cancelledCount := ((metrics.filter fun metric =>
    metric.key.outcomeClass = .cancelled).map
      MetricBucket.counts).sum.requestCount
  eligibleProviderCount :=
    (newestCapacity capacities).map CapacityBucket.eligibleProviderCount

def inWindow (now window : Micros) (time : Micros) : Bool :=
  now - window ≤ time

def metricBins (metrics : List MetricBucket) (capacities : List CapacityBucket)
    (step : Int) : List Micros :=
  ((metrics.map fun metric => dateBin step metric.key.bucketStart) ++
    capacities.map fun capacity => dateBin step capacity.bucketStart).dedup

def metricRows (buckets : List MetricBucket) (capacity : List CapacityBucket)
    (now window : Micros) (step : Int) : List MetricRow :=
  let metrics := buckets.filter fun metric =>
    inWindow now window metric.key.bucketStart
  let capacities := capacity.filter fun bucket =>
    inWindow now window bucket.bucketStart
  ((metricBins metrics capacities step).mergeSort (· ≤ ·)).map fun bin =>
    metricRow bin
      (metrics.filter fun metric => dateBin step metric.key.bucketStart = bin)
      (capacities.filter fun bucket => dateBin step bucket.bucketStart = bin)

/-- `total` and one more row. -/
def MetricRow.add (total row : MetricRow) : MetricRow where
  bucket := total.bucket
  sums := total.sums + row.sums
  successCount := total.successCount + row.successCount
  cancelledCount := total.cancelledCount + row.cancelledCount
  eligibleProviderCount := row.eligibleProviderCount.or
    total.eligibleProviderCount

def oneMinute : Int := 60000000

def metricSummary (buckets : List MetricBucket)
    (capacity : List CapacityBucket) (now window : Micros) : PublicMetric :=
  match metricRows buckets capacity now window oneMinute with
  | [] => PublicMetric.default
  | first :: rest =>
      metricFromRow ((first :: rest).foldl MetricRow.add {
        bucket := first.bucket
        sums := 0
        successCount := 0
        cancelledCount := 0
        eligibleProviderCount := none })

def latencyBoundaries : List Nat := [250, 500, 1000, 2500, 5000]

/-- At least 95 percent of the samples are within the boundary. -/
def Covers (samples : List Int) (boundary : Nat) : Prop :=
  95 * samples.length ≤
    100 * samples.countP fun sample => sample ≤ (boundary : Int)

/-- The least boundary that covers 95 percent, the overflow value where none
does, and nothing where there is no sample. -/
structure IsP95 (samples : List Int) (reported : Option Nat) : Prop where
  absent : reported = none ↔ samples = []
  boundary : ∀ boundary ∈ latencyBoundaries, reported = some boundary ↔
    samples ≠ [] ∧ Covers samples boundary ∧
      ∀ smaller ∈ latencyBoundaries, smaller < boundary →
        ¬ Covers samples smaller
  overflow : reported = some 5001 ↔
    samples ≠ [] ∧ ∀ boundary ∈ latencyBoundaries, ¬ Covers samples boundary

instance (samples : List Int) (boundary : Nat) :
    Decidable (Covers samples boundary) :=
  inferInstanceAs (Decidable (_ ≤ _))

private theorem find?_eq_least {values : List Nat}
    (sorted : values.Pairwise (· < ·)) (qualifies : Nat → Prop)
    [DecidablePred qualifies] (least : Nat) :
    values.find? (fun value => qualifies value) = some least ↔
      least ∈ values ∧ qualifies least ∧
        ∀ smaller ∈ values, smaller < least → ¬ qualifies smaller := by
  induction values with
  | nil => simp
  | cons head tail induction =>
      obtain ⟨below, tailSorted⟩ := List.pairwise_cons.mp sorted
      by_cases isHead : qualifies head
      · rw [show (head :: tail).find? (fun value => qualifies value) =
            some head by simp [isHead]]
        constructor
        · intro found
          obtain rfl := Option.some.inj found
          refine ⟨List.mem_cons_self .., isHead, ?_⟩
          intro smaller member less
          rcases List.mem_cons.mp member with same | later
          · omega
          · have := below smaller later
            omega
        · rintro ⟨member, _, none⟩
          rcases List.mem_cons.mp member with same | later
          · rw [same]
          · exact absurd isHead
              (none head (List.mem_cons_self ..) (below least later))
      · rw [show (head :: tail).find? (fun value => qualifies value) =
            tail.find? fun value => qualifies value by simp [isHead],
          induction tailSorted]
        constructor
        · rintro ⟨member, isLeast, none⟩
          refine ⟨List.mem_cons_of_mem _ member, isLeast, ?_⟩
          intro smaller smallerMember less
          rcases List.mem_cons.mp smallerMember with same | later
          · rw [same]
            exact isHead
          · exact none smaller later less
        · rintro ⟨member, isLeast, none⟩
          rcases List.mem_cons.mp member with same | later
          · exact absurd (same ▸ isLeast) isHead
          · exact ⟨later, isLeast, fun smaller smallerMember =>
              none smaller (List.mem_cons_of_mem _ smallerMember)⟩

private theorem ceiling_le {count within : Int} (positive : 0 < count)
    (small : 95 * count < 9223372036854775807) :
    max (-9223372036854775807 - 1)
        (min (max (-9223372036854775807 - 1)
          (min (count * 95) 9223372036854775807) + 99) 9223372036854775807) /
          100 ≤ within ↔ 95 * count ≤ 100 * within := by
  omega

theorem percentileTarget_le {count : Nat} {within : Int} (positive : 0 < count)
    (small : 95 * (count : Int) < i64Max) :
    percentileTarget count ≤ within ↔ 95 * (count : Int) ≤ 100 * within :=
  ceiling_le (by omega) small

private theorem countWithin_eq (boundary : Int) (values : List (Option Int)) :
    countWithin boundary values =
      (values.filterMap id).countP fun sample => sample ≤ boundary := by
  induction values with
  | nil => rfl
  | cons value rest induction =>
      cases value with
      | none => simpa [countWithin] using induction
      | some measured =>
          simp only [countWithin] at induction
          simp [countWithin, List.countP_cons, induction]

private theorem samples_eq (values : List (Option Int)) :
    (histogram values).samples = (values.filterMap id).length := by
  induction values with
  | nil => rfl
  | cons value rest induction =>
      simp only [histogram] at induction
      cases value with
      | none => simpa [histogram] using induction
      | some measured => simp [histogram, induction]

theorem isP95_percentileBucket (values : List (Option Int))
    (small : 95 * ((values.filterMap id).length : Int) < i64Max) :
    IsP95 (values.filterMap id)
      (percentileBucket (histogram values).samples
        (histogram values).boundaries) := by
  have counts : (histogram values).boundaries =
      latencyBoundaries.map fun boundary : Nat =>
        ((((values.filterMap id).countP fun sample =>
          sample ≤ (boundary : Int) : Nat) : Int), boundary) := by
    simp only [histogram, Histogram.boundaries, countWithin_eq]
    rfl
  rw [samples_eq, counts]
  generalize values.filterMap id = samples at small ⊢
  rcases Nat.eq_zero_or_pos samples.length with isEmpty | positive
  · obtain rfl := List.length_eq_zero_iff.mp isEmpty
    constructor
    case absent => exact iff_of_true rfl rfl
    case boundary =>
      intro boundary _
      exact iff_of_false (fun found => by cases found) fun both => both.1 rfl
    case overflow =>
      exact iff_of_false (fun found => by cases found) fun both => both.1 rfl
  · have nonempty : samples ≠ [] := List.length_pos_iff.mp positive
    have searched : percentileBucket samples.length
        (latencyBoundaries.map fun boundary : Nat =>
          (((samples.countP fun sample => sample ≤ (boundary : Int) : Nat) : Int),
            boundary)) =
        (latencyBoundaries.find? fun boundary =>
          Covers samples boundary).or (some 5001) := by
      have covers : ∀ boundary : Nat,
          percentileTarget samples.length ≤
              ((samples.countP fun sample => sample ≤ (boundary : Int) : Nat) :
                Int) ↔ Covers samples boundary := by
        intro boundary
        rw [percentileTarget_le positive small]
        unfold Covers
        omega
      rw [percentileBucket, if_neg (by omega), List.find?_map]
      simp only [Function.comp_def, covers, Option.map_map, Option.map_id']
      rfl
    rw [searched]
    have least := @find?_eq_least latencyBoundaries (by decide)
      (Covers samples) _
    constructor
    case absent => exact iff_of_false (by simp) nonempty
    case boundary =>
      intro boundary member
      have finite : boundary ≠ 5001 := by
        rintro rfl
        exact absurd member (by decide)
      rw [Option.or_eq_some_iff, least]
      constructor
      · rintro (⟨_, found⟩ | ⟨_, isOverflow⟩)
        · exact ⟨nonempty, found⟩
        · exact absurd (Option.some.inj isOverflow).symm finite
      · rintro ⟨_, found⟩
        exact .inl ⟨member, found⟩
    case overflow =>
      rw [Option.or_eq_some_iff, least]
      constructor
      · rintro (⟨member, _⟩ | ⟨none, _⟩)
        · exact absurd member (by decide)
        · exact ⟨nonempty, by simpa using none⟩
      · rintro ⟨_, none⟩
        exact .inr ⟨by simpa using none, rfl⟩

theorem sums_foldl_add (rows : List MetricRow) (total : MetricRow) :
    (rows.foldl MetricRow.add total).sums =
      total.sums + (rows.map MetricRow.sums).sum := by
  induction rows generalizing total with
  | nil => exact (add_zero _).symm
  | cons row rest induction =>
      rw [List.foldl_cons, induction, List.map_cons, List.sum_cons, ← add_assoc]
      rfl

theorem sum_metricRows (buckets : List MetricBucket)
    (capacity : List CapacityBucket) (now window : Micros) (step : Int) :
    ((metricRows buckets capacity now window step).map MetricRow.sums).sum =
      ((buckets.filter fun metric =>
        inWindow now window metric.key.bucketStart).map
          MetricBucket.counts).sum := by
  simp only [metricRows, List.map_map]
  generalize (buckets.filter fun metric =>
    inWindow now window metric.key.bucketStart) = metrics
  generalize (capacity.filter fun bucket =>
    inWindow now window bucket.bucketStart) = capacities
  have distinct : ((metricBins metrics capacities step).mergeSort
      (· ≤ ·)).Nodup :=
    (List.mergeSort_perm ..).nodup_iff.mpr (List.nodup_dedup _)
  have groups := sum_groups _ distinct
    (fun metric : MetricBucket => some (dateBin step metric.key.bucketStart))
    MetricBucket.counts metrics
  simp only [Option.some.injEq] at groups
  refine groups.trans (congrArg (fun shown : List MetricBucket =>
    (shown.map MetricBucket.counts).sum) ?_)
  rw [List.filter_eq_self]
  intro metric member
  rw [Option.any_some, List.contains_iff_mem, List.mem_mergeSort, metricBins,
    List.mem_dedup]
  exact List.mem_append_left _ (List.mem_map.mpr ⟨metric, member, rfl⟩)

def shownRequests (history : MetricsHistory) (now window : Micros) :
    List EvidenceRow :=
  history.held.filter fun row =>
    (bucketKey? row).any fun key => inWindow now window key.bucketStart

theorem Accounted.sum_window {history : MetricsHistory}
    (accounted : Accounted history) (now window : Micros) :
    ((history.database.buckets.rows.filter fun metric =>
      inWindow now window metric.key.bucketStart).map
        MetricBucket.counts).sum =
      aggregate (shownRequests history now window) := by
  refine (accounted.sum_counts fun metric =>
    inWindow now window metric.key.bucketStart).trans (congrArg aggregate ?_)
  apply List.filter_congr
  intro row held
  obtain ⟨key, isKey, bucket, present, sameKey⟩ := accounted.bucket_of_held held
  rw [isKey, Option.any_some, Option.any_some, Bool.eq_iff_iff,
    List.contains_iff_mem, List.mem_map]
  constructor
  · rintro ⟨other, shown, rfl⟩
    exact (List.mem_filter.mp shown).2
  · intro within
    refine ⟨bucket, List.mem_filter.mpr ⟨present, ?_⟩, sameKey⟩
    rw [sameKey]
    exact within

theorem metricSummary_percentiles {buckets : List MetricBucket}
    {capacity : List CapacityBucket} {now window : Micros}
    {rows : List EvidenceRow}
    (counted : ((buckets.filter fun metric =>
      inWindow now window metric.key.bucketStart).map
        MetricBucket.counts).sum = aggregate rows)
    (enough : 5 ≤ rows.length) :
    (metricSummary buckets capacity now window).latencyP95Ms =
        percentileBucket (aggregate rows).duration.samples
          (aggregate rows).duration.boundaries ∧
      (metricSummary buckets capacity now window).ttfbP95Ms =
        percentileBucket (aggregate rows).ttfb.samples
          (aggregate rows).ttfb.boundaries := by
  rw [← sum_metricRows buckets capacity now window oneMinute] at counted
  unfold metricSummary
  cases shown : metricRows buckets capacity now window oneMinute with
  | nil =>
      rw [shown] at counted
      have count := congrArg BucketCounts.requestCount counted
      have : 0 = rows.length := count
      omega
  | cons first rest =>
      rw [shown] at counted
      have sums := sums_foldl_add (first :: rest) {
        bucket := first.bucket
        sums := 0
        successCount := 0
        cancelledCount := 0
        eligibleProviderCount := none }
      rw [counted, zero_add] at sums
      have many : ¬ (aggregate rows).requestCount < 5 := not_lt.mpr enough
      simp only [metricFromRow]
      rw [sums, if_neg many]
      exact ⟨rfl, rfl⟩

/-- After any sequence of completions, rollups and retentions, what the summary
of a window with five requests reports is the bucketed percentile of their
measured times. -/
theorem metric_summary_p95 {settings : Settings} {labels : List MetricsLabel}
    {history : MetricsHistory}
    (run : Run MetricsStep (.start settings) labels history)
    (capacity : List CapacityBucket) (now window : Micros)
    (enough : 5 ≤ (shownRequests history now window).length)
    (small : 95 * ((shownRequests history now window).length : Int) < i64Max) :
    IsP95 ((shownRequests history now window).filterMap fun row =>
        row.durationMs)
      (metricSummary history.database.buckets.rows capacity now
        window).latencyP95Ms ∧
    IsP95 ((shownRequests history now window).filterMap fun row => row.ttfbMs)
      (metricSummary history.database.buckets.rows capacity now
        window).ttfbP95Ms := by
  have counted := (accounted_of_run run).sum_window now window
  obtain ⟨latency, ttfb⟩ := metricSummary_percentiles counted enough
  have measured : ∀ time : EvidenceRow → Option Int,
      IsP95 ((shownRequests history now window).filterMap time)
        (percentileBucket
          (histogram ((shownRequests history now window).map time)).samples
          (histogram ((shownRequests history now window).map time)).boundaries) := by
    intro time
    have same : ((shownRequests history now window).map time).filterMap id =
        (shownRequests history now window).filterMap time := by
      rw [List.filterMap_map]
      rfl
    rw [← same]
    apply isP95_percentileBucket
    have := (List.length_filterMap_le id
      ((shownRequests history now window).map time))
    rw [List.length_map] at this
    omega
  rw [latency, ttfb]
  exact ⟨measured fun row => row.durationMs, measured fun row => row.ttfbMs⟩

def measuredRequest (id : Uuid) (durationMs : Int) : EvidenceRow :=
  { agedRequest 0 with id, durationMs := some durationMs }

def measuredRequests : List EvidenceRow := [
  measuredRequest 1 90,
  measuredRequest 2 250,
  measuredRequest 3 300,
  measuredRequest 4 900,
  measuredRequest 5 7000]

def measuredHistory : MetricsHistory :=
  { MetricsHistory.start (settingsOf 30 90 (by decide) (by decide)) with
    database := {
      (MetricsHistory.start
        (settingsOf 30 90 (by decide) (by decide))).database with
      requests := measuredRequests.foldl Table.put .empty }
    known := [5, 4, 3, 2, 1] }

private theorem run_measured :
    Run MetricsStep (.start (settingsOf 30 90 (by decide) (by decide)))
      (measuredRequests.map .write) measuredHistory :=
  .cons (.write _ (measuredRequest 1 90) (.inl (by decide)) rfl)
    (.cons (.write _ (measuredRequest 2 250) (.inl (by decide)) rfl)
      (.cons (.write _ (measuredRequest 3 300) (.inl (by decide)) rfl)
        (.cons (.write _ (measuredRequest 4 900) (.inl (by decide)) rfl)
          (.cons (.write _ (measuredRequest 5 7000) (.inl (by decide)) rfl)
            (.nil _)))))

private theorem selected_measured :
    selected 500 (fun _ => false) measuredHistory.database.requests =
      measuredRequests := by
  rw [selected, List.mergeSort_of_pairwise]
  · rfl
  · decide

theorem metric_summary_p95_five :
    ∃ history, Run MetricsStep
        (.start (settingsOf 30 90 (by decide) (by decide)))
        (measuredRequests.map .write ++ [.rollup 500]) history ∧
      IsP95 [90, 250, 300, 900, 7000]
        (metricSummary history.database.buckets.rows [] 60
          (days 1)).latencyP95Ms := by
  obtain ⟨count, after, ran⟩ : ∃ count after,
      (rollupRequestMetrics true 500 (fun _ => false) 60).transact
        (fun _ => false) measuredHistory.database = (.ok count, after) :=
    ⟨_, _, rfl⟩
  have run := run_measured.snoc
    (.rollup _ 500 (fun _ => false) 60 (fun _ => false) count after ran)
  rw [selected_measured] at run
  have p95 := metric_summary_p95 run [] 60 (days 1)
  have shown : ∀ history : MetricsHistory, history.held = measuredRequests →
      shownRequests history 60 (days 1) = measuredRequests := by
    intro history held
    rw [shownRequests, held]
    decide
  rw [shown _ rfl] at p95
  exact ⟨_, run, (p95 (by decide) (by decide)).1⟩

end NvidiaBuildLb.Operations
