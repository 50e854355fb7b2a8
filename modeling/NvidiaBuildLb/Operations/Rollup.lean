import NvidiaBuildLb.Gateway.Ledger
import NvidiaBuildLb.Operations.Incidents
import Mathlib.Algebra.BigOperators.Group.List.Basic
import Mathlib.Algebra.Ring.Int.Defs

namespace NvidiaBuildLb.Operations

open Foundation NvidiaBuildLb.Core Gateway

/-! Minute metrics: the statement that claims a batch of finished requests,
groups it, adds the groups to the buckets, and marks the batch. -/

/-- A row of `proxy_requests` with the column that only the rollup writes. -/
structure EvidenceRow extends ProxyRequestRow where
  rolledUpAt : Option Micros
  deriving DecidableEq

inductive OutcomeClass where
  | success
  | clientError
  | upstreamError
  | cancelled
  | rejected
  deriving DecidableEq, Repr

def outcomeClass : Outcome RequestOutcome → Option Nat → OutcomeClass
  | .ended .succeeded, _ => .success
  | .ended .cancelled, _ => .cancelled
  | .ended .rejected, _ => .rejected
  | .ended .failed, _ => .upstreamError
  | .ended .abandonedAfterRestart, _ => .upstreamError
  | .started, statusCode =>
      if statusCode.any fun code => 400 ≤ code && code ≤ 499 then
        .clientError
      else
        .upstreamError

/-- `date_trunc('minute', time)`. -/
def truncMinute (time : Micros) : Micros := time / 60000000 * 60000000

structure BucketKey where
  bucketStart : Micros
  endpoint : String
  profileId : String
  outcomeClass : OutcomeClass
  deriving DecidableEq, Repr

/-- The counts of one measured time: its samples, those within each boundary,
and those above the last one. -/
@[ext] structure Histogram where
  samples : Nat
  le250 : Nat
  le500 : Nat
  le1000 : Nat
  le2500 : Nat
  le5000 : Nat
  gt5000 : Nat
  deriving DecidableEq, Repr

@[ext] structure BucketCounts where
  requestCount : Nat
  failoverCount : Nat
  durationSumMs : Int
  ttfbSumMs : Int
  duration : Histogram
  ttfb : Histogram
  deriving DecidableEq, Repr

structure MetricBucket where
  key : BucketKey
  counts : BucketCounts
  deriving DecidableEq, Repr

instance : Zero Histogram := ⟨⟨0, 0, 0, 0, 0, 0, 0⟩⟩

instance : Add Histogram where
  add left right := {
    samples := left.samples + right.samples
    le250 := left.le250 + right.le250
    le500 := left.le500 + right.le500
    le1000 := left.le1000 + right.le1000
    le2500 := left.le2500 + right.le2500
    le5000 := left.le5000 + right.le5000
    gt5000 := left.gt5000 + right.gt5000 }

instance : Zero BucketCounts := ⟨⟨0, 0, 0, 0, 0, 0⟩⟩

/-- The sums that `ON CONFLICT ... DO UPDATE` sets. -/
instance : Add BucketCounts where
  add left right := {
    requestCount := left.requestCount + right.requestCount
    failoverCount := left.failoverCount + right.failoverCount
    durationSumMs := left.durationSumMs + right.durationSumMs
    ttfbSumMs := left.ttfbSumMs + right.ttfbSumMs
    duration := left.duration + right.duration
    ttfb := left.ttfb + right.ttfb }

/-- `count(*) FILTER (WHERE value <= boundary)`. -/
def countWithin (boundary : Int) (values : List (Option Int)) : Nat :=
  values.countP fun value => value.any fun measured => measured ≤ boundary

def histogram (values : List (Option Int)) : Histogram where
  samples := values.countP Option.isSome
  le250 := countWithin 250 values
  le500 := countWithin 500 values
  le1000 := countWithin 1000 values
  le2500 := countWithin 2500 values
  le5000 := countWithin 5000 values
  gt5000 := values.countP fun value => value.any fun measured => 5000 < measured

/-- The columns of one group. -/
def aggregate (rows : List EvidenceRow) : BucketCounts where
  requestCount := rows.length
  failoverCount := (rows.map fun row => row.failoverCount).sum
  durationSumMs := (rows.map fun row => row.durationMs.getD 0).sum
  ttfbSumMs := (rows.map fun row => row.ttfbMs.getD 0).sum
  duration := histogram (rows.map fun row => row.durationMs)
  ttfb := histogram (rows.map fun row => row.ttfbMs)

def bucketKey? (row : EvidenceRow) : Option BucketKey :=
  row.finishedAt.map fun finishedAt => {
    bucketStart := truncMinute finishedAt
    endpoint := row.endpoint
    profileId := row.profileId
    outcomeClass := outcomeClass row.outcome row.statusCode }

abbrev RequestTable := Table fun row : EvidenceRow => row.id

abbrev BucketTable := Table MetricBucket.key

/-- `ORDER BY finished_at,id LIMIT $1 FOR UPDATE SKIP LOCKED`, without the rows
that others have locked. -/
def selected (limit : Nat) (locked : Uuid → Bool) (requests : RequestTable) :
    List EvidenceRow :=
  ((requests.rows.filter fun row =>
      row.finishedAt.isSome && row.rolledUpAt.isNone && !locked row.id).mergeSort
    fun left right =>
      pageKey (left.finishedAt.getD 0) left.id ≤
        pageKey (right.finishedAt.getD 0) right.id).take limit

def groupOf (key : BucketKey) (rows : List EvidenceRow) : List EvidenceRow :=
  rows.filter fun row => bucketKey? row = some key

def groupKeys (rows : List EvidenceRow) : List BucketKey :=
  (rows.filterMap bucketKey?).dedup

def countsAt (buckets : BucketTable) (key : BucketKey) : BucketCounts :=
  match buckets.find? key with
  | none => 0
  | some bucket => bucket.counts

def upsert (rows : List EvidenceRow) (buckets : BucketTable)
    (key : BucketKey) : BucketTable :=
  buckets.put {
    key
    counts := countsAt buckets key + aggregate (groupOf key rows) }

def upserted (rows : List EvidenceRow) (buckets : BucketTable) : BucketTable :=
  (groupKeys rows).foldl (upsert rows) buckets

def marked (now : Micros) (rows : List EvidenceRow) (requests : RequestTable) :
    RequestTable :=
  requests.update (fun row => rows.any fun chosen => chosen.id = row.id)
    (fun row => { row with rolledUpAt := some now }) fun _ => rfl

@[simp] theorem histogram_nil : histogram [] = 0 :=
  rfl

theorem histogram_append (left right : List (Option Int)) :
    histogram (left ++ right) = histogram left + histogram right := by
  ext <;> exact List.countP_append

theorem histogram_perm {left right : List (Option Int)}
    (same : left.Perm right) : histogram left = histogram right := by
  ext <;> exact same.countP_eq _

@[simp] theorem aggregate_nil : aggregate [] = 0 :=
  rfl

theorem aggregate_append (left right : List EvidenceRow) :
    aggregate (left ++ right) = aggregate left + aggregate right := by
  apply BucketCounts.ext
  · exact List.length_append
  · simp only [aggregate, List.map_append, List.sum_append]
    rfl
  · simp only [aggregate, List.map_append, List.sum_append]
    rfl
  · simp only [aggregate, List.map_append, List.sum_append]
    rfl
  · simp only [aggregate, List.map_append, histogram_append]
    rfl
  · simp only [aggregate, List.map_append, histogram_append]
    rfl

theorem aggregate_perm {left right : List EvidenceRow}
    (same : left.Perm right) : aggregate left = aggregate right := by
  apply BucketCounts.ext
  · exact same.length_eq
  · exact (same.map _).sum_eq
  · exact (same.map _).sum_eq
  · exact (same.map _).sum_eq
  · exact histogram_perm (same.map _)
  · exact histogram_perm (same.map _)

instance : AddCommMonoid Histogram where
  add_assoc first second third := by
    ext <;> exact Nat.add_assoc ..
  zero_add counts := by
    ext <;> exact Nat.zero_add _
  add_zero counts := by
    ext <;> exact Nat.add_zero _
  add_comm left right := by
    ext <;> exact Nat.add_comm ..
  nsmul := nsmulRec

instance : AddCommMonoid BucketCounts where
  add_assoc first second third := by
    ext1
    · exact Nat.add_assoc ..
    · exact Nat.add_assoc ..
    · exact Int.add_assoc ..
    · exact Int.add_assoc ..
    · exact add_assoc first.duration second.duration third.duration
    · exact add_assoc first.ttfb second.ttfb third.ttfb
  zero_add counts := by
    ext1
    · exact Nat.zero_add _
    · exact Nat.zero_add _
    · exact Int.zero_add _
    · exact Int.zero_add _
    · exact zero_add counts.duration
    · exact zero_add counts.ttfb
  add_zero counts := by
    ext1
    · exact Nat.add_zero _
    · exact Nat.add_zero _
    · exact Int.add_zero _
    · exact Int.add_zero _
    · exact add_zero counts.duration
    · exact add_zero counts.ttfb
  add_comm left right := by
    ext1
    · exact Nat.add_comm ..
    · exact Nat.add_comm ..
    · exact Int.add_comm ..
    · exact Int.add_comm ..
    · exact add_comm left.duration right.duration
    · exact add_comm left.ttfb right.ttfb
  nsmul := nsmulRec

end NvidiaBuildLb.Operations
