import NvidiaBuildLb.Foundation.Grouping
import NvidiaBuildLb.Foundation.Run
import NvidiaBuildLb.Operations.RetentionAges

namespace NvidiaBuildLb.Operations

open Foundation NvidiaBuildLb.Core Gateway Transaction

/-! What a rollup adds to every bucket, and what the buckets hold after any
sequence of completions, rollups and retentions. -/

theorem groupOf_append (key : BucketKey) (left right : List EvidenceRow) :
    groupOf key (left ++ right) = groupOf key left ++ groupOf key right :=
  List.filter_append ..

theorem mem_groupKeys {rows : List EvidenceRow} {key : BucketKey} :
    key ∈ groupKeys rows ↔ groupOf key rows ≠ [] := by
  simp only [groupKeys, List.mem_dedup, List.mem_filterMap, groupOf, ne_eq,
    List.filter_eq_nil_iff, not_forall, decide_eq_true_eq, not_not, exists_prop]

private theorem find?_upsert (rows : List EvidenceRow) (buckets : BucketTable)
    (placed wanted : BucketKey) :
    (upsert rows buckets placed).find? wanted =
      if placed = wanted then
        some ⟨placed, countsAt buckets placed + aggregate (groupOf placed rows)⟩
      else
        buckets.find? wanted :=
  Table.find?_put buckets _ wanted

private theorem find?_foldl_upsert (rows : List EvidenceRow)
    (keys : List BucketKey) (distinct : keys.Nodup) (buckets : BucketTable)
    (wanted : BucketKey) :
    (keys.foldl (upsert rows) buckets).find? wanted =
      if wanted ∈ keys then
        some ⟨wanted, countsAt buckets wanted + aggregate (groupOf wanted rows)⟩
      else
        buckets.find? wanted := by
  induction keys generalizing buckets with
  | nil => rfl
  | cons head tail induction =>
      obtain ⟨fresh, tailDistinct⟩ := List.nodup_cons.mp distinct
      rw [List.foldl_cons, induction tailDistinct]
      by_cases isHead : wanted = head
      · subst isHead
        rw [if_neg fresh, find?_upsert, if_pos rfl,
          if_pos (List.mem_cons_self ..)]
      · have apart : head ≠ wanted := Ne.symm isHead
        have counts : countsAt (upsert rows buckets head) wanted =
            countsAt buckets wanted := by
          unfold countsAt
          rw [find?_upsert, if_neg apart]
        rw [counts, find?_upsert, if_neg apart]
        simp [isHead]

theorem find?_upserted (rows : List EvidenceRow) (buckets : BucketTable)
    (key : BucketKey) :
    (upserted rows buckets).find? key =
      if groupOf key rows = [] then
        buckets.find? key
      else
        some ⟨key, countsAt buckets key + aggregate (groupOf key rows)⟩ := by
  unfold upserted
  rw [find?_foldl_upsert rows (groupKeys rows) (List.nodup_dedup _)]
  by_cases empty : groupOf key rows = []
  · rw [if_pos empty, if_neg]
    exact fun member => mem_groupKeys.mp member empty
  · rw [if_neg empty, if_pos (mem_groupKeys.mpr empty)]

theorem countsAt_upserted (rows : List EvidenceRow) (buckets : BucketTable)
    (key : BucketKey) :
    countsAt (upserted rows buckets) key =
      countsAt buckets key + aggregate (groupOf key rows) := by
  by_cases empty : groupOf key rows = []
  · have same : countsAt (upserted rows buckets) key = countsAt buckets key := by
      unfold countsAt
      rw [find?_upserted, if_pos empty]
    rw [same, empty, aggregate_nil, add_zero]
  · rw [countsAt, find?_upserted, if_neg empty]

/-- Each boundary counts what the one below it counts, and what is within the
last one or above it is every sample. -/
def Histogram.Cumulative (counts : Histogram) : Prop :=
  counts.le250 ≤ counts.le500 ∧ counts.le500 ≤ counts.le1000 ∧
    counts.le1000 ≤ counts.le2500 ∧ counts.le2500 ≤ counts.le5000 ∧
    counts.le5000 + counts.gt5000 = counts.samples

private theorem countWithin_mono {lower upper : Int} (le : lower ≤ upper)
    (values : List (Option Int)) :
    countWithin lower values ≤ countWithin upper values := by
  apply List.countP_mono_left
  intro value _ within
  cases value with
  | none => cases within
  | some measured =>
      exact decide_eq_true ((of_decide_eq_true within).trans le)

theorem histogram_cumulative (values : List (Option Int)) :
    (histogram values).Cumulative := by
  refine ⟨countWithin_mono (by decide) values, countWithin_mono (by decide) values,
    countWithin_mono (by decide) values, countWithin_mono (by decide) values, ?_⟩
  induction values with
  | nil => rfl
  | cons value rest induction =>
      simp only [histogram, countWithin] at induction
      cases value with
      | none => simpa [histogram, countWithin] using induction
      | some measured =>
          by_cases within : measured ≤ 5000
          · simp [histogram, countWithin, within, not_lt.mpr within, ← induction]
            omega
          · simp [histogram, countWithin, within, not_le.mp within, ← induction]
            omega

theorem aggregate_eq_sum (rows : List EvidenceRow) :
    aggregate rows = (rows.map fun row => aggregate [row]).sum := by
  induction rows with
  | nil => rfl
  | cons row rest induction =>
      rw [List.map_cons, List.sum_cons, ← induction, ← aggregate_append]
      rfl

theorem aggregate_groups (keys : List BucketKey) (distinct : keys.Nodup)
    (rows : List EvidenceRow) :
    (keys.map fun key => aggregate (groupOf key rows)).sum =
      aggregate (rows.filter fun row =>
        (bucketKey? row).any fun key => keys.contains key) := by
  simp only [aggregate_eq_sum (List.filter _ _), groupOf]
  exact sum_groups keys distinct bucketKey? (fun row => aggregate [row]) rows

/-! A history: the tables, every row that a rollup has added to a bucket, those
of them whose bucket is still there, and the identifiers requests have had. -/

structure MetricsHistory where
  database : OperationsDatabase
  rolled : List EvidenceRow
  held : List EvidenceRow
  known : List Uuid

def MetricsHistory.start (settings : Settings) : MetricsHistory where
  database := {
    requests := .empty
    attempts := .empty
    buckets := .empty
    permits := .empty
    capacityBuckets := .empty
    probeRuns := .empty
    auditEvents := .empty
    qaRuns := .empty
    settings }
  rolled := []
  held := []
  known := []

inductive MetricsLabel where
  | write (row : EvidenceRow)
  | configure (settings : Settings)
  | rollup (limit : Nat)
  | retain

/-- The steps that change something: a request is started or written while it
is open, the settings are changed, and the two kinds of maintenance run to
their end. -/
inductive MetricsStep :
    MetricsHistory → MetricsLabel → MetricsHistory → Prop
  | write (history : MetricsHistory) (row : EvidenceRow)
      (isOpen : row.id ∉ history.known ∨
        ∃ previous, history.database.requests.find? row.id = some previous ∧
          previous.finishedAt = none)
      (unrolled : row.rolledUpAt = none) :
      MetricsStep history (.write row) { history with
        database := { history.database with
          requests := history.database.requests.put row }
        known := row.id :: history.known }
  | configure (history : MetricsHistory) (settings : Settings) :
      MetricsStep history (.configure settings) { history with
        database := { history.database with settings } }
  | rollup (history : MetricsHistory) (limit : Nat) (locked : Uuid → Bool)
      (now : Micros) (refuses : Nat → Bool) (count : Nat)
      (after : OperationsDatabase)
      (ran : (rollupRequestMetrics true limit locked now).transact refuses
        history.database = (.ok count, after)) :
      MetricsStep history (.rollup limit) { history with
        database := after
        rolled := history.rolled ++
          selected limit locked history.database.requests
        held := history.held ++
          selected limit locked history.database.requests }
  | retain (history : MetricsHistory) (now : Micros) (refuses : Nat → Bool)
      (deleted : Nat) (after : OperationsDatabase)
      (ran : (applyOperationsRetention true now).transact refuses
        history.database = (.ok deleted, after)) :
      MetricsStep history .retain { history with
        database := after
        held := history.held.filter fun row =>
          (bucketKey? row).any fun key => (after.buckets.find? key).isSome }

/-- What holds of the counters after every step. -/
structure Accounted (history : MetricsHistory) : Prop where
  once : (history.rolled.map fun row => row.id).Nodup
  rolledKnown : ∀ row ∈ history.rolled, row.id ∈ history.known
  requestsKnown : ∀ row ∈ history.database.requests.rows,
    row.id ∈ history.known
  terminal : ∀ row ∈ history.rolled, row.finishedAt.isSome = true
  marked : ∀ row ∈ history.database.requests.rows,
    row.rolledUpAt.isSome = true ↔ row.id ∈ history.rolled.map fun row => row.id
  same : ∀ row ∈ history.database.requests.rows, ∀ counted ∈ history.rolled,
    counted.id = row.id → counted.toProxyRequestRow = row.toProxyRequestRow
  held : history.held.Sublist history.rolled
  present : ∀ key, history.database.buckets.find? key = none ↔
    groupOf key history.held = []
  counts : ∀ key, countsAt history.database.buckets key =
    aggregate (groupOf key history.held)

theorem accounted_start (settings : Settings) :
    Accounted (.start settings) := by
  constructor
  case once => exact List.nodup_nil
  case rolledKnown =>
    intro row member
    cases member
  case requestsKnown =>
    intro row member
    cases member
  case terminal =>
    intro row member
    cases member
  case marked =>
    intro row member
    cases member
  case same =>
    intro row member
    cases member
  case held => exact List.Sublist.refl _
  case present =>
    intro key
    exact iff_of_true rfl rfl
  case counts =>
    intro key
    rfl

namespace Accounted

variable {history : MetricsHistory}

theorem not_rolled_of_open (accounted : Accounted history) {row : EvidenceRow}
    (isOpen : row.id ∉ history.known ∨
      ∃ previous, history.database.requests.find? row.id = some previous ∧
        previous.finishedAt = none) :
    row.id ∉ history.rolled.map fun row => row.id := by
  intro rolled
  obtain ⟨counted, isCounted, sameId⟩ := List.mem_map.mp rolled
  rcases isOpen with fresh | ⟨previous, found, unfinished⟩
  · exact fresh (sameId ▸ accounted.rolledKnown counted isCounted)
  · obtain ⟨present, isId⟩ := Table.find?_eq_some_iff.mp found
    have sameRow := accounted.same previous present counted isCounted
      (sameId.trans isId.symm)
    have finished := accounted.terminal counted isCounted
    rw [show counted.finishedAt = previous.finishedAt from
      congrArg ProxyRequestRow.finishedAt sameRow, unfinished] at finished
    cases finished

theorem write (accounted : Accounted history) {row : EvidenceRow}
    (isOpen : row.id ∉ history.known ∨
      ∃ previous, history.database.requests.find? row.id = some previous ∧
        previous.finishedAt = none)
    (unrolled : row.rolledUpAt = none) :
    Accounted { history with
      database := { history.database with
        requests := history.database.requests.put row }
      known := row.id :: history.known } := by
  have absent := accounted.not_rolled_of_open isOpen
  constructor
  case once => exact accounted.once
  case rolledKnown =>
    intro counted isCounted
    exact List.mem_cons_of_mem _ (accounted.rolledKnown counted isCounted)
  case requestsKnown =>
    intro other present
    rcases Table.mem_put.mp present with ⟨wasThere, _⟩ | rfl
    · exact List.mem_cons_of_mem _ (accounted.requestsKnown other wasThere)
    · exact List.mem_cons_self ..
  case terminal => exact accounted.terminal
  case marked =>
    intro other present
    rcases Table.mem_put.mp present with ⟨wasThere, _⟩ | rfl
    · exact accounted.marked other wasThere
    · rw [unrolled]
      exact ⟨nofun, fun rolled => absurd rolled absent⟩
  case same =>
    intro other present counted isCounted sameId
    rcases Table.mem_put.mp present with ⟨wasThere, _⟩ | rfl
    · exact accounted.same other wasThere counted isCounted sameId
    · exact absurd (List.mem_map.mpr ⟨counted, isCounted, sameId⟩) absent
  case held => exact accounted.held
  case present => exact accounted.present
  case counts => exact accounted.counts

end Accounted

private theorem rolledUp_of_ok {limit : Nat} {locked : Uuid → Bool}
    {now : Micros} {refuses : Nat → Bool} {before after : OperationsDatabase}
    {count : Nat}
    (ran : (rollupRequestMetrics true limit locked now).transact refuses before =
      (.ok count, after)) :
    after = { before with
      buckets := upserted (selected limit locked before.requests) before.buckets
      requests :=
        marked now (selected limit locked before.requests) before.requests } := by
  simp only [rollupRequestMetrics, tryMaintenanceLock, rollupStatement,
    transact_eq_ok, bind_eq_ok, execute_eq_ok, Option.some.injEq,
    Prod.mk.injEq] at ran
  obtain ⟨session, ⟨_, _, ⟨-, _, ⟨rfl, rfl⟩, rfl⟩, rest⟩, rfl⟩ := ran
  simp only [Bool.not_true, Bool.false_eq_true, if_false, execute_eq_ok,
    Option.some.injEq, Prod.mk.injEq] at rest
  obtain ⟨-, rows, ⟨-, rfl⟩, rfl⟩ := rest
  rfl

theorem mem_selected {limit : Nat} {locked : Uuid → Bool}
    {requests : RequestTable} {row : EvidenceRow}
    (chosen : row ∈ selected limit locked requests) :
    row ∈ requests.rows ∧ row.finishedAt.isSome = true ∧
      row.rolledUpAt = none := by
  have sorted := List.mem_of_mem_take chosen
  rw [List.mem_mergeSort] at sorted
  obtain ⟨present, qualifies⟩ := List.mem_filter.mp sorted
  simp only [Bool.and_eq_true, Option.isNone_iff_eq_none] at qualifies
  exact ⟨present, qualifies.1.1, qualifies.1.2⟩

theorem selected_nodup (limit : Nat) (locked : Uuid → Bool)
    (requests : RequestTable) :
    ((selected limit locked requests).map fun row => row.id).Nodup := by
  refine List.Nodup.sublist ((List.take_sublist _ _).map _) ?_
  refine ((List.mergeSort_perm _ _).map _).nodup_iff.mpr ?_
  exact requests.nodup.sublist (List.filter_sublist.map _)

theorem mem_marked {now : Micros} {rows : List EvidenceRow}
    {requests : RequestTable} {row : EvidenceRow}
    (present : row ∈ (marked now rows requests).rows) :
    ∃ old ∈ requests.rows, old.id = row.id ∧
      old.toProxyRequestRow = row.toProxyRequestRow ∧
      (row.id ∈ (rows.map fun row => row.id) ∧ row.rolledUpAt = some now ∨
        row.id ∉ (rows.map fun row => row.id) ∧
          row.rolledUpAt = old.rolledUpAt) := by
  obtain ⟨old, wasThere, isRow⟩ := Table.mem_update.mp present
  have chosen : (rows.any fun chosen => chosen.id = old.id) = true ↔
      old.id ∈ rows.map fun row => row.id := by
    simp
  split at isRow
  · rename_i isChosen
    subst isRow
    exact ⟨old, wasThere, rfl, rfl, .inl ⟨chosen.mp isChosen, rfl⟩⟩
  · rename_i notChosen
    subst isRow
    exact ⟨old, wasThere, rfl, rfl, .inr ⟨fun isChosen =>
      notChosen (chosen.mpr isChosen), rfl⟩⟩

namespace Accounted

variable {history : MetricsHistory}

theorem rollup (accounted : Accounted history) (limit : Nat)
    (locked : Uuid → Bool) (now : Micros) :
    Accounted { history with
      database := { history.database with
        buckets := upserted
          (selected limit locked history.database.requests)
          history.database.buckets
        requests := Operations.marked now
          (selected limit locked history.database.requests)
          history.database.requests }
      rolled := history.rolled ++
        selected limit locked history.database.requests
      held := history.held ++
        selected limit locked history.database.requests } := by
  have chosenRow := @mem_selected limit locked history.database.requests
  have chosenOnce := selected_nodup limit locked history.database.requests
  generalize selected limit locked history.database.requests = chosen
    at chosenRow chosenOnce ⊢
  have unrolled : ∀ row ∈ chosen,
      row.id ∉ history.rolled.map fun row => row.id := by
    intro row isChosen rolled
    obtain ⟨present, -, unset⟩ := chosenRow isChosen
    have set := (accounted.marked row present).mpr rolled
    rw [unset] at set
    cases set
  constructor
  case once =>
    rw [List.map_append]
    refine accounted.once.append chosenOnce ?_
    intro id isRolled isChosen
    obtain ⟨row, chosenHere, rfl⟩ := List.mem_map.mp isChosen
    exact unrolled row chosenHere isRolled
  case rolledKnown =>
    intro row member
    rcases List.mem_append.mp member with isRolled | isChosen
    · exact accounted.rolledKnown row isRolled
    · exact accounted.requestsKnown row (chosenRow isChosen).1
  case requestsKnown =>
    intro row present
    obtain ⟨old, wasThere, sameId, -⟩ := mem_marked present
    rw [← sameId]
    exact accounted.requestsKnown old wasThere
  case terminal =>
    intro row member
    rcases List.mem_append.mp member with isRolled | isChosen
    · exact accounted.terminal row isRolled
    · exact (chosenRow isChosen).2.1
  case marked =>
    intro row present
    obtain ⟨old, wasThere, sameId, -, marks⟩ := mem_marked present
    rw [List.map_append, List.mem_append]
    rcases marks with ⟨isChosen, isNow⟩ | ⟨notChosen, stays⟩
    · exact iff_of_true (by rw [isNow]; rfl) (.inr isChosen)
    · rw [stays, accounted.marked old wasThere, sameId]
      exact ⟨.inl, fun either => either.resolve_right notChosen⟩
  case same =>
    intro row present counted member sameId
    obtain ⟨old, wasThere, oldId, sameRow, -⟩ := mem_marked present
    rw [← sameRow]
    rcases List.mem_append.mp member with isRolled | isChosen
    · exact accounted.same old wasThere counted isRolled
        (sameId.trans oldId.symm)
    · have found := Table.find?_eq_some_iff.mpr
        ⟨(chosenRow isChosen).1, sameId.trans oldId.symm⟩
      rw [Table.find?_eq_some_iff.mpr ⟨wasThere, rfl⟩] at found
      cases found
      rfl
  case held => exact accounted.held.append (List.Sublist.refl chosen)
  case present =>
    intro key
    simp only [find?_upserted, groupOf_append, List.append_eq_nil_iff]
    split
    · rename_i isEmpty
      rw [accounted.present key]
      exact (and_iff_left isEmpty).symm
    · rename_i nonempty
      exact iff_of_false nofun fun both => nonempty both.2
  case counts =>
    intro key
    rw [groupOf_append, aggregate_append, ← accounted.counts key]
    exact countsAt_upserted chosen history.database.buckets key

theorem retain (accounted : Accounted history) {after : OperationsDatabase}
    (requests : ∀ row ∈ after.requests.rows,
      row ∈ history.database.requests.rows)
    (buckets : ∀ key, after.buckets.find? key = none ∨
      after.buckets.find? key = history.database.buckets.find? key) :
    Accounted { history with
      database := after
      held := history.held.filter fun row =>
        (bucketKey? row).any fun key => (after.buckets.find? key).isSome } := by
  have groups : ∀ key, groupOf key (history.held.filter fun row =>
      (bucketKey? row).any fun key => (after.buckets.find? key).isSome) =
        if after.buckets.find? key = none then [] else
          groupOf key history.held := by
    intro key
    unfold groupOf
    rw [List.filter_filter]
    split
    · rename_i gone
      rw [List.filter_eq_nil_iff]
      intro row _
      by_cases isKey : bucketKey? row = some key
      · simp [isKey, gone]
      · simp [isKey]
    · rename_i stays
      have isThere := Option.isSome_iff_ne_none.mpr stays
      apply List.filter_congr
      intro row _
      by_cases isKey : bucketKey? row = some key
      · simp [isKey, isThere]
      · simp [isKey]
  constructor
  case once => exact accounted.once
  case rolledKnown => exact accounted.rolledKnown
  case requestsKnown =>
    intro row present
    exact accounted.requestsKnown row (requests row present)
  case terminal => exact accounted.terminal
  case marked =>
    intro row present
    exact accounted.marked row (requests row present)
  case same =>
    intro row present
    exact accounted.same row (requests row present)
  case held => exact List.filter_sublist.trans accounted.held
  case present =>
    intro key
    rw [groups key]
    rcases buckets key with gone | stays
    · rw [if_pos gone]
      exact iff_of_true gone rfl
    · split
      · rename_i gone
        exact iff_of_true gone rfl
      · rw [stays]
        exact accounted.present key
  case counts =>
    intro key
    rw [groups key]
    rcases buckets key with gone | stays
    · rw [if_pos gone]
      unfold countsAt
      rw [gone]
      rfl
    · have same : countsAt after.buckets key =
          countsAt history.database.buckets key := by
        unfold countsAt
        rw [stays]
      rw [same, accounted.counts key]
      split
      · rename_i gone
        rw [stays, accounted.present key] at gone
        rw [gone]
      · rfl

theorem step {before after : MetricsHistory} {label : MetricsLabel}
    (accounted : Accounted before) (steps : MetricsStep before label after) :
    Accounted after := by
  cases steps with
  | write row isOpen unrolled => exact accounted.write isOpen unrolled
  | configure settings =>
      exact ⟨accounted.once, accounted.rolledKnown, accounted.requestsKnown,
        accounted.terminal, accounted.marked, accounted.same, accounted.held,
        accounted.present, accounted.counts⟩
  | rollup limit locked now refuses count database ran =>
      rw [rolledUp_of_ok ran]
      exact accounted.rollup limit locked now
  | retain now refuses deleted database ran =>
      apply accounted.retain
      · intro row present
        rcases retained_of_ok ran with unchanged | retained
        · rw [unchanged] at present
          exact present
        · rw [retained.requests] at present
          exact (Table.mem_delete.mp present).1
      · intro key
        rcases retained_of_ok ran with unchanged | retained
        · rw [unchanged]
          exact .inr rfl
        · rw [retained.buckets, Table.find?_delete]
          cases found : before.database.buckets.find? key with
          | none => exact .inl rfl
          | some bucket =>
              rw [Option.filter_some]
              split
              · exact .inr rfl
              · exact .inl rfl

end Accounted

theorem accounted_of_run {settings : Settings} {labels : List MetricsLabel}
    {history : MetricsHistory}
    (run : Run MetricsStep (.start settings) labels history) :
    Accounted history :=
  run.invariant Accounted (fun accounted steps => accounted.step steps)
    (accounted_start settings)

namespace Accounted

variable {history : MetricsHistory}

theorem sum_counts (accounted : Accounted history)
    (shown : MetricBucket → Bool) :
    ((history.database.buckets.rows.filter shown).map fun bucket =>
        bucket.counts).sum =
      aggregate (history.held.filter fun row =>
        (bucketKey? row).any fun key =>
          ((history.database.buckets.rows.filter shown).map
            MetricBucket.key).contains key) := by
  rw [← aggregate_groups]
  · rw [List.map_map]
    apply congrArg List.sum
    apply List.map_congr_left
    intro bucket member
    have found := Table.find?_eq_some_iff.mpr
      ⟨(List.mem_filter.mp member).1, rfl⟩
    rw [Function.comp, ← accounted.counts bucket.key, countsAt, found]
  · exact history.database.buckets.nodup.sublist (List.filter_sublist.map _)

theorem cumulative (accounted : Accounted history) {bucket : MetricBucket}
    (present : bucket ∈ history.database.buckets.rows) :
    bucket.counts.duration.Cumulative ∧ bucket.counts.ttfb.Cumulative := by
  have found := Table.find?_eq_some_iff.mpr ⟨present, rfl⟩
  have counts : bucket.counts = aggregate (groupOf bucket.key history.held) := by
    rw [← accounted.counts bucket.key, countsAt, found]
  rw [counts]
  exact ⟨histogram_cumulative _, histogram_cumulative _⟩

theorem bucket_of_held (accounted : Accounted history) {row : EvidenceRow}
    (held : row ∈ history.held) :
    ∃ key, bucketKey? row = some key ∧
      ∃ bucket ∈ history.database.buckets.rows, bucket.key = key := by
  obtain ⟨finishedAt, finished⟩ := Option.isSome_iff_exists.mp
    (accounted.terminal row (accounted.held.subset held))
  have isKey : bucketKey? row = some {
      bucketStart := truncMinute finishedAt
      endpoint := row.endpoint
      profileId := row.profileId
      outcomeClass := outcomeClass row.outcome row.statusCode } := by
    rw [bucketKey?, finished]
    rfl
  refine ⟨_, isKey, ?_⟩
  cases found : history.database.buckets.find? {
      bucketStart := truncMinute finishedAt
      endpoint := row.endpoint
      profileId := row.profileId
      outcomeClass := outcomeClass row.outcome row.statusCode } with
  | none =>
      have empty := (accounted.present _).mp found
      have member : row ∈ groupOf {
          bucketStart := truncMinute finishedAt
          endpoint := row.endpoint
          profileId := row.profileId
          outcomeClass := outcomeClass row.outcome row.statusCode }
          history.held :=
        List.mem_filter.mpr ⟨held, decide_eq_true isKey⟩
      rw [empty] at member
      cases member
  | some bucket =>
      obtain ⟨present, sameKey⟩ := Table.find?_eq_some_iff.mp found
      exact ⟨bucket, present, sameKey⟩

end Accounted

/-- After any sequence of completions, rollups and retentions, every request is
counted once if it is marked and never otherwise, and the buckets that are left
hold the counters of the requests rolled up into them. -/
theorem rollup_exactly_once {settings : Settings} {labels : List MetricsLabel}
    {history : MetricsHistory}
    (run : Run MetricsStep (.start settings) labels history) :
    (history.rolled.map fun row => row.id).Nodup ∧
    (∀ row ∈ history.database.requests.rows,
      (row.rolledUpAt.isSome = true ↔
        (history.rolled.map fun row => row.id).count row.id = 1) ∧
      ∀ counted ∈ history.rolled, counted.id = row.id →
        counted.toProxyRequestRow = row.toProxyRequestRow) ∧
    (∀ rows, rows.Perm history.held → ∀ key,
      countsAt history.database.buckets key = aggregate (groupOf key rows)) ∧
    (history.database.buckets.rows.map fun bucket => bucket.counts).sum =
      aggregate history.held ∧
    ∀ bucket ∈ history.database.buckets.rows,
      bucket.counts.duration.Cumulative ∧ bucket.counts.ttfb.Cumulative := by
  have accounted := accounted_of_run run
  refine ⟨accounted.once, ?_, ?_, ?_, fun bucket => accounted.cumulative⟩
  · intro row present
    refine ⟨?_, accounted.same row present⟩
    rw [accounted.marked row present]
    constructor
    · exact List.count_eq_one_of_mem accounted.once
    · intro counted
      exact List.count_pos_iff.mp (by omega)
  · intro rows same key
    rw [accounted.counts key]
    exact (aggregate_perm (same.filter _)).symm
  · have total := accounted.sum_counts fun _ => true
    rw [List.filter_true] at total
    rw [total]
    congr 1
    rw [List.filter_eq_self]
    intro row held
    obtain ⟨key, isKey, bucket, present, sameKey⟩ :=
      accounted.bucket_of_held held
    rw [isKey, Option.any_some, List.contains_iff_mem]
    exact List.mem_map.mpr ⟨bucket, present, sameKey⟩

private theorem selected_one :
    selected 500 (fun _ => false) (Table.empty.put (agedRequest 0)) =
      [agedRequest 0] := by
  have waits : ((Table.empty.put (agedRequest 0) : RequestTable).rows.filter
      fun row => row.finishedAt.isSome && row.rolledUpAt.isNone && !false) =
        [agedRequest 0] := rfl
  unfold selected
  rw [waits, List.mergeSort_singleton]
  rfl

/-- A request is written and rolled up: it is marked, and the buckets count it. -/
theorem rollup_exactly_once_one :
    ∃ history, Run MetricsStep
        (.start (settingsOf 30 90 (by decide) (by decide)))
        [.write (agedRequest 0), .rollup 500] history ∧
      history.rolled = [agedRequest 0] ∧
      (∃ row ∈ history.database.requests.rows,
        row.id = (agedRequest 0).id ∧ row.rolledUpAt.isSome = true) ∧
      (history.database.buckets.rows.map fun bucket => bucket.counts).sum =
        aggregate [agedRequest 0] := by
  have written := MetricsStep.write
    (.start (settingsOf 30 90 (by decide) (by decide))) (agedRequest 0)
    (.inl nofun) rfl
  obtain ⟨history, run, rolled, held, requests⟩ : ∃ history, Run MetricsStep
      (.start (settingsOf 30 90 (by decide) (by decide)))
      [.write (agedRequest 0), .rollup 500] history ∧
      history.rolled = selected 500 (fun _ => false) (Table.empty.put (agedRequest 0)) ∧
      history.held = selected 500 (fun _ => false) (Table.empty.put (agedRequest 0)) ∧
      history.database.requests = marked 60
        (selected 500 (fun _ => false) (Table.empty.put (agedRequest 0)))
        (Table.empty.put (agedRequest 0)) :=
    ⟨_, .cons written (.cons (.rollup _ 500 (fun _ => false) 60
      (fun _ => false) _ _ rfl) (.nil _)), rfl, rfl, rfl⟩
  rw [selected_one] at rolled held requests
  obtain ⟨-, marks, -, total, -⟩ := rollup_exactly_once run
  have member : { agedRequest 0 with rolledUpAt := some 60 } ∈
      history.database.requests.rows := by
    rw [requests]
    exact List.mem_singleton_self _
  refine ⟨history, run, rolled, ⟨_, member, rfl, ?_⟩, by rw [total, held]⟩
  exact (marks _ member).1.mpr (by rw [rolled]; rfl)
end NvidiaBuildLb.Operations
