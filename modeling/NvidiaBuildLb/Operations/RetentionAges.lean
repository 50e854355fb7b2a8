import NvidiaBuildLb.Operations.Retention

namespace NvidiaBuildLb.Operations

open Foundation NvidiaBuildLb.Core Gateway Transaction

/-! Which rows a run of the retention leaves. -/

/-- What the statements of a run leave of the three tables of the ledger. -/
structure Retained (now : Micros) (before after : OperationsDatabase) :
    Prop where
  requests : after.requests = before.requests.delete
    (requestExpired now before.settings.requestRetentionDays
      before.settings.metricRetentionDays)
  attempts : after.attempts = (forgetRequests
      ((before.requests.rows.filter
        (requestExpired now before.settings.requestRetentionDays
          before.settings.metricRetentionDays)).map fun row => row.id)
      before.attempts).delete
        (attemptExpired now before.settings.requestRetentionDays)
  buckets : after.buckets = before.buckets.delete
    (bucketExpired now before.settings.metricRetentionDays)
  settings : after.settings = before.settings

private theorem runStatements_ok {total result : Nat}
    {statements : List RetentionStatement}
    {session after : Session OperationsDatabase}
    (ran : runStatements total statements session = .ok (result, after)) :
    after.rows = statements.foldl (fun database statement =>
      statement.deleted database) session.rows := by
  induction statements generalizing total session with
  | nil =>
      cases ran
      rfl
  | cons statement rest induction =>
      simp only [runStatements, bind_eq_ok, execute_eq_ok, Option.some.injEq,
        Prod.mk.injEq] at ran
      obtain ⟨affected, between, ⟨-, rows, ⟨-, rfl⟩, rfl⟩, restRan⟩ := ran
      exact induction restRan

theorem retained_of_ok {lockFree : Bool} {now : Micros}
    {refuses : Nat → Bool} {before after : OperationsDatabase} {deleted : Nat}
    (ran : (applyOperationsRetention lockFree now).transact refuses before =
      (.ok deleted, after)) :
    after = before ∨ Retained now before after := by
  simp only [applyOperationsRetention, tryMaintenanceLock, transact_eq_ok,
    bind_eq_ok, execute_eq_ok, Option.some.injEq, Prod.mk.injEq] at ran
  obtain ⟨session, ⟨locked, between, ⟨-, rows, ⟨rfl, rfl⟩, rfl⟩, rest⟩, rfl⟩ := ran
  cases lockFree with
  | false =>
      cases rest
      exact .inl rfl
  | true =>
      simp only [Bool.not_true, Bool.false_eq_true, if_false, loadSettings,
        deleteRequests, bind_eq_ok, execute_eq_ok, Option.some.injEq,
        Prod.mk.injEq] at rest
      obtain ⟨settings, _, ⟨-, _, ⟨rfl, rfl⟩, rfl⟩, expired, _,
        ⟨-, _, ⟨-, rfl⟩, rfl⟩, restRan⟩ := rest
      have rows := runStatements_ok restRan
      right
      constructor
      · rw [rows]
        rfl
      · rw [rows]
        rfl
      · rw [rows]
        rfl
      · rw [rows]
        rfl

theorem retained_or_unchanged (lockFree : Bool) (now : Micros)
    (refuses : Nat → Bool) (before : OperationsDatabase) :
    ((applyOperationsRetention lockFree now).transact refuses before).2 =
        before ∨
      Retained now before
        ((applyOperationsRetention lockFree now).transact refuses before).2 := by
  cases ran : (applyOperationsRetention lockFree now).transact refuses before with
  | mk result after =>
      cases result with
      | error error =>
          left
          have back := transact_error (congrArg Prod.fst ran)
          rw [ran] at back
          exact back
      | ok deleted => exact retained_of_ok ran

def Younger (now : Micros) (count : Int) (time : Micros) : Prop :=
  now - days count ≤ time

/-- No row leaves before the age that the settings give for its table, and no
attempt before its request. -/
structure RespectsAges (now : Micros) (before after : OperationsDatabase) :
    Prop where
  terminal : ∀ row ∈ before.requests.rows, row.finishedAt.isSome = true →
    Younger now before.settings.requestRetentionDays row.startedAt →
    row ∈ after.requests.rows
  unrolled : ∀ row ∈ before.requests.rows, row.rolledUpAt = none →
    Younger now before.settings.metricRetentionDays row.startedAt →
    row ∈ after.requests.rows
  buckets : ∀ bucket ∈ before.buckets.rows,
    Younger now before.settings.metricRetentionDays bucket.key.bucketStart →
    bucket ∈ after.buckets.rows
  attempts : ∀ attempt ∈ before.attempts.rows,
    ∀ request ∈ after.requests.rows,
      attempt.proxyRequestId = some request.id → attempt ∈ after.attempts.rows

/-- The same with what the statements leave out: the rollup decides which age a
terminal request has, and a finished attempt has an age of its own. -/
structure RespectsHorizons (now : Micros)
    (before after : OperationsDatabase) : Prop where
  terminal : ∀ row ∈ before.requests.rows, row.finishedAt.isSome = true →
    Younger now before.settings.requestRetentionDays row.startedAt →
    row.rolledUpAt.isSome = true ∨
      before.settings.requestRetentionDays ≤
        before.settings.metricRetentionDays →
    row ∈ after.requests.rows
  unrolled : ∀ row ∈ before.requests.rows, row.rolledUpAt = none →
    row.finishedAt = none ∨
      Younger now before.settings.metricRetentionDays row.startedAt →
    row ∈ after.requests.rows
  buckets : ∀ bucket ∈ before.buckets.rows,
    Younger now before.settings.metricRetentionDays bucket.key.bucketStart →
    bucket ∈ after.buckets.rows
  attempts : ∀ attempt ∈ before.attempts.rows,
    ∀ request ∈ after.requests.rows,
      attempt.proxyRequestId = some request.id →
      attempt.finishedAt = none ∨
        Younger now before.settings.requestRetentionDays attempt.createdAt →
      attempt ∈ after.attempts.rows

private theorem requestExpired_eq_false {now : Micros}
    {requestDays metricDays : Int} {row : EvidenceRow} :
    requestExpired now requestDays metricDays row = false ↔
      row.finishedAt = none ∨
      (row.rolledUpAt.isSome = true ∧ Younger now requestDays row.startedAt) ∨
      (row.rolledUpAt = none ∧ Younger now metricDays row.startedAt) := by
  unfold requestExpired Younger
  cases row.finishedAt with
  | none => simp
  | some finishedAt => cases row.rolledUpAt <;> simp

private theorem sub_days_le {now fewer more time : Int}
    (younger : now - fewer * 86400000000 ≤ time) (le : fewer ≤ more) :
    now - more * 86400000000 ≤ time := by
  omega

theorem Younger.mono {now : Micros} {fewer more : Int} {time : Micros}
    (younger : Younger now fewer time) (le : fewer ≤ more) :
    Younger now more time :=
  sub_days_le younger le

private theorem mem_forgetRequests {before : OperationsDatabase}
    {expired : EvidenceRow → Bool} {attempt : RequestAttemptRow}
    {request : EvidenceRow} (present : attempt ∈ before.attempts.rows)
    (stays : request ∈ (before.requests.delete expired).rows)
    (names : attempt.proxyRequestId = some request.id) :
    attempt ∈ (forgetRequests ((before.requests.rows.filter expired).map
      fun row => row.id) before.attempts).rows := by
  obtain ⟨isRequest, isKept⟩ := Table.mem_delete.mp stays
  have notGone : request.id ∉ (before.requests.rows.filter expired).map
      fun row => row.id := by
    intro gone
    obtain ⟨other, isGone, sameId⟩ := List.mem_map.mp gone
    obtain ⟨isOther, isExpired⟩ := List.mem_filter.mp isGone
    have found := Table.find?_eq_some_iff.mpr ⟨isOther, sameId⟩
    rw [Table.find?_eq_some_iff.mpr ⟨isRequest, rfl⟩] at found
    cases found
    rw [isKept] at isExpired
    cases isExpired
  refine Table.mem_update.mpr ⟨attempt, present, ?_⟩
  rw [if_neg]
  simpa [names] using notGone

private theorem respectsHorizons_refl (now : Micros)
    (database : OperationsDatabase) :
    RespectsHorizons now database database where
  terminal _ present _ _ _ := present
  unrolled _ present _ _ := present
  buckets _ present _ := present
  attempts _ present _ _ _ _ := present

private theorem Retained.respectsHorizons {now : Micros}
    {before after : OperationsDatabase} (retained : Retained now before after) :
    RespectsHorizons now before after := by
  have stays : ∀ row ∈ before.requests.rows,
      requestExpired now before.settings.requestRetentionDays
        before.settings.metricRetentionDays row = false →
      row ∈ after.requests.rows := by
    intro row present kept
    rw [retained.requests]
    exact Table.mem_delete.mpr ⟨present, kept⟩
  constructor
  case terminal =>
    intro row present _ younger horizon
    apply stays row present
    rw [requestExpired_eq_false]
    cases rolled : row.rolledUpAt with
    | some time => exact .inr (.inl ⟨rfl, younger⟩)
    | none =>
        rw [rolled] at horizon
        have longer := horizon.resolve_left Bool.false_ne_true
        exact .inr (.inr ⟨rfl, younger.mono longer⟩)
  case unrolled =>
    intro row present isUnrolled young
    apply stays row present
    rw [requestExpired_eq_false]
    rcases young with isOpen | younger
    · exact .inl isOpen
    · exact .inr (.inr ⟨isUnrolled, younger⟩)
  case buckets =>
    intro bucket present younger
    rw [retained.buckets]
    refine Table.mem_delete.mpr ⟨present, ?_⟩
    exact decide_eq_false (not_lt.mpr younger)
  case attempts =>
    intro attempt present request isKept names young
    rw [retained.requests] at isKept
    rw [retained.attempts]
    refine Table.mem_delete.mpr
      ⟨mem_forgetRequests present isKept names, ?_⟩
    unfold attemptExpired
    rcases young with isOpen | younger
    · simp [isOpen]
    · rw [decide_eq_false (not_lt.mpr younger), Bool.and_false]

theorem retention_respects_horizons (lockFree : Bool) (now : Micros)
    (refuses : Nat → Bool) (before : OperationsDatabase) :
    RespectsHorizons now before
      ((applyOperationsRetention lockFree now).transact refuses before).2 := by
  rcases retained_or_unchanged lockFree now refuses before with
    unchanged | retained
  · rw [unchanged]
    exact respectsHorizons_refl now before
  · exact retained.respectsHorizons

def agedRequest (age : Int) : EvidenceRow where
  id := 1
  requestId := 2
  ownerId := none
  downstreamCredentialId := none
  endpoint := "/v1/chat/completions"
  profileId := "z-ai/glm-5.2"
  stream := false
  modality := "text"
  outcome := .ended .succeeded
  statusCode := some 200
  errorClass := none
  durationMs := some 10
  ttfbMs := none
  failoverCount := 0
  startedAt := -days age
  finishedAt := some (-days age)
  contract := by simp
  rolledUpAt := none

def agedAttempt (age : Int) : RequestAttemptRow where
  id := 3
  requestId := 2
  profileId := "z-ai/glm-5.2"
  keyId := 4
  ownerId := none
  proxyRequestId := some 1
  attemptNo := some 1
  outcome := .ended .succeeded
  statusCode := some 200
  errorClass := none
  cooldownAppliedUntil := none
  bytesOut := some 10
  ttfbMs := none
  responseStarted := false
  latencyMs := some 10
  createdAt := -days age
  finishedAt := some (-days age)
  contract := by simp

def agedLedger (settings : Settings) (age : Int) : OperationsDatabase where
  requests := ⟨[agedRequest age], by simp⟩
  attempts := ⟨[agedAttempt age], by simp⟩
  buckets := .empty
  permits := .empty
  capacityBuckets := .empty
  probeRuns := .empty
  auditEvents := .empty
  qaRuns := .empty
  settings

def settingsOf (requestDays metricDays : Int)
    (request : 7 ≤ requestDays ∧ requestDays ≤ 90)
    (metric : 7 ≤ metricDays ∧ metricDays ≤ 365) : Settings where
  proofFreshnessSeconds := 604800
  requestRetentionDays := requestDays
  metricRetentionDays := metricDays
  publicIncidentsEnabled := true
  proofFreshness := by decide
  requestRetention := request
  metricRetention := metric

def retentionRun (before : OperationsDatabase) : OperationsDatabase :=
  ((applyOperationsRetention true 0).transact (fun _ => false) before).2

/-- With the default settings a request of forty days loses its attempt, and
with seven days for the metrics one of ten days goes itself. -/
theorem retention_not_always_respects_ages :
    ¬ RespectsAges 0
        (agedLedger (settingsOf 30 90 (by decide) (by decide)) 40)
        (retentionRun
          (agedLedger (settingsOf 30 90 (by decide) (by decide)) 40)) ∧
      ¬ RespectsAges 0
        (agedLedger (settingsOf 30 7 (by decide) (by decide)) 10)
        (retentionRun
          (agedLedger (settingsOf 30 7 (by decide) (by decide)) 10)) := by
  constructor
  · intro respects
    have kept := respects.attempts (agedAttempt 40) (by decide)
      (agedRequest 40) (by decide +kernel) rfl
    revert kept
    decide +kernel
  · intro respects
    have kept := respects.terminal (agedRequest 10) (by decide) rfl
      (by unfold Younger; decide)
    revert kept
    decide +kernel

end NvidiaBuildLb.Operations
