import NvidiaBuildLb.Foundation.Transaction
import NvidiaBuildLb.Operations.Rollup

namespace NvidiaBuildLb.Operations

open Foundation NvidiaBuildLb.Core Gateway Transaction

/-! The operations settings, and the maintenance of the evidence tables: the
rollup of finished requests and the retention of everything that ages. -/

/-- The row of `operations_settings` under its checks. -/
structure Settings where
  proofFreshnessSeconds : Int
  requestRetentionDays : Int
  metricRetentionDays : Int
  publicIncidentsEnabled : Bool
  proofFreshness : 300 ≤ proofFreshnessSeconds ∧ proofFreshnessSeconds ≤ 2592000
  requestRetention : 7 ≤ requestRetentionDays ∧ requestRetentionDays ≤ 90
  metricRetention : 7 ≤ metricRetentionDays ∧ metricRetentionDays ≤ 365
  deriving DecidableEq

structure SettingsPatch where
  proofFreshnessSeconds : Option Nat
  requestRetentionDays : Option Nat
  metricRetentionDays : Option Nat
  publicIncidentsEnabled : Option Bool
  deriving DecidableEq, Repr

/-- `update_settings`: each value is checked against its own range. -/
def updateSettings (patch : SettingsPatch) (current : Settings) :
    Except String Settings :=
  if patch.proofFreshnessSeconds.isNone && patch.requestRetentionDays.isNone &&
      patch.metricRetentionDays.isNone && patch.publicIncidentsEnabled.isNone then
    .error "At least one setting is required."
  else if checked :
      (∀ value ∈ patch.proofFreshnessSeconds, 300 ≤ value ∧ value ≤ 2592000) ∧
      (∀ value ∈ patch.requestRetentionDays, 7 ≤ value ∧ value ≤ 90) ∧
      (∀ value ∈ patch.metricRetentionDays, 7 ≤ value ∧ value ≤ 365) then
    .ok {
      proofFreshnessSeconds :=
        patch.proofFreshnessSeconds.elim current.proofFreshnessSeconds fun value => value
      requestRetentionDays :=
        patch.requestRetentionDays.elim current.requestRetentionDays fun value => value
      metricRetentionDays :=
        patch.metricRetentionDays.elim current.metricRetentionDays fun value => value
      publicIncidentsEnabled :=
        patch.publicIncidentsEnabled.getD current.publicIncidentsEnabled
      proofFreshness := by
        cases given : patch.proofFreshnessSeconds with
        | none => exact current.proofFreshness
        | some value =>
            have bounds := checked.1 value given
            simp only [Option.elim_some]
            omega
      requestRetention := by
        cases given : patch.requestRetentionDays with
        | none => exact current.requestRetention
        | some value =>
            have bounds := checked.2.1 value given
            simp only [Option.elim_some]
            omega
      metricRetention := by
        cases given : patch.metricRetentionDays with
        | none => exact current.metricRetention
        | some value =>
            have bounds := checked.2.2 value given
            simp only [Option.elim_some]
            omega }
  else
    .error "One or more settings are outside the supported range."

/-- A row of the tables of which retention reads only the age, and whether it
has ended. -/
structure AgedRow where
  id : Uuid
  time : Micros
  ended : Bool
  deriving DecidableEq, Repr

structure OperationsDatabase where
  requests : RequestTable
  attempts : Table RequestAttemptRow.id
  buckets : BucketTable
  permits : Table AgedRow.id
  capacityBuckets : Table AgedRow.id
  probeRuns : Table AgedRow.id
  auditEvents : Table AgedRow.id
  qaRuns : Table AgedRow.id
  settings : Settings

abbrev OperationsTransaction := Transaction OperationsDatabase String

/-- `make_interval(days => count)`, where no day is longer than another. -/
def days (count : Int) : Micros := count * 86400000000

def auditAndQaRetentionDays : Int := 180

def requestExpired (now : Micros) (requestDays metricDays : Int)
    (row : EvidenceRow) : Bool :=
  row.finishedAt.isSome &&
    ((row.rolledUpAt.isSome && row.startedAt < now - days requestDays) ||
      (row.rolledUpAt.isNone && row.startedAt < now - days metricDays))

def attemptExpired (now : Micros) (requestDays : Int)
    (row : RequestAttemptRow) : Bool :=
  row.finishedAt.isSome && row.createdAt < now - days requestDays

def bucketExpired (now : Micros) (metricDays : Int) (bucket : MetricBucket) :
    Bool :=
  bucket.key.bucketStart < now - days metricDays

def agedExpired (now : Micros) (count : Int) (row : AgedRow) : Bool :=
  row.ended && row.time < now - days count

/-- `ON DELETE SET NULL` of the attempts that name a request. -/
def forgetRequests (gone : List Uuid) (attempts : Table RequestAttemptRow.id) :
    Table RequestAttemptRow.id :=
  attempts.update (fun row => row.proxyRequestId.any fun id => gone.contains id)
    (fun row => { row with proxyRequestId := none }) fun _ => rfl

def deleteRequests (now : Micros) (requestDays metricDays : Int) :
    OperationsTransaction Nat :=
  execute "expire terminal proxy requests at their evidence horizon"
    fun database =>
      let expired := requestExpired now requestDays metricDays
      let gone := (database.requests.rows.filter expired).map fun row => row.id
      some (gone.length, { database with
        requests := database.requests.delete expired
        attempts := forgetRequests gone database.attempts })

/-- One statement of the loop: how many rows it finds, and what it leaves. -/
structure RetentionStatement where
  count : OperationsDatabase → Nat
  deleted : OperationsDatabase → OperationsDatabase

def loadSettings : OperationsTransaction Settings :=
  execute "load operations retention settings" fun database =>
    some (database.settings, database)

/-- `pg_try_advisory_xact_lock`. -/
def tryMaintenanceLock (context : String) (lockFree : Bool) :
    OperationsTransaction Bool :=
  execute context fun database => some (lockFree, database)

def retentionStatements (now : Micros) (requestDays metricDays : Int) :
    List RetentionStatement := [
  { count database := database.permits.count (agedExpired now requestDays)
    deleted database := { database with
      permits := database.permits.delete (agedExpired now requestDays) } },
  { count database :=
      database.attempts.count (attemptExpired now requestDays)
    deleted database := { database with
      attempts := database.attempts.delete (attemptExpired now requestDays) } },
  { count database := database.buckets.count (bucketExpired now metricDays)
    deleted database := { database with
      buckets := database.buckets.delete (bucketExpired now metricDays) } },
  { count database :=
      database.capacityBuckets.count (agedExpired now metricDays)
    deleted database := { database with
      capacityBuckets :=
        database.capacityBuckets.delete (agedExpired now metricDays) } },
  { count database := database.probeRuns.count (agedExpired now metricDays)
    deleted database := { database with
      probeRuns := database.probeRuns.delete (agedExpired now metricDays) } },
  { count database :=
      database.auditEvents.count (agedExpired now auditAndQaRetentionDays)
    deleted database := { database with
      auditEvents :=
        database.auditEvents.delete
          (agedExpired now auditAndQaRetentionDays) } },
  { count database :=
      database.qaRuns.count (agedExpired now auditAndQaRetentionDays)
    deleted database := { database with
      qaRuns :=
        database.qaRuns.delete (agedExpired now auditAndQaRetentionDays) } }]

/-- The statements one after another, with the sum of their rows. -/
def runStatements (total : Nat) :
    List RetentionStatement → OperationsTransaction Nat
  | [] => pure total
  | statement :: rest => do
      let affected ← execute "apply operations retention statement"
        fun database => some (statement.count database, statement.deleted database)
      runStatements (saturatingAdd total affected) rest

def applyOperationsRetention (lockFree : Bool) (now : Micros) :
    OperationsTransaction Nat := do
  let locked ← tryMaintenanceLock "lock operations retention" lockFree
  if !locked then
    pure 0
  else
    let settings ← loadSettings
    let deleted ← deleteRequests now settings.requestRetentionDays
      settings.metricRetentionDays
    runStatements (saturatingAdd 0 deleted)
      (retentionStatements now settings.requestRetentionDays
        settings.metricRetentionDays)

def rollupStatement (limit : Nat) (locked : Uuid → Bool) (now : Micros) :
    OperationsTransaction Nat :=
  execute "roll up request metrics" fun database =>
    let rows := selected limit locked database.requests
    some (rows.length, { database with
      buckets := upserted rows database.buckets
      requests := marked now rows database.requests })

def rollupRequestMetrics (lockFree : Bool) (limit : Nat)
    (locked : Uuid → Bool) (now : Micros) : OperationsTransaction Nat := do
  let free ← tryMaintenanceLock "lock metric rollup" lockFree
  if !free then
    pure 0
  else
    rollupStatement limit locked now

end NvidiaBuildLb.Operations
