import NvidiaBuildLb.Qa.Records
import NvidiaBuildLb.Foundation.Transaction

namespace NvidiaBuildLb.Qa

open Foundation NvidiaBuildLb.Core Gateway

/-! The statements and transactions that move QA runs and their cases.  An
error is the context its statement or check gives it. -/

abbrev QaTransaction := Transaction QaDatabase String

namespace QaDatabase

def updateRuns (database : QaDatabase) (select : QaRun → Bool)
    (edit : RunEdit) : QaDatabase :=
  { database with
    runs := database.runs.update select edit.apply edit.id }

def updateCases (database : QaDatabase) (select : QaCase → Bool)
    (edit : CaseEdit) : QaDatabase :=
  { database with
    cases := database.cases.update select edit.apply edit.id }

def casesOf (database : QaDatabase) (runId : Uuid) : List QaCase :=
  database.cases.rows.filter fun row => row.runId = runId

end QaDatabase

open Transaction

/-- An `UPDATE` of runs, and how many it affected. -/
def updateRuns (context : String) (select : QaRun → Bool) (edit : RunEdit) :
    QaTransaction Nat :=
  execute context fun database =>
    some (database.runs.count select, database.updateRuns select edit)

def updateCases (context : String) (select : QaCase → Bool)
    (edit : CaseEdit) : QaTransaction Nat :=
  execute context fun database =>
    some (database.cases.count select, database.updateCases select edit)

def select (context : String) (query : QaDatabase → α) : QaTransaction α :=
  execute context fun database => some (query database, database)

/-- `fetch_one`: no row is an error. -/
def selectOne (context : String) (query : QaDatabase → Option α) :
    QaTransaction α :=
  execute context fun database =>
    (query database).map fun value => (value, database)

def insertAudit (event : AuditEvent) : QaTransaction Uuid :=
  execute "insert mutation audit event" fun database =>
    some (event.id, { database with audits := database.audits ++ [event] })

structure QaRunInput where
  suite : String
  live : Bool
  confirmBillable : Bool
  deriving DecidableEq, Repr

/-- One `INSERT` for every case; a taken identifier is refused. -/
def insertCases (runId : Uuid) : List (Uuid × String) → QaTransaction PUnit
  | [] => pure ⟨⟩
  | (id, name) :: rest => do
      execute "insert QA case" fun database =>
        (database.cases.insert? {
          id
          runId
          name
          status := .pending
          evidence := .empty
          startedAt := none
          finishedAt := none
          contract := by simp [CaseStatus.open] }).map fun cases =>
            (PUnit.unit, { database with cases })
      insertCases runId rest

/-- One round of the loop, which is the only one: under the advisory lock of
creations the unique index on active runs has nothing left to refuse. -/
def createQaRun (buildCommit : String) (runId : Uuid) (suite : Suite)
    (live : Bool) (providerIdentity : ProviderIdentity) (requestId : Uuid)
    (caseIds : Nat → Uuid) (auditId : Uuid) (now : Micros) :
    QaTransaction Uuid := do
  refuseIf (suite = .hermesE2e && !live)
    "Hermes E2E QA requires live mode"
  refuseIf (live != (providerIdentity = .nvidiaHosted : Bool))
    "QA live mode and provider identity do not match"
  let active ← select "load active QA run under creation lock" fun database =>
    database.runs.rows.any fun run => run.status.active
  refuseIf active "another QA run is already active"
  execute "insert QA run" fun database =>
    (database.runs.insert? {
      id := runId
      suite
      live
      providerIdentity
      deploymentCommit := buildCommit
      status := .queued
      createdAt := now
      startedAt := none
      finishedAt := none
      contract := by simp [RunStatus.active] }).map fun runs =>
        (PUnit.unit, { database with runs })
  insertCases runId
    (suite.cases.zipIdx.map fun item => (caseIds item.2, item.1))
  insertAudit {
    id := auditId
    action := "qa.run.create"
    resourceKind := "qa_run"
    resourceId := some runId
    requestId := some requestId
    outcome := "succeeded"
    detail := .created live providerIdentity suite
    createdAt := now }

def hermesQaTimeoutSeconds : Nat := 30 * 60

def persistenceQaTimeoutSeconds : Nat := 15 * 60

def loadRunMode (runId : Uuid) :
    QaTransaction (Suite × Bool × ProviderIdentity) :=
  selectOne "load QA run mode" fun database =>
    (database.runs.find? runId).bind fun run =>
      if run.status = .queued then
        some (run.suite, run.live, run.providerIdentity)
      else
        none

def startQueuedRun (runId : Uuid) (now : Micros) : QaTransaction PUnit := do
  let started ← updateRuns "start QA run"
    (fun run => run.id = runId && run.status = .queued) (.start now)
  refuseIf (started != 1) "QA run is not queued"

def armHermes (runId : Uuid) (now : Micros) : QaTransaction PUnit := do
  let run ← selectOne "lock Hermes QA run for arm" fun database =>
    database.runs.find? runId
  refuseIf (run.suite != .hermesE2e || !run.live)
    "Hermes QA arm requires a live Hermes E2E run"
  refuseIf (run.status != .queued) "Hermes QA run is not queued"
  let armed ← updateCases "arm Hermes QA cases"
    (fun row => row.runId = runId && row.status = .pending)
    (.arm (.armed hermesQaTimeoutSeconds) now)
  refuseIf (armed != 6)
    "Hermes QA run does not contain the complete six-case contract"
  let _ ← updateRuns "publish armed Hermes QA run" (fun run => run.id = runId)
    (.start now)

def preparePersistence (runId : Uuid) (snapshot : PersistenceSnapshot)
    (now : Micros) : QaTransaction PUnit := do
  let run ← selectOne "lock persistence QA run for arm" fun database =>
    database.runs.find? runId
  refuseIf (run.status != .queued) "persistence QA run is not queued"
  let caseCount ← select "count persistence QA cases" fun database =>
    database.cases.count fun row => row.runId = runId
  refuseIf (caseCount != 6)
    "persistence QA run does not contain the complete six-case contract"
  let armed ← updateCases "arm persistence QA restart evidence"
    (fun row => row.runId = runId && row.name = "restart_observed" &&
      row.status = .pending)
    (.arm (.baseline snapshot) now)
  refuseIf (armed != 1) "persistence QA restart case could not be armed"
  let _ ← updateRuns "publish armed persistence QA run"
    (fun run => run.id = runId) (.start now)

def loadCases (runId : Uuid) : QaTransaction (List (Uuid × String)) :=
  select "load QA cases" fun database =>
    (database.casesOf runId).map fun row => (row.id, row.name)

/-- The statement does not look at the status; a finished case has the terminal
contract against it. -/
def startCase (caseId : Uuid) (now : Micros) : QaTransaction PUnit :=
  execute "start QA case" fun database =>
    if database.cases.rows.any fun row =>
        row.id = caseId && row.finishedAt.isSome then
      none
    else
      some (⟨⟩, database.updateCases (fun row => row.id = caseId) (.start now))

def finishCase (caseId : Uuid) (passed : Bool) (evidence : Evidence)
    (now : Micros) : QaTransaction PUnit := do
  let _ ← updateCases "finish QA case"
    (fun row => row.id = caseId && row.status = .running)
    (.finish passed evidence now)

def finishRun (runId : Uuid) (passed : Bool) (now : Micros) :
    QaTransaction PUnit := do
  let _ ← updateRuns "finish QA run"
    (fun run => run.id = runId && run.status = .running) (.finish passed now)

/-- The first statement of the error path of `spawn`. -/
def closeCases (runId : Uuid) (now : Micros) : QaTransaction PUnit := do
  let _ ← updateCases "close QA cases"
    (fun row => row.runId = runId && row.status.open)
    (.close "qa_runner_failed" now)

/-- The second one. -/
def closeRun (runId : Uuid) (now : Micros) : QaTransaction PUnit := do
  let _ ← updateRuns "close QA run"
    (fun run => run.id = runId && run.status.active) (.close now)

def failRunningRun (runId : Uuid) (errorCode : String) (now : Micros) :
    QaTransaction PUnit := do
  let run ← select "lock QA run for failure close" fun database =>
    database.runs.find? runId
  if (run.map fun run => run.status.active).getD false then
    let _ ← updateCases "close QA cases as failed"
      (fun row => row.runId = runId && row.status.open) (.close errorCode now)
    let _ ← updateRuns "close QA run as failed"
      (fun run => run.id = runId && run.status.active) (.close now)

/-- `status='queued' OR (status='running' AND suite<>'persistence')`. -/
def QaRun.interrupted (run : QaRun) : Bool :=
  run.status = .queued || (run.status = .running && run.suite != .persistence)

def QaDatabase.interruptedRuns (database : QaDatabase) : List Uuid :=
  (database.runs.rows.filter QaRun.interrupted).map QaRun.id

def closeInterruptedRuns (now : Micros) : QaTransaction PUnit := do
  execute "close interrupted QA cases" fun database =>
    some (PUnit.unit, database.updateCases
      (fun row => row.runId ∈ database.interruptedRuns && row.status.open)
      (.close "gateway_restarted_during_qa" now))
  let _ ← updateRuns "close interrupted QA runs" QaRun.interrupted (.close now)

def interruptedPersistenceRuns : QaTransaction (List Uuid) :=
  select "load interrupted persistence QA runs" fun database =>
    (database.runs.rows.filter fun run =>
      run.status = .running && run.suite = .persistence).map QaRun.id

def persistenceCase (before after : PersistenceSnapshot) (name : String) :
    Bool :=
  match name with
  | "encrypted_keys" =>
      before.keyCount ≥ 2 && before.keyCount = after.keyCount &&
        before.keyHash = after.keyHash
  | "downstream_token" =>
      before.activeClientCount ≥ 1 &&
        before.activeClientCount = after.activeClientCount &&
        before.clientHash = after.clientHash
  | "profile_receipts" =>
      before.receiptKeyCount ≥ 2 &&
        before.receiptCount = after.receiptCount &&
        before.receiptHash = after.receiptHash
  | "routing_cursor" =>
      before.routingGenerationCount ≥ 1 &&
        before.routingCount = after.routingCount &&
        before.routingHash = after.routingHash
  | "owner_lease" => before.ownerId ≠ after.ownerId
  | _ => false

/-- Whether any case fails. -/
def settlePersistenceCases (before after : PersistenceSnapshot) (now : Micros) :
    List (Uuid × String) → Bool → QaTransaction Bool
  | [], failed => pure failed
  | (caseId, name) :: rest, failed => do
      let passed := persistenceCase before after name
      let _ ← updateCases "finish persistence QA case"
        (fun row => row.id = caseId && row.status = .pending)
        (.settle passed (.persistence name before after) now)
      settlePersistenceCases before after now rest (failed || !passed)

/-- The snapshot is taken by the current owner. -/
def resumePersistence (runId : Uuid) (current : PersistenceSnapshot)
    (now : Micros) : QaTransaction PUnit := do
  let run ← selectOne "lock persistence QA run for resume" fun database =>
    database.runs.find? runId
  refuseIf (run.status != .running) "persistence QA run is not running"
  let evidence ← selectOne "load persistence QA baseline" fun database =>
    ((database.casesOf runId).find? fun row =>
      row.name = "restart_observed" && row.status = .running).map
        QaCase.evidence
  match evidence with
  | .baseline baseline =>
      refuseIf (baseline.ownerId = current.ownerId)
        "persistence QA has not observed a different gateway owner"
      let ownerChanged : Bool := baseline.ownerId ≠ current.ownerId
      let _ ← updateCases "finish persistence restart case"
        (fun row => row.runId = runId && row.name = "restart_observed" &&
          row.status = .running)
        (.finish ownerChanged
          (.ownerChanged ownerChanged baseline.ownerId current.ownerId) now)
      let cases ← select "load persistence QA cases" fun database =>
        ((database.casesOf runId).filter fun row => row.status = .pending).map
          fun row => (row.id, row.name)
      let failed ←
        settlePersistenceCases baseline current now cases (!ownerChanged)
      let _ ← updateRuns "finish persistence QA run"
        (fun run => run.id = runId && run.status = .running)
        (.finish (!failed) now)
  | _ => bail "decode persistence QA baseline"

end NvidiaBuildLb.Qa
