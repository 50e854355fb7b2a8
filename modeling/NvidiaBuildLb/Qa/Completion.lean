import NvidiaBuildLb.Qa.Statements
import NvidiaBuildLb.Hermes.Records
import Mathlib.Data.List.Sort

namespace NvidiaBuildLb.Qa

open Foundation NvidiaBuildLb.Core Gateway Transaction

/-! `complete_hermes`: what a helper reports, and what the gateway checks of it
before it closes the run. -/

structure HermesRequestEvidence where
  requestId : Uuid
  attemptCount : Nat
  outcome : String
  stage : String
  deriving DecidableEq, Repr

structure HermesCompletion where
  status : String
  appCommit : Option String
  generation : Option Uuid
  clientId : Option Uuid
  doctor : Bool
  exactMarker : Bool
  toolTask : Bool
  requestCorrelation : Bool
  secretScan : Option SecretScanEvidence
  rollbackRehearsal : Bool
  reconcileCommitted : Bool
  durationMs : Option Nat
  lbRequests : List HermesRequestEvidence
  deriving DecidableEq, Repr

structure CorrelatedRequest where
  requestId : Uuid
  profileId : String
  outcome : String
  attemptCount : Nat
  startedAt : Micros
  finishedAt : Option Micros
  deriving DecidableEq, Repr

def require (context : String) : Option α → QaTransaction α
  | some value => pure value
  | none => bail context

/-- The audit of an earlier acceptance with this generation and commit. -/
def QaDatabase.acceptance (database : QaDatabase) (runId generation : Uuid)
    (appCommit : String) : Option AuditEvent :=
  (database.audits.filter fun event =>
    event.action = "qa.hermes.complete" && event.resourceId = some runId &&
      event.outcome = "succeeded" &&
      match event.detail with
      | .completed accepted commit .. =>
          accepted = generation && commit = appCommit
      | _ => false).foldl
    (fun newest event =>
      match newest with
      | none => some event
      | some other =>
          if other.createdAt ≤ event.createdAt then some event else some other)
    none

def earlierCompletion (runId : Uuid) (status : RunStatus)
    (input : HermesCompletion) : QaTransaction (Option Uuid) :=
  if status = .passed && input.status = "passed" then do
    let generation ←
      require "passed Hermes QA requires generation" input.generation
    let appCommit ←
      require "passed Hermes QA requires app_commit" input.appCommit
    select "load idempotent Hermes completion" fun database =>
      (database.acceptance runId generation appCommit).map AuditEvent.id
  else
    pure none

def completeFailed (runId requestId auditId : Uuid) (now : Micros) :
    QaTransaction Uuid := do
  let _ ← updateCases "store Hermes helper failure"
    (fun row => row.runId = runId && row.status = .running)
    (.finish false (.errorCode "hermes_helper_failed") now)
  let _ ← updateRuns "finish failed Hermes QA run"
    (fun run => run.id = runId && run.status = .running) (.finish false now)
  insertAudit {
    id := auditId
    action := "qa.hermes.complete"
    resourceKind := "qa_run"
    resourceId := some runId
    requestId := some requestId
    outcome := "succeeded"
    detail := .failed "hermes_helper_failed"
    createdAt := now }

/-- What a passed completion must name. -/
structure Reported where
  generation : Uuid
  clientId : Uuid
  durationMs : Nat
  appCommit : String
  deriving DecidableEq, Repr

def requireReported (buildCommit deploymentCommit : String)
    (input : HermesCompletion) : QaTransaction Reported := do
  let generation ←
    require "passed Hermes QA requires generation" input.generation
  let clientId ←
    require "passed Hermes QA requires client_id" input.clientId
  let durationMs ←
    require "passed Hermes QA requires duration_ms" input.durationMs
  refuseIf (durationMs = 0 || durationMs > 3600000)
    "Hermes QA duration is outside the accepted range"
  let appCommit ←
    require "passed Hermes QA requires app_commit" input.appCommit
  refuseIf (appCommit ≠ deploymentCommit || appCommit ≠ buildCommit)
    "Hermes QA app commit does not match the active deployment"
  return { generation, clientId, durationMs, appCommit }

def requireClient (label : String) (clientId : Uuid) (startedAt : Micros) :
    QaTransaction PUnit := do
  let client ← select "load Hermes downstream client" fun database =>
    database.traffic.clients.find? fun client => client.id = clientId
  let client ← require "Hermes downstream client not found" client
  refuseIf (client.label ≠ label || !client.active ||
      client.createdAt < startedAt || client.revokedAt.isSome)
    "Hermes downstream client identity is not valid for this run"

/-- The scan reads through another connection, outside the transaction. -/
def requireScan (input : HermesCompletion) :
    QaTransaction SecretScanEvidence := do
  refuseIf (!input.doctor || !input.exactMarker || !input.toolTask ||
      !input.requestCorrelation || input.secretScan.isNone ||
      !input.rollbackRehearsal)
    "passed Hermes QA requires every verification boolean"
  let secretScan ←
    require "passed Hermes QA requires structured secret scan evidence"
      input.secretScan
  let databaseMatches ←
    select "scan persisted operations data for raw credentials"
      fun database => database.traffic.secretMatches
  refuseIf (secretScan.databaseMatches ≠ databaseMatches ||
      secretScan.totalMatches ≠ 0)
    "Hermes secret scan evidence contains or disagrees on raw secret matches"
  return secretScan

def HermesCompletion.staged (input : HermesCompletion) (stage : String) :
    List HermesRequestEvidence :=
  input.lbRequests.filter fun request => request.stage = stage

def requireStages (input : HermesCompletion) : QaTransaction PUnit := do
  refuseIf (!(3 ≤ input.lbRequests.length && input.lbRequests.length ≤ 5))
    "passed Hermes QA requires three to five correlated requests"
  let markerCount := (input.staged "marker").length
  let toolCount := (input.staged "tool").length
  refuseIf (markerCount ≠ 1 || !(2 ≤ toolCount && toolCount ≤ 4) ||
      markerCount + toolCount ≠ input.lbRequests.length)
    ("Hermes QA requires exactly one marker request and two to four tool " ++
      "requests")
  refuseIf (!(input.lbRequests.map HermesRequestEvidence.requestId).Nodup)
    "Hermes QA request evidence contains duplicate IDs"

/-- `ORDER BY started_at,request_id`. -/
def CorrelatedRequest.before (left right : CorrelatedRequest) : Bool :=
  left.startedAt < right.startedAt ||
    (left.startedAt = right.startedAt && left.requestId ≤ right.requestId)

def QaDatabase.correlated (database : QaDatabase) (clientId : Uuid)
    (startedAt : Micros) (requestIds : List Uuid) : List CorrelatedRequest :=
  ((database.traffic.requests.filter fun request =>
      request.downstreamCredentialId = some clientId &&
        request.startedAt ≥ startedAt && request.requestId ∈ requestIds).map
    fun request => {
      requestId := request.requestId
      profileId := request.profileId
      outcome := request.outcome
      attemptCount := database.traffic.attempts.count request.id
      startedAt := request.startedAt
      finishedAt := request.finishedAt }).insertionSort
        fun left right => left.before right = true

def requireSubmitted (correlated : List CorrelatedRequest) :
    List HermesRequestEvidence → QaTransaction PUnit
  | [] => pure ⟨⟩
  | submitted :: rest => do
      let persisted ←
        require "Hermes QA request evidence is missing a persisted request"
          (correlated.find? fun item => item.requestId = submitted.requestId)
      refuseIf (submitted.outcome ≠ "succeeded" ||
          persisted.outcome ≠ submitted.outcome ||
          persisted.attemptCount ≠ submitted.attemptCount ||
          persisted.finishedAt.isNone)
        "Hermes QA request evidence disagrees with terminal persistence"
      requireSubmitted correlated rest

def latest : List Micros → Option Micros
  | [] => none
  | time :: rest => some (rest.foldl max time)

def requireCorrelated (input : HermesCompletion) (clientId : Uuid)
    (startedAt : Micros) : QaTransaction (List CorrelatedRequest) := do
  let requestIds := input.lbRequests.map HermesRequestEvidence.requestId
  let correlated ← select "validate correlated Hermes requests"
    fun database => database.correlated clientId startedAt requestIds
  refuseIf (correlated.length ≠ input.lbRequests.length)
    "Hermes QA request evidence does not match persisted requests"
  requireSubmitted correlated input.lbRequests
  let markerRequest ← require "Hermes QA marker request is missing"
    (input.staged "marker").head?
  let markerStartedAt ← require "Hermes QA marker request is not persisted"
    ((correlated.find? fun request =>
      request.requestId = markerRequest.requestId).map
        CorrelatedRequest.startedAt)
  let tools := (input.staged "tool").filterMap fun request =>
    correlated.find? fun persisted => persisted.requestId = request.requestId
  refuseIf (tools.any fun request => request.startedAt < markerStartedAt)
    "Hermes QA tool requests precede the marker request"
  let windowStart ← require "Hermes QA request window is empty"
    (correlated.head?.map CorrelatedRequest.startedAt)
  let windowEnd ← require "Hermes QA request window is not terminal"
    (latest (correlated.filterMap CorrelatedRequest.finishedAt))
  let windowCount ← select "validate complete Hermes request window"
    fun database => database.traffic.requests.countP fun request =>
      request.downstreamCredentialId = some clientId &&
        request.startedAt ≥ windowStart && request.startedAt ≤ windowEnd
  refuseIf (windowCount ≠ correlated.length)
    "Hermes QA request window contains unreported requests"
  return correlated

/-- The cases in the order they are written, each with its verdict and its
evidence. -/
def HermesCompletion.verdicts (input : HermesCompletion) (clientId : Uuid)
    (secretScan : SecretScanEvidence) (correlated : List CorrelatedRequest) :
    List (String × Bool × Evidence) :=
  [("doctor", input.doctor, .passed input.doctor),
    ("exact_marker", input.exactMarker, .passed input.exactMarker),
    ("tool_task", input.toolTask, .passed input.toolTask),
    ("request_correlation", input.requestCorrelation, .correlation {
      passed := input.requestCorrelation
      clientId
      requestIds := correlated.map CorrelatedRequest.requestId
      profiles := (correlated.map CorrelatedRequest.profileId).dedup
      attemptCounts := correlated.map fun item =>
        (item.requestId, item.attemptCount)
      markerRequestCount := (input.staged "marker").length
      toolRequestCount := (input.staged "tool").length }),
    ("secret_scan", secretScan.totalMatches = 0, .secretScan secretScan),
    ("rollback_rehearsal", input.rollbackRehearsal,
      .passed input.rollbackRehearsal)]

/-- The status that a completion expects of the run and of its cases. -/
def expectedCase (recovering : Bool) : CaseStatus :=
  if recovering then .failed else .running

def expectedRun (recovering : Bool) : RunStatus :=
  if recovering then .failed else .running

def finishHermesCases (runId : Uuid) (recovering : Bool) (now : Micros) :
    List (String × Bool × Evidence) → QaTransaction PUnit
  | [] => pure ⟨⟩
  | (name, passed, evidence) :: rest => do
      let updated ← updateCases "finish Hermes QA case"
        (fun row => row.runId = runId && row.name = name &&
          row.status = expectedCase recovering)
        (.finish passed evidence now)
      refuseIf (updated ≠ 1)
        "Hermes QA case is not in the expected reconciliation state"
      finishHermesCases runId recovering now rest

structure CompletionContext where
  buildCommit : String
  runId : Uuid
  requestId : Uuid
  auditId : Uuid
  now : Micros

def completePassed (context : CompletionContext) (input : HermesCompletion)
    (deploymentCommit : String) (startedAt : Micros) (recovering : Bool) :
    QaTransaction Uuid := do
  let reported ←
    requireReported context.buildCommit deploymentCommit input
  requireClient (Hermes.operationLabelOf reported.generation)
    reported.clientId startedAt
  let secretScan ← requireScan input
  requireStages input
  let correlated ← requireCorrelated input reported.clientId startedAt
  finishHermesCases context.runId recovering context.now
    (input.verdicts reported.clientId secretScan correlated)
  let completed ← updateRuns "finish passed Hermes QA run"
    (fun run => run.id = context.runId &&
      run.status = expectedRun recovering)
    (.finish true context.now)
  refuseIf (completed ≠ 1)
    "Hermes QA run changed while completing reconciliation"
  insertAudit {
    id := context.auditId
    action := "qa.hermes.complete"
    resourceKind := "qa_run"
    resourceId := some context.runId
    requestId := some context.requestId
    outcome := "succeeded"
    detail := .completed reported.generation reported.appCommit
      reported.clientId reported.durationMs correlated.length recovering
    createdAt := context.now }

/-- Whether the completion asks to pass a run that was closed as failed. -/
def HermesCompletion.recovers (input : HermesCompletion) (status : RunStatus) :
    Bool :=
  status = .failed && input.status = "passed" && input.reconcileCommitted

/-- The transaction of `complete_hermes`; it answers the audit. -/
def completeHermes (context : CompletionContext) (input : HermesCompletion) :
    QaTransaction Uuid := do
  let found ← select "lock Hermes QA run" fun database =>
    database.runs.find? context.runId
  let run ← require "Hermes QA run not found" found
  refuseIf (run.suite ≠ .hermesE2e) "QA run is not a Hermes E2E run"
  refuseIf (!run.live || run.providerIdentity ≠ .nvidiaHosted)
    "Hermes QA completion requires NVIDIA hosted live evidence"
  match ← earlierCompletion context.runId run.status input with
  | some audit => return audit
  | none =>
      let recovering := input.recovers run.status
      refuseIf (run.status ≠ .running && !recovering)
        "Hermes QA run is not running"
      let startedAt ← require "Hermes QA run has no start time" run.startedAt
      if input.status = "failed" then
        completeFailed context.runId context.requestId context.auditId
          context.now
      else do
        refuseIf (input.status ≠ "passed")
          "Hermes completion status must be passed or failed"
        completePassed context input run.deploymentCommit startedAt recovering

end NvidiaBuildLb.Qa
