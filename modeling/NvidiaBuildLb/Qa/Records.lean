import NvidiaBuildLb.Foundation.Table
import NvidiaBuildLb.Gateway.Database

namespace NvidiaBuildLb.Qa

open Foundation NvidiaBuildLb.Core Gateway

/-! The rows of QA runs and of their cases, and the rows that a Hermes
completion is checked against. -/

inductive Suite where
  | smoke
  | distribution
  | failover
  | persistence
  | multimodal
  | hermesE2e
  deriving DecidableEq, Repr

def Suite.ofText : String → Option Suite
  | "smoke" => some .smoke
  | "distribution" => some .distribution
  | "failover" => some .failover
  | "persistence" => some .persistence
  | "multimodal" => some .multimodal
  | "hermes-e2e" => some .hermesE2e
  | _ => none

/-- The cases that `create_qa_run` gives a run. -/
def Suite.cases : Suite → List String
  | .smoke =>
      ["liveness", "readiness", "models", "chat_non_stream", "chat_stream",
        "privacy"]
  | .distribution =>
      ["two_eligible_slots", "six_requests", "skew_at_most_one"]
  | .failover =>
      ["before_first_frame", "after_first_frame_no_replay",
        "terminal_evidence"]
  | .persistence =>
      ["restart_observed", "encrypted_keys", "downstream_token",
        "profile_receipts", "routing_cursor", "owner_lease"]
  | .multimodal =>
      ["phi_text_image_audio", "vila_text_image_video", "nvclip_text_image",
        "flux_text_image", "video_generation", "speech_and_transcription"]
  | .hermesE2e =>
      ["doctor", "exact_marker", "tool_task", "request_correlation",
        "secret_scan", "rollback_rehearsal"]

theorem Suite.cases_nodup (suite : Suite) : suite.cases.Nodup := by
  cases suite <;> decide

/-- `unverified` marks live runs from before the column existed. -/
inductive ProviderIdentity where
  | nvidiaHosted
  | fake
  | unverified
  deriving DecidableEq, Repr

inductive RunStatus where
  | queued
  | running
  | passed
  | failed
  | cancelled
  deriving DecidableEq, Repr

def RunStatus.active : RunStatus → Bool
  | .queued | .running => true
  | _ => false

inductive CaseStatus where
  | pending
  | running
  | passed
  | failed
  | skipped
  deriving DecidableEq, Repr

/-- `status IN ('pending','running')`. -/
def CaseStatus.open : CaseStatus → Bool
  | .pending | .running => true
  | _ => false

structure PersistenceSnapshot where
  ownerId : Uuid
  keyCount : Int
  keyHash : String
  activeClientCount : Int
  clientHash : String
  receiptCount : Int
  receiptKeyCount : Int
  receiptHash : String
  routingCount : Int
  routingGenerationCount : Int
  routingHash : String
  deriving DecidableEq, Repr

structure SecretScanEvidence where
  databaseMatches : Nat
  appLogMatches : Nat
  hermesLogMatches : Nat
  cloudflaredLogMatches : Nat
  imageMetadataMatches : Nat
  helperArtifactMatches : Nat
  hermesTreeMatches : Nat
  publicBundleMatches : Nat
  adminResponseMatches : Nat
  issuedTokenMatches : Nat
  authorizationValueMatches : Nat
  deriving DecidableEq, Repr

def SecretScanEvidence.totalMatches (scan : SecretScanEvidence) : Nat :=
  [scan.appLogMatches, scan.hermesLogMatches, scan.cloudflaredLogMatches,
    scan.imageMetadataMatches, scan.helperArtifactMatches,
    scan.hermesTreeMatches, scan.publicBundleMatches,
    scan.adminResponseMatches, scan.issuedTokenMatches,
    scan.authorizationValueMatches].foldl saturatingAdd scan.databaseMatches

structure RequestCorrelation where
  passed : Bool
  clientId : Uuid
  requestIds : List Uuid
  profiles : List String
  attemptCounts : List (Uuid × Nat)
  markerRequestCount : Nat
  toolRequestCount : Nat
  deriving DecidableEq, Repr

/-- The `evidence` document of a case.  What `evaluate_case` and
`persistence_case` find is not read back and stands for itself. -/
inductive Evidence where
  | empty
  | errorCode (code : String)
  | armed (timeoutSeconds : Nat)
  | baseline (snapshot : PersistenceSnapshot)
  | ownerChanged (changed : Bool) (before after : Uuid)
  | evaluated (document : String) (trafficError : Option String)
  | queryFailed (reason : String) (trafficError : Option String)
  | persistence (name : String) (before after : PersistenceSnapshot)
  | passed (value : Bool)
  | correlation (value : RequestCorrelation)
  | secretScan (value : SecretScanEvidence)
  deriving DecidableEq, Repr

/-- A row of `qa_runs` under its terminal contract. -/
structure QaRun where
  id : Uuid
  suite : Suite
  live : Bool
  providerIdentity : ProviderIdentity
  deploymentCommit : String
  status : RunStatus
  createdAt : Micros
  startedAt : Option Micros
  finishedAt : Option Micros
  contract : status.active = true ↔ finishedAt = none
  deriving DecidableEq

/-- A row of `qa_cases` under its terminal contract. -/
structure QaCase where
  id : Uuid
  runId : Uuid
  name : String
  status : CaseStatus
  evidence : Evidence
  startedAt : Option Micros
  finishedAt : Option Micros
  contract : status.open = true ↔ finishedAt = none
  deriving DecidableEq

/-- The `detail` of the audits of Hermes completions. -/
inductive AuditDetail where
  | completed (generation : Uuid) (appCommit : String) (clientId : Uuid)
      (durationMs requestCount : Nat) (reconciledFromFailed : Bool)
  | failed (errorCode : String)
  | created (live : Bool) (providerIdentity : ProviderIdentity) (suite : Suite)
  | other (document : String)
  deriving DecidableEq, Repr

structure AuditEvent where
  id : Uuid
  action : String
  resourceKind : String
  resourceId : Option Uuid
  requestId : Option Uuid
  outcome : String
  detail : AuditDetail
  createdAt : Micros
  deriving DecidableEq, Repr

structure DownstreamClient where
  id : Uuid
  label : String
  active : Bool
  createdAt : Micros
  revokedAt : Option Micros
  deriving DecidableEq, Repr

structure ProxyRequest where
  id : Uuid
  requestId : Uuid
  downstreamCredentialId : Option Uuid
  profileId : String
  outcome : String
  startedAt : Micros
  finishedAt : Option Micros
  deriving DecidableEq, Repr

/-- What the rest of the gateway writes and a completion reads: `attempts` has
the request of every attempt, and `secretMatches` is what the scan of all
tables for raw credentials counts. -/
structure Traffic where
  clients : List DownstreamClient
  requests : List ProxyRequest
  attempts : List Uuid
  secretMatches : Nat
  deriving DecidableEq, Repr

structure QaDatabase where
  runs : Table QaRun.id
  cases : Table QaCase.id
  audits : List AuditEvent
  traffic : Traffic

def QaDatabase.migrated (traffic : Traffic) : QaDatabase where
  runs := .empty
  cases := .empty
  audits := []
  traffic

structure RunEdit where
  apply : QaRun → QaRun
  id : ∀ run, (apply run).id = run.id
  suite : ∀ run, (apply run).suite = run.suite

structure CaseEdit where
  apply : QaCase → QaCase
  id : ∀ row, (apply row).id = row.id
  runId : ∀ row, (apply row).runId = row.runId
  name : ∀ row, (apply row).name = row.name

namespace QaRun

/-- `SET status='running',started_at=now()`, which the terminal contract
refuses on a finished run. -/
def start (now : Micros) (run : QaRun) : QaRun :=
  if unfinished : run.finishedAt = none then
    { run with
      status := .running
      startedAt := some now
      contract := by simp [RunStatus.active, unfinished] }
  else
    run

def finish (passed : Bool) (now : Micros) (run : QaRun) : QaRun :=
  { run with
    status := if passed then .passed else .failed
    finishedAt := some now
    contract := by cases passed <;> simp [RunStatus.active] }

/-- `SET status='failed',started_at=COALESCE(started_at,now())`. -/
def close (now : Micros) (run : QaRun) : QaRun :=
  { run.finish false now with startedAt := some (run.startedAt.getD now) }

end QaRun

def RunEdit.start (now : Micros) : RunEdit where
  apply := QaRun.start now
  id := fun run => by unfold QaRun.start; split <;> rfl
  suite := fun run => by unfold QaRun.start; split <;> rfl

def RunEdit.finish (passed : Bool) (now : Micros) : RunEdit where
  apply := QaRun.finish passed now
  id := fun _ => rfl
  suite := fun _ => rfl

def RunEdit.close (now : Micros) : RunEdit where
  apply := QaRun.close now
  id := fun _ => rfl
  suite := fun _ => rfl

namespace QaCase

/-- `SET status='running',started_at=now()`, which the terminal contract
refuses on a finished case. -/
def start (now : Micros) (row : QaCase) : QaCase :=
  if unfinished : row.finishedAt = none then
    { row with
      status := .running
      startedAt := some now
      contract := by simp [CaseStatus.open, unfinished] }
  else
    row

def finish (passed : Bool) (evidence : Evidence) (now : Micros)
    (row : QaCase) : QaCase :=
  { row with
    status := if passed then .passed else .failed
    evidence
    finishedAt := some now
    contract := by cases passed <;> simp [CaseStatus.open] }

/-- `SET status='failed',started_at=COALESCE(started_at,now())`. -/
def close (errorCode : String) (now : Micros) (row : QaCase) : QaCase :=
  { row.finish false (.errorCode errorCode) now with
    startedAt := some (row.startedAt.getD now) }

end QaCase

namespace CaseEdit

def start (now : Micros) : CaseEdit where
  apply := QaCase.start now
  id := fun row => by unfold QaCase.start; split <;> rfl
  runId := fun row => by unfold QaCase.start; split <;> rfl
  name := fun row => by unfold QaCase.start; split <;> rfl

def arm (evidence : Evidence) (now : Micros) : CaseEdit where
  apply := fun row => { row.start now with evidence }
  id := (start now).id
  runId := (start now).runId
  name := (start now).name

def finish (passed : Bool) (evidence : Evidence) (now : Micros) : CaseEdit where
  apply := QaCase.finish passed evidence now
  id := fun _ => rfl
  runId := fun _ => rfl
  name := fun _ => rfl

def close (errorCode : String) (now : Micros) : CaseEdit where
  apply := QaCase.close errorCode now
  id := fun _ => rfl
  runId := fun _ => rfl
  name := fun _ => rfl

/-- `SET status=..,started_at=now(),finished_at=now()`. -/
def settle (passed : Bool) (evidence : Evidence) (now : Micros) : CaseEdit where
  apply := fun row =>
    { row.finish passed evidence now with startedAt := some now }
  id := fun _ => rfl
  runId := fun _ => rfl
  name := fun _ => rfl

end CaseEdit

end NvidiaBuildLb.Qa
