import NvidiaBuildLb.Hermes.Configuration
import NvidiaBuildLb.Hermes.World

namespace NvidiaBuildLb.Hermes

open Foundation NvidiaBuildLb.Core

/-! The helper itself.  Every run of it works under an exclusive lock, from the
point where the lock is acquired. -/

abbrev Helper (α : Type) : Type :=
  Routine Memory Failure Op Answer α

namespace Helper

def call (op : Op) : Helper (Value op) := do
  let answer : Except Failure (Value op) ← Routine.ask op
  Routine.lift answer

def bail (message : String) : Helper α :=
  Routine.leave (.bail message)

def ignore (routine : Helper α) : Helper Unit := do
  let _ : Except Failure α ← Routine.attempt routine
  pure ()

/-- `Path::exists`, which takes an error for an absence. -/
def pathExists (place : Place) : Helper Bool := do
  match ← Routine.ask (.pathExists place) with
  | .ok found => pure found
  | .error _ => pure false

def temporaryExists (target : Path) (nonce : Uuid) : Helper Bool := do
  match ← Routine.ask (.temporaryExists target nonce) with
  | .ok found => pure found
  | .error _ => pure false

def ensureRootDirectory (place : Place) : Helper Unit := do
  if !(← pathExists place) then
    call (.inspect "create mode-0700 directory")
  call (.validate place)

/-- The error of a sync that comes after the rename is the write's error. -/
def atomicWrite (target : Path) (content : Content) : Helper Unit := do
  let nonce ← call .newUuid
  let result : Except Failure Unit ← Routine.attempt do
    call (.createTemporary target nonce)
    call (.writeTemporary target nonce content)
    call (.syncTemporary target nonce)
    call (.protectTemporary target nonce)
    call (.replace target nonce)
    call (.syncDirectory (.replaced target))
  match result with
  | .ok () => pure ()
  | .error failure =>
      if ← temporaryExists target nonce then
        ignore (call (.removeTemporary target nonce))
        ignore (call (.syncDirectory (.removedTemporary target)))
      Routine.leave failure

def readBytes (path : Path) : Helper (List UInt8) := do
  match ← call (.read path) with
  | .bytes value => pure value
  | _ => bail "unexpected document"

def readToString (path : Path) : Helper String := do
  match String.fromUTF8? (ByteArray.mk (← readBytes path).toArray) with
  | some text => pure text
  | none => bail "stream did not contain valid UTF-8"

def readJournal (path : Path) : Helper RecoveryJournal := do
  match ← call (.read path) with
  | .journal journal => pure journal
  | _ => bail "decode Hermes recovery journal"

def readManifest (path : Path) : Helper SnapshotManifest := do
  match ← call (.read path) with
  | .manifest manifest => pure manifest
  | _ => bail "decode Hermes snapshot manifest"

def readReceipt (path : Path) : Helper SafeReceipt := do
  match ← call (.read path) with
  | .receipt receipt => pure receipt
  | _ => bail "decode Hermes cutover receipt"

def copySecure (source destination : Path) : Helper Unit := do
  let bytes ← readBytes source
  atomicWrite destination (.bytes bytes)

def writeJournal (path : Path) (state : JournalState)
    (operationLabel : Option String) (clientId : Option Uuid) :
    Helper Unit :=
  atomicWrite path (.journal {
    schemaVersion := journalSchema
    state
    operationLabel
    clientId })

def writeReceipt (receipt : SafeReceipt) : Helper Unit := do
  ensureRootDirectory .receiptRoot
  atomicWrite (.receipt receipt.generation) (.receipt receipt)

/-- Removes the temporaries that an interrupted write left behind. -/
def cleanupAtomicTemps (directory : Place) (targets : List Path) :
    Helper Unit := do
  if ← pathExists directory then
    call (.validate directory)
    let found ← call (.listTemporaries targets)
    Routine.each found fun temporary => do
      call (.validate (.temporary temporary.1 temporary.2))
      call (.removeTemporary temporary.1 temporary.2)
    if !found.isEmpty then
      call (.syncDirectory (.directory directory))

def snapshotPaths (generation : Uuid) : List Path := [
  .snapshot generation .env, .snapshot generation .config,
  .snapshot generation .manifest, .snapshot generation .journal]

def cleanupSnapshotStage (generation : Uuid) : Helper Unit := do
  call (.validate (.stage generation))
  let entries ← call (.listDirectory (.stage generation))
  Routine.each entries fun
    | .file file => do
        call (.validate (.file (.staged generation file)))
        call (.removeFile (.staged generation file))
    | .temporary file nonce => do
        call (.validate (.temporary (.staged generation file) nonce))
        call (.removeTemporary (.staged generation file) nonce)
    | .other _ =>
        bail "staged Hermes snapshot contains an unexpected entry"
  call (.removeStage generation)
  call (.syncDirectory (.directory .backupRoot))

def snapshot (generation : Uuid) (operationLabel : String) : Helper Unit := do
  ensureRootDirectory .backupRoot
  let staged ← pathExists (.stage generation)
  let published ← pathExists (.generation generation)
  if staged || published then
    bail "Hermes snapshot generation already exists"
  call (.createStage generation)
  let result : Except Failure Unit ← Routine.attempt do
    copySecure .env (.staged generation .env)
    copySecure .config (.staged generation .config)
    let envSha256 ← call (.sha256File (.staged generation .env))
    let configSha256 ← call (.sha256File (.staged generation .config))
    atomicWrite (.staged generation .manifest) (.manifest {
      schemaVersion := snapshotSchema
      generation
      envSha256
      configSha256 })
    writeJournal (.staged generation .journal) .clientOperationPrepared
      (some operationLabel) none
    call (.syncDirectory (.directory (.stage generation)))
    call (.publishStage generation)
    call (.syncDirectory (.directory .backupRoot))
  match result with
  | .ok () => pure ()
  | .error failure =>
      ignore (cleanupSnapshotStage generation)
      Routine.leave failure

def snapshotManifestMatches (generation : Uuid) (manifest : SnapshotManifest) :
    Helper Bool := do
  if manifest.schemaVersion = snapshotSchema ∧
      manifest.generation = generation then
    let envSha256 ← call (.sha256File (.snapshot generation .env))
    if manifest.envSha256 = envSha256 then
      let configSha256 ← call (.sha256File (.snapshot generation .config))
      pure (manifest.configSha256 = configSha256)
    else
      pure false
  else
    pure false

def verifySnapshot (generation : Uuid) : Helper Unit := do
  call (.validate (.file (.snapshot generation .manifest)))
  call (.validate (.file (.snapshot generation .env)))
  call (.validate (.file (.snapshot generation .config)))
  let manifest ← readManifest (.snapshot generation .manifest)
  if !(← snapshotManifestMatches generation manifest) then
    bail "Hermes snapshot manifest verification failed"

def restoreSnapshot (generation : Uuid) : Helper Unit := do
  verifySnapshot generation
  Routine.update fun memory => { memory with restoring := some generation }
  atomicWrite .env (.bytes (← readBytes (.snapshot generation .env)))
  atomicWrite .config (.bytes (← readBytes (.snapshot generation .config)))
  Routine.update fun memory => { memory with restoring := none }

def docker (command : DockerCommand) : Helper Unit := do
  let _ ← call (.docker command)
  pure ()

def waitForContainerHealth : Helper Unit := do
  let healthy ← Routine.loop (fun _ => do
    let status ← call (.docker .inspectHealth)
    if status = "healthy" then
      pure (.stop true)
    else
      pure (.again false)) 30 false
  if !healthy then
    ignore (docker .logs)
    bail "agent-hermes did not become healthy"

def rollbackAfterFailure (generation : Uuid) : Helper Unit := do
  ignore (docker .stop)
  restoreSnapshot generation
  docker .start
  match (← Routine.attempt waitForContainerHealth : Except Failure Unit) with
  | .ok () => pure ()
  | .error failure =>
      ignore (docker .stop)
      Routine.leave failure
  Routine.update fun memory =>
    { memory with rolledBack := generation :: memory.rolledBack }

def findActive (label : String) (clients : List ClientItem) :
    Option ClientItem :=
  clients.find? fun item => item.active && item.label == label

def issueOrRotateClient (label : String) : Helper MutationResponse := do
  match ← call (.createClient label) with
  | .created response => pure response
  | .rejected status =>
      bail ("Hermes client creation failed with status " ++ toString status)
  | .conflict =>
      match findActive label (← call .listClients) with
      | none => bail "conflicting Hermes client was not found"
      | some existing => call (.rotateClient existing.id)

def findActiveClientByLabel (label : String) : Helper (Option Uuid) := do
  return (findActive label (← call .listClients)).map ClientItem.id

def revokePreviousClients (keep : Uuid) : Helper Unit := do
  let clients ← call .listClients
  Routine.each clients fun item => do
    if item.id ≠ keep ∧ item.active = true ∧
        startsWith item.label clientLabelPrefix = true then
      call (.revokeClient item.id)

def reportFailedHermesRun (runId : Uuid) : Helper Unit :=
  call (.completeRun runId .failed)

def reconcileRemoteState (receipt : SafeReceipt) : Helper Unit := do
  Routine.update fun memory =>
    { memory with reconciling := some receipt.generation }
  revokePreviousClients receipt.clientId
  Routine.update fun memory => { memory with reconciling := none }
  match receipt.qaRunId with
  | none => pure ()
  | some runId => call (.completeRun runId (.passed receipt))

variable (embeddedCommit : String)

def candidateApplication (generation : Uuid) (label : String)
    (issued : MutationResponse) (qaRunId : Uuid) : Helper SafeReceipt := do
  Routine.update fun memory => { memory with restoring := none }
  let candidateEnv := updateDotenv (← readToString .env) "NVIDIA_API_KEY"
    issued.token
  let candidateConfig ← Routine.lift (updateYaml (← readToString .config))
  let journal := Path.snapshot generation .journal
  writeJournal journal .candidateReady (some label) (some issued.item.id)
  docker .stop
  atomicWrite .env (.bytes (utf8 candidateEnv))
  atomicWrite .config (.bytes (utf8 candidateConfig))
  call (.inspect "scan the Hermes data tree for a direct NVIDIA credential")
  writeJournal journal .candidateApplied (some label) (some issued.item.id)
  docker .start
  waitForContainerHealth
  let first ← call (.verifyHermes (some issued.item.id))
  docker .stop
  restoreSnapshot generation
  docker .start
  waitForContainerHealth
  docker .stop
  atomicWrite .env (.bytes (utf8 candidateEnv))
  atomicWrite .config (.bytes (utf8 candidateConfig))
  docker .start
  waitForContainerHealth
  let second ← call (.verifyHermes (some issued.item.id))
  let secretScan ← call (.collectSecretScan issued.token)
  let receipt : SafeReceipt := {
    schemaVersion := receiptSchema
    generation
    embeddedCommit
    clientId := issued.item.id
    qaRunId := some qaRunId
    doctor := first.doctor && second.doctor
    marker := first.marker && second.marker
    tool := first.tool && second.tool
    rollbackRehearsal := true
    toolOutputSha256 := second.toolOutputSha256
    secretScan
    lbRequests := second.lbRequests }
  writeReceipt receipt
  writeJournal journal .committed (some label) (some issued.item.id)
  return receipt

/-- What `apply` does once its precommit steps failed. -/
def abandonCandidate (generation : Uuid) (label : String) (clientId : Uuid)
    (qaRunId : Uuid) : Helper Unit := do
  let journal := Path.snapshot generation .journal
  match (← Routine.attempt (rollbackAfterFailure generation) :
      Except Failure Unit) with
  | .error _ => pure ()
  | .ok () =>
      ignore (writeJournal journal .rollbackCleanupPending (some label)
        (some clientId))
      match (← Routine.attempt (call (.revokeClient clientId)) :
          Except Failure Unit) with
      | .error _ => pure ()
      | .ok () =>
          ignore (writeJournal journal .rolledBack (some label)
            (some clientId))
  ignore (reportFailedHermesRun qaRunId)

def apply (qaRunId : Uuid) : Helper Unit := do
  let generation ← call .newUuid
  let label := operationLabelOf generation
  match (← Routine.attempt (snapshot generation label) :
      Except Failure Unit) with
  | .error _ =>
      ignore (reportFailedHermesRun qaRunId)
      Routine.leave .precommit
  | .ok () => pure ()
  match (← Routine.attempt (issueOrRotateClient label) :
      Except Failure MutationResponse) with
  | .error _ =>
      ignore (rollbackAfterFailure generation)
      ignore (reportFailedHermesRun qaRunId)
      Routine.leave .precommit
  | .ok issued =>
      match (← Routine.attempt
          (candidateApplication embeddedCommit generation label issued qaRunId) :
          Except Failure SafeReceipt) with
      | .error _ =>
          abandonCandidate generation label issued.item.id qaRunId
          Routine.leave .precommit
      | .ok receipt =>
          match (← Routine.attempt (do
              reconcileRemoteState receipt
              writeJournal (.snapshot generation .journal) .reconciled
                (some label) (some issued.item.id)) :
              Except Failure Unit) with
          | .ok () => pure ()
          | .error _ =>
              ignore (writeJournal (.snapshot generation .journal)
                .reconcilePending (some label) (some issued.item.id))
              Routine.leave .committedReconcilePending

def loadCommittedReceipt (generation : Uuid) (journal : RecoveryJournal) :
    Helper SafeReceipt := do
  call (.validate (.file (.receipt generation)))
  let receipt ← readReceipt (.receipt generation)
  if receipt.schemaVersion ≠ receiptSchema ∨
      receipt.generation ≠ generation ∨
      receipt.embeddedCommit ≠ embeddedCommit ∨
      some receipt.clientId ≠ journal.clientId then
    bail "committed Hermes receipt does not match its journal"
  return receipt

def reconcileCommittedCutover (generation : Uuid)
    (journal : RecoveryJournal) : Helper (Option Uuid) := do
  let receipt ← loadCommittedReceipt embeddedCommit generation journal
  reconcileRemoteState receipt
  writeJournal (.snapshot generation .journal) .reconciled
    journal.operationLabel (some receipt.clientId)
  return receipt.qaRunId

def readRecoveryJournal (generation : Uuid) : Helper RecoveryJournal := do
  let path := Path.snapshot generation .journal
  if !(← pathExists (.file path)) then
    bail "Hermes backup generation has no recovery journal"
  call (.validate (.file path))
  readJournal path

def interruptedClient (journal : RecoveryJournal) : Helper (Option Uuid) :=
  match journal.clientId, journal.operationLabel with
  | some id, _ => pure (some id)
  | none, some label => findActiveClientByLabel label
  | none, none => pure none

def recoverRolledBack (generation : Uuid) (journal : RecoveryJournal)
    (settled : JournalState) : Helper Unit := do
  let clientId ← interruptedClient journal
  match clientId with
  | some id => call (.revokeClient id)
  | none => pure ()
  writeJournal (.snapshot generation .journal) settled journal.operationLabel
    clientId

/-- The QA run a reconciled generation belongs to. -/
def recoverGeneration (generation : Uuid) : Helper (Option Uuid) := do
  let journal ← readRecoveryJournal generation
  match ← Routine.lift (recoveryAction journal) with
  | .none => pure none
  | .reconcileCommitted =>
      reconcileCommittedCutover embeddedCommit generation journal
  | .rollbackAndRevoke =>
      rollbackAfterFailure generation
      recoverRolledBack generation journal .recovered
      pure none
  | .revokeAfterRollback =>
      recoverRolledBack generation journal .rolledBack
      pure none

/-- Cleans the stages and verifies the generations, which it returns. -/
def collectBackups : List BackupEntry → Helper (List Uuid)
  | [] => pure []
  | .other _ :: _ =>
      bail "Hermes backup root contains an unexpected non-directory entry"
  | .stage generation :: rest => do
      cleanupSnapshotStage generation
      collectBackups rest
  | .generation generation :: rest => do
      call (.validate (.generation generation))
      verifySnapshot generation
      let backups ← collectBackups rest
      return generation :: backups

def recoverGenerations : List Uuid → Helper (List Uuid)
  | [] => pure []
  | generation :: rest => do
      let reconciled ← recoverGeneration embeddedCommit generation
      let others ← recoverGenerations rest
      return reconciled.toList ++ others

def sortBackups (backups : List Uuid) : List Uuid :=
  backups.mergeSort fun left right => decide (uuidText left ≤ uuidText right)

def recoverIncompleteCutovers : Helper (List Uuid) := do
  if !(← pathExists .backupRoot) then
    return []
  ensureRootDirectory .backupRoot
  let backups ← collectBackups (← call .listBackupRoot)
  recoverGenerations embeddedCommit (sortBackups backups)

def finishRetiredBackupCleanup (generation : Uuid) : Helper Unit := do
  if !(← pathExists (.generation generation)) then
    call (.syncDirectory (.directory .backupRoot))
    return
  call (.validate (.generation generation))
  let entries ← call (.listDirectory (.generation generation))
  Routine.each entries fun
    | .file file => call (.validate (.file (.snapshot generation file)))
    | _ => bail "retired Hermes generation contains an unexpected entry"
  Routine.each (snapshotPaths generation) fun path => do
    if ← pathExists (.file path) then
      call (.validate (.file path))
      call (.removeFile path)
  call (.syncDirectory (.directory (.generation generation)))
  call (.removeGeneration generation)
  call (.syncDirectory (.directory .backupRoot))

def readRetirementReceipt (path : Path) : Helper RetirementReceipt := do
  call (.validate (.file path))
  match ← call (.read path) with
  | .retirement receipt =>
      if receipt.schemaVersion ≠ retirementSchema then
        bail "unsupported Hermes backup retirement receipt"
      return receipt
  | _ => bail "decode retirement receipt"

def retireBackup (generation : Uuid) (providerRevoked : Bool) :
    Helper Unit := do
  if !providerRevoked then
    bail "provider-side NVIDIA key revocation must be explicitly confirmed"
  ensureRootDirectory .backupRoot
  ensureRootDirectory .receiptRoot
  ensureRootDirectory .retirementRoot
  let retirementPath := Path.retirement generation
  if ← pathExists (.file retirementPath) then
    let receipt ← readRetirementReceipt retirementPath
    if receipt.generation ≠ generation ∨
        receipt.embeddedCommit ≠ embeddedCommit ∨
        receipt.providerRevocationConfirmed = false then
      bail <| "existing retirement receipt does not match this generation " ++
        "and helper"
    finishRetiredBackupCleanup generation
  else
    call (.validate (.generation generation))
    verifySnapshot generation
    let journalPath := Path.snapshot generation .journal
    call (.validate (.file journalPath))
    let journal ← readJournal journalPath
    if journal.schemaVersion ≠ journalSchema ∨
        journal.state ≠ .reconciled then
      bail "only a reconciled Hermes generation can be retired"
    match journal.clientId with
    | none => bail "reconciled Hermes journal is missing its client ID"
    | some clientId =>
        call (.validate (.file (.receipt generation)))
        let cutover ← readReceipt (.receipt generation)
        if cutover.schemaVersion ≠ receiptSchema ∨
            cutover.generation ≠ generation ∨
            cutover.embeddedCommit ≠ embeddedCommit ∨
            cutover.clientId ≠ clientId ∨ cutover.doctor = false ∨
            cutover.marker = false ∨ cutover.tool = false ∨
            cutover.rollbackRehearsal = false then
          bail <| "Hermes cutover receipt is not terminal or does not match " ++
            "the journal"
        let manifest ← readManifest (.snapshot generation .manifest)
        atomicWrite retirementPath (.retirement {
          schemaVersion := retirementSchema
          generation
          embeddedCommit
          cutoverClientId := clientId
          snapshotEnvSha256 := manifest.envSha256
          snapshotConfigSha256 := manifest.configSha256
          providerRevocationConfirmed := true })
        call (.syncDirectory (.directory .retirementRoot))
        finishRetiredBackupCleanup generation

def validateQaRunTarget (requestedId : Uuid) (expectedCommit : String) :
    Helper QaRunTarget := do
  let target ← call (.getRun requestedId)
  if target.id ≠ requestedId then
    bail "Hermes QA run preflight returned a different run"
  if target.suite ≠ "hermes-e2e" ∨ target.live = false ∨
      target.providerIdentity ≠ "nvidia_hosted" then
    bail "Hermes QA run must have NVIDIA hosted live provenance"
  if target.deploymentCommit ≠ embeddedCommit ∨
      target.deploymentCommit ≠ expectedCommit then
    bail "Hermes QA run deployment commit does not match the pinned helper"
  if target.status = .queued then
    bail "Hermes QA run must be running or an exact committed recovery target"
  return target

def hasMatchingGeneration (runId : Uuid) (acceptedStates : List JournalState) :
    List BackupEntry → Helper Bool
  | [] => pure false
  | .other _ :: _ =>
      bail "Hermes backup root contains an unexpected non-directory entry"
  | .stage _ :: rest => hasMatchingGeneration runId acceptedStates rest
  | .generation generation :: rest => do
      call (.validate (.generation generation))
      cleanupAtomicTemps (.generation generation) (snapshotPaths generation)
      verifySnapshot generation
      let journal ← readRecoveryJournal generation
      let _ ← Routine.lift (recoveryAction journal)
      if journal.state ∈ acceptedStates then
        let receipt ← loadCommittedReceipt embeddedCommit generation journal
        if receipt.qaRunId = some runId then
          pure true
        else
          hasMatchingGeneration runId acceptedStates rest
      else
        hasMatchingGeneration runId acceptedStates rest

def hasMatchingLocalGeneration (runId : Uuid)
    (acceptedStates : List JournalState) : Helper Bool := do
  if !(← pathExists .backupRoot) then
    return false
  call (.validate .backupRoot)
  hasMatchingGeneration embeddedCommit runId acceptedStates
    (← call .listBackupRoot)

def preflight : Helper Unit := do
  call (.validate (.file .env))
  call (.validate (.file .config))
  call (.validate .hermesDirectory)
  call (.inspect "load balancer readiness and two eligible upstreams")

inductive Action where
  | preflight
  | apply (qaRunId : Uuid)
  | verify
  | retireBackup (generation : Uuid) (providerRevoked : Bool)
  deriving DecidableEq, Repr

def Action.qaRunId : Action → Option Uuid
  | .apply qaRunId => some qaRunId
  | _ => none

/-- What `run` decides before it waits for the lock. -/
def qaIntent (expectedCommit : String) (qaRunId : Option Uuid) :
    Helper QaRunIntent := do
  match qaRunId with
  | none => return .start
  | some runId =>
      let target ← validateQaRunTarget embeddedCommit runId expectedCommit
      let hasMatching ← hasMatchingLocalGeneration embeddedCommit target.id
        [.committed, .reconcilePending, .reconciled]
      Routine.lift (qaRunIntent target.status hasMatching)

/-- Whether the QA run is already complete, looked at again under the lock. -/
def confirmsReconciled (expectedCommit : String) (runId : Uuid)
    (intent : QaRunIntent) (reconciledRuns : List Uuid) : Helper Bool := do
  let refreshed ← validateQaRunTarget embeddedCommit runId expectedCommit
  let localReconciled ←
    if runId ∈ reconciledRuns then
      pure true
    else
      hasMatchingLocalGeneration embeddedCommit runId [.reconciled]
  match ← Routine.lift (postLockQaDecision refreshed.status localReconciled) with
  | .complete => return true
  | .start =>
      if intent = .start then
        return false
      else
        bail "matching committed Hermes recovery was not reconciled"

/-- The last part of `run`, once recovery is over and the QA run is still to be
worked on. -/
def perform (action : Action) : Helper Unit := do
  match (← Routine.attempt preflight : Except Failure Unit) with
  | .ok () => pure ()
  | .error failure =>
      match action.qaRunId with
      | some runId => ignore (reportFailedHermesRun runId)
      | none => pure ()
      Routine.leave failure
  match action with
  | .apply qaRunId => apply embeddedCommit qaRunId
  | .verify =>
      let clients ← call .listClients
      match clients.filter fun item =>
          item.active && startsWith item.label clientLabelPrefix with
      | [item] =>
          let _ ← call (.verifyHermes (some item.id))
          pure ()
      | _ => bail "standalone verify requires one active Hermes cutover client"
  | _ => pure ()

def run (expectedCommit : String) (action : Action) : Helper Unit := do
  call (.inspect "process identity, pinned commit and admin token")
  match action with
  | .retireBackup generation providerRevoked =>
      call (.inspect "acquire the cutover lock")
      retireBackup embeddedCommit generation providerRevoked
  | _ =>
      let intent ← qaIntent embeddedCommit expectedCommit action.qaRunId
      call (.inspect "acquire the cutover lock")
      cleanupAtomicTemps .hermesDirectory [.env, .config]
      let reconciledRuns ← recoverIncompleteCutovers embeddedCommit
      match action.qaRunId with
      | none => perform embeddedCommit action
      | some runId =>
          if ← confirmsReconciled embeddedCommit expectedCommit runId intent
              reconciledRuns then
            pure ()
          else
            perform embeddedCommit action

end Helper

end NvidiaBuildLb.Hermes
