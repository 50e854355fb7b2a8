import NvidiaBuildLb.Qa.Completion
import NvidiaBuildLb.Foundation.Tasks

namespace NvidiaBuildLb.Qa

open Foundation NvidiaBuildLb.Core Gateway Transaction

/-! The tasks of a gateway process that move QA runs: the handlers of the two
requests, the runner that a creation spawns with its timer, and the recovery
that comes before the process listens. -/

/-- `live_qa_provider_is_canonical`, `BUILD_COMMIT` and the other constants of
one process. -/
structure Settings where
  buildCommit : String
  canonicalProvider : Bool
  mockProvider : Bool
  ownerId : Uuid
  deriving DecidableEq, Repr

/-- The owner lock of the vault admits one process at a time. -/
structure Process where
  epoch : Nat
  settings : Settings
  listening : Bool
  deriving DecidableEq, Repr

/-- `halfClosed` records the past: the runs that the error path of `spawn`
closed while a case was still open. -/
structure QaWorld where
  database : QaDatabase
  process : Process
  halfClosed : List Uuid

inductive QaOp where
  | createQaRun (runId : Uuid) (suite : Suite) (live : Bool)
      (providerIdentity : ProviderIdentity) (requestId : Uuid)
  | qaRun (runId : Uuid)
  | loadRunMode (runId : Uuid)
  | settings
  | preparePersistence (runId : Uuid)
  | armHermes (runId : Uuid)
  | startQueuedRun (runId : Uuid)
  | exerciseTraffic (runId : Uuid) (suite : Suite) (live : Bool)
  | loadCases (runId : Uuid)
  | startCase (runId caseId : Uuid)
  | evaluateCase (runId : Uuid) (name : String)
  | finishCase (runId caseId : Uuid) (passed : Bool) (evidence : Evidence)
  | finishRun (runId : Uuid) (passed : Bool)
  | closeCases (runId : Uuid)
  | closeRun (runId : Uuid)
  | sleep (seconds : Nat)
  | failRunningRun (runId : Uuid) (errorCode : String)
  | completeHermes (runId : Uuid) (input : HermesCompletion) (requestId : Uuid)
  | closeInterruptedRuns
  | interruptedPersistenceRuns
  | resumePersistence (runId : Uuid)
  | listen
  deriving DecidableEq, Repr

abbrev QaOp.Value : QaOp → Type
  | .createQaRun .. | .completeHermes .. => Uuid
  | .qaRun _ => Option QaRun
  | .loadRunMode _ => Suite × Bool × ProviderIdentity
  | .settings => Settings
  | .loadCases _ => List (Uuid × String)
  | .evaluateCase .. => Bool × String
  | .interruptedPersistenceRuns => List Uuid
  | _ => PUnit

abbrev QaOp.Answer (op : QaOp) : Type :=
  Except String op.Value

/-- What one answer depends on besides the world: the clock, the identifiers
the database draws, what the server refuses, whether the answer to a commit is
lost, and what the parts of the gateway find that are not modelled here. -/
structure Luck where
  now : Micros
  caseIds : Nat → Uuid
  auditId : Uuid
  refuses : Nat → Bool
  lost : Bool
  snapshot : PersistenceSnapshot
  traffic : Except String PUnit
  verdict : Except String (Bool × String)

/-- A transaction whose answer may be lost after it took effect. -/
def commit (luck : Luck) (body : QaTransaction α) (world : QaWorld) :
    Except String α × QaWorld :=
  let ended := body.transact luck.refuses world.database
  (if luck.lost then ended.1.bind fun _ => .error "lost" else ended.1,
    { world with database := ended.2 })

def QaDatabase.hasOpenCase (database : QaDatabase) (runId : Uuid) : Bool :=
  (database.casesOf runId).any fun row => row.status.open

def QaDatabase.isActive (database : QaDatabase) (runId : Uuid) : Bool :=
  ((database.runs.find? runId).map fun run => run.status.active).getD false

/-- `closeRun`, and the record of it where it leaves a case open. -/
def serveCloseRun (runId : Uuid) (luck : Luck) (world : QaWorld) :
    Except String PUnit × QaWorld :=
  let ended := commit luck (closeRun runId luck.now) world
  if world.database.isActive runId && !ended.2.database.isActive runId &&
      world.database.hasOpenCase runId then
    (ended.1, { ended.2 with halfClosed := runId :: world.halfClosed })
  else
    ended

def serve : (op : QaOp) → Luck → QaWorld → op.Answer × QaWorld
  | .createQaRun runId suite live providerIdentity requestId, luck, world =>
      commit luck (createQaRun world.process.settings.buildCommit runId suite
        live providerIdentity requestId luck.caseIds luck.auditId luck.now) world
  | .qaRun runId, luck, world =>
      commit luck (select "load QA run" fun database =>
        database.runs.find? runId) world
  | .loadRunMode runId, luck, world => commit luck (loadRunMode runId) world
  | .settings, _, world => (.ok world.process.settings, world)
  | .preparePersistence runId, luck, world =>
      commit luck (preparePersistence runId
        { luck.snapshot with ownerId := world.process.settings.ownerId }
        luck.now) world
  | .armHermes runId, luck, world => commit luck (armHermes runId luck.now) world
  | .startQueuedRun runId, luck, world =>
      commit luck (startQueuedRun runId luck.now) world
  | .exerciseTraffic .., luck, world => (luck.traffic, world)
  | .loadCases runId, luck, world => commit luck (loadCases runId) world
  | .startCase _ caseId, luck, world =>
      commit luck (startCase caseId luck.now) world
  | .evaluateCase .., luck, world => (luck.verdict, world)
  | .finishCase _ caseId passed evidence, luck, world =>
      commit luck (finishCase caseId passed evidence luck.now) world
  | .finishRun runId passed, luck, world =>
      commit luck (finishRun runId passed luck.now) world
  | .closeCases runId, luck, world =>
      commit luck (closeCases runId luck.now) world
  | .closeRun runId, luck, world => serveCloseRun runId luck world
  | .sleep _, _, world => (.ok ⟨⟩, world)
  | .failRunningRun runId errorCode, luck, world =>
      commit luck (failRunningRun runId errorCode luck.now) world
  | .completeHermes runId input requestId, luck, world =>
      commit luck (completeHermes {
        buildCommit := world.process.settings.buildCommit
        runId
        requestId
        auditId := luck.auditId
        now := luck.now } input) world
  | .closeInterruptedRuns, luck, world =>
      commit luck (closeInterruptedRuns luck.now) world
  | .interruptedPersistenceRuns, luck, world =>
      commit luck interruptedPersistenceRuns world
  | .resumePersistence runId, luck, world =>
      commit luck (resumePersistence runId
        { luck.snapshot with ownerId := world.process.settings.ownerId }
        luck.now) world
  | .listen, _, world =>
      (.ok ⟨⟩, { world with process := { world.process with listening := true } })

abbrev QaRoutine (α : Type) : Type :=
  Routine Unit String QaOp QaOp.Answer α

/-- A request whose failure is looked at. -/
def response (op : QaOp) : QaRoutine op.Answer :=
  Routine.ask op

def call (op : QaOp) : QaRoutine op.Value := do
  match ← response op with
  | .ok value => pure value
  | .error error => Routine.leave error

def bail (error : String) : QaRoutine α :=
  Routine.leave error

/-- `let _ =` on a result. -/
def ignore (op : QaOp) : QaRoutine PUnit := do
  let _ ← response op

/-- A spawned task that fails the run unless it is over by then. -/
structure Timer where
  seconds : Nat
  errorCode : String

def trafficSuite : Suite → Bool
  | .smoke | .distribution | .failover | .multimodal => true
  | _ => false

def trafficError (runId : Uuid) (suite : Suite) (live mockProvider : Bool) :
    QaRoutine (Option String) :=
  if trafficSuite suite && (live || mockProvider) then do
    match ← response (.exerciseTraffic runId suite live) with
    | .ok _ => pure none
    | .error error => pure (some error)
  else if trafficSuite suite then
    pure (some "non_live_traffic_requires_mock_provider")
  else
    pure none

/-- One turn of the loop over the cases; it answers `failed`. -/
def executeCase (runId : Uuid) (trafficError : Option String) (caseId : Uuid)
    (name : String) (failed : Bool) : QaRoutine Bool := do
  call (.startCase runId caseId)
  let result ← response (.evaluateCase runId name)
  let (passed, evidence) : Bool × Evidence :=
    match result with
    | .ok (passed, document) => (passed, .evaluated document trafficError)
    | .error reason => (false, .queryFailed reason trafficError)
  call (.finishCase runId caseId passed evidence)
  return failed || !passed

def executeCases (runId : Uuid) (trafficError : Option String) :
    List (Uuid × String) → Bool → QaRoutine Bool
  | [], failed => pure failed
  | (caseId, name) :: rest, failed => do
      let failed ← executeCase runId trafficError caseId name failed
      executeCases runId trafficError rest failed

def executeTraffic (runId : Uuid) (suite : Suite) (live mockProvider : Bool) :
    QaRoutine PUnit := do
  call (.startQueuedRun runId)
  let error ← trafficError runId suite live mockProvider
  let cases ← call (.loadCases runId)
  let failed ← executeCases runId error cases error.isSome
  call (.finishRun runId (!failed))

/-- The timer that `execute` schedules, if it does. -/
def execute (runId : Uuid) : QaRoutine (Option Timer) := do
  let (suite, live, providerIdentity) ← call (.loadRunMode runId)
  let settings ← call .settings
  if live && (providerIdentity ≠ .nvidiaHosted || !settings.canonicalProvider)
  then
    bail "live QA requires canonical NVIDIA hosted provider identity"
  else if !live && providerIdentity ≠ .fake then
    bail "fake QA requires fake provider identity"
  else if suite = .persistence then do
    call (.preparePersistence runId)
    return some {
      seconds := persistenceQaTimeoutSeconds
      errorCode := "persistence_restart_timeout" }
  else if suite = .hermesE2e then
    if !live || providerIdentity ≠ .nvidiaHosted ||
        !settings.canonicalProvider then
      bail "Hermes E2E QA requires canonical NVIDIA hosted live mode"
    else do
      call (.armHermes runId)
      return some {
        seconds := hermesQaTimeoutSeconds
        errorCode := "hermes_helper_timeout" }
  else do
    executeTraffic runId suite live settings.mockProvider
    return none

def spawn (runId : Uuid) : QaRoutine PUnit := do
  match ← (Routine.attempt (execute runId) :
      QaRoutine (Except String (Option Timer))) with
  | .ok none => pure ⟨⟩
  | .ok (some timer) =>
      call (.sleep timer.seconds)
      ignore (.failRunningRun runId timer.errorCode)
  | .error _ =>
      ignore (.closeCases runId)
      ignore (.closeRun runId)

/-- The handler of a creation, and the runner it spawns. -/
def createQaRunRequest (runId : Uuid) (input : QaRunInput) (requestId : Uuid) :
    QaRoutine PUnit := do
  let settings ← call .settings
  if input.live && !settings.canonicalProvider then
    bail "live_nvidia_provider_required"
  else if input.live && input.suite = "multimodal" && !input.confirmBillable then
    bail "billable_confirmation_required"
  else if !input.live && input.suite = "hermes-e2e" then
    bail "hermes_live_required"
  else
    match Suite.ofText input.suite with
    | none => bail "invalid_qa_suite"
    | some suite =>
        let providerIdentity : ProviderIdentity :=
          if input.live then .nvidiaHosted else .fake
        let _ ← call (.createQaRun runId suite input.live providerIdentity
          requestId)
        match ← call (.qaRun runId) with
        | none => bail "created QA run missing"
        | some _ => spawn runId

def completeHermesQaRun (runId : Uuid) (input : HermesCompletion)
    (requestId : Uuid) : QaRoutine PUnit := do
  let _ ← call (.completeHermes runId input requestId)
  match ← call (.qaRun runId) with
  | none => bail "completed Hermes QA run missing"
  | some _ => pure ⟨⟩

def recoverInterruptedRuns : QaRoutine PUnit := do
  call .closeInterruptedRuns
  let runs ← call .interruptedPersistenceRuns
  Routine.each runs fun runId => do
    match ← response (.resumePersistence runId) with
    | .ok _ => pure ()
    | .error _ => call (.failRunningRun runId "persistence_resume_failed")

/-- The part of `main` up to the listener. -/
def start : QaRoutine PUnit := do
  recoverInterruptedRuns
  call .listen

inductive Duty where
  | recovery
  | creation (runId : Uuid)
  | completion (serial : Nat)
  deriving DecidableEq, Repr

structure Tag where
  epoch : Nat
  duty : Duty
  deriving DecidableEq, Repr

abbrev QaProgram : Type :=
  Program (Unit × QaOp) (fun request => request.2.Answer)
    (Except String PUnit × Unit)

/-- What may start: requests once the process listens, its recovery before. -/
inductive Starts : Tag → QaWorld → QaProgram → Prop where
  | recovery {world : QaWorld} (quiet : world.process.listening = false) :
      Starts ⟨world.process.epoch, .recovery⟩ world (start ())
  | creation {world : QaWorld} (listening : world.process.listening = true)
      (runId : Uuid) (input : QaRunInput) (requestId : Uuid) :
      Starts ⟨world.process.epoch, .creation runId⟩ world
        (createQaRunRequest runId input requestId ())
  | completion {world : QaWorld} (listening : world.process.listening = true)
      (serial : Nat) (runId : Uuid) (input : HermesCompletion)
      (requestId : Uuid) :
      Starts ⟨world.process.epoch, .completion serial⟩ world
        (completeHermesQaRun runId input requestId ())

/-- What else happens: the process is replaced by the next one, the gateway
serves its clients, and other actions are audited. -/
inductive Surrounds : QaWorld → QaWorld → Prop where
  | restarted (world : QaWorld) (settings : Settings) :
      Surrounds world { world with
        process := {
          epoch := world.process.epoch + 1
          settings
          listening := false } }
  | served (world : QaWorld) (traffic : Traffic) :
      Surrounds world { world with
        database := { world.database with traffic } }
  | audited (world : QaWorld) (event : AuditEvent)
      (foreign : event.action ≠ "qa.hermes.complete" ∨
        event.outcome ≠ "succeeded") :
      Surrounds world { world with
        database := { world.database with
          audits := world.database.audits ++ [event] } }

def qaEnvironment :
    Environment (Unit × QaOp) (fun request => request.2.Answer) QaWorld where
  answers := fun request world answer after =>
    ∃ luck, serve request.2 luck world = (answer, after)
  drops := fun request world after =>
    after = world ∨ ∃ luck, after = (serve request.2 luck world).2

def gateway : TaskSystem Tag (Unit × QaOp) (fun request => request.2.Answer)
    QaWorld (Except String PUnit × Unit) where
  environment := qaEnvironment
  alive := fun tag world => tag.epoch = world.process.epoch
  starts := Starts
  surrounds := Surrounds

abbrev QaTasks : Type :=
  Tasks Tag (Unit × QaOp) (fun request => request.2.Answer) QaWorld
    (Except String PUnit × Unit)

/-- A new database, before the first process. -/
def QaWorld.fresh (traffic : Traffic) (settings : Settings) : QaWorld where
  database := .migrated traffic
  process := { epoch := 0, settings, listening := false }
  halfClosed := []

end NvidiaBuildLb.Qa
