import NvidiaBuildLb.Qa.Reachable

namespace NvidiaBuildLb.Qa

open Foundation NvidiaBuildLb.Core Gateway

/-! Runs that can be computed: a schedule of what happens, in which order. -/

inductive Happening where
  | recovers
  | creates (runId : Uuid) (input : QaRunInput) (requestId : Uuid)
  | completes (serial : Nat) (runId : Uuid) (input : HermesCompletion)
      (requestId : Uuid)
  | answers (duty : Duty) (luck : Luck)
  | restarts (settings : Settings)

/-- A task of the current process starts. -/
def begin (duty : Duty) (program : QaProgram) (tasks : QaTasks) :
    Option QaTasks :=
  match tasks.standing ⟨tasks.world.process.epoch, duty⟩ with
  | .unborn => some {
      tasks with
      standing := Function.update tasks.standing
        ⟨tasks.world.process.epoch, duty⟩ (.running program) }
  | _ => none

def happen : Happening → QaTasks → Option QaTasks
  | .recovers, tasks =>
      if tasks.world.process.listening = false then
        begin .recovery (start ()) tasks
      else
        none
  | .creates runId input requestId, tasks =>
      if tasks.world.process.listening = true then
        begin (.creation runId) (createQaRunRequest runId input requestId ())
          tasks
      else
        none
  | .completes serial runId input requestId, tasks =>
      if tasks.world.process.listening = true then
        begin (.completion serial)
          (completeHermesQaRun runId input requestId ()) tasks
      else
        none
  | .answers duty luck, tasks =>
      match tasks.standing ⟨tasks.world.process.epoch, duty⟩ with
      | .running (.ask op next) =>
          let served := serve op.2 luck tasks.world
          some {
            world := served.2
            standing := Function.update tasks.standing
              ⟨tasks.world.process.epoch, duty⟩ (.running (next served.1)) }
      | _ => none
  | .restarts settings, tasks => some {
      tasks with
      world := { tasks.world with
        process := {
          epoch := tasks.world.process.epoch + 1
          settings
          listening := false } } }

def unfolds (schedule : List Happening) (tasks : QaTasks) : Option QaTasks :=
  schedule.foldlM (fun tasks happening => happen happening tasks) tasks

/-- What a task of the current process waits for. -/
def asks (duty : Duty) (tasks : QaTasks) : Option QaOp :=
  match tasks.standing ⟨tasks.world.process.epoch, duty⟩ with
  | .running (.ask op _) => some op.2
  | _ => none

section Soundness

variable {tasks after : QaTasks}

private theorem begin_step {duty : Duty} {program : QaProgram}
    (starts : Starts ⟨tasks.world.process.epoch, duty⟩ tasks.world program)
    (begun : begin duty program tasks = some after) :
    ∃ label, gateway.Step tasks label after := by
  unfold begin at begun
  split at begun
  · rename_i unborn
    cases begun
    exact ⟨_, .started unborn starts⟩
  · cases begun

theorem happen_step {happening : Happening}
    (happened : happen happening tasks = some after) :
    ∃ label, gateway.Step tasks label after := by
  cases happening with
  | recovers =>
      simp only [happen] at happened
      split at happened
      · rename_i quiet
        exact begin_step (.recovery quiet) happened
      · cases happened
  | creates runId input requestId =>
      simp only [happen] at happened
      split at happened
      · rename_i listening
        exact begin_step (.creation listening runId input requestId) happened
      · cases happened
  | completes serial runId input requestId =>
      simp only [happen] at happened
      split at happened
      · rename_i listening
        exact begin_step (.completion listening serial runId input requestId)
          happened
      · cases happened
  | answers duty luck =>
      simp only [happen] at happened
      split at happened
      · rename_i op next waiting
        cases happened
        exact ⟨_, .answered waiting rfl ⟨luck, rfl⟩⟩
      · cases happened
  | restarts settings =>
      cases happened
      exact ⟨_, .surrounded (.restarted tasks.world settings)⟩

theorem unfolds_run {schedule : List Happening}
    (unfolded : unfolds schedule tasks = some after) :
    ∃ labels, Run gateway.Step tasks labels after := by
  induction schedule generalizing tasks with
  | nil =>
      cases unfolded
      exact ⟨[], .nil _⟩
  | cons happening rest induction =>
      obtain ⟨between, happened, later⟩ :=
        @Option.bind_eq_some_iff _ _ _ (happen happening tasks)
          (unfolds rest) |>.mp unfolded
      obtain ⟨label, step⟩ := happen_step happened
      obtain ⟨labels, run⟩ := induction later
      exact ⟨label :: labels, .cons step run⟩

theorem reached_of_unfolds {traffic : Traffic} {settings : Settings}
    {schedule : List Happening} {shows_ : QaTasks → Bool}
    (shown : (unfolds schedule
      (TaskSystem.idle (.fresh traffic settings))).any shows_ = true) :
    ∃ tasks, Reached traffic settings tasks ∧ shows_ tasks = true := by
  cases unfolded : unfolds schedule
      (TaskSystem.idle (.fresh traffic settings)) with
  | none =>
      rw [unfolded] at shown
      cases shown
  | some tasks =>
      rw [unfolded] at shown
      exact ⟨tasks, unfolds_run unfolded, shown⟩

theorem happen_answers {duty : Duty} {luck : Luck} {op : QaOp}
    (asked : asks duty tasks = some op) :
    ∃ next, happen (.answers duty luck) tasks = some next ∧
      gateway.Step tasks (.answered ⟨tasks.world.process.epoch, duty⟩
        ((), op)) next ∧ next.world = (serve op luck tasks.world).2 := by
  unfold asks at asked
  split at asked
  · rename_i request next waiting
    cases asked
    refine ⟨_, ?_, .answered waiting rfl ⟨luck, rfl⟩, rfl⟩
    simp only [happen, waiting]
    rfl
  · cases asked

end Soundness

namespace Sample

def generation : Uuid := 7

def runId : Uuid := 1

def settings : Settings where
  buildCommit := "c0ffee"
  canonicalProvider := true
  mockProvider := false
  ownerId := 5

def luck : Luck where
  now := 10
  caseIds := fun index => BitVec.ofNat 128 (100 + index)
  auditId := 900
  refuses := fun _ => false
  lost := false
  snapshot := {
    ownerId := 5, keyCount := 2, keyHash := "k", activeClientCount := 1
    clientHash := "c", receiptCount := 2, receiptKeyCount := 2
    receiptHash := "r", routingCount := 1, routingGenerationCount := 1
    routingHash := "g" }
  traffic := .ok ⟨⟩
  verdict := .ok (true, "found")

def request (id : Uuid) (startedAt : Micros) : ProxyRequest where
  id
  requestId := id
  downstreamCredentialId := some 50
  profileId := "z-ai/glm-5.2"
  outcome := "succeeded"
  startedAt
  finishedAt := some (startedAt + 1)

def traffic : Traffic where
  clients := [{
    id := 50
    label := Hermes.operationLabelOf generation
    active := true
    createdAt := 20
    revokedAt := none }]
  requests := [request 61 30, request 62 40, request 63 50]
  attempts := [61, 62, 63]
  secretMatches := 0

def reported (id : Uuid) (stage : String) : HermesRequestEvidence where
  requestId := id
  attemptCount := 1
  outcome := "succeeded"
  stage

def noMatches : SecretScanEvidence where
  databaseMatches := 0
  appLogMatches := 0
  hermesLogMatches := 0
  cloudflaredLogMatches := 0
  imageMetadataMatches := 0
  helperArtifactMatches := 0
  hermesTreeMatches := 0
  publicBundleMatches := 0
  adminResponseMatches := 0
  issuedTokenMatches := 0
  authorizationValueMatches := 0

def completion : HermesCompletion where
  status := "passed"
  appCommit := some "c0ffee"
  generation := some generation
  clientId := some 50
  doctor := true
  exactMarker := true
  toolTask := true
  requestCorrelation := true
  secretScan := some noMatches
  rollbackRehearsal := true
  reconcileCommitted := false
  durationMs := some 1000
  lbRequests := [reported 61 "marker", reported 62 "tool", reported 63 "tool"]

def hermesRun : QaRunInput where
  suite := "hermes-e2e"
  live := true
  confirmBillable := false

def started : List Happening :=
  .recovers :: .replicate 3 (.answers .recovery luck)

/-- Up to the armed run. -/
def armed : List Happening :=
  started ++ .creates runId hermesRun 800 ::
    .replicate 6 (.answers (.creation runId) luck)

def failedCompletion : HermesCompletion :=
  { completion with status := "failed" }

def reconciliation : HermesCompletion :=
  { completion with reconcileCommitted := true }

def refusing : Luck :=
  { luck with refuses := fun _ => true }

def smokeRun : QaRunInput where
  suite := "smoke"
  live := false
  confirmBillable := false

/-- Up to the error path of `spawn`: the run could not be started. -/
def failing : List Happening :=
  started ++ .creates runId smokeRun 800 ::
    .replicate 5 (.answers (.creation runId) luck) ++
    [.answers (.creation runId) refusing]

end Sample

end NvidiaBuildLb.Qa
