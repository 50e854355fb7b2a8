import NvidiaBuildLb.Qa.Changes

namespace NvidiaBuildLb.Qa

open Foundation NvidiaBuildLb.Core Gateway Transaction

/-! What a completion that commits has found in the rows, and does to them. -/

structure ScanVerified (database : QaDatabase) (input : HermesCompletion) :
    Prop where
  verifications : input.doctor = true ∧ input.exactMarker = true ∧
    input.toolTask = true ∧ input.requestCorrelation = true ∧
    input.rollbackRehearsal = true
  scan : ∃ scan, input.secretScan = some scan ∧
    scan.databaseMatches = database.traffic.secretMatches ∧
    scan.totalMatches = 0

/-- One marker request and two to four tool requests are reported, each once. -/
structure StagesVerified (input : HermesCompletion) : Prop where
  count : 3 ≤ input.lbRequests.length ∧ input.lbRequests.length ≤ 5
  marker : (input.staged "marker").length = 1
  tools : 2 ≤ (input.staged "tool").length ∧ (input.staged "tool").length ≤ 4
  noOther : (input.staged "marker").length + (input.staged "tool").length =
    input.lbRequests.length
  distinct : (input.lbRequests.map HermesRequestEvidence.requestId).Nodup

/-- Every reported request is a finished success of the client, no tool request
is earlier than the marker request, and the client has no other request from
the start of the first one to the end of the last one. -/
structure RequestsVerified (database : QaDatabase) (input : HermesCompletion)
    (clientId : Uuid) (startedAt : Micros)
    (correlated : List CorrelatedRequest) : Prop where
  isCorrelated : correlated = database.correlated clientId startedAt
    (input.lbRequests.map HermesRequestEvidence.requestId)
  complete : correlated.length = input.lbRequests.length
  succeeded : ∀ submitted ∈ input.lbRequests, ∃ persisted ∈ correlated,
    persisted.requestId = submitted.requestId ∧
      submitted.outcome = "succeeded" ∧
      persisted.outcome = "succeeded" ∧
      persisted.attemptCount = submitted.attemptCount ∧
      persisted.finishedAt.isSome = true
  ordered : ∃ marker persistedMarker,
    (input.staged "marker").head? = some marker ∧
      correlated.find? (fun request =>
        request.requestId = marker.requestId) = some persistedMarker ∧
      ∀ tool ∈ input.staged "tool", ∀ persisted,
        correlated.find? (fun request =>
          request.requestId = tool.requestId) = some persisted →
            persistedMarker.startedAt ≤ persisted.startedAt
  window : ∃ first windowEnd, correlated.head? = some first ∧
    latest (correlated.filterMap CorrelatedRequest.finishedAt) =
      some windowEnd ∧
    database.traffic.requests.countP (fun request =>
      request.downstreamCredentialId = some clientId &&
        request.startedAt ≥ first.startedAt &&
        request.startedAt ≤ windowEnd) = correlated.length

/-- All that the gateway checks before it passes a run. -/
structure Verified (database : QaDatabase) (buildCommit deploymentCommit : String)
    (startedAt : Micros) (input : HermesCompletion) (reported : Reported)
    (secretScan : SecretScanEvidence) (correlated : List CorrelatedRequest) :
    Prop where
  generation : input.generation = some reported.generation
  clientId : input.clientId = some reported.clientId
  duration : input.durationMs = some reported.durationMs ∧
    0 < reported.durationMs ∧ reported.durationMs ≤ 3600000
  appCommit : input.appCommit = some reported.appCommit ∧
    reported.appCommit = deploymentCommit ∧ reported.appCommit = buildCommit
  client : ∃ client, database.traffic.clients.find?
      (fun client => client.id = reported.clientId) = some client ∧
    client.label = Hermes.operationLabelOf reported.generation ∧
    client.active = true ∧ startedAt ≤ client.createdAt ∧
    client.revokedAt = none
  scanned : ScanVerified database input
  scan : input.secretScan = some secretScan ∧ secretScan.totalMatches = 0
  stages : StagesVerified input
  requests : RequestsVerified database input reported.clientId startedAt
    correlated

section Checks

variable {before : QaDatabase} {input : HermesCompletion}

private theorem ensures_requireReported {buildCommit deploymentCommit : String} :
    Ensures (fun rows => rows = before)
      (requireReported buildCommit deploymentCommit input)
      fun reported rows =>
        (input.generation = some reported.generation ∧
          input.clientId = some reported.clientId ∧
          (input.durationMs = some reported.durationMs ∧
            0 < reported.durationMs ∧ reported.durationMs ≤ 3600000) ∧
          input.appCommit = some reported.appCommit ∧
          reported.appCommit = deploymentCommit ∧
          reported.appCommit = buildCommit) ∧ rows = before := by
  refine Known.required fun generation isGeneration => ?_
  refine Known.required fun clientId isClient => ?_
  refine Known.required fun durationMs isDuration => ?_
  refine Known.guarded fun inRange => ?_
  refine Known.required fun appCommit isCommit => Known.guarded fun same => ?_
  simp only [Bool.or_eq_false_iff, decide_eq_false_iff_not] at inRange
  refine Known.pure ⟨⟨isGeneration, isClient, ⟨isDuration, ?_, ?_⟩, isCommit,
    ?_⟩, rfl⟩
  · exact Nat.pos_of_ne_zero inRange.1
  · exact Nat.le_of_not_lt inRange.2
  · simpa using same

private theorem ensures_requireClient {label : String} {clientId : Uuid}
    {startedAt : Micros} :
    Ensures (fun rows => rows = before) (requireClient label clientId startedAt)
      fun _ rows =>
        (∃ client, before.traffic.clients.find?
            (fun client => client.id = clientId) = some client ∧
          client.label = label ∧ client.active = true ∧
          startedAt ≤ client.createdAt ∧ client.revokedAt = none) ∧
          rows = before := by
  refine Known.selected (Known.required fun client found => ?_)
  refine Ensures.refuseIf fun rows same valid => ⟨⟨client, found, ?_⟩, same⟩
  simpa [and_assoc] using valid

private theorem ensures_requireScan :
    Ensures (fun rows => rows = before) (requireScan input) fun scan rows =>
      (ScanVerified before input ∧ input.secretScan = some scan ∧
        scan.totalMatches = 0) ∧ rows = before := by
  refine Known.guarded fun verified => ?_
  refine Known.required fun scan isScan => Known.selected ?_
  refine Known.guarded fun clean => ?_
  simp only [ne_eq, decide_not, Bool.or_eq_false_iff, Bool.not_eq_eq_eq_not,
    Bool.not_false, decide_eq_true_eq] at clean
  simp only [Bool.or_eq_false_iff, Bool.not_eq_eq_eq_not, Bool.not_false]
    at verified
  obtain ⟨⟨⟨⟨⟨doctor, marker⟩, tool⟩, correlation⟩, -⟩, rehearsal⟩ := verified
  exact Known.pure ⟨⟨⟨⟨doctor, marker, tool, correlation, rehearsal⟩,
    scan, isScan, clean.1, clean.2⟩, isScan, clean.2⟩, rfl⟩

private theorem ensures_requireStages :
    Ensures (fun rows => rows = before) (requireStages input) fun _ rows =>
      StagesVerified input ∧ rows = before := by
  refine Known.guarded fun count => Known.guarded fun stages => ?_
  refine Ensures.refuseIf fun rows same distinct => ⟨?_, same⟩
  simp only [ne_eq, decide_not, Bool.or_eq_false_iff, Bool.not_eq_eq_eq_not,
    Bool.not_false, decide_eq_true_eq, Bool.and_eq_true] at stages
  exact {
    count := by simpa using count
    marker := stages.1.1
    tools := stages.1.2
    noOther := stages.2
    distinct := by simpa using distinct }

private theorem ensures_requireSubmitted (correlated : List CorrelatedRequest)
    (items : List HermesRequestEvidence) :
    Ensures (fun rows => rows = before) (requireSubmitted correlated items)
      fun _ rows =>
        (∀ submitted ∈ items, ∃ persisted ∈ correlated,
          persisted.requestId = submitted.requestId ∧
            submitted.outcome = "succeeded" ∧
            persisted.outcome = "succeeded" ∧
            persisted.attemptCount = submitted.attemptCount ∧
            persisted.finishedAt.isSome = true) ∧ rows = before := by
  induction items with
  | nil => exact Known.pure ⟨fun _ member => (by cases member), rfl⟩
  | cons item rest induction =>
      refine Known.required fun persisted found => Known.guarded fun agrees => ?_
      simp only [ne_eq, decide_not, Bool.or_eq_false_iff,
        Bool.not_eq_eq_eq_not, Bool.not_false, decide_eq_true_eq,
        Option.isNone_eq_false_iff] at agrees
      obtain ⟨⟨⟨isSuccess, sameOutcome⟩, sameCount⟩, finished⟩ := agrees
      refine induction.weaken (fun _ same => same) ?_
      intro _ rows holds
      refine ⟨fun submitted member => ?_, holds.2⟩
      cases List.mem_cons.mp member with
      | inr later => exact holds.1 submitted later
      | inl isItem =>
          subst isItem
          exact ⟨persisted, List.mem_of_find?_eq_some found,
            by simpa using List.find?_some found, isSuccess,
            sameOutcome.trans isSuccess, sameCount, finished⟩

private theorem ensures_requireCorrelated {clientId : Uuid}
    {startedAt : Micros} :
    Ensures (fun rows => rows = before)
      (requireCorrelated input clientId startedAt) fun correlated rows =>
        RequestsVerified before input clientId startedAt correlated ∧
          rows = before := by
  refine Known.selected (Known.guarded fun complete => ?_)
  refine Known.bind _ (fun _ => before) (ensures_requireSubmitted _ _)
    fun _ succeeded => ?_
  refine Known.required fun marker isMarker => ?_
  refine Known.required fun markerStart isMarkerStart => ?_
  refine Known.guarded fun ordered => ?_
  refine Known.required fun windowStart isStart => ?_
  refine Known.required fun windowEnd isEnd => Known.selected ?_
  refine Known.guarded fun window => Known.pure ⟨?_, rfl⟩
  obtain ⟨persistedMarker, isPersisted, rfl⟩ :=
    Option.map_eq_some_iff.mp isMarkerStart
  obtain ⟨first, isFirst, rfl⟩ := Option.map_eq_some_iff.mp isStart
  refine {
    isCorrelated := rfl
    complete := by simpa using complete
    succeeded
    ordered := ⟨marker, persistedMarker, isMarker, isPersisted, ?_⟩
    window := ⟨first, windowEnd, isFirst, isEnd, by simpa using window⟩ }
  intro tool isTool persisted found
  have late := List.any_eq_false.mp ordered persisted
    (List.mem_filterMap.mpr ⟨tool, isTool, found⟩)
  simpa using late

end Checks

/-- Each case in turn was there in the expected state, and gets its verdict. -/
inductive Finishes (runId : Uuid) (recovering : Bool) (now : Micros) :
    List (String × Bool × Evidence) → QaDatabase → QaDatabase → Prop where
  | nil {database : QaDatabase} :
      Finishes runId recovering now [] database database
  | cons {name : String} {passed : Bool} {evidence : Evidence}
      {rest : List (String × Bool × Evidence)} {before after : QaDatabase}
      (one : before.cases.count (fun row => row.runId = runId &&
        row.name = name && row.status = expectedCase recovering) = 1)
      (later : Finishes runId recovering now rest
        (before.updateCases (fun row => row.runId = runId &&
          row.name = name && row.status = expectedCase recovering)
          (.finish passed evidence now)) after) :
      Finishes runId recovering now ((name, passed, evidence) :: rest) before
        after

private theorem ensures_finishHermesCases {runId : Uuid} {recovering : Bool}
    {now : Micros} (verdicts : List (String × Bool × Evidence))
    (before : QaDatabase) :
    Ensures (fun rows => rows = before)
      (finishHermesCases runId recovering now verdicts)
      fun _ after => Finishes runId recovering now verdicts before after := by
  induction verdicts generalizing before with
  | nil => exact Known.pure .nil
  | cons verdict rest induction =>
      obtain ⟨name, passed, evidence⟩ := verdict
      refine Known.updatedCases (Known.guarded fun one => ?_)
      refine (induction _).weaken (fun _ same => same) ?_
      intro _ after later
      exact .cons (by simpa using one) later

/-- The ways a completion commits. -/
inductive Completed (context : CompletionContext) (input : HermesCompletion)
    (before : QaDatabase) : Uuid → QaDatabase → Prop where
  | again (run : QaRun) (event : AuditEvent) (generation : Uuid)
      (appCommit : String)
      (found : before.runs.find? context.runId = some run)
      (ofHermes : run.suite = .hermesE2e)
      (isLive : run.live = true ∧ run.providerIdentity = .nvidiaHosted)
      (finished : run.status = .passed)
      (named : input.generation = some generation ∧
        input.appCommit = some appCommit)
      (accepted : before.acceptance context.runId generation appCommit =
        some event) :
      Completed context input before event.id before
  | failed (run : QaRun)
      (found : before.runs.find? context.runId = some run)
      (ofHermes : run.suite = .hermesE2e) (running : run.status = .running)
      (failed : input.status = "failed") :
      Completed context input before context.auditId {
        ((before.updateCases
          (fun row => row.runId = context.runId && row.status = .running)
          (.finish false (.errorCode "hermes_helper_failed")
            context.now)).updateRuns
          (fun run => run.id = context.runId && run.status = .running)
          (.finish false context.now)) with
        audits := before.audits ++ [{
          id := context.auditId
          action := "qa.hermes.complete"
          resourceKind := "qa_run"
          resourceId := some context.runId
          requestId := some context.requestId
          outcome := "succeeded"
          detail := .failed "hermes_helper_failed"
          createdAt := context.now }] }
  | passed (run : QaRun) (startedAt : Micros) (reported : Reported)
      (secretScan : SecretScanEvidence) (correlated : List CorrelatedRequest)
      (cased : QaDatabase)
      (found : before.runs.find? context.runId = some run)
      (ofHermes : run.suite = .hermesE2e)
      (isLive : run.live = true ∧ run.providerIdentity = .nvidiaHosted)
      (started : run.startedAt = some startedAt)
      (passed : input.status = "passed")
      (expected : run.status = expectedRun (input.recovers run.status))
      (verified : Verified before context.buildCommit run.deploymentCommit
        startedAt input reported secretScan correlated)
      (finishes : Finishes context.runId (input.recovers run.status) context.now
        (input.verdicts reported.clientId secretScan correlated) before cased) :
      Completed context input before context.auditId {
        (cased.updateRuns
          (fun row => row.id = context.runId &&
            row.status = expectedRun (input.recovers run.status))
          (.finish true context.now)) with
        audits := cased.audits ++ [{
          id := context.auditId
          action := "qa.hermes.complete"
          resourceKind := "qa_run"
          resourceId := some context.runId
          requestId := some context.requestId
          outcome := "succeeded"
          detail := .completed reported.generation reported.appCommit
            reported.clientId reported.durationMs correlated.length
            (input.recovers run.status)
          createdAt := context.now }] }

theorem ensures_completeHermes {context : CompletionContext}
    {input : HermesCompletion} {before : QaDatabase} :
    Ensures (fun rows => rows = before) (completeHermes context input)
      fun audit after => Completed context input before audit after := by
  refine Known.selected (Known.required fun run found => ?_)
  refine Known.guarded fun ofHermes => Known.guarded fun live => ?_
  simp only [ne_eq, decide_not, Bool.not_eq_eq_eq_not, Bool.not_false,
    decide_eq_true_eq] at ofHermes
  have isLive : run.live = true ∧ run.providerIdentity = .nvidiaHosted := by
    simpa using live
  refine Known.bind
    (fun earlier => ∀ audit, earlier = some audit →
      Completed context input before audit before) (fun _ => before) ?_
    fun earlier accepted => ?_
  · unfold earlierCompletion
    split
    · rename_i both
      have finished : run.status = .passed := by
        simp only [Bool.and_eq_true, decide_eq_true_eq] at both
        exact both.1
      refine Known.required fun generation isGeneration => ?_
      refine Known.required fun appCommit isCommit => ?_
      refine Ensures.execute fun rows answer rows' same answered => ?_
      cases answered
      subst same
      refine ⟨fun audit isAudit => ?_, rfl⟩
      obtain ⟨event, isEvent, rfl⟩ := Option.map_eq_some_iff.mp isAudit
      exact .again run event generation appCommit found ofHermes isLive finished
        ⟨isGeneration, isCommit⟩ isEvent
    · exact Known.pure ⟨fun _ impossible => (by cases impossible), rfl⟩
  · cases earlier with
    | some audit => exact Known.pure (accepted audit rfl)
    | none =>
        refine Known.guarded fun expected => ?_
        refine Known.required fun startedAt isStarted => ?_
        split
        · rename_i isFailed
          have running : run.status = .running := by
            simpa [HermesCompletion.recovers, isFailed] using expected
          refine Known.updatedCases (Known.updatedRuns (Known.audited ?_))
          exact .failed run found ofHermes running isFailed
        · refine Known.guarded fun isPassed => ?_
          simp only [ne_eq, decide_not, Bool.not_eq_eq_eq_not, Bool.not_false,
            decide_eq_true_eq] at isPassed
          refine Known.bind _ (fun _ => before) ensures_requireReported
            fun reported isReported => ?_
          refine Known.bind _ (fun _ => before) ensures_requireClient
            fun _ client => ?_
          refine Known.bind _ (fun _ => before) ensures_requireScan
            fun secretScan scanned => ?_
          refine Known.bind _ (fun _ => before) ensures_requireStages
            fun _ stages => ?_
          refine Known.bind _ (fun _ => before) ensures_requireCorrelated
            fun correlated requests => ?_
          refine Known.through _ (ensures_finishHermesCases _ _)
            fun _ cased finishes => ?_
          refine Known.updatedRuns (Known.guarded fun _ => Known.audited ?_)
          refine .passed run startedAt reported secretScan correlated cased found
            ofHermes isLive isStarted isPassed ?_ ?_ finishes
          · cases recovering : input.recovers run.status with
            | false => simpa [recovering, expectedRun] using expected
            | true =>
                simp only [HermesCompletion.recovers, Bool.and_eq_true,
                  decide_eq_true_eq] at recovering
                exact recovering.1.1
          · exact {
              generation := isReported.1
              clientId := isReported.2.1
              duration := isReported.2.2.1
              appCommit := isReported.2.2.2
              client
              scanned := scanned.1
              scan := scanned.2
              stages
              requests }

end NvidiaBuildLb.Qa
