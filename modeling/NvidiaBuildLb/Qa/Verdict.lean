import NvidiaBuildLb.Qa.Driver

namespace NvidiaBuildLb.Qa

open Foundation NvidiaBuildLb.Core Gateway Transaction

/-! A verdict that is passed stays what it is, with the audit it was accepted
under. -/

section Audits

variable {world : QaWorld} {luck : Luck} {before after : QaDatabase}

private theorem audits_settled {start finish : PersistenceSnapshot}
    {now : Micros} (items : List (Uuid × String)) (database : QaDatabase) :
    (database.settled start finish now items).audits = database.audits := by
  induction items generalizing database with
  | nil => rfl
  | cons item rest induction => exact induction _

private theorem audits_commit {α : Type} {body : QaTransaction α}
    {spec : α → QaDatabase → Prop}
    (ensures : Ensures (fun rows => rows = world.database) body spec)
    (kept : ∀ value after, spec value after →
      after.audits = world.database.audits) :
    (commit luck body world).2.database.audits = world.database.audits := by
  cases (commit_cases ensures luck).2.2.1 with
  | inl same => rw [same]
  | inr committed =>
      obtain ⟨value, holds⟩ := committed
      exact kept value _ holds

private theorem audits_serve {op : QaOp}
    (notCreation : ∀ runId suite live identity requestId,
      op ≠ .createQaRun runId suite live identity requestId)
    (notCompletion : ∀ runId input requestId,
      op ≠ .completeHermes runId input requestId) :
    (serve op luck world).2.database.audits = world.database.audits := by
  cases op with
  | createQaRun => exact absurd rfl (notCreation _ _ _ _ _)
  | completeHermes => exact absurd rfl (notCompletion _ _ _)
  | qaRun => exact audits_commit ensures_select fun _ _ holds => by rw [holds.2]
  | loadRunMode =>
      exact audits_commit ensures_selectOne fun _ _ holds => by rw [holds.2]
  | loadCases =>
      exact audits_commit ensures_select fun _ _ holds => by rw [holds.2]
  | interruptedPersistenceRuns =>
      exact audits_commit ensures_select fun _ _ holds => by rw [holds.2]
  | preparePersistence =>
      exact audits_commit ensures_preparePersistence fun _ _ holds => by
        rw [holds.2.2]
        rfl
  | armHermes =>
      exact audits_commit ensures_armHermes fun _ _ holds => by
        rw [holds.2]
        rfl
  | startQueuedRun =>
      exact audits_commit ensures_startQueuedRun fun _ _ holds => by
        rw [holds.2]
        rfl
  | startCase =>
      exact audits_commit ensures_startCase fun _ _ holds => by
        rw [holds.2]
        rfl
  | finishCase =>
      exact audits_commit ensures_finishCase fun _ _ holds => by
        rw [holds]
        rfl
  | finishRun =>
      exact audits_commit ensures_finishRun fun _ _ holds => by
        rw [holds]
        rfl
  | closeCases =>
      exact audits_commit ensures_closeCases fun _ _ holds => by
        rw [holds]
        rfl
  | closeRun runId =>
      rw [serveCloseRun_database]
      exact audits_commit ensures_closeRun fun _ _ holds => by
        rw [holds]
        rfl
  | failRunningRun =>
      exact audits_commit ensures_failRunningRun fun _ _ holds => by
        cases holds with
        | inl same => rw [same]
        | inr closed =>
            rw [closed.2]
            rfl
  | closeInterruptedRuns =>
      exact audits_commit ensures_closeInterruptedRuns fun _ _ holds => by
        rw [holds]
        rfl
  | resumePersistence =>
      exact audits_commit ensures_resumePersistence fun _ _ resumed => by
        obtain ⟨baseline, document, same⟩ := resumed.settled
        rw [same]
        exact audits_settled _ _
  | _ => rfl

private theorem acceptances_complete {context : CompletionContext}
    {input : HermesCompletion} {audit : Uuid}
    (completed : Completed context input before audit after) (runId : Uuid) :
    after.acceptances runId = before.acceptances runId ∨
      context.runId = runId ∧
        (∀ run, before.runs.find? runId = some run → run.status ≠ .passed) ∧
        ∃ run, after.runs.find? runId = some run ∧ run.status = .passed := by
  cases completed with
  | again => exact .inl rfl
  | failed run found ofHermes running failed =>
      refine .inl ?_
      unfold QaDatabase.acceptances
      rw [List.filter_append]
      simp
  | passed run startedAt reported secretScan correlated cased found ofHermes
      isLive started passed expected verified finishes =>
      have kept := finishes.frame
      by_cases same : context.runId = runId
      · subst same
        refine .inr ⟨rfl, fun other isOther => ?_, run.finish true context.now,
          ?_, rfl⟩
        · rw [found] at isOther
          cases isOther
          rw [expected, expectedRun]
          split <;> simp
        · change (cased.updateRuns _ _).runs.find? context.runId = _
          unfold QaDatabase.updateRuns
          rw [Table.find?_update, kept.1, found, Option.map_some]
          simp [Table.key_of_find? found, ← expected, RunEdit.finish]
      · refine .inl ?_
        unfold QaDatabase.acceptances
        rw [List.filter_append, kept.2.1]
        simp [same]

theorem acceptances_serve (op : QaOp) (runId : Uuid) :
    (serve op luck world).2.database.acceptances runId =
        world.database.acceptances runId ∨
      (∀ run, world.database.runs.find? runId = some run →
        run.status ≠ .passed) ∧
      ∃ run, (serve op luck world).2.database.runs.find? runId = some run ∧
        run.status = .passed := by
  have kept : (serve op luck world).2.database.audits =
      world.database.audits →
      (serve op luck world).2.database.acceptances runId =
        world.database.acceptances runId := by
    intro same
    unfold QaDatabase.acceptances
    rw [same]
  by_cases creation : ∃ newId suite live identity requestId,
      op = .createQaRun newId suite live identity requestId
  · obtain ⟨newId, suite, live, identity, requestId, rfl⟩ := creation
    refine .inl ?_
    cases (commit_cases ensures_createQaRun luck).2.2.1 with
    | inl same => exact kept (congrArg QaDatabase.audits same)
    | inr committed =>
        obtain ⟨_, created⟩ := committed
        obtain ⟨event, isCreation, audits⟩ := created.audited
        refine Eq.trans (congrArg (List.filter _) audits) ?_
        rw [List.filter_append]
        simp [QaDatabase.acceptances, isCreation]
  · by_cases completion : ∃ other input requestId,
        op = .completeHermes other input requestId
    · obtain ⟨other, input, requestId, rfl⟩ := completion
      cases (commit_cases ensures_completeHermes luck).2.2.1 with
      | inl same => exact .inl (kept (congrArg QaDatabase.audits same))
      | inr committed =>
          obtain ⟨audit, completed⟩ := committed
          exact (acceptances_complete completed runId).imp_right
            fun accepted => accepted.2
    · refine .inl (kept (audits_serve ?_ ?_))
      · exact fun _ _ _ _ _ same => creation ⟨_, _, _, _, _, same⟩
      · exact fun _ _ _ same => completion ⟨_, _, _, same⟩

end Audits

/-- A run that has passed, and the completions that were accepted for it. -/
structure Stands (runId : Uuid) (run : QaRun) (accepted : List AuditEvent)
    (world : QaWorld) : Prop where
  found : world.database.runs.find? runId = some run
  passed : run.status = .passed
  audits : world.database.acceptances runId = accepted

theorem Change.passed {buildCommit : String} {traffic : Traffic} {op : QaOp}
    {entry changed : QaEntry}
    (change : Change buildCommit traffic op entry changed)
    (passed : entry.run.status = .passed) : changed.run = entry.run := by
  cases change with
  | caseStarted | caseFinished | casesClosed => rfl
  | completedPassed _ _ _ expected =>
      rw [passed, expectedRun] at expected
      split at expected <;> cases expected
  | runClosed active | failed active =>
      rw [passed] at active
      cases active
  | interrupted isInterrupted =>
      simp [QaRun.interrupted, passed] at isInterrupted
  | _ => simp_all

section Standing

variable {world after : QaWorld} {runId : Uuid} {run : QaRun}
  {accepted : List AuditEvent}

theorem Stands.serve {op : QaOp} {luck : Luck}
    (stands : Stands runId run accepted world) :
    Stands runId run accepted (serve op luck world).2 := by
  refine ⟨?_, stands.passed, ?_⟩
  · have entry := QaDatabase.entry_of_find stands.found
    cases (serve_effect op luck world).changes with
    | inl changes =>
        cases changes runId with
        | inl same => exact (QaDatabase.entry_eq_some.mp (same.trans entry)).1
        | inr change =>
            obtain ⟨before, later, isBefore, isLater, change⟩ := change
            rw [entry] at isBefore
            cases isBefore
            exact (QaDatabase.entry_eq_some.mp isLater).1.trans
              (congrArg some (change.passed stands.passed))
    | inr created =>
        obtain ⟨newId, -, -, -, -, -, created⟩ := created
        have different : runId ≠ newId := by
          intro same
          have fresh := created.fresh
          rw [← same, stands.found] at fresh
          cases fresh
        exact (QaDatabase.entry_eq_some.mp
          ((created.others different).trans entry)).1
  · cases @acceptances_serve world luck op runId with
    | inl same => exact same.trans stands.audits
    | inr newly => exact absurd stands.passed (newly.1 run stands.found)

private theorem acceptances_surrounds (surrounds : Surrounds world after)
    (runId : Uuid) :
    after.database.acceptances runId = world.database.acceptances runId := by
  cases surrounds with
  | restarted | served => rfl
  | audited event foreign =>
      unfold QaDatabase.acceptances
      rw [List.filter_append]
      cases foreign with
      | inl action => simp [action]
      | inr outcome => simp [outcome]

private theorem runs_surrounds (surrounds : Surrounds world after) :
    after.database.runs = world.database.runs := by
  cases surrounds <;> rfl

theorem step_keeps {property : QaWorld → Prop} {tasks finish : QaTasks}
    {label : TaskLabel Tag (Unit × QaOp)}
    (served : ∀ op luck world, property world →
      property (serve op luck world).2)
    (surrounded : ∀ world after, Surrounds world after → property world →
      property after)
    (step : gateway.Step tasks label finish) (holds : property tasks.world) :
    property finish.world := by
  cases step.world with
  | inl same => exact same ▸ holds
  | inr other =>
      cases other with
      | inl moved =>
          obtain ⟨op, moves⟩ := moved
          cases moves_iff moves with
          | inl same => exact same ▸ holds
          | inr isServed =>
              obtain ⟨luck, same⟩ := isServed
              exact same ▸ served op.2 luck _ holds
      | inr surrounds => exact surrounded _ _ surrounds holds

theorem Stands.along {tasks finish : QaTasks}
    {labels : List (TaskLabel Tag (Unit × QaOp))}
    (stands : Stands runId run accepted tasks.world)
    (later : Run gateway.Step tasks labels finish) :
    Stands runId run accepted finish.world := by
  refine later.invariant
    (fun tasks => Stands runId run accepted tasks.world) ?_ stands
  intro before label after holds step
  refine step_keeps (fun _ _ _ holds => holds.serve) ?_ step holds
  intro world after surrounds holds
  exact ⟨runs_surrounds surrounds ▸ holds.found, holds.passed,
    (acceptances_surrounds surrounds runId).trans holds.audits⟩

/-- Acceptances are those of runs that have passed. -/
def Filed (world : QaWorld) : Prop :=
  ∀ runId, world.database.acceptances runId ≠ [] →
    ∃ run, world.database.runs.find? runId = some run ∧ run.status = .passed

theorem Filed.serve {op : QaOp} {luck : Luck} (filed : Filed world) :
    Filed (serve op luck world).2 := by
  intro runId accepted
  cases @acceptances_serve world luck op runId with
  | inr newly => exact newly.2
  | inl same =>
      rw [same] at accepted
      obtain ⟨run, found, passed⟩ := filed runId accepted
      have stands : Stands runId run _ world := ⟨found, passed, rfl⟩
      exact ⟨run, (@Stands.serve _ _ _ _ op luck stands).found, passed⟩

theorem Reached.filed {traffic : Traffic} {settings : Settings}
    {tasks : QaTasks} (reached : Reached traffic settings tasks) :
    Filed tasks.world := by
  obtain ⟨_, run⟩ := reached
  refine run.invariant (fun tasks => Filed tasks.world) ?_ ?_
  · intro before label after holds step
    refine step_keeps (fun _ _ _ holds => holds.serve) ?_ step holds
    intro world after surrounds holds runId accepted
    rw [acceptances_surrounds surrounds runId] at accepted
    exact runs_surrounds surrounds ▸ holds runId accepted
  · exact fun _ accepted => absurd rfl accepted

end Standing

/-- Of the acceptances of a run, the one a completion finds. -/
def newest (generation : Uuid) (appCommit : String)
    (accepted : List AuditEvent) : Option AuditEvent :=
  (accepted.filter fun event =>
    match event.detail with
    | .completed accepted commit .. =>
        accepted = generation && commit = appCommit
    | _ => false).foldl
    (fun newest event =>
      match newest with
      | none => some event
      | some other =>
          if other.createdAt ≤ event.createdAt then some event else some other)
    none

private theorem acceptance_eq (database : QaDatabase) (runId generation : Uuid)
    (appCommit : String) :
    database.acceptance runId generation appCommit =
      newest generation appCommit (database.acceptances runId) := by
  unfold QaDatabase.acceptance newest QaDatabase.acceptances
  rw [List.filter_filter]
  refine congrArg (List.foldl _ none) (List.filter_congr fun event _ => ?_)
  cases event.detail <;> simp [Bool.and_comm]

/-- The transaction of a completion commits with an audit, whether or not the
helper hears of it. -/
def Accepts (runId : Uuid) (input : HermesCompletion) (audit : Uuid)
    (before after : QaWorld) : Prop :=
  ∃ requestId luck,
    ((completeHermes {
      buildCommit := before.process.settings.buildCommit
      runId
      requestId
      auditId := luck.auditId
      now := luck.now } input).transact luck.refuses before.database).1 =
        .ok audit ∧
      after = (serve (.completeHermes runId input requestId) luck before).2

/-- What an accepted completion leaves, and finds when it comes again. -/
structure Accepted (runId : Uuid) (input : HermesCompletion) (audit : Uuid)
    (run : QaRun) (accepted : List AuditEvent) : Prop where
  ofHermes : run.suite = .hermesE2e
  isLive : run.live = true ∧ run.providerIdentity = .nvidiaHosted
  named : ∃ generation appCommit, input.generation = some generation ∧
    input.appCommit = some appCommit ∧
    (newest generation appCommit accepted).map AuditEvent.id = some audit

section Repetition

variable {world after : QaWorld} {runId audit : Uuid}
  {input : HermesCompletion} {run : QaRun} {accepted : List AuditEvent}

theorem Accepts.stands (passing : input.status = "passed")
    (filed : Filed world) (accepts : Accepts runId input audit world after) :
    ∃ run accepted, Stands runId run accepted after ∧
      Accepted runId input audit run accepted := by
  obtain ⟨requestId, luck, committed, rfl⟩ := accepts
  have completed := ensures_completeHermes.transact rfl committed
  generalize isAfter : (Transaction.transact _ _ _).2 = rows at completed
  have same : (serve (.completeHermes runId input requestId) luck
      world).2.database = rows := isAfter
  cases completed with
  | again run event generation appCommit found ofHermes isLive finished named
      isNewest =>
      refine ⟨run, _, ⟨same ▸ found, finished, rfl⟩, ofHermes, isLive, generation,
        appCommit, named.1, named.2, ?_⟩
      rw [same, ← acceptance_eq, isNewest]
      rfl
  | failed run found ofHermes running failed =>
      rw [passing] at failed
      exact absurd failed (by decide)
  | passed run startedAt reported secretScan correlated cased found ofHermes
      isLive started passed expected verified finishes =>
      have kept := finishes.frame
      have none : world.database.acceptances runId = [] := by
        by_contra accepted
        obtain ⟨other, isOther, hasPassed⟩ := filed runId accepted
        rw [found] at isOther
        cases isOther
        rw [hasPassed, expectedRun] at expected
        split at expected <;> cases expected
      refine ⟨run.finish true luck.now, _, ⟨?_, rfl, rfl⟩, ofHermes, isLive,
        reported.generation, reported.appCommit, verified.generation,
        verified.appCommit.1, ?_⟩
      · rw [same]
        change (cased.updateRuns _ _).runs.find? runId = _
        unfold QaDatabase.updateRuns
        rw [Table.find?_update, kept.1, found, Option.map_some]
        simp [Table.key_of_find? found, ← expected, RunEdit.finish]
      · rw [same]
        unfold QaDatabase.acceptances at none ⊢
        rw [List.filter_append, kept.2.1, none]
        simp [newest]

private theorem completeHermes_again (stands : Stands runId run accepted world)
    (isAccepted : Accepted runId input audit run accepted)
    (passing : input.status = "passed") (context : CompletionContext)
    (sameRun : context.runId = runId) (refuses : Nat → Bool) :
    ((completeHermes context input).transact refuses world.database).2 =
        world.database ∧
      (∀ value,
        ((completeHermes context input).transact refuses world.database).1 =
          .ok value → value = audit) ∧
      ((∀ index, refuses index = false) →
        ((completeHermes context input).transact refuses world.database).1 =
          .ok audit) := by
  obtain ⟨generation, appCommit, isGeneration, isCommit, found⟩ :=
    isAccepted.named
  have again : world.database.acceptance runId generation appCommit =
      newest generation appCommit accepted := by
    rw [acceptance_eq, stands.audits]
  have ends : ∀ value after, Completed context input world.database value after →
      value = audit ∧ after = world.database := by
    intro value after completed
    cases completed with
    | again other event otherGeneration otherCommit isOther _ _ _ named
        isNewest =>
        obtain ⟨isOtherGeneration, isOtherCommit⟩ := named
        rw [isGeneration] at isOtherGeneration
        rw [isCommit] at isOtherCommit
        cases isOtherGeneration
        cases isOtherCommit
        rw [sameRun, again] at isNewest
        rw [isNewest] at found
        exact ⟨Option.some.inj found, rfl⟩
    | failed other isOther _ running =>
        rw [sameRun, stands.found] at isOther
        cases isOther
        rw [stands.passed] at running
        cases running
    | passed other _ _ _ _ _ isOther _ _ _ _ expected =>
        rw [sameRun, stands.found] at isOther
        cases isOther
        rw [stands.passed, expectedRun] at expected
        split at expected <;> cases expected
  refine ⟨?_, fun value answered => ?_, fun served => ?_⟩
  · cases ended : ((completeHermes context input).transact refuses
      world.database).1 with
    | error error => exact transact_error ended
    | ok value => exact (ends _ _ (ensures_completeHermes.transact rfl ended)).2
  · exact (ends _ _ (ensures_completeHermes.transact rfl answered)).1
  · obtain ⟨event, isNewest, isAudit⟩ := Option.map_eq_some_iff.mp found
    simp [completeHermes, earlierCompletion, Transaction.transact, select,
      Transaction.execute, require, refuseIf, served, sameRun, stands.found, stands.passed,
      isAccepted.ofHermes, isAccepted.isLive, passing, isGeneration, isCommit,
      again, isNewest, isAudit, bind, StateT.bind, Except.bind, Transaction.pure_apply]

/-- The helper that sends an accepted completion again is told the same audit,
unless it is told of an error; either way nothing has changed. -/
theorem serve_again (stands : Stands runId run accepted world)
    (isAccepted : Accepted runId input audit run accepted)
    (passing : input.status = "passed") (requestId : Uuid) (luck : Luck) :
    (serve (.completeHermes runId input requestId) luck world).2 = world ∧
      (∀ value, (serve (.completeHermes runId input requestId) luck
        world).1 = .ok value → value = audit) ∧
      (luck.lost = false → (∀ index, luck.refuses index = false) →
        (serve (.completeHermes runId input requestId) luck world).1 =
          .ok audit) := by
  obtain ⟨unchanged, told, answered⟩ := completeHermes_again stands isAccepted
    passing {
      buildCommit := world.process.settings.buildCommit
      runId
      requestId
      auditId := luck.auditId
      now := luck.now } rfl luck.refuses
  refine ⟨?_, fun value isValue => ?_, fun heard served => ?_⟩
  · change ({ world with database := _ } : QaWorld) = world
    rw [unchanged]
  · change (if luck.lost then _ else _) = Except.ok value at isValue
    split at isValue
    · cases ended : ((completeHermes _ input).transact luck.refuses
          world.database).1 with
      | error error =>
          rw [ended] at isValue
          cases isValue
      | ok other =>
          rw [ended] at isValue
          cases isValue
    · exact told value isValue
  · change (if luck.lost then _ else _) = _
    rw [heard]
    exact answered served

end Repetition

/-- In every reachable state the verdict of a run that has passed is that of
its cases, and an accepted completion that comes again finds its audit. -/
theorem verdict_integrity {traffic : Traffic} {settings : Settings}
    {tasks : QaTasks} (reached : Reached traffic settings tasks) :
    (∀ runId entry, tasks.world.database.entry runId = some entry →
      entry.run.status = .passed → ∀ row ∈ entry.cases, row.status = .passed) ∧
    ∀ runId input audit label next labels last, input.status = "passed" →
      gateway.Step tasks label next →
      Accepts runId input audit tasks.world next.world →
      Run gateway.Step next labels last → ∀ requestId luck,
        (serve (.completeHermes runId input requestId) luck last.world).2 =
            last.world ∧
          (∀ value, (serve (.completeHermes runId input requestId) luck
            last.world).1 = .ok value → value = audit) ∧
          (luck.lost = false → (∀ index, luck.refuses index = false) →
            (serve (.completeHermes runId input requestId) luck
              last.world).1 = .ok audit) := by
  constructor
  · intro runId entry found
    exact (reached.established.world.sound runId entry found).passed
  · intro runId input audit label next labels last passing _ accepts run
    obtain ⟨passed, accepted, stands, isAccepted⟩ :=
      accepts.stands passing reached.filed
    exact serve_again (stands.along run) isAccepted passing

private theorem sample_accepts :
    ∃ tasks, Reached Sample.traffic Sample.settings tasks ∧
      ∃ label next, gateway.Step tasks label next ∧
        Accepts Sample.runId Sample.completion 900 tasks.world next.world ∧
        ∃ entry, next.world.database.entry Sample.runId = some entry ∧
          entry.run.status = .passed ∧ entry.cases.length = 6 := by
  let accepting : QaOp := .completeHermes Sample.runId Sample.completion 801
  obtain ⟨tasks, reached, shown⟩ := @reached_of_unfolds Sample.traffic
    Sample.settings
    (Sample.armed ++ [.completes 0 Sample.runId Sample.completion 801])
    (fun tasks =>
      asks (.completion 0) tasks = some accepting &&
        ((completeHermes {
          buildCommit := tasks.world.process.settings.buildCommit
          runId := Sample.runId
          requestId := 801
          auditId := Sample.luck.auditId
          now := Sample.luck.now } Sample.completion).transact
            Sample.luck.refuses tasks.world.database).1 = .ok 900 &&
        ((serve accepting Sample.luck tasks.world).2.database.entry
          Sample.runId).any fun entry =>
            entry.run.status = .passed && entry.cases.length = 6)
    (by decide +kernel)
  simp only [Bool.and_eq_true, decide_eq_true_eq, Option.any_eq_true] at shown
  obtain ⟨⟨asked, committed⟩, entry, found, passed, six⟩ := shown
  obtain ⟨next, -, step, served⟩ := @happen_answers _ _ Sample.luck _ asked
  exact ⟨tasks, reached, _, next, step, ⟨801, Sample.luck, committed, served⟩,
    entry, served ▸ found, passed, six⟩

theorem verdict_integrity_sample :
    ∃ last : QaTasks, Reached Sample.traffic Sample.settings last ∧
      (∃ entry, last.world.database.entry Sample.runId = some entry ∧
        entry.run.status = .passed ∧ entry.cases.length = 6 ∧
        ∀ row ∈ entry.cases, row.status = .passed) ∧
      ∀ requestId, serve (.completeHermes Sample.runId Sample.completion
        requestId) Sample.luck last.world = (.ok 900, last.world) := by
  obtain ⟨tasks, reached, label, next, step, accepts, entry, found, passed,
    six⟩ := sample_accepts
  have nextReached : Reached Sample.traffic Sample.settings next := by
    obtain ⟨labels, run⟩ := reached
    exact ⟨_, run.snoc step⟩
  refine ⟨next, nextReached, ⟨entry, found, passed, six,
    (verdict_integrity nextReached).1 _ entry found passed⟩, fun requestId => ?_⟩
  obtain ⟨same, -, told⟩ := (verdict_integrity reached).2 _ _ _ label next []
    next rfl step accepts (.nil _) requestId Sample.luck
  exact Prod.ext (told rfl fun _ => rfl) same

end NvidiaBuildLb.Qa
