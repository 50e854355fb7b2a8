import NvidiaBuildLb.Qa.Closure

namespace NvidiaBuildLb.Qa

open Foundation NvidiaBuildLb.Core Gateway

/-! What turns a failed run into a passed one. -/

/-- A completion of a failed run that says the cutover had been committed, and
whose evidence is checked as that of a running one. -/
structure Reconciliation (input : HermesCompletion) (entry : QaEntry)
    (world : QaWorld) : Prop where
  passing : input.status = "passed"
  committed : input.reconcileCommitted = true
  ofHermes : entry.run.suite = .hermesE2e
  isLive : entry.run.live = true ∧ entry.run.providerIdentity = .nvidiaHosted
  verified : ∃ startedAt reported secretScan correlated,
    entry.run.startedAt = some startedAt ∧ Verified world.database world.process.settings.buildCommit
      entry.run.deploymentCommit startedAt input reported secretScan correlated

/-- The step at which a failed run passes. -/
structure Reconciles (runId : Uuid) (before : QaTasks)
    (label : TaskLabel Tag (Unit × QaOp)) (after : QaTasks) : Prop where
  request : ∃ tag input requestId entry,
    (label = .answered tag ((), .completeHermes runId input requestId) ∨
      label = .dropped tag ((), .completeHermes runId input requestId)) ∧
    before.world.database.entry runId = some entry ∧
    entry.run.status = .failed ∧
    Reconciliation input entry before.world
  passed : ∃ entry, after.world.database.entry runId = some entry ∧
    entry.run.status = .passed ∧ ∀ row ∈ entry.cases, row.status = .passed

section Steps

variable {runId : Uuid} {world : QaWorld} {entry : QaEntry}

private theorem Verified.of_traffic {database other : QaDatabase}
    {buildCommit deploymentCommit : String} {startedAt : Micros}
    {input : HermesCompletion} {reported : Reported}
    {secretScan : SecretScanEvidence} {correlated : List CorrelatedRequest}
    (same : database.traffic = other.traffic)
    (verified : Verified database buildCommit deploymentCommit startedAt input
      reported secretScan correlated) :
    Verified other buildCommit deploymentCommit startedAt input reported
      secretScan correlated where
  generation := verified.generation
  clientId := verified.clientId
  duration := verified.duration
  appCommit := verified.appCommit
  client := same ▸ verified.client
  scanned := ⟨verified.scanned.verifications, same ▸ verified.scanned.scan⟩
  scan := verified.scan
  stages := verified.stages
  requests := {
    isCorrelated := by
      have isCorrelated := verified.requests.isCorrelated
      unfold QaDatabase.correlated at isCorrelated ⊢
      exact same ▸ isCorrelated
    complete := verified.requests.complete
    succeeded := verified.requests.succeeded
    ordered := verified.requests.ordered
    window := same ▸ verified.requests.window }

private theorem Change.reconciled {op : QaOp} {changed : QaEntry}
    (change : Change world.process.settings.buildCommit world.database.traffic op
      entry changed)
    (failed : entry.run.status = .failed)
    (differs : changed.run.status ≠ .failed) :
    changed.run.status = .passed ∧
      ∃ input requestId, op = .completeHermes entry.run.id input requestId ∧
        Reconciliation input entry world := by
  cases change with
  | @completedPassed _ _ _ input _ _ _ _ _ _ ofHermes started passed expected
      verified seen finished isLive =>
      have recovers : input.recovers entry.run.status = true := by
        rw [failed, expectedRun] at expected
        split at expected
        · rename_i recovers
          exact failed.symm ▸ recovers
        · cases expected
      simp only [HermesCompletion.recovers, Bool.and_eq_true, decide_eq_true_eq]
        at recovers
      exact ⟨rfl, _, _, rfl, passed, recovers.2, ofHermes, isLive, _, _, _, _,
        started, verified.of_traffic seen⟩
  | caseStarted | caseFinished | casesClosed => exact absurd failed differs
  | runClosed active | failed active =>
      rw [failed] at active
      cases active
  | interrupted isInterrupted =>
      simp [QaRun.interrupted, failed] at isInterrupted
  | _ => simp_all

private theorem failed_serve {op : QaOp} {luck : Luck}
    (found : world.database.entry runId = some entry)
    (failed : entry.run.status = .failed) :
    ∃ later, (serve op luck world).2.database.entry runId = some later ∧
      (later.run.status = .failed ∨ later.run.status = .passed ∧
        ∃ input requestId, op = .completeHermes runId input requestId ∧
          Reconciliation input entry world) := by
  cases (serve_effect op luck world).changes with
  | inl changes =>
      cases changes runId with
      | inl same => exact ⟨entry, same.trans found, .inl failed⟩
      | inr change =>
          obtain ⟨before, later, isBefore, isLater, change⟩ := change
          rw [found] at isBefore
          cases isBefore
          refine ⟨later, isLater, ?_⟩
          by_cases still : later.run.status = .failed
          · exact .inl still
          · exact .inr (QaDatabase.id_of_entry found ▸
              change.reconciled failed still)
  | inr created =>
      obtain ⟨newId, -, -, -, -, -, created⟩ := created
      have different : runId ≠ newId := by
        intro same
        have fresh := created.fresh
        rw [← same, (QaDatabase.entry_eq_some.mp found).1] at fresh
        cases fresh
      exact ⟨entry, (created.others different).trans found, .inl failed⟩

private theorem failed_step {tasks finish : QaTasks}
    {label : TaskLabel Tag (Unit × QaOp)}
    (established : TaskSystem.Established gateway claims tasks)
    (step : gateway.Step tasks label finish)
    (found : tasks.world.database.entry runId = some entry)
    (failed : entry.run.status = .failed) :
    (∃ later, finish.world.database.entry runId = some later ∧
      later.run.status = .failed) ∨ Reconciles runId tasks label finish := by
  have sound := (gateway_proof.step established step).world.sound runId
  cases step with
  | started => exact .inl ⟨entry, found, failed⟩
  | surrounded surrounds =>
      refine .inl ⟨entry, ?_, failed⟩
      cases surrounds <;> exact found
  | @answered tag op next answer after waiting alive answers =>
      obtain ⟨luck, served⟩ := answers
      have isAfter : (serve op.2 luck tasks.world).2 = after :=
        congrArg Prod.snd served
      subst isAfter
      obtain ⟨later, isLater, outcome⟩ :=
        @failed_serve _ _ _ op.2 luck found failed
      cases outcome with
      | inl still => exact .inl ⟨later, isLater, still⟩
      | inr passed =>
          obtain ⟨passed, input, requestId, isCompletion, reconciles⟩ := passed
          exact .inr ⟨⟨tag, input, requestId, entry,
            .inl (congrArg (fun op => TaskLabel.answered tag ((), op))
              isCompletion), found, failed, reconciles⟩,
            later, isLater, passed, (sound later isLater).passed passed⟩
  | @dropped tag op next after waiting alive drops =>
      cases drops with
      | inl same => exact .inl ⟨entry, same ▸ found, failed⟩
      | inr served =>
          obtain ⟨luck, rfl⟩ := served
          obtain ⟨later, isLater, outcome⟩ :=
            @failed_serve _ _ _ op.2 luck found failed
          cases outcome with
          | inl still => exact .inl ⟨later, isLater, still⟩
          | inr passed =>
              obtain ⟨passed, input, requestId, isCompletion, reconciles⟩ :=
                passed
              exact .inr ⟨⟨tag, input, requestId, entry,
                .inr (congrArg (fun op => TaskLabel.dropped tag ((), op))
                  isCompletion), found, failed, reconciles⟩,
                later, isLater, passed, (sound later isLater).passed passed⟩

end Steps

/-- A failed run stays failed until a completion reconciles it, whatever else
happens and whatever it failed for. -/
theorem failed_until_reconciled {traffic : Traffic} {settings : Settings}
    {runId : Uuid} {tasks later : QaTasks} {entry last : QaEntry}
    {labels : List (TaskLabel Tag (Unit × QaOp))}
    (reached : Reached traffic settings tasks)
    (found : tasks.world.database.entry runId = some entry)
    (failed : entry.run.status = .failed)
    (run : Run gateway.Step tasks labels later)
    (isLast : later.world.database.entry runId = some last) :
    last.run.status = .failed ∨
      ∃ before label after early late, labels = early ++ label :: late ∧
        Run gateway.Step tasks early before ∧
        gateway.Step before label after ∧
        Run gateway.Step after late later ∧
        Reconciles runId before label after := by
  have established := reached.established
  clear reached
  induction run generalizing entry with
  | nil =>
      rw [found] at isLast
      cases isLast
      exact .inl failed
  | @cons start label middle labels finish first rest induction =>
      cases failed_step established first found failed with
      | inr reconciles =>
          exact .inr ⟨start, label, middle, [], labels, rfl, .nil start, first,
            rest, reconciles⟩
      | inl still =>
          obtain ⟨next, isNext, stillFailed⟩ := still
          cases induction isNext stillFailed isLast
            (gateway_proof.step established first) with
          | inl ends => exact .inl ends
          | inr reconciled =>
              obtain ⟨before, moment, after, early, late, same, begins, step, ends,
                reconciles⟩ := reconciled
              exact .inr ⟨before, moment, after, label :: early, late,
                congrArg (List.cons label) same, .cons first begins, step, ends,
                reconciles⟩

private def failedRequest : List Happening :=
  Sample.armed ++ [.completes 0 Sample.runId Sample.failedCompletion 801]

/-- Another completion, which says that the cutover had been committed. -/
private def secondRequest : List Happening :=
  [.completes 1 Sample.runId Sample.reconciliation 802,
    .answers (.completion 1) Sample.luck]

private def statusOf (tasks : QaTasks) : Option RunStatus :=
  (tasks.world.database.runs.find? Sample.runId).map QaRun.status

private theorem sample_reconciled :
    ∃ tasks, Reached Sample.traffic Sample.settings tasks ∧
      ∃ next, gateway.Step tasks (.answered ⟨tasks.world.process.epoch,
        .completion 0⟩ ((), .completeHermes Sample.runId
          Sample.failedCompletion 801)) next ∧
        ∃ entry, next.world.database.entry Sample.runId = some entry ∧
          entry.run.status = .failed ∧
          ∃ labels later, Run gateway.Step next labels later ∧
            ∃ last, later.world.database.entry Sample.runId = some last ∧
              last.run.status = .passed := by
  have entry_of_status : ∀ {tasks : QaTasks} {status : RunStatus},
      statusOf tasks = some status →
        ∃ entry, tasks.world.database.entry Sample.runId = some entry ∧
          entry.run.status = status := by
    intro tasks status same
    obtain ⟨run, found, isStatus⟩ := Option.map_eq_some_iff.mp same
    exact ⟨_, QaDatabase.entry_of_find found, isStatus⟩
  obtain ⟨tasks, reached, shown⟩ := @reached_of_unfolds Sample.traffic
    Sample.settings failedRequest
    (fun tasks =>
      asks (.completion 0) tasks = some (.completeHermes Sample.runId
        Sample.failedCompletion 801) &&
      (happen (.answers (.completion 0) Sample.luck) tasks).any fun next =>
        statusOf next = some .failed &&
          (unfolds secondRequest next).any fun later =>
            statusOf later = some .passed)
    (by decide +kernel)
  simp only [Bool.and_eq_true, decide_eq_true_eq, Option.any_eq_true] at shown
  obtain ⟨asked, next, happened, failed, later, unfolded, passed⟩ := shown
  obtain ⟨same, isSame, step, -⟩ := @happen_answers _ _ Sample.luck _ asked
  rw [happened] at isSame
  cases isSame
  obtain ⟨labels, run⟩ := unfolds_run unfolded
  obtain ⟨entry, found, isFailed⟩ := entry_of_status failed
  exact ⟨tasks, reached, next, step, entry, found, isFailed, labels, later, run,
    entry_of_status passed⟩

theorem failed_until_reconciled_sample :
    ∃ tasks later : QaTasks, ∃ labels, Run gateway.Step tasks labels later ∧
      ∃ before label after, gateway.Step before label after ∧
        Reconciles Sample.runId before label after := by
  obtain ⟨tasks, reached, next, step, entry, found, failed, labels, later, run,
    last, isLast, passed⟩ := sample_reconciled
  have nextReached : Reached Sample.traffic Sample.settings next := by
    obtain ⟨labels, run⟩ := reached
    exact ⟨_, run.snoc step⟩
  refine ⟨next, later, labels, run, ?_⟩
  cases failed_until_reconciled nextReached found failed run isLast with
  | inl still =>
      rw [passed] at still
      cases still
  | inr reconciled =>
      obtain ⟨before, label, after, -, -, -, -, step, -, reconciles⟩ := reconciled
      exact ⟨before, label, after, step, reconciles⟩

/-- A completion that reports a failure, and one that reconciles it. -/
theorem failed_completion_reconciled :
    ¬ ∀ {traffic settings} {before mid later : QaTasks} {tag runId input requestId
        labels entry last},
      Reached traffic settings before →
      gateway.Step before (.answered tag ((), .completeHermes runId input
        requestId)) mid →
      input.status = "failed" →
      mid.world.database.entry runId = some entry →
      entry.run.status = .failed →
      Run gateway.Step mid labels later →
      later.world.database.entry runId = some last →
        last.run.status ≠ .passed := by
  intro final
  obtain ⟨tasks, reached, next, step, entry, found, failed, labels, later, run,
    last, isLast, passed⟩ := sample_reconciled
  exact final reached step rfl found failed run isLast passed

end NvidiaBuildLb.Qa
