import NvidiaBuildLb.Hermes.Processes
import NvidiaBuildLb.Hermes.Recording

namespace NvidiaBuildLb.Hermes.Recording

open Foundation NvidiaBuildLb.Core
open Helper

/-! What an uninterrupted run of the helper leaves of its rollbacks. -/

variable {primitives : Primitives} {earlier : List Uuid}
  {condition : Memory → World → Prop}

section Fading

variable (fading : Fading condition)
include fading

theorem keeps_cleanupSnapshotStage (generation : Uuid) :
    Routine.Keeps (recording primitives earlier) condition
      (cleanupSnapshotStage generation) := by
  refine Routine.Keeps.bind (keeps_call fading rfl) fun _ => ?_
  refine Routine.Keeps.bind (keeps_call fading rfl) fun entries => ?_
  refine Routine.Keeps.bind (Routine.Keeps.each ?_ entries) fun _ => ?_
  · intro entry
    cases entry with
    | file file =>
        exact Routine.Keeps.bind (keeps_call fading rfl) fun _ =>
          keeps_call fading rfl
    | temporary file nonce =>
        exact Routine.Keeps.bind (keeps_call fading rfl) fun _ =>
          keeps_call fading rfl
    | other name => exact keeps_bail
  · exact Routine.Keeps.bind (keeps_call fading rfl) fun _ =>
      keeps_call fading rfl

theorem keeps_restoreSnapshot (generation : Uuid) :
    Routine.Keeps (recording primitives earlier) condition
      (restoreSnapshot generation) := by
  have looking := @looks primitives earlier _ fading
  refine Routine.Keeps.bind (keeps_verifySnapshot looking _) fun _ => ?_
  refine Routine.Keeps.bind (keeps_update fading fun _ => rfl) fun _ => ?_
  refine Routine.Keeps.bind (keeps_readBytes looking _) fun env => ?_
  refine Routine.Keeps.bind (keeps_write fading rfl _) fun _ => ?_
  refine Routine.Keeps.bind (keeps_readBytes looking _) fun config => ?_
  refine Routine.Keeps.bind (keeps_write fading rfl _) fun _ => ?_
  exact keeps_update fading fun _ => rfl

theorem keeps_revokePreviousClients (keep : Uuid) :
    Routine.Keeps (recording primitives earlier) condition
      (revokePreviousClients keep) := by
  refine Routine.Keeps.bind (keeps_call fading rfl) fun clients => ?_
  refine Routine.Keeps.each (fun item => ?_) clients
  split
  · exact keeps_call fading rfl
  · exact keeps_pure

theorem keeps_reconcileRemoteState (receipt : SafeReceipt) :
    Routine.Keeps (recording primitives earlier) condition
      (reconcileRemoteState receipt) := by
  refine Routine.Keeps.bind (keeps_update fading fun _ => rfl) fun _ => ?_
  refine Routine.Keeps.bind (keeps_revokePreviousClients fading _) fun _ => ?_
  refine Routine.Keeps.bind (keeps_update fading fun _ => rfl) fun _ => ?_
  cases receipt.qaRunId with
  | none => exact keeps_pure
  | some runId => exact keeps_call fading rfl

theorem keeps_reportFailed (runId : Uuid) :
    Routine.Keeps (recording primitives earlier) condition
      (ignore (reportFailedHermesRun runId)) :=
  keeps_ignore (keeps_call fading rfl)

theorem keeps_finishRetiredBackupCleanup (generation : Uuid) :
    Routine.Keeps (recording primitives earlier) condition
      (finishRetiredBackupCleanup generation) := by
  have looking := @looks primitives earlier _ fading
  refine Routine.Keeps.bind (keeps_pathExists looking _) fun found => ?_
  cases found with
  | false => exact Routine.Keeps.bind (keeps_call fading rfl) fun _ => keeps_pure
  | true =>
      refine Routine.Keeps.bind (keeps_call fading rfl) fun _ => ?_
      refine Routine.Keeps.bind (keeps_call fading rfl) fun entries => ?_
      refine Routine.Keeps.bind (Routine.Keeps.each ?_ entries) fun _ => ?_
      · intro entry
        cases entry with
        | file file => exact keeps_call fading rfl
        | temporary file nonce => exact keeps_bail
        | other name => exact keeps_bail
      refine Routine.Keeps.bind (Routine.Keeps.each ?_ _) fun _ => ?_
      · intro path
        refine Routine.Keeps.bind (keeps_pathExists looking _) fun found => ?_
        cases found with
        | false => exact keeps_pure
        | true =>
            exact Routine.Keeps.bind (keeps_call fading rfl) fun _ =>
              keeps_call fading rfl
      refine Routine.Keeps.bind (keeps_call fading rfl) fun _ => ?_
      refine Routine.Keeps.bind (keeps_call fading rfl) fun _ => ?_
      exact keeps_call fading rfl

theorem keeps_retireBackup (embeddedCommit : String) (generation : Uuid)
    (providerRevoked : Bool) :
    Routine.Keeps (recording primitives earlier) condition
      (retireBackup embeddedCommit generation providerRevoked) := by
  have looking := @looks primitives earlier _ fading
  have finishes := @keeps_finishRetiredBackupCleanup primitives earlier _ fading
    generation
  unfold retireBackup
  dsimp only
  split
  · exact keeps_bail
  refine Routine.Keeps.bind (keeps_ensureRootDirectory looking _) fun _ => ?_
  refine Routine.Keeps.bind (keeps_ensureRootDirectory looking _) fun _ => ?_
  refine Routine.Keeps.bind (keeps_ensureRootDirectory looking _) fun _ => ?_
  refine Routine.Keeps.bind (keeps_pathExists looking _) fun found => ?_
  cases found with
  | true =>
      refine Routine.Keeps.bind (keeps_readRetirementReceipt looking _)
        fun receipt => ?_
      split
      · exact keeps_bail
      · exact finishes
  | false =>
      refine Routine.Keeps.bind (keeps_call fading rfl) fun _ => ?_
      refine Routine.Keeps.bind (keeps_verifySnapshot looking _) fun _ => ?_
      refine Routine.Keeps.bind (keeps_call fading rfl) fun _ => ?_
      refine Routine.Keeps.bind (keeps_readJournal looking _) fun journal => ?_
      split
      · exact keeps_bail
      cases journal.clientId with
      | none => exact keeps_bail
      | some clientId =>
          refine Routine.Keeps.bind (keeps_call fading rfl) fun _ => ?_
          refine Routine.Keeps.bind (keeps_readReceipt looking _)
            fun cutover => ?_
          split
          · exact keeps_bail
          refine Routine.Keeps.bind (keeps_readManifest looking _)
            fun manifest => ?_
          refine Routine.Keeps.bind (keeps_write fading rfl _) fun _ => ?_
          exact Routine.Keeps.bind (keeps_call fading rfl) fun _ => finishes

end Fading

theorem meets_rollbackAfterFailure (generation : Uuid) :
    Routine.Meets (recording primitives earlier) RollbacksRecorded
      (rollbackAfterFailure generation) (fun _ => RecordedBut generation)
      RollbacksRecorded := by
  have looking := @looks primitives earlier _ fading_recorded
  have docks := keeps_docker looking
  refine Routine.Meets.bind (keeps_ignore (docks _)) fun _ => ?_
  refine Routine.Meets.bind (keeps_restoreSnapshot fading_recorded _)
    fun _ => ?_
  refine Routine.Meets.bind (docks _) fun _ => ?_
  refine Routine.Meets.bind (Routine.Meets.attempt
    (keeps_waitForContainerHealth looking)) fun result => ?_
  cases result with
  | ok value =>
      intro memory world recorded other member different
      rcases List.mem_cons.mp member with same | before
      · exact absurd same different
      · exact recorded other before
  | error failure =>
      refine Routine.Meets.bind (keeps_ignore (docks _)) fun _ => ?_
      exact fun _ _ recorded => recorded

private theorem meets_interruptedClient (generation : Uuid)
    (journal : RecoveryJournal) :
    Routine.Meets (recording primitives earlier) (RecordedBut generation)
      (interruptedClient journal) (fun _ => RecordedBut generation)
      RollbacksRecorded := by
  unfold interruptedClient
  split
  · exact fun _ _ holds => holds
  · refine Routine.Meets.bind ((meets_fading (fading_recordedBut generation)
      rfl).consequence (fun _ _ holds => holds) (fun _ _ _ holds => holds)
      fun _ _ holds => holds.2) fun clients => ?_
    exact fun _ _ holds => holds
  · exact fun _ _ holds => holds

theorem meets_recoverRolledBack {generation : Uuid} (journal : RecoveryJournal)
    {settled : JournalState} (records : settled.callsForRollback = false) :
    Routine.Meets (recording primitives earlier) (RecordedBut generation)
      (recoverRolledBack generation journal settled)
      (fun _ => RollbacksRecorded) RollbacksRecorded := by
  refine Routine.Meets.bind (meets_interruptedClient generation journal)
    fun clientId => ?_
  cases clientId with
  | none => exact meets_record records _ _
  | some id =>
      refine Routine.Meets.bind ((meets_fading (fading_recordedBut generation)
        rfl).consequence (fun _ _ holds => holds) (fun _ _ _ holds => holds)
        fun _ _ holds => holds.2) fun _ => ?_
      exact meets_record records _ _

theorem keeps_recoverGeneration (embeddedCommit : String) (generation : Uuid) :
    Routine.Keeps (recording primitives earlier) RollbacksRecorded
      (recoverGeneration embeddedCommit generation) := by
  have looking := @looks primitives earlier _ fading_recorded
  refine Routine.Keeps.bind (keeps_readRecoveryJournal looking _)
    fun journal => ?_
  refine Routine.Keeps.bind Routine.Keeps.lift fun action => ?_
  cases action with
  | none => exact keeps_pure
  | reconcileCommitted =>
      refine Routine.Keeps.bind (keeps_loadCommittedReceipt looking _ _ _)
        fun receipt => ?_
      refine Routine.Keeps.bind (keeps_reconcileRemoteState fading_recorded _)
        fun _ => ?_
      exact Routine.Keeps.bind (keeps_record rfl _ _) fun _ => keeps_pure
  | rollbackAndRevoke =>
      refine Routine.Meets.bind (meets_rollbackAfterFailure generation)
        fun _ => ?_
      exact Routine.Meets.bind (meets_recoverRolledBack journal rfl)
        fun _ => keeps_pure
  | revokeAfterRollback =>
      exact Routine.Meets.bind ((meets_recoverRolledBack journal
        rfl).strengthen fun _ _ holds => holds.but generation)
        fun _ => keeps_pure

theorem keeps_collectBackups (entries : List BackupEntry) :
    Routine.Keeps (recording primitives earlier) RollbacksRecorded
      (collectBackups entries) := by
  induction entries with
  | nil => exact keeps_pure
  | cons entry rest induction =>
      cases entry with
      | other name => exact keeps_bail
      | stage generation =>
          exact Routine.Keeps.bind (keeps_cleanupSnapshotStage fading_recorded _)
            fun _ => induction
      | generation generation =>
          refine Routine.Keeps.bind (keeps_call fading_recorded rfl) fun _ => ?_
          refine Routine.Keeps.bind (keeps_verifySnapshot
            (looks fading_recorded) _) fun _ => ?_
          exact Routine.Keeps.bind induction fun _ => keeps_pure

theorem keeps_recoverGenerations (embeddedCommit : String)
    (generations : List Uuid) :
    Routine.Keeps (recording primitives earlier) RollbacksRecorded
      (recoverGenerations embeddedCommit generations) := by
  induction generations with
  | nil => exact keeps_pure
  | cons generation rest induction =>
      refine Routine.Keeps.bind (keeps_recoverGeneration _ _)
        fun reconciled => ?_
      exact Routine.Keeps.bind induction fun _ => keeps_pure

theorem keeps_recoverIncompleteCutovers (embeddedCommit : String) :
    Routine.Keeps (recording primitives earlier) RollbacksRecorded
      (recoverIncompleteCutovers embeddedCommit) := by
  have looking := @looks primitives earlier _ fading_recorded
  refine Routine.Keeps.bind (keeps_pathExists looking _) fun found => ?_
  cases found with
  | false => exact keeps_pure
  | true =>
      refine Routine.Keeps.bind (keeps_ensureRootDirectory looking _)
        fun _ => ?_
      refine Routine.Keeps.bind (keeps_call fading_recorded rfl)
        fun entries => ?_
      refine Routine.Keeps.bind (keeps_collectBackups entries) fun backups => ?_
      exact keeps_recoverGenerations embeddedCommit _

theorem meets_newGeneration :
    Routine.Meets (recording primitives earlier) RollbacksRecorded
      (call .newUuid) Unissued RollbacksRecorded := by
  apply meets_call
  · exact fun _ _ recorded _ _ => recorded
  · intro memory world generation after recorded lasting _ performs
    have fades := performs.fades rfl
    obtain ⟨new, rfl⟩ := performs
    refine ⟨⟨fading_recorded.world fades recorded, ?_⟩, ?_⟩
    · exact fun member => new (lasting.2 generation member)
    · exact fun item member label =>
        new (lasting.1.issued item member generation label)
  · intro memory world generation after recorded _ performs
    have later := fading_recorded.world (performs.fades rfl) recorded
    exact ⟨later, fun _ => later⟩

private theorem keeps_publishStage (generation : Uuid) :
    Routine.Keeps (recording primitives earlier) (Unissued generation)
      (call (.publishStage generation)) := by
  have published : ∀ {memory world}, Unissued generation memory world →
      Unissued generation memory (world.publish generation) := by
    intro memory world holds
    refine ⟨⟨?_, holds.1.2⟩, holds.2⟩
    intro other member journal at_
    have different : other ≠ generation :=
      fun same => holds.1.2 (same ▸ member)
    unfold JournalAt World.publish at at_
    simp only [if_neg different] at at_
    exact holds.1.1 other member journal at_
  apply meets_call
  · exact fun memory world holds _ _ => holds
  · intro memory world _ after holds _ _ performs
    obtain ⟨-, -, rfl⟩ := performs
    exact published holds
  · intro memory world _ after holds _ performs
    obtain ⟨-, -, rfl⟩ := performs
    exact ⟨(published holds).1.1, fun _ => published holds⟩

theorem keeps_snapshot (generation : Uuid) (operationLabel : String) :
    Routine.Keeps (recording primitives earlier) (Unissued generation)
      (snapshot generation operationLabel) := by
  have fading := fading_unissued generation
  have looking := @looks primitives earlier _ fading
  refine Routine.Keeps.bind (keeps_ensureRootDirectory looking _) fun _ => ?_
  refine Routine.Keeps.bind (keeps_pathExists looking _) fun staged => ?_
  refine Routine.Keeps.bind (keeps_pathExists looking _) fun published => ?_
  dsimp only
  split
  · exact fun _ _ holds => holds
  refine Routine.Keeps.bind (keeps_call fading rfl) fun _ => ?_
  refine Routine.Keeps.bind (Routine.Keeps.attempt ?_) fun result => ?_
  · refine Routine.Keeps.bind (Routine.Keeps.bind (keeps_readBytes looking _)
      fun env => keeps_write fading rfl _) fun _ => ?_
    refine Routine.Keeps.bind (Routine.Keeps.bind (keeps_readBytes looking _)
      fun config => keeps_write fading rfl _) fun _ => ?_
    refine Routine.Keeps.bind (keeps_call fading rfl) fun envSha256 => ?_
    refine Routine.Keeps.bind (keeps_call fading rfl) fun configSha256 => ?_
    refine Routine.Keeps.bind (keeps_write fading rfl _) fun _ => ?_
    refine Routine.Keeps.bind (keeps_write fading rfl _) fun _ => ?_
    refine Routine.Keeps.bind (keeps_call fading rfl) fun _ => ?_
    refine Routine.Keeps.bind (keeps_publishStage generation) fun _ => ?_
    exact keeps_call fading rfl
  · cases result with
    | ok value => exact keeps_pure
    | error failure =>
        exact Routine.Keeps.bind (keeps_ignore
          (keeps_cleanupSnapshotStage fading _)) fun _ => keeps_leave

/-- No client bears the label of a generation just drawn, so there is no
conflict either. -/
theorem meets_issueOrRotateClient (generation : Uuid) :
    Routine.Meets (recording primitives earlier) (Unissued generation)
      (issueOrRotateClient (operationLabelOf generation))
      (fun _ => Unrolled generation) (fun _ _ => False) := by
  let issued (reply : CreateReply) (memory : Memory) (world : World) : Prop :=
    Unrolled generation memory world ∧ ∃ response, reply = .created response
  refine @Routine.Meets.bind _ _ _ _ _ _ _ _ _ _ _ _ issued _ ?_
    fun reply => ?_
  · apply meets_call
    · exact fun _ _ _ issues => absurd trivial issues
    · intro memory world reply after holds _ issues performs
      cases reply with
      | created response =>
          obtain ⟨-, -, -, -, rfl⟩ := performs
          exact ⟨holds.1, response, rfl⟩
      | conflict =>
          obtain ⟨⟨item, member, -, label⟩, -⟩ := performs
          exact absurd label (holds.2 item member)
      | rejected status => exact absurd trivial issues
    · intro memory world reply after holds _ performs
      refine ⟨?_, fun issues => absurd trivial issues⟩
      cases reply with
      | created response =>
          obtain ⟨-, -, -, -, rfl⟩ := performs
          exact holds.1.1
      | conflict => exact performs.2 ▸ holds.1.1
      | rejected status =>
          subst performs
          exact holds.1.1
  · refine (Routine.Meets.exists fun response => ?_).strengthen
      fun memory world holds => holds.2.imp fun response same =>
        (⟨same, holds.1⟩ : reply = .created response ∧
          Unrolled generation memory world)
    refine Routine.Meets.assuming fun same => ?_
    subst same
    exact fun _ _ holds => holds

theorem keeps_candidateApplication (embeddedCommit : String) (generation : Uuid)
    (label : String) (issued : MutationResponse) (qaRunId : Uuid) :
    Routine.Keeps (recording primitives earlier) (Unrolled generation)
      (candidateApplication embeddedCommit generation label issued
        qaRunId) := by
  have fading := fading_unrolled generation
  have looking := @looks primitives earlier _ fading
  have docks := keeps_docker looking
  have healthy := keeps_waitForContainerHealth looking
  have restores := @keeps_restoreSnapshot primitives earlier _ fading generation
  refine Routine.Keeps.bind (keeps_update fading fun _ => rfl) fun _ => ?_
  refine Routine.Keeps.bind (keeps_readToString looking _) fun env => ?_
  refine Routine.Keeps.bind (keeps_readToString looking _) fun config => ?_
  refine Routine.Keeps.bind Routine.Keeps.lift fun candidateConfig => ?_
  refine Routine.Keeps.bind (keeps_writeUnrolled _ _ _) fun _ => ?_
  refine Routine.Keeps.bind (docks _) fun _ => ?_
  refine Routine.Keeps.bind (keeps_write fading rfl _) fun _ => ?_
  refine Routine.Keeps.bind (keeps_write fading rfl _) fun _ => ?_
  refine Routine.Keeps.bind (looking.call rfl) fun _ => ?_
  refine Routine.Keeps.bind (keeps_writeUnrolled _ _ _) fun _ => ?_
  refine Routine.Keeps.bind (docks _) fun _ => ?_
  refine Routine.Keeps.bind healthy fun _ => ?_
  refine Routine.Keeps.bind (looking.call rfl) fun first => ?_
  refine Routine.Keeps.bind (docks _) fun _ => ?_
  refine Routine.Keeps.bind restores fun _ => ?_
  refine Routine.Keeps.bind (docks _) fun _ => ?_
  refine Routine.Keeps.bind healthy fun _ => ?_
  refine Routine.Keeps.bind (docks _) fun _ => ?_
  refine Routine.Keeps.bind (keeps_write fading rfl _) fun _ => ?_
  refine Routine.Keeps.bind (keeps_write fading rfl _) fun _ => ?_
  refine Routine.Keeps.bind (docks _) fun _ => ?_
  refine Routine.Keeps.bind healthy fun _ => ?_
  refine Routine.Keeps.bind (looking.call rfl) fun second => ?_
  refine Routine.Keeps.bind (looking.call rfl) fun secretScan => ?_
  refine Routine.Keeps.bind (Routine.Keeps.bind
    (keeps_ensureRootDirectory looking _) fun _ => keeps_write fading rfl _)
    fun _ => ?_
  refine Routine.Keeps.bind (keeps_writeUnrolled _ _ _) fun _ => ?_
  exact keeps_pure

theorem meets_abandonCandidate (generation : Uuid) (label : String)
    (clientId qaRunId : Uuid) :
    Routine.Meets (recording primitives earlier) RollbacksRecorded
      (abandonCandidate generation label clientId qaRunId)
      (fun _ => RollbacksRecorded) RollbacksRecorded := by
  have reports := @keeps_reportFailed primitives earlier _ fading_recorded
    qaRunId
  refine Routine.Meets.bind (Routine.Meets.attempt
    (meets_rollbackAfterFailure generation)) fun result => ?_
  cases result with
  | error failure => exact reports
  | ok value =>
      -- The write fails only where the rollback is recorded already.
      refine @Routine.Meets.bind _ _ _ _ _ _ _ _ _ _ _ _
        (fun _ => RollbacksRecorded) _ ?_ fun _ => ?_
      · refine Routine.Meets.bind (Routine.Meets.attempt
          (meets_record rfl _ _)) fun result => ?_
        cases result <;> exact fun _ _ recorded => recorded
      refine Routine.Keeps.bind (Routine.Keeps.attempt
        (keeps_call fading_recorded rfl)) fun result => ?_
      cases result with
      | error failure => exact reports
      | ok value =>
          exact Routine.Keeps.bind (keeps_ignore (keeps_record rfl _ _))
            fun _ => reports

theorem keeps_apply (embeddedCommit : String) (qaRunId : Uuid) :
    Routine.Keeps (recording primitives earlier) RollbacksRecorded
      (apply embeddedCommit qaRunId) := by
  have reports := @keeps_reportFailed primitives earlier _ fading_recorded
    qaRunId
  refine Routine.Meets.bind meets_newGeneration fun generation => ?_
  refine Routine.Meets.bind (Routine.Meets.attempt (keeps_snapshot _ _))
    fun result => ?_
  cases result with
  | error failure =>
      refine Routine.Meets.bind (reports.strengthen fun _ _ holds => holds.1.1)
        fun _ => ?_
      exact keeps_leave
  | ok value =>
      refine Routine.Meets.bind (Routine.Meets.attempt
        (meets_issueOrRotateClient generation)) fun result => ?_
      cases result with
      | error failure =>
          intro _ _ impossible
          cases impossible
      | ok issued =>
          refine Routine.Meets.bind (Routine.Meets.attempt
            (keeps_candidateApplication embeddedCommit _ _ issued _))
            fun result => ?_
          cases result with
          | error failure =>
              refine Routine.Meets.bind ((meets_abandonCandidate _ _ _
                _).strengthen fun _ _ holds => holds.1) fun _ => ?_
              exact keeps_leave
          | ok receipt =>
              refine Routine.Meets.bind ((Routine.Keeps.attempt
                (Routine.Keeps.bind (keeps_reconcileRemoteState fading_recorded
                  receipt) fun _ => keeps_record rfl _ _)).strengthen
                fun _ _ holds => holds.1) fun result => ?_
              cases result with
              | ok value => exact keeps_pure
              | error failure =>
                  exact Routine.Keeps.bind (keeps_ignore (keeps_record rfl _ _))
                    fun _ => keeps_leave

theorem keeps_perform (embeddedCommit : String) (action : Action) :
    Routine.Keeps (recording primitives earlier) RollbacksRecorded
      (perform embeddedCommit action) := by
  have looking := @looks primitives earlier _ fading_recorded
  refine Routine.Keeps.bind (Routine.Keeps.attempt (keeps_preflight looking))
    fun result => ?_
  cases result with
  | error failure =>
      cases action with
      | apply runId =>
          exact Routine.Keeps.bind (keeps_reportFailed fading_recorded runId)
            fun _ => keeps_leave
      | preflight => exact keeps_leave
      | verify => exact keeps_leave
      | retireBackup generation providerRevoked => exact keeps_leave
  | ok value =>
      cases action with
      | preflight => exact keeps_pure
      | retireBackup generation providerRevoked => exact keeps_pure
      | apply runId => exact keeps_apply embeddedCommit runId
      | verify =>
          refine Routine.Keeps.bind (looking.call rfl) fun clients => ?_
          split
          · exact Routine.Keeps.bind (looking.call rfl) fun _ => keeps_pure
          · exact keeps_bail

theorem keeps_underLock (embeddedCommit expectedCommit : String)
    (action : Action) (intent : QaRunIntent) :
    Routine.Keeps (recording primitives earlier) RollbacksRecorded
      (underLock embeddedCommit expectedCommit action intent) := by
  have looking := @looks primitives earlier _ fading_recorded
  refine Routine.Keeps.bind (cleans fading_recorded _ _) fun _ => ?_
  refine Routine.Keeps.bind (keeps_recoverIncompleteCutovers embeddedCommit)
    fun reconciledRuns => ?_
  split
  · exact keeps_perform embeddedCommit action
  · refine Routine.Keeps.bind ?_ fun complete => ?_
    · refine Routine.Keeps.bind (keeps_validateQaRunTarget looking _ _ _)
        fun refreshed => ?_
      have starts : Routine.Keeps (recording primitives earlier)
          RollbacksRecorded (if intent = .start then pure false else
            bail <| "matching committed Hermes recovery was not " ++
              "reconciled" : Helper Bool) := by
        split
        · exact keeps_pure
        · exact keeps_bail
      have decides : ∀ localReconciled next,
          Routine.Keeps (recording primitives earlier) RollbacksRecorded
            (next .complete) →
          Routine.Keeps (recording primitives earlier) RollbacksRecorded
            (next .start) →
          Routine.Keeps (recording primitives earlier) RollbacksRecorded
            (Routine.lift (postLockQaDecision refreshed.status
              localReconciled) >>= next : Helper Bool) := by
        intro localReconciled next complete start
        refine Routine.Keeps.bind Routine.Keeps.lift fun decision => ?_
        cases decision with
        | complete => exact complete
        | start => exact start
      dsimp only
      split
      · exact decides true _ keeps_pure starts
      · exact Routine.Keeps.bind (keeps_hasMatchingLocalGeneration looking
          (fun generation => cleans fading_recorded _ _) _ _ _)
          fun localReconciled => decides localReconciled _ keeps_pure starts
    · cases complete with
      | true => exact keeps_pure
      | false => exact keeps_perform embeddedCommit action

theorem keeps_run (embeddedCommit expectedCommit : String) (action : Action) :
    Routine.Keeps (recording primitives earlier) RollbacksRecorded
      (run embeddedCommit expectedCommit action) := by
  have looking := @looks primitives earlier _ fading_recorded
  rw [run_eq]
  refine Routine.Keeps.bind (keeps_beforeLock _ _ looking
    (fun generation => cleans fading_recorded _ _) action) fun intent => ?_
  refine Routine.Keeps.bind (keeps_call fading_recorded rfl) fun _ => ?_
  cases action with
  | retireBackup generation providerRevoked =>
      exact keeps_retireBackup fading_recorded embeddedCommit generation
        providerRevoked
  | preflight =>
      exact keeps_underLock embeddedCommit expectedCommit .preflight intent
  | apply qaRunId =>
      exact keeps_underLock embeddedCommit expectedCommit (.apply qaRunId) intent
  | verify => exact keeps_underLock embeddedCommit expectedCommit .verify intent

end NvidiaBuildLb.Hermes.Recording
