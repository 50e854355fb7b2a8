import NvidiaBuildLb.Hermes.SoleRoutines

namespace NvidiaBuildLb.Hermes

open Foundation NvidiaBuildLb.Core

/-! A recovery that returns leaves no generation under way, and whatever else a
helper does under the lock keeps the invariant. -/

/-- The generations on the machine are the listed ones, of which recovery has
walked over some. -/
structure Walked (listed done : List Uuid) (world : World) : Prop where
  done : ∀ generation ∈ done, ¬ world.Live generation
  listed : ∀ generation ∈ world.generations, generation ∈ listed
  published : ∀ generation, world.Live generation →
    generation ∈ world.generations

theorem walked_persistent (listed done : List Uuid) :
    Persistent (Walked listed done) := by
  intro before after alike walked
  exact {
    done := fun generation member isLive =>
      walked.done generation member (alike.live.mp isLive)
    listed := fun generation member =>
      walked.listed generation (alike.generations ▸ member)
    published := fun generation isLive => by
      rw [alike.generations]
      exact walked.published generation (alike.live.mp isLive) }

theorem Walked.quiescent {listed done : List Uuid} {world : World}
    (walked : Walked listed done world)
    (all : ∀ generation ∈ listed, generation ∈ done) (generation : Uuid) :
    ¬ world.Live generation :=
  fun isLive => walked.done generation (all generation
    (walked.listed generation (walked.published generation isLive))) isLive

theorem journal_persistent (generation : Uuid) (journal : RecoveryJournal) :
    Persistent fun world => JournalAt world generation journal :=
  fun _ _ alike at_ => alike.journalAt.mpr at_

namespace Sequel

open Helper

variable {primitives : Primitives} {listed done : List Uuid}
  {generation : Uuid}

theorem meets_settle {extra : World → Prop} (persistent : Persistent extra)
    {state : JournalState} (terminal : state.terminal = true)
    {operationLabel : Option String} {clientId : Option Uuid}
    (closes : ∀ world, extra world → Sole world →
      generation ∈ world.used ∧ world.Closed generation) :
    Routine.Meets (critical primitives Sole)
      (Fact fun world => Walked listed done world ∧ extra world)
      (writeJournal (.snapshot generation .journal) state operationLabel
        clientId)
      (fun _ => Fact (Walked listed (generation :: done)))
      (Fact fun _ => True) := by
  have lasts := walked_persistent listed
  apply meets_writeJournal ((lasts done).and persistent)
    (lasts (generation :: done)) true_persistent
  · intro world ⟨walked, holds⟩ sole
    obtain ⟨used, closed⟩ := closes world holds sole
    have live_of : ∀ {other : Uuid}, (world.replaceFile
        (.snapshot generation .journal) (.journal
          (written state operationLabel clientId))).Live other →
        other ≠ generation ∧ world.Live other := by
      intro other ⟨found, at_, live⟩
      rw [journalAt_replace] at at_
      split at at_
      · subst at_
        rw [show (written state operationLabel clientId).state = state from rfl,
          terminal] at live
        cases live
      · rename_i different
        exact ⟨different, found, at_, live⟩
    refine ⟨sole.journal used ?_ ?_ (fun _ => closed) ?_, ?_⟩
    · intro live
      rw [show (written state operationLabel clientId).state = state from rfl,
        terminal] at live
      cases live
    · intro unfinished
      have isState : state.unfinished = true := unfinished
      cases state <;>
        simp only [JournalState.unfinished, JournalState.terminal,
          Bool.false_eq_true] at isState terminal
    · intro committed
      have isState : state = .committed := committed
      subst isState
      cases terminal
    · exact {
        done := by
          intro other member isLive
          rcases List.mem_cons.mp member with same | old
          · exact (live_of isLive).1 same
          · exact walked.done other old (live_of isLive).2
        listed := walked.listed
        published := fun other isLive =>
          walked.published other (live_of isLive).2 }
  · exact fun _ _ => trivial
  · exact fun _ _ => trivial

theorem meets_readJournal {fact : World → Prop}
    (persistent : Persistent fact) :
    Routine.Meets (critical primitives Sole) (Fact fact)
      (readJournal (.snapshot generation .journal))
      (fun journal => Fact fun world => fact world ∧
        JournalAt world generation journal) (Fact fact) := by
  refine Routine.Meets.bind (@Critical.meets_look primitives _ sole_robust _
    persistent.stable _ rfl (fun content world =>
      world.files (.snapshot generation .journal) = some content) ?_)
    fun content => ?_
  · intro world content after performs
    exact performs.2 ▸ performs.1
  · cases content with
    | journal value => exact fun _ _ holds => holds
    | _ => exact fun _ _ holds => holds.1

theorem meets_readRecoveryJournal {fact : World → Prop}
    (persistent : Persistent fact) :
    Routine.Meets (critical primitives Sole) (Fact fact)
      (readRecoveryJournal generation)
      (fun journal => Fact fun world => fact world ∧
        JournalAt world generation journal) (Fact fact) := by
  have looking := @looks primitives _ persistent
  refine Routine.Meets.bind (keeps_pathExists looking _) fun found => ?_
  have reads : Routine.Meets (critical primitives Sole) (Fact fact)
      (do
        call (.validate (.file (.snapshot generation .journal)))
        readJournal (.snapshot generation .journal))
      (fun journal => Fact fun world => fact world ∧
        JournalAt world generation journal) (Fact fact) :=
    Routine.Meets.bind (looking.call rfl) fun _ => meets_readJournal persistent
  cases found with
  | true => exact reads
  | false => exact Routine.Meets.bind keeps_bail fun _ => reads

theorem meets_loadCommittedReceipt {fact : World → Prop}
    (persistent : Persistent fact) (embeddedCommit : String)
    (journal : RecoveryJournal) :
    Routine.Meets (critical primitives Sole) (Fact fact)
      (loadCommittedReceipt embeddedCommit generation journal)
      (fun receipt => Fact fun world => fact world ∧
        world.files (.receipt generation) = some (.receipt receipt))
      (Fact fact) := by
  have looking := @looks primitives _ persistent
  refine Routine.Meets.bind (looking.call rfl) fun _ => ?_
  have reads : Routine.Meets (critical primitives Sole) (Fact fact)
      (readReceipt (.receipt generation))
      (fun receipt => Fact fun world => fact world ∧
        world.files (.receipt generation) = some (.receipt receipt))
      (Fact fact) := by
    refine Routine.Meets.bind (@Critical.meets_look primitives _ sole_robust _
      persistent.stable _ rfl (fun content world =>
        world.files (.receipt generation) = some content) ?_) fun content => ?_
    · intro world content after performs
      exact performs.2 ▸ performs.1
    · cases content with
      | receipt value => exact fun _ _ holds => holds
      | _ => exact fun _ _ holds => holds.1
  refine Routine.Meets.bind reads fun receipt => ?_
  dsimp only
  split
  · exact fun _ _ holds => holds.1
  · exact fun _ _ holds => holds

theorem closed_of_journal {world : World} (sole : Sole world)
    {journal : RecoveryJournal} (at_ : JournalAt world generation journal)
    (state : journal.state.unfinished = false) : world.Closed generation := by
  intro commit standing same
  rcases sole.decided commit standing with unfinished | closed
  · obtain ⟨other, isOther, isUnfinished⟩ := unfinished
    rw [same] at isOther
    cases at_.symm.trans isOther
    rw [state] at isUnfinished
    cases isUnfinished
  · exact closed commit standing rfl

theorem meets_recoverRolledBack {journal : RecoveryJournal}
    {state : JournalState} (terminal : state.terminal = true)
    (finished : journal.state.unfinished = false) :
    Routine.Meets (critical primitives Sole)
      (Fact fun world => Walked listed done world ∧
        JournalAt world generation journal)
      (recoverRolledBack generation journal state)
      (fun _ => Fact (Walked listed (generation :: done)))
      (Fact fun _ => True) := by
  have lasts := (walked_persistent listed done).and
    (journal_persistent generation journal)
  have weakens : ∀ {α : Type} {routine : Helper α},
      Routine.Keeps (critical primitives Sole) (Fact fun world =>
        Walked listed done world ∧ JournalAt world generation journal)
        routine →
      Routine.Meets (critical primitives Sole) (Fact fun world =>
        Walked listed done world ∧ JournalAt world generation journal)
        routine (fun _ => Fact fun world => Walked listed done world ∧
          JournalAt world generation journal) (Fact fun _ => True) :=
    fun keeps => keeps.consequence (fun _ _ holds => holds)
      (fun _ _ _ holds => holds) fun _ _ _ => trivial
  have settles := @meets_settle primitives listed done generation _
    (journal_persistent generation journal) state terminal
    journal.operationLabel
  have asks : Routine.Keeps (critical primitives Sole) (Fact fun world =>
      Walked listed done world ∧ JournalAt world generation journal)
      (interruptedClient journal) := by
    unfold interruptedClient
    split
    · exact keeps_pure
    · exact Routine.Keeps.bind ((looks lasts).call rfl) fun _ => keeps_pure
    · exact keeps_pure
  refine Routine.Meets.bind (weakens asks) fun clientId => ?_
  have closes : ∀ world, JournalAt world generation journal → Sole world →
      generation ∈ world.used ∧ world.Closed generation :=
    fun world at_ sole => ⟨sole.placed generation journal at_,
      closed_of_journal sole at_ finished⟩
  cases clientId with
  | none => exact settles closes
  | some id =>
      exact Routine.Meets.bind (weakens (keeps_mild lasts rfl)) fun _ =>
        settles closes

theorem meets_recoverGeneration (embeddedCommit : String) :
    Routine.Meets (critical primitives Sole) (Fact (Walked listed done))
      (recoverGeneration embeddedCommit generation)
      (fun _ => Fact (Walked listed (generation :: done)))
      (Fact fun _ => True) := by
  have lasts := walked_persistent listed done
  have weakens : ∀ {α : Type} {fact : World → Prop} {routine : Helper α}
      {post : α → Memory → World → Prop},
      Routine.Meets (critical primitives Sole) (Fact fact) routine post
        (Fact fact) →
      Routine.Meets (critical primitives Sole) (Fact fact) routine post
        (Fact fun _ => True) :=
    fun meets => meets.consequence (fun _ _ holds => holds)
      (fun _ _ _ holds => holds) fun _ _ _ => trivial
  refine Routine.Meets.bind (weakens (meets_readRecoveryJournal lasts))
    fun journal => ?_
  have lastsJournal := lasts.and (journal_persistent generation journal)
  refine Routine.Meets.bind (Routine.Meets.lift fun _ _ _ => trivial)
    fun action => Routine.Meets.assuming fun decided => ?_
  have cases_ := recoveryAction_cases decided
  cases action with
  | none =>
      intro _ world ⟨walked, at_⟩
      exact { walked with
        done := by
          intro other member isLive
          rcases List.mem_cons.mp member with same | old
          · subst same
            obtain ⟨found, isFound, live⟩ := isLive
            cases at_.symm.trans isFound
            rcases cases_ with state | state | state <;> rw [state] at live <;>
              cases live
          · exact walked.done other old isLive }
  | reconcileCommitted =>
      refine Routine.Meets.bind (weakens (meets_loadCommittedReceipt
        lastsJournal embeddedCommit journal)) fun receipt => ?_
      have lastsReceipt := lastsJournal.and
        (receipted_persistent generation (some (.receipt receipt)))
      refine Routine.Meets.bind (weakens (meets_reconcileRemoteState
        lastsReceipt ?_)) fun _ => ?_
      · intro world runId ⟨⟨walked, at_⟩, receipted⟩
        exact ⟨⟨{ walked with }, at_⟩, receipted⟩
      · let extra : World → Prop := fun world =>
          (JournalAt world generation journal ∧
            world.files (.receipt generation) = some (.receipt receipt)) ∧
              Passed receipt world
        have settles := @meets_settle primitives listed done generation extra
          (((journal_persistent generation journal).and
            (receipted_persistent _ _)).and (passed_persistent receipt))
          .reconciled rfl journal.operationLabel (some receipt.clientId)
          fun world ⟨⟨at_, receipted⟩, passed⟩ sole =>
            ⟨sole.placed generation journal at_,
              closed_of_passed sole receipted passed⟩
        refine Routine.Meets.bind (settles.strengthen ?_) fun _ => ?_
        · intro _ world ⟨⟨⟨walked, at_⟩, receipted⟩, passed⟩
          exact ⟨walked, ⟨at_, receipted⟩, passed⟩
        · exact fun _ _ holds => holds
  | rollbackAndRevoke =>
      refine Routine.Meets.bind (weakens (keeps_rollbackAfterFailure
        lastsJournal _)) fun _ => ?_
      refine Routine.Meets.bind (meets_recoverRolledBack rfl ?_) fun _ => ?_
      · cases state : journal.state <;> rw [state] at cases_ <;>
          first | rfl | cases cases_
      · exact fun _ _ holds => holds
  | revokeAfterRollback =>
      refine Routine.Meets.bind (meets_recoverRolledBack rfl ?_) fun _ => ?_
      · rw [cases_.1]
        rfl
      · exact fun _ _ holds => holds

theorem meets_recoverGenerations (embeddedCommit : String)
    (generations : List Uuid) :
    Routine.Meets (critical primitives Sole) (Fact (Walked listed done))
      (recoverGenerations embeddedCommit generations)
      (fun _ => Fact (Walked listed (generations.reverse ++ done)))
      (Fact fun _ => True) := by
  induction generations generalizing done with
  | nil => exact fun _ _ holds => holds
  | cons generation rest induction =>
      refine Routine.Meets.bind (meets_recoverGeneration embeddedCommit)
        fun reconciled => ?_
      refine Routine.Meets.bind induction fun others => ?_
      rw [List.reverse_cons, List.append_assoc]
      exact fun _ _ holds => holds

theorem meets_collectBackups {fact : World → Prop}
    (persistent : Persistent fact) (entries : List BackupEntry) :
    Routine.Meets (critical primitives Sole) (Fact fact)
      (collectBackups entries)
      (fun backups => Fact fun world =>
        (∀ generation, .generation generation ∈ entries →
          generation ∈ backups) ∧ fact world)
      (Fact fact) := by
  have looking := @looks primitives _ persistent
  induction entries with
  | nil =>
      refine fun _ _ holds => ⟨fun generation member => ?_, holds⟩
      cases member
  | cons entry rest induction =>
      cases entry with
      | other name => exact fun _ _ holds => holds
      | stage staged =>
          refine Routine.Meets.bind (keeps_cleanupSnapshotStage persistent _)
            fun _ => induction.consequence (fun _ _ holds => holds) ?_
              fun _ _ holds => holds
          intro backups _ world holds
          refine ⟨fun generation member => holds.1 generation ?_, holds.2⟩
          rcases List.mem_cons.mp member with same | old
          · cases same
          · exact old
      | generation first =>
          refine Routine.Meets.bind (looking.call rfl) fun _ => ?_
          refine Routine.Meets.bind (keeps_verifySnapshot looking _)
            fun _ => ?_
          refine Routine.Meets.bind induction fun backups => ?_
          intro _ world holds
          refine ⟨fun generation member => ?_, holds.2⟩
          rcases List.mem_cons.mp member with same | old
          · cases same
            exact List.mem_cons_self
          · exact List.mem_cons_of_mem _ (holds.1 generation old)

/-- Nothing is under way. -/
def Quiescent (world : World) : Prop :=
  ∀ generation, ¬ world.Live generation

theorem quiescent_persistent : Persistent Quiescent :=
  fun _ _ alike quiescent generation isLive =>
    quiescent generation (alike.live.mp isLive)

theorem meets_pathExists {fact : World → Prop} (persistent : Persistent fact)
    (place : Place) :
    Routine.Meets (critical primitives Sole) (Fact fact) (pathExists place)
      (fun found => Fact fun world => found = world.holds place ∧ fact world)
      (Fact fact) := by
  apply @Routine.Meets.bind _ _ _ _ _ _ _ _ _ _ _ _
    (fun answer => Fact fun world =>
      answer = .ok (world.holds place) ∧ fact world)
  · apply Critical.meets_ask
    · exact fun _ _ _ moved => persistent (.of_same moved.same)
    · intro _ _ _ _ fallible
      cases fallible
    · intro memory world found after holds sole performs
      obtain ⟨isFound, rfl⟩ := performs
      exact ⟨sole, ⟨congrArg Except.ok isFound, holds⟩, fun remote => by
        cases remote⟩
  · intro answer _ world ⟨same, holds⟩
    subst same
    exact ⟨rfl, holds⟩

theorem meets_recoverIncompleteCutovers (embeddedCommit : String) :
    Routine.Meets (critical primitives Sole) (Fact fun _ => True)
      (recoverIncompleteCutovers embeddedCommit)
      (fun _ => Fact Quiescent) (Fact fun _ => True) := by
  have looking := @looks primitives _ true_persistent
  have present : Routine.Meets (critical primitives Sole) (Fact fun _ => True)
      (pathExists .backupRoot)
      (fun found memory world => found = true ∧
        Fact (fun _ => True) memory world) (Fact fun _ => True) :=
    (meets_pathExists true_persistent .backupRoot).consequence
      (fun _ _ holds => holds) (fun _ _ _ holds => ⟨holds.1, trivial⟩)
      fun _ _ holds => holds
  refine Routine.Meets.learn present fun found isFound => ?_
  subst isFound
  refine Routine.Meets.bind (keeps_ensureRootDirectory looking _) fun _ => ?_
  have lists : Routine.Meets (critical primitives Sole) (Fact fun _ => True)
      (call .listBackupRoot)
      (fun entries => Fact fun world => ∀ listed : List Uuid,
        (∀ generation, .generation generation ∈ entries →
          generation ∈ listed) → Walked listed [] world)
      (Fact fun _ => True) := by
    apply Critical.meets_call
    · exact fun _ _ _ _ => id
    · exact fun _ _ _ _ => trivial
    · intro memory world entries after _ sole performs
      obtain ⟨-, shows_, rfl⟩ := performs
      refine ⟨sole, fun listed all => ?_, fun _ => trivial⟩
      exact {
        done := fun generation member => by cases member
        listed := fun generation member =>
          all generation ((shows_ (.generation generation)).mpr member)
        published := sole.published }
  refine Routine.Meets.bind lists fun entries => ?_
  have persistent : Persistent fun world => ∀ listed : List Uuid,
      (∀ generation, .generation generation ∈ entries →
        generation ∈ listed) → Walked listed [] world :=
    fun _ _ alike holds listed all =>
      walked_persistent listed [] alike (holds listed all)
  refine Routine.Meets.bind ((meets_collectBackups persistent
    entries).consequence (fun _ _ holds => holds) (fun _ _ _ holds => holds)
    fun _ _ _ => trivial) fun backups => ?_
  have sorted : ∀ generation,
      generation ∈ sortBackups backups ↔ generation ∈ backups :=
    fun generation => (List.mergeSort_perm backups _).mem_iff
  refine (@meets_recoverGenerations primitives backups [] embeddedCommit
    (sortBackups backups)).consequence ?_ ?_ fun _ _ _ => trivial
  · intro _ world holds
    exact holds.2 backups holds.1
  · intro _ _ world walked
    apply walked.quiescent
    intro generation member
    rw [List.append_nil, List.mem_reverse, sorted]
    exact member

theorem meets_validateQaRunTarget {fact : World → Prop}
    (persistent : Persistent fact) (embeddedCommit expectedCommit : String)
    (runId : Uuid) :
    Routine.Meets (critical primitives Sole) (Fact fact)
      (validateQaRunTarget embeddedCommit runId expectedCommit)
      (fun target => Fact fun world => fact world ∧
        (runId ∈ world.passedRuns → target.status = .passed))
      (Fact fact) := by
  refine Routine.Meets.bind (@Critical.meets_look primitives _ sole_robust _
    persistent.stable (.getRun runId) rfl (fun target world =>
      runId ∈ world.passedRuns → target.status = .passed) ?_) fun target => ?_
  · intro world target after performs
    obtain ⟨passes, rfl⟩ := performs
    exact passes
  · dsimp only
    repeat' first
      | exact fun _ _ holds => holds
      | exact fun _ _ holds => holds.1
      | split

private theorem meets_decision {runId : Uuid} {status : QaRunStatus} (intent : QaRunIntent)
    (localReconciled : Bool) :
    Routine.Meets (critical primitives Sole)
      (Fact fun world => Quiescent world ∧ (runId ∈ world.passedRuns → status = .passed))
      (do
        match ← Routine.lift (postLockQaDecision status localReconciled) with
        | .complete => return true
        | .start =>
            if intent = .start then
              return false
            else
              bail "matching committed Hermes recovery was not reconciled" :
          Helper Bool)
      (fun complete => Fact fun world => complete = false → Clear runId world)
      (Fact Quiescent) := by
  refine Routine.Meets.bind ((Routine.Meets.lift fun _ _ holds =>
    holds).consequence (fun _ _ holds => holds) (fun _ _ _ holds => holds)
    fun _ _ (holds : Fact (fun world => Quiescent world ∧
      (runId ∈ world.passedRuns → status = .passed)) _ _) => holds.1) fun decision => ?_
  cases decision with
  | complete => exact fun _ _ _ incomplete => by cases incomplete
  | start =>
      refine Routine.Meets.assuming fun decided => ?_
      have running : status ≠ .passed := by
        intro passed
        rw [passed] at decided
        cases localReconciled <;> cases decided
      dsimp only
      split
      · exact fun _ _ holds _ => ⟨holds.1, mt holds.2 running⟩
      · exact fun _ _ holds => holds.1

theorem meets_confirmsReconciled (embeddedCommit expectedCommit : String)
    (runId : Uuid) (intent : QaRunIntent) (reconciledRuns : List Uuid) :
    Routine.Meets (critical primitives Sole) (Fact Quiescent)
      (confirmsReconciled embeddedCommit expectedCommit runId intent
        reconciledRuns)
      (fun complete => Fact fun world => complete = false →
        Clear runId world)
      (Fact Quiescent) := by
  refine Routine.Meets.bind (meets_validateQaRunTarget quiescent_persistent _ _
    _) fun refreshed => ?_
  let fact : World → Prop := fun world => Quiescent world ∧
    (runId ∈ world.passedRuns → refreshed.status = .passed)
  have persistent : Persistent fact := by
    intro before after alike holds
    refine ⟨quiescent_persistent alike holds.1, ?_⟩
    rw [alike.passedRuns]
    exact holds.2
  have weakens : ∀ {α : Type} {routine : Helper α},
      Routine.Keeps (critical primitives Sole) (Fact fact) routine →
      Routine.Meets (critical primitives Sole) (Fact fact) routine
        (fun _ => Fact fact) (Fact Quiescent) :=
    fun keeps => keeps.consequence (fun _ _ holds => holds)
      (fun _ _ _ holds => holds) fun _ _ holds => holds.1
  dsimp only
  split
  · exact meets_decision intent true
  · refine Routine.Meets.bind (weakens (keeps_hasMatchingLocalGeneration
      (looks persistent) (fun generation => cleans persistent _ _) _ _ _))
      (meets_decision intent)

theorem meets_perform (embeddedCommit : String) (action : Action) :
    Routine.Meets (critical primitives Sole)
      (Fact fun world => ∀ runId, action.qaRunId = some runId →
        Clear runId world)
      (perform embeddedCommit action) (fun _ => Fact fun _ => True)
      (Fact fun _ => True) := by
  have persistent : Persistent fun world => ∀ runId,
      action.qaRunId = some runId → Clear runId world :=
    fun _ _ alike holds runId same =>
      clear_persistent runId alike (holds runId same)
  refine Routine.Meets.bind (Routine.Meets.attempt
    (keeps_preflight (looks persistent))) fun result => ?_
  cases result with
  | error failure =>
      cases action with
      | apply runId =>
          refine Routine.Meets.bind ((keeps_reportFailed persistent
            runId).consequence (fun _ _ holds => holds)
            (fun _ _ _ holds => holds) fun _ _ _ => trivial) fun _ => ?_
          exact fun _ _ _ => trivial
      | preflight => exact fun _ _ _ => trivial
      | verify => exact fun _ _ _ => trivial
      | retireBackup generation providerRevoked => exact fun _ _ _ => trivial
  | ok value =>
      cases action with
      | preflight => exact fun _ _ _ => trivial
      | retireBackup generation providerRevoked => exact fun _ _ _ => trivial
      | apply runId =>
          exact (meets_apply embeddedCommit runId).strengthen
            fun _ _ holds => holds runId rfl
      | verify =>
          have looking := @looks primitives _ true_persistent
          refine Routine.Meets.bind ((looking.call rfl).strengthen
            fun _ _ _ => trivial) fun clients => ?_
          split
          · exact Routine.Meets.bind (looking.call rfl) fun _ =>
              fun _ _ _ => trivial
          · exact fun _ _ _ => trivial

theorem meets_underLock (embeddedCommit expectedCommit : String)
    (action : Action) (intent : QaRunIntent) :
    Routine.Meets (critical primitives Sole) (Fact fun _ => True)
      (underLock embeddedCommit expectedCommit action intent)
      (fun _ => Fact fun _ => True) (Fact fun _ => True) := by
  refine Routine.Meets.bind (cleans true_persistent _ _) fun _ => ?_
  refine Routine.Meets.bind (meets_recoverIncompleteCutovers embeddedCommit)
    fun reconciledRuns => ?_
  split
  · rename_i none_
    refine (meets_perform embeddedCommit action).strengthen ?_
    intro _ _ _ runId same
    rw [none_] at same
    cases same
  · rename_i runId isRun
    refine Routine.Meets.bind ((meets_confirmsReconciled embeddedCommit
      expectedCommit runId intent reconciledRuns).consequence
      (fun _ _ holds => holds) (fun _ _ _ holds => holds)
      fun _ _ _ => trivial) fun complete => ?_
    cases complete with
    | true => exact fun _ _ _ => trivial
    | false =>
        refine (meets_perform embeddedCommit action).strengthen ?_
        intro _ world clear other same
        cases isRun.symm.trans same
        exact clear rfl

end Sequel

end NvidiaBuildLb.Hermes
