import NvidiaBuildLb.Hermes.Reliable

namespace NvidiaBuildLb.Hermes

open Foundation NvidiaBuildLb.Core

/-! The recovery after an interrupted cutover, from where the cutover was cut
off to one of its two ends. -/

/-- The cutover never happened: its candidate is revoked, every journal is
terminal. -/
structure Undone (primitives : Primitives) (start world : World) : Prop where
  reverted : Reverted start world
  clients : ∃ issued, world.clients = start.clients ++ issued ∧
    ∀ item ∈ issued, item.active = false
  passedRuns : world.passedRuns = start.passedRuns
  settled : Settled primitives world

/-- The cutover is complete. -/
structure Installed (primitives : Primitives) (start : World) (qaRunId : Uuid)
    (world : World) : Prop where
  files : ∃ env config, CandidateFiles start env config ∧
    FilesAre world env config
  passed : qaRunId ∈ world.passedRuns
  clients : ∃ item ∈ world.clients, item.active = true ∧
    PreviousRevoked world item.id
  settled : Settled primitives world

section Ends

variable {primitives : Primitives} {embeddedCommit : String}
  {earlier : List Uuid} {start world after : World}
  {qaRunId generation id : Uuid} {linked : World → RecoveryJournal → Prop}

theorem settled_of_others (verified : Verified primitives world generation)
    (finished : Finished world generation)
    (others : OthersSettled primitives world generation) :
    Settled primitives world := by
  intro other member
  by_cases same : other = generation
  · subst same
    exact ⟨verified, finished⟩
  · exact others other member same

theorem Backed.undone
    (backed : Backed primitives start linked generation world)
    (reverted : Reverted start world) (withdrawn : Withdrawn world generation)
    (finished : Finished world generation) : Undone primitives start world where
  reverted := reverted
  clients := by
    obtain ⟨issued, isClients, labels⟩ := backed.clients
    refine ⟨issued, isClients, ?_⟩
    intro item member
    exact withdrawn item (isClients ▸ List.mem_append_right _ member)
      (labels item member)
  passedRuns := backed.passedRuns
  settled := settled_of_others backed.verified finished backed.others

theorem Committed.installed (committed : Committed primitives embeddedCommit
      start qaRunId generation id world)
    (finished : Finished world generation) :
    Installed primitives start qaRunId world := by
  obtain ⟨journal, at_, -, isAfter, -, completed⟩ := committed.journal
  obtain ⟨found, foundAt, decided⟩ := finished
  have same : found = journal := by
    simpa using foundAt.symm.trans at_
  subst same
  have reconciled : found.state = .reconciled := by
    rcases recoveryAction_cases decided with state | state | state
    · exact state
    · rw [state] at isAfter
      cases isAfter
    · rw [state] at isAfter
      cases isAfter
  obtain ⟨passed, revoked⟩ := completed reconciled
  obtain ⟨item, member, isItem, active⟩ := committed.candidate
  exact {
    files := committed.files
    passed
    clients := ⟨item, member, active, isItem ▸ revoked⟩
    settled := settled_of_others committed.verified ⟨found, foundAt, decided⟩
      committed.others }

theorem Undone.aside (undone : Undone primitives start world)
    (aside : world.Aside after) : Undone primitives start after where
  reverted := aside.reverted undone.reverted
  clients := aside.framed.clients ▸ undone.clients
  passedRuns := aside.framed.passedRuns.trans undone.passedRuns
  settled := aside.framed.settled undone.settled

theorem Installed.aside (installed : Installed primitives start qaRunId world)
    (aside : world.Aside after) : Installed primitives start qaRunId after where
  files := @World.Aside.fact world after aside (fun world => ∃ env config,
    CandidateFiles start env config ∧ FilesAre world env config)
    (fun _ => Iff.rfl) installed.files
  passed := aside.framed.passedRuns ▸ installed.passed
  clients := @World.Aside.fact world after aside (fun world =>
    ∃ item ∈ world.clients, item.active = true ∧ PreviousRevoked world item.id)
    (fun _ => Iff.rfl) installed.clients
  settled := aside.framed.settled installed.settled

/-- A generation to be undone, among the backups found. -/
structure Retracting (primitives : Primitives) (earlier : List Uuid)
    (start : World) (linked : World → RecoveryJournal → Prop)
    (generation : Uuid) (backups : List Uuid) (world : World) : Prop where
  inv : Inv earlier world
  backed : Backed primitives start linked generation world
  known : ∀ other ∈ backups, other ∈ world.generations

structure Completing (primitives : Primitives) (embeddedCommit : String)
    (start : World) (qaRunId generation id : Uuid) (backups : List Uuid)
    (world : World) : Prop where
  committed : Committed primitives embeddedCommit start qaRunId generation id
    world
  known : ∀ other ∈ backups, other ∈ world.generations

/-- How a journal that recovery has to act on is linked to the files. -/
def Pending (start world : World) (journal : RecoveryJournal) : Prop :=
  journal.state.callsForRollback = true ∨
    Reverted start world ∧ journal.state = .rollbackCleanupPending ∧
      journal.clientId.isSome = true

def Anyhow (_ : World) (_ : RecoveryJournal) : Prop :=
  True

variable {backups : List Uuid}

theorem Retracting.aside (retracting : Retracting primitives earlier start linked
      generation backups world) (aside : world.Aside after)
    (links : ∀ journal, linked world journal → linked after journal) :
    Retracting primitives earlier start linked generation backups after where
  inv := retracting.inv.unseen aside.unseen
  backed := retracting.backed.framed aside.framed links
  known := by
    rw [aside.framed.generations]
    exact retracting.known

theorem Retracting.mono {linked' : World → RecoveryJournal → Prop}
    (retracting : Retracting primitives earlier start linked generation backups world)
    (links : ∀ journal, linked world journal → linked' world journal) :
    Retracting primitives earlier start linked' generation backups world :=
  ⟨retracting.inv, retracting.backed.mono links, retracting.known⟩

theorem Retracting.hermes (retracting : Retracting primitives earlier start Anyhow
      generation backups world) {target : Path} (content : Content)
    (hermes : target = .env ∨ target = .config) :
    Retracting primitives earlier start Anyhow generation backups
      (world.replaceFile target content) where
  inv := retracting.inv.unseen (replaceFile_hermes_unseen world hermes content)
  backed := by
    refine retracting.backed.framed (replaceFile_framed world ?_ content)
      fun _ _ => trivial
    rcases hermes with rfl | rfl <;>
      · intro other file same
        cases same
  known := retracting.known

theorem Completing.aside (completing : Completing primitives embeddedCommit
      start qaRunId generation id backups world) (aside : world.Aside after) :
    Completing primitives embeddedCommit start qaRunId generation id backups
      after where
  committed := completing.committed.aside aside
  known := by
    rw [aside.framed.generations]
    exact completing.known

theorem finished_writeJournal {journal : RecoveryJournal}
    (schema : journal.schemaVersion = journalSchema)
    (terminal : journal.state = .reconciled ∨ journal.state = .rolledBack ∨
      journal.state = .recovered) :
    Finished (world.replaceFile (.snapshot generation .journal)
      (.journal journal)) generation := by
  refine ⟨journal, journalAt_replaceFile.mpr (.inl ⟨rfl, rfl⟩), ?_⟩
  rcases terminal with state | state | state <;>
    simp [recoveryAction, schema, state]

theorem recoveryAction_of_calls {journal : RecoveryJournal}
    (schema : journal.schemaVersion = journalSchema)
    (calls : journal.state.callsForRollback = true) :
    recoveryAction journal = .ok .rollbackAndRevoke := by
  unfold JournalState.callsForRollback at calls
  split at calls
  · rename_i state
    simp [recoveryAction, schema, state]
  · rename_i state
    simp [recoveryAction, schema, state]
  · rename_i state
    simp [recoveryAction, schema, state]
  · cases calls

end Ends

namespace Helper

section Recovering

variable {primitives : Primitives} {embeddedCommit : String}
  {earlier : List Uuid} {start : World} {qaRunId generation id : Uuid}
  {backups : List Uuid} {pre : World → Prop}

theorem total_lift {result : Except Failure α}
    (ok : ∀ world, pre world → ∃ value, result = .ok value) :
    Total primitives pre (Routine.lift result)
      fun value world => pre world ∧ result = .ok value := by
  cases result with
  | ok value => exact Total.pure fun _ before => ⟨before, rfl⟩
  | error failure =>
      apply Total.absurd
      intro world before
      obtain ⟨value, same⟩ := ok world before
      cases same

theorem total_recoverGeneration_finished
    (finished : ∀ world, pre world → Finished world generation) :
    Total primitives pre (recoverGeneration embeddedCommit generation)
      fun _ => pre := by
  refine Total.bind (total_readRecoveryJournal fun world before => ?_)
    fun journal => ?_
  · obtain ⟨journal, at_, -⟩ := finished world before
    exact ⟨journal, at_⟩
  have decided : ∀ world, pre world ∧ JournalAt world generation journal →
      recoveryAction journal = .ok .none := by
    intro world holds
    obtain ⟨found, at_, decided⟩ := finished world holds.1
    have same : found = journal := by
      simpa using at_.symm.trans holds.2
    exact same ▸ decided
  refine Total.bind (total_lift fun world holds =>
    ⟨_, decided world holds⟩) fun action => ?_
  cases action with
  | none => exact Total.pure fun _ holds => holds.1.1
  | _ =>
      apply Total.absurd
      intro world holds
      cases (decided world holds.1).symm.trans holds.2

/-- No client is active under the generation's label but the one found. -/
def Sole (world : World) (generation : Uuid) : Option Uuid → Prop
  | some id => Held world generation id
  | none => Withdrawn world generation

theorem total_interruptedClient {journal : RecoveryJournal}
    (inv : ∀ world, pre world → Inv earlier world)
    (at_ : ∀ world, pre world → JournalAt world generation journal)
    (held : ∀ world, pre world → ∀ id, journal.clientId = some id →
      Held world generation id) :
    Total primitives pre (interruptedClient journal)
      fun clientId world => pre world ∧ Issued world generation clientId ∧
        Sole world generation clientId := by
  intro memory world before
  have sound := (inv world before).journals generation journal
    (at_ world before)
  unfold interruptedClient
  rw [sound.label]
  cases known : journal.clientId with
  | some id =>
      exact ⟨before, known ▸ sound.client, held world before id known⟩
  | none =>
      have finds : Total primitives pre
          (findActiveClientByLabel (operationLabelOf generation))
          fun clientId world => pre world ∧ Issued world generation clientId ∧
            Sole world generation clientId := by
        refine Total.bind total_listClients fun clients => ?_
        apply Total.pure
        intro world holds
        obtain ⟨before, rfl⟩ := holds
        refine ⟨before, ?_⟩
        cases found : findActive (operationLabelOf generation)
            world.clients with
        | none =>
            refine ⟨?_, ?_⟩
            · intro id isId
              cases isId
            · intro item member label
              have different := List.find?_eq_none.mp found item member
              simp only [label, beq_self_eq_true, Bool.and_true] at different
              exact Bool.eq_false_iff.mpr different
        | some client =>
            obtain ⟨isClient, active, labelled⟩ := findActive_some found
            refine ⟨?_, ?_⟩
            · intro id isId
              cases isId
              exact ⟨client, isClient, rfl, labelled⟩
            · intro item member isActive label
              exact (inv world before).active item member client isClient
                isActive active (label.trans labelled.symm)
      exact finds memory world before

/-- Where recovery ends. -/
def Ended (primitives : Primitives) (start : World) (qaRunId : Uuid)
    (backups : List Uuid) (world : World) : Prop :=
  (Undone primitives start world ∨ Installed primitives start qaRunId world) ∧
    ∀ other ∈ backups, other ∈ world.generations

theorem Ended.finished {world : World}
    (ended : Ended primitives start qaRunId backups world) {other : Uuid}
    (member : other ∈ backups) : Finished world other := by
  rcases ended.1 with undone | installed
  · exact (undone.settled other (ended.2 other member)).2
  · exact (installed.settled other (ended.2 other member)).2

theorem total_recoverRolledBack (earlier : List Uuid)
    {journal : RecoveryJournal} {settled : JournalState}
    (terminal : settled = .rolledBack ∨ settled = .recovered) :
    Total primitives (fun world =>
      (Retracting primitives earlier start Anyhow generation backups world ∧
        JournalAt world generation journal ∧ Reverted start world) ∧
      Supply 2 world)
      (recoverRolledBack generation journal settled)
      fun _ => Ended primitives start qaRunId backups := by
  refine Total.bind (@total_interruptedClient _ earlier generation _ journal
    ?_ ?_ ?_) fun clientId => ?_
  · exact fun world holds => holds.1.1.inv
  · exact fun world holds => holds.1.2.1
  · intro world holds
    obtain ⟨found, at_, -, held, -⟩ := holds.1.1.backed.journal
    have same : found = journal := by
      simpa using at_.symm.trans holds.1.2.1
    exact same ▸ held
  let revoked (world : World) : Prop :=
    Backed primitives start Anyhow generation world ∧ Reverted start world ∧
      Withdrawn world generation ∧ ∀ other ∈ backups, other ∈ world.generations
  have stable : ∀ before after, World.Same before after →
      revoked before → revoked after := by
    intro before after same holds
    have framed := same.aside.framed
    refine ⟨holds.1.framed framed fun _ _ => trivial,
      same.aside.reverted holds.2.1, ?_, ?_⟩
    · unfold Withdrawn
      rw [framed.clients]
      exact holds.2.2.1
    · rw [framed.generations]
      exact holds.2.2.2
  have writes : Total primitives (fun world => revoked world ∧ Supply 2 world)
      (writeJournal (.snapshot generation .journal) settled
        journal.operationLabel clientId)
      fun _ => Ended primitives start qaRunId backups := by
    refine Total.weaken (@total_writeJournal _ _
      (Ended primitives start qaRunId backups) 0 _ _ _ _ stable ?_)
      fun _ _ holds => holds.1
    intro world holds
    obtain ⟨backed, reverted, withdrawn, known⟩ := holds
    refine ⟨.inl (@Backed.undone _ _ _ _ Anyhow
      (backed.writeJournal rfl ?_ trivial) ?_ withdrawn
      (finished_writeJournal rfl (.inr terminal))), known⟩
    · intro id _ item member active label
      rw [withdrawn item member label] at active
      cases active
    · simpa [Reverted] using reverted
  cases clientId with
  | none =>
      refine Total.strengthen writes ?_
      intro world holds
      exact ⟨⟨holds.1.1.1.backed, holds.1.1.2.2, holds.2.2,
        holds.1.1.1.known⟩, holds.1.2⟩
  | some id =>
      refine Total.bind (total_revokeClient ?_ ?_) fun _ => writes
      · intro world holds
        obtain ⟨item, member, isItem, -⟩ := holds.2.1 id rfl
        exact ⟨item, member, isItem⟩
      · intro world holds
        obtain ⟨⟨⟨retracting, -, reverted⟩, supply⟩, issued, held⟩ := holds
        exact ⟨⟨retracting.backed.revoke
          (candidate_new retracting.inv retracting.backed issued)
          fun _ _ => trivial, reverted, Held.withdrawn held, retracting.known⟩,
          supply.room, supply.nonces⟩

theorem total_recoverGeneration_retracting :
    Total primitives (fun world =>
      Retracting primitives earlier start (Pending start) generation backups
        world ∧ Supply 6 world)
      (recoverGeneration embeddedCommit generation)
      fun _ => Ended primitives start qaRunId backups := by
  refine Total.bind (total_readRecoveryJournal fun world holds => ?_)
    fun journal => ?_
  · obtain ⟨journal, at_, -⟩ := holds.1.backed.journal
    exact ⟨journal, at_⟩
  have told : ∀ world, (Retracting primitives earlier start (Pending start)
        generation backups world ∧ Supply 6 world) ∧
        JournalAt world generation journal →
      journal.schemaVersion = journalSchema ∧ Pending start world journal := by
    intro world holds
    obtain ⟨found, at_, schema, -, pending⟩ := holds.1.1.backed.journal
    have same : found = journal := by
      simpa using at_.symm.trans holds.2
    exact same ▸ ⟨schema, pending⟩
  have decides : ∀ world, (Retracting primitives earlier start (Pending start)
        generation backups world ∧ Supply 6 world) ∧
        JournalAt world generation journal →
      recoveryAction journal = .ok .rollbackAndRevoke ∨
        recoveryAction journal = .ok .revokeAfterRollback ∧
          Reverted start world := by
    intro world holds
    obtain ⟨schema, calls | ⟨reverted, state, present⟩⟩ := told world holds
    · exact .inl (recoveryAction_of_calls schema calls)
    · refine .inr ⟨?_, reverted⟩
      simp [recoveryAction, schema, state,
        Option.isSome_iff_ne_none.mp present]
  refine Total.bind (total_lift fun world holds => ?_) fun action => ?_
  · rcases decides world holds with action | ⟨action, -⟩ <;> exact ⟨_, action⟩
  cases action with
  | rollbackAndRevoke =>
      refine Total.bind (Total.strengthen
        (@total_rollbackAfterFailure primitives (fun world =>
          Retracting primitives earlier start Anyhow generation backups world ∧
            JournalAt world generation journal) generation 2 ?_ ?_ ?_) ?_)
        fun _ => ?_
      · intro before after same holds
        exact ⟨holds.1.aside same.aside fun _ _ => trivial,
          (congrFun same.files _).trans holds.2⟩
      · intro world target content hermes holds
        refine ⟨holds.1.hermes content hermes, ?_⟩
        rcases hermes with rfl | rfl <;> exact holds.2
      · exact fun world holds => holds.1.backed.verified
      · intro world holds
        exact ⟨⟨holds.1.1.1.mono fun _ _ => trivial, holds.1.2⟩, holds.1.1.2⟩
      refine Total.bind (Total.strengthen (total_recoverRolledBack
        earlier (.inr rfl)) ?_) fun _ => Total.pure fun _ holds => holds
      intro world holds
      exact ⟨⟨holds.1.1.1, holds.1.1.2,
        holds.1.1.1.backed.reverted holds.1.2⟩, holds.2⟩
  | revokeAfterRollback =>
      refine Total.bind (Total.strengthen (total_recoverRolledBack
        earlier (.inl rfl)) ?_) fun _ => Total.pure fun _ holds => holds
      intro world holds
      refine ⟨⟨holds.1.1.1.mono fun _ _ => trivial, holds.1.2, ?_⟩,
        holds.1.1.2.less (by decide)⟩
      rcases decides world holds.1 with action | ⟨-, reverted⟩
      · cases action.symm.trans holds.2
      · exact reverted
  | _ =>
      apply Total.absurd
      intro world holds
      rcases decides world holds.1 with action | ⟨action, -⟩ <;>
        cases action.symm.trans holds.2

theorem total_loadCommittedReceipt {journal : RecoveryJournal}
    {fits : SafeReceipt → Prop}
    (held : ∀ world, pre world → ∃ receipt,
      world.files (.receipt generation) = some (.receipt receipt) ∧
        receipt.schemaVersion = receiptSchema ∧
        receipt.generation = generation ∧
        receipt.embeddedCommit = embeddedCommit ∧
        some receipt.clientId = journal.clientId ∧ fits receipt) :
    Total primitives pre (loadCommittedReceipt embeddedCommit generation journal)
      fun receipt world => fits receipt ∧
        some receipt.clientId = journal.clientId ∧ pre world := by
  refine Total.bind (total_validate fun world before => ?_) fun _ => ?_
  · obtain ⟨receipt, found, -⟩ := held world before
    simp [World.holds, found]
  refine @Total.bind _ _ _ _ _ _ (fun receipt world => pre world ∧
    world.files (.receipt generation) = some (.receipt receipt)) _ ?_
    fun receipt => ?_
  · refine Total.bind (total_read fun world before => ?_) fun content => ?_
    · obtain ⟨receipt, found, -⟩ := held world before
      exact ⟨_, found⟩
    · cases content with
      | receipt value => exact Total.pure fun _ holds => holds
      | _ =>
          apply Total.absurd
          intro world holds
          obtain ⟨receipt, found, -⟩ := held world holds.1
          cases found.symm.trans holds.2
  intro memory world holds
  obtain ⟨found, isFound, schema, names, isCommit, client, isFit⟩ :=
    held world holds.1
  have same : found = receipt := by
    simpa using isFound.symm.trans holds.2
  subst same
  have matching : ¬ (found.schemaVersion ≠ receiptSchema ∨
      found.generation ≠ generation ∨ found.embeddedCommit ≠ embeddedCommit ∨
      some found.clientId ≠ journal.clientId) := by
    simp [schema, names, isCommit, client]
  dsimp only
  rw [if_neg matching]
  exact ⟨isFit, client, holds.1⟩

theorem total_reconcileCommittedCutover {journal : RecoveryJournal} :
    Total primitives (fun world =>
      (Completing primitives embeddedCommit start qaRunId generation id backups
        world ∧ JournalAt world generation journal) ∧ Supply 2 world)
      (reconcileCommittedCutover embeddedCommit generation journal)
      fun _ => Ended primitives start qaRunId backups := by
  refine Total.bind (@total_loadCommittedReceipt _ _ generation _ journal
    (fun receipt => receipt.clientId = id ∧ receipt.qaRunId = some qaRunId) ?_)
    fun receipt => ?_
  · intro world holds
    obtain ⟨receipt, found, schema, names, isCommit, client, run⟩ :=
      holds.1.1.committed.receipt
    obtain ⟨at_, isAt, -, -, journalClient, -⟩ := holds.1.1.committed.journal
    have same : at_ = journal := by
      simpa using isAt.symm.trans holds.1.2
    subst same
    exact ⟨receipt, found, schema, names, isCommit,
      (congrArg some client).trans journalClient.symm, client, run⟩
  refine Total.assuming fun fits => ?_
  obtain ⟨rfl, run⟩ := fits
  let completing (world : World) : Prop :=
    Completing primitives embeddedCommit start qaRunId generation
      receipt.clientId backups world
  refine Total.bind (Total.strengthen (@total_reconcileRemoteState _
    (fun world => completing world ∧ Supply 2 world) receipt qaRunId run
    ?_ ?_) fun world holds => ⟨holds.2.1.1, holds.2.2⟩) fun _ => ?_
  · intro world other holds previous
    exact ⟨⟨holds.1.committed.revoke previous, holds.1.known⟩,
      holds.2.room, holds.2.nonces⟩
  · intro world holds
    exact ⟨⟨holds.1.committed.pass qaRunId, holds.1.known⟩, holds.2.room,
      holds.2.nonces⟩
  let reconciled (world : World) : Prop :=
    completing world ∧ RemoteReconciled qaRunId receipt.clientId world
  have writes : Total primitives
      (fun world => reconciled world ∧ Supply 2 world)
      (writeJournal (.snapshot generation .journal) .reconciled
        journal.operationLabel (some receipt.clientId))
      fun _ => Ended primitives start qaRunId backups := by
    refine Total.weaken (@total_writeJournal _ _
      (Ended primitives start qaRunId backups) 0 _ _ _ _ ?_ ?_)
      fun _ _ holds => holds.1
    · intro before after same holds
      exact ⟨holds.1.aside same.aside, @World.Same.fact before after same
        (RemoteReconciled qaRunId receipt.clientId) (fun _ => Iff.rfl)
        holds.2⟩
    · intro world holds
      exact ⟨.inr (Committed.installed
        (holds.1.committed.writeJournal (.inr ⟨rfl, holds.2⟩))
        (finished_writeJournal rfl (.inl rfl))), holds.1.known⟩
  refine Total.bind (Total.strengthen writes ?_) fun _ =>
    Total.pure fun _ holds => holds
  intro world holds
  exact ⟨⟨holds.1.1, holds.2.2, holds.2.1⟩, holds.1.2⟩

theorem total_recoverGeneration_completing :
    Total primitives (fun world =>
      Completing primitives embeddedCommit start qaRunId generation id backups
        world ∧ Supply 2 world)
      (recoverGeneration embeddedCommit generation)
      fun _ => Ended primitives start qaRunId backups := by
  refine Total.bind (total_readRecoveryJournal fun world holds => ?_)
    fun journal => ?_
  · obtain ⟨journal, at_, -⟩ := holds.1.committed.journal
    exact ⟨journal, at_⟩
  have decides : ∀ world, (Completing primitives embeddedCommit start qaRunId
        generation id backups world ∧ Supply 2 world) ∧
        JournalAt world generation journal →
      recoveryAction journal = .ok .reconcileCommitted ∨
        recoveryAction journal = .ok .none := by
    intro world holds
    obtain ⟨found, at_, schema, isAfter, -⟩ := holds.1.1.committed.journal
    have same : found = journal := by
      simpa using at_.symm.trans holds.2
    subst same
    unfold JournalState.afterCommit at isAfter
    split at isAfter
    · rename_i state
      simp [recoveryAction, schema, state]
    · rename_i state
      simp [recoveryAction, schema, state]
    · rename_i state
      simp [recoveryAction, schema, state]
    · cases isAfter
  refine Total.bind (total_lift fun world holds => ?_) fun action => ?_
  · rcases decides world holds with action | action <;> exact ⟨_, action⟩
  cases action with
  | reconcileCommitted =>
      exact Total.strengthen total_reconcileCommittedCutover
        fun world holds => ⟨⟨holds.1.1.1, holds.1.2⟩, holds.1.1.2⟩
  | none =>
      apply Total.pure
      intro world holds
      obtain ⟨⟨⟨completing, -⟩, at_⟩, decided⟩ := holds
      exact ⟨.inr (completing.committed.installed ⟨journal, at_, decided⟩),
        completing.known⟩
  | _ =>
      apply Total.absurd
      intro world holds
      rcases decides world holds.1 with action | action <;>
        cases action.symm.trans holds.2

theorem total_recoverGenerations {opening : World → Prop}
    (recovers : Total primitives opening
      (recoverGeneration embeddedCommit generation)
      fun _ => Ended primitives start qaRunId backups)
    (others : ∀ world, opening world → ∀ other ∈ backups,
      other ≠ generation → Finished world other)
    (remaining : List Uuid) (listed : ∀ other ∈ remaining, other ∈ backups) :
    Total primitives (fun world =>
      (opening world ∧ generation ∈ remaining) ∨
        Ended primitives start qaRunId backups world)
      (recoverGenerations embeddedCommit remaining)
      fun _ => Ended primitives start qaRunId backups := by
  induction remaining with
  | nil =>
      apply Total.pure
      intro world holds
      rcases holds with ⟨-, member⟩ | ended
      · cases member
      · exact ended
  | cons first rest induction =>
      have member := listed first List.mem_cons_self
      have passes : Total primitives (fun world =>
          (opening world ∧ generation ∈ first :: rest) ∨
            Ended primitives start qaRunId backups world)
          (recoverGeneration embeddedCommit first)
          fun _ world => (opening world ∧ generation ∈ rest) ∨
            Ended primitives start qaRunId backups world := by
        intro memory world holds
        rcases holds with ⟨before, isListed⟩ | ended
        · by_cases same : first = generation
          · subst same
            exact Total.weaken recovers (fun _ _ ended => .inr ended)
              memory world before
          · refine Total.weaken (@total_recoverGeneration_finished _ _ first
              opening fun world before => others world before first member
                same) (fun _ world before => .inl ⟨before, ?_⟩)
              memory world before
            exact (List.mem_cons.mp isListed).resolve_left
              fun isFirst => same isFirst.symm
        · exact Total.weaken (total_recoverGeneration_finished
            fun world ended => Ended.finished ended member)
            (fun _ _ ended => .inr ended) memory world ended
      refine Total.bind passes fun _ => ?_
      refine Total.bind (induction fun other isRest =>
        listed other (List.mem_cons_of_mem _ isRest)) fun _ => ?_
      exact Total.pure fun _ ended => ended

theorem total_recoverIncompleteCutovers {opening : List Uuid → World → Prop}
    (stable : ∀ before after, Cleaned before after →
      opening [] before → opening [] after)
    (verified : ∀ world, opening [] world → Verified primitives world generation ∧
      OthersSettled primitives world generation)
    (listed : ∀ world, opening [] world → generation ∈ world.generations)
    (known : ∀ backups world, opening [] world →
      (∀ other ∈ backups, other ∈ world.generations) → opening backups world)
    (others : ∀ backups world, opening backups world → ∀ other ∈ backups,
      other ≠ generation → Finished world other)
    (recovers : ∀ backups, Total primitives (opening backups)
      (recoverGeneration embeddedCommit generation)
      fun _ => Ended primitives start qaRunId backups) :
    Total primitives (fun world => opening [] world ∨
        Ended primitives start qaRunId [] world)
      (recoverIncompleteCutovers embeddedCommit)
      fun _ => Ended primitives start qaRunId [] := by
  refine Total.bind total_pathExists fun found => ?_
  cases found with
  | false =>
      apply Total.absurd
      intro world holds
      cases holds.2
  | true =>
      refine Total.bind (Total.strengthen (total_ensureRootDirectory
        fun _ _ => rfl) fun _ holds => holds.1) fun _ => ?_
      refine Total.bind total_listBackupRoot fun entries => ?_
      let found (world : World) : Prop :=
        (opening [] world ∨ Ended primitives start qaRunId [] world) ∧
          ∀ other, .generation other ∈ entries ↔ other ∈ world.generations
      refine Total.bind (Total.strengthen (@total_collectBackups _ found ?_ ?_
        entries) fun world holds => ⟨⟨holds.1, fun other =>
          ⟨holds.2.1.generations other, holds.2.2 other⟩⟩, holds.2.1⟩)
        fun backups => ?_
      · intro before after cleaned holds
        refine ⟨holds.1.imp (stable before after cleaned) ?_, ?_⟩
        · rintro ⟨undone | installed, -⟩
          · exact ⟨.inl (undone.aside cleaned.aside), fun _ member => by
              cases member⟩
          · exact ⟨.inr (installed.aside cleaned.aside), fun _ member => by
              cases member⟩
        · rw [cleaned.aside.framed.generations]
          exact holds.2
      · intro world holds other member
        rcases holds.1 with before | ⟨undone | installed, -⟩
        · obtain ⟨own, rest⟩ := verified world before
          by_cases same : other = generation
          · exact same ▸ own
          · exact (rest other member same).1
        · exact (undone.settled other member).1
        · exact (installed.settled other member).1
      refine Total.weaken (Total.strengthen (total_recoverGenerations
        (recovers backups) (others backups) (sortBackups backups) ?_) ?_) ?_
      · intro other member
        simpa [sortBackups] using member
      · intro world holds
        obtain ⟨all, before, isGeneration⟩ := holds
        have isListed : ∀ other ∈ backups, other ∈ world.generations :=
          fun other member => (isGeneration other).mp ((all other).mp member)
        rcases before with before | ended
        · refine .inl ⟨known backups world before isListed, ?_⟩
          have member := (all generation).mpr
            ((isGeneration generation).mpr (listed world before))
          simpa [sortBackups] using member
        · exact .inr ⟨ended.1, isListed⟩
      · intro _ world ended
        exact ⟨ended.1, fun _ member => by cases member⟩

/-- A cutover is all or nothing, once a recovery has run through. -/
theorem total_recovery (start : World) (qaRunId : Uuid) :
    Total primitives (fun world => (Inv earlier world ∧ Supply 6 world) ∧
        (∀ generation ∈ world.misreported, generation ∈ start.used) ∧
        Interrupted primitives embeddedCommit start qaRunId world)
      (recoverIncompleteCutovers embeddedCommit)
      fun _ world => Undone primitives start world ∨
        Installed primitives start qaRunId world := by
  have undoes : ∀ generation, Total primitives (fun world =>
      (Retracting primitives earlier start (Pending start) generation []
        world ∧ Supply 6 world) ∨ Ended primitives start qaRunId [] world)
      (recoverIncompleteCutovers embeddedCommit)
      fun _ => Ended primitives start qaRunId [] := by
    intro generation
    apply @total_recoverIncompleteCutovers _ _ _ _ generation
      (fun backups world => Retracting primitives earlier start (Pending start)
        generation backups world ∧ Supply 6 world)
    · intro before after cleaned holds
      refine ⟨holds.1.aside cleaned.aside fun journal => ?_,
        cleaned.supply holds.2⟩
      exact @World.Aside.fact before after cleaned.aside
        (fun world => Pending start world journal) fun _ => Iff.rfl
    · exact fun world holds => ⟨holds.1.backed.verified, holds.1.backed.others⟩
    · exact fun world holds => holds.1.backed.listed
    · exact fun backups world holds known =>
        ⟨⟨holds.1.inv, holds.1.backed, known⟩, holds.2⟩
    · exact fun backups world holds other member different =>
        (holds.1.backed.others other (holds.1.known other member) different).2
    · exact fun backups => total_recoverGeneration_retracting
  have completes : ∀ generation id, Total primitives (fun world =>
      (Completing primitives embeddedCommit start qaRunId generation id []
        world ∧ Supply 2 world) ∨ Ended primitives start qaRunId [] world)
      (recoverIncompleteCutovers embeddedCommit)
      fun _ => Ended primitives start qaRunId [] := by
    intro generation id
    apply @total_recoverIncompleteCutovers _ _ _ _ generation
      (fun backups world => Completing primitives embeddedCommit start qaRunId
        generation id backups world ∧ Supply 2 world)
    · exact fun before after cleaned holds =>
        ⟨holds.1.aside cleaned.aside, cleaned.supply holds.2⟩
    · exact fun world holds =>
        ⟨holds.1.committed.verified, holds.1.committed.others⟩
    · exact fun world holds => holds.1.committed.listed
    · exact fun backups world holds known =>
        ⟨⟨holds.1.committed, known⟩, holds.2⟩
    · exact fun backups world holds other member different =>
        (holds.1.committed.others other (holds.1.known other member)
          different).2
    · exact fun backups => total_recoverGeneration_completing
  have ends : ∀ {world : World}, Undone primitives start world ∨
      Installed primitives start qaRunId world →
      Ended primitives start qaRunId [] world :=
    fun ended => ⟨ended, fun _ member => by cases member⟩
  intro memory world holds
  obtain ⟨⟨inv, supply⟩, reported, interrupted⟩ := holds
  cases interrupted with
  | untouched settled untouched =>
      refine Total.weaken (undoes 0) (fun _ _ ended => ended.1) memory world
        (.inr (ends (.inl ?_)))
      exact {
        reverted := untouched.1
        clients := ⟨[], by rw [untouched.2.1, List.append_nil],
          fun _ member => by cases member⟩
        passedRuns := untouched.2.2
        settled }
  | backed backed =>
      rename_i generation
      obtain ⟨journal, at_, schema, held, linked⟩ := backed.journal
      rcases linked with calls | ⟨reverted, pending | ⟨state, withdrawn⟩⟩
      · refine Total.weaken (undoes generation) (fun _ _ ended => ended.1)
          memory world (.inl ⟨⟨inv, ?_, fun _ member => by cases member⟩,
            supply⟩)
        exact { backed with
          journal := ⟨journal, at_, schema, held, .inl calls⟩ }
      · refine Total.weaken (undoes generation) (fun _ _ ended => ended.1)
          memory world (.inl ⟨⟨inv, ?_, fun _ member => by cases member⟩,
            supply⟩)
        exact { backed with
          journal := ⟨journal, at_, schema, held, .inr ⟨reverted, pending⟩⟩ }
      · refine Total.weaken (undoes generation) (fun _ _ ended => ended.1)
          memory world (.inr (ends (.inl (backed.undone reverted withdrawn
            ⟨journal, at_, ?_⟩))))
        rcases state with state | state <;>
          simp [recoveryAction, schema, state]
  | committed committed =>
      exact Total.weaken (completes _ _) (fun _ _ ended => ended.1) memory world
        (.inl ⟨⟨committed, fun _ member => by cases member⟩,
          supply.less (by decide)⟩)
  | misreported member new => exact (new (reported _ member)).elim

end Recovering

end Helper

end NvidiaBuildLb.Hermes
