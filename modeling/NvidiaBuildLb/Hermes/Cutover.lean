import NvidiaBuildLb.Hermes.Commit

namespace NvidiaBuildLb.Hermes

open Foundation NvidiaBuildLb.Core

/-! The whole of `apply`. -/

section Cutover

variable {primitives : Primitives} {embeddedCommit : String}
  {earlier : List Uuid} {start : World} {qaRunId : Uuid}
  {memory : Memory} {world after : World} {generation id : Uuid}

theorem Withdrawn.revoke (withdrawn : Withdrawn world generation) (other : Uuid) :
    Withdrawn (world.revoke other) generation := by
  intro item member label
  rcases Helper.mem_revoke_clients.mp member with
    ⟨old, -⟩ | ⟨original, -, -, rfl⟩
  · exact withdrawn item old label
  · rfl

theorem Held.withdrawn (held : Held world generation id) :
    Withdrawn (world.revoke id) generation := by
  intro item member label
  rcases Helper.mem_revoke_clients.mp member with
    ⟨old, different⟩ | ⟨original, -, -, rfl⟩
  · cases active : item.active with
    | false => rfl
    | true => exact absurd (held item old active label) different
  · rfl

theorem Linked.revoke {journal : RecoveryJournal}
    (isLinked : Linked start generation world journal) (other : Uuid) :
    Linked start generation (world.revoke other) journal := by
  rcases isLinked with calls | ⟨reverted, pending | ⟨settled, withdrawn⟩⟩
  · exact .inl calls
  · exact .inr ⟨reverted, .inl pending⟩
  · exact .inr ⟨reverted, .inr ⟨settled, withdrawn.revoke other⟩⟩

theorem candidate_new (inv : Inv earlier world)
    {linked : World → RecoveryJournal → Prop}
    (backed : Backed primitives start linked generation world)
    (issued : Helper.Issued world generation (some id)) :
    ∀ item ∈ start.clients, item.id ≠ id := by
  intro item member same
  obtain ⟨candidate, isCandidate, isId, label⟩ := issued id rfl
  obtain ⟨added, isClients, -⟩ := backed.clients
  have known : item ∈ world.clients :=
    isClients ▸ List.mem_append_left _ member
  have labels := inv.labels item known candidate isCandidate
    (same.trans isId.symm)
  exact backed.unlabelled item member (labels.trans label)

/-- The remote state is that of a completed cutover. -/
def RemoteReconciled (qaRunId id : Uuid) (world : World) : Prop :=
  qaRunId ∈ world.passedRuns ∧ PreviousRevoked world id

theorem Committed.revoke (committed : Committed primitives embeddedCommit start
      qaRunId generation id world) {other : Uuid} (previous : other ≠ id) :
    Committed primitives embeddedCommit start qaRunId generation id
      (world.revoke other) where
  listed := committed.listed
  verified := committed.verified
  others := committed.others
  files := committed.files
  receipt := committed.receipt
  candidate := by
    obtain ⟨item, member, isItem, active⟩ := committed.candidate
    refine ⟨item, Helper.mem_revoke_clients.mpr (.inl ⟨member, ?_⟩), isItem,
      active⟩
    rw [isItem]
    exact previous.symm
  journal := by
    obtain ⟨journal, at_, schema, isAfter, client, completed⟩ := committed.journal
    refine ⟨journal, at_, schema, isAfter, client, ?_⟩
    intro reconciled
    obtain ⟨passed, revoked⟩ := completed reconciled
    refine ⟨passed, ?_⟩
    intro item member active labelled
    exact revoked item (Helper.active_of_revoke member active).1 active labelled

theorem Committed.pass (committed : Committed primitives embeddedCommit start
      qaRunId generation id world) (runId : Uuid) :
    Committed primitives embeddedCommit start qaRunId generation id
      { world with passedRuns := runId :: world.passedRuns } where
  listed := committed.listed
  verified := committed.verified
  others := committed.others
  files := committed.files
  receipt := committed.receipt
  candidate := committed.candidate
  journal := by
    obtain ⟨journal, at_, schema, isAfter, client, completed⟩ := committed.journal
    refine ⟨journal, at_, schema, isAfter, client, ?_⟩
    intro reconciled
    obtain ⟨passed, revoked⟩ := completed reconciled
    exact ⟨List.mem_cons_of_mem _ passed, revoked⟩

theorem Committed.writeJournal (committed : Committed primitives embeddedCommit
      start qaRunId generation id world) {state : JournalState}
    {label : Option String}
    (later : state = .reconcilePending ∨ state = .reconciled ∧
      RemoteReconciled qaRunId id world) :
    Committed primitives embeddedCommit start qaRunId generation id
      (world.replaceFile (.snapshot generation .journal) (.journal {
        schemaVersion := journalSchema
        state
        operationLabel := label
        clientId := some id })) where
  listed := committed.listed
  verified := verified_writeJournal committed.verified
  others := others_writeJournal committed.others
  files := by
    unfold FilesAre
    simpa [FilesAre] using committed.files
  receipt := by simpa using committed.receipt
  candidate := committed.candidate
  journal := by
    refine ⟨_, journalAt_replaceFile.mpr (.inl ⟨rfl, rfl⟩), rfl, ?_, rfl, ?_⟩
    · rcases later with rfl | ⟨rfl, -⟩ <;> rfl
    · intro reconciled
      rcases later with rfl | ⟨-, remote⟩
      · cases reconciled
      · exact remote

namespace Helper

/-- The original files are back. -/
def Reverting (primitives : Primitives) (earlier : List Uuid) (start : World)
    (qaRunId generation id : Uuid) (memory : Memory) (world : World) : Prop :=
  Open earlier qaRunId generation memory world ∧
    Issued world generation (some id) ∧
    (generation ∈ world.misreported ∨
      Backed primitives start (Linked start generation) generation world ∧
        Held world generation id ∧ Reverted start world)

theorem unseen_reverting {memory : Memory} {before after : World}
    (unseen : Unseen before after) (framed : Framed before after)
    (files : after.files .env = before.files .env ∧
      after.files .config = before.files .config)
    (holds : Reverting primitives earlier start qaRunId generation id memory
      before) :
    Reverting primitives earlier start qaRunId generation id memory after := by
  obtain ⟨isOpen, issued, told⟩ := holds
  refine ⟨isOpen.unseen unseen, ?_, ?_⟩
  · unfold Issued
    rw [unseen.clients]
    exact issued
  · rcases told with member | ⟨backed, held, reverted⟩
    · exact .inl (unseen.misreported _ member)
    · refine .inr ⟨backed.framed framed ?_, ?_, ?_⟩
      · unfold Linked Reverted Withdrawn
        rw [files.1, files.2, unseen.clients]
        exact fun _ same => same
      · unfold Held
        rw [unseen.clients]
        exact held
      · exact ⟨files.1.trans reverted.1, files.2.trans reverted.2⟩

theorem leaving_of_reverting (new : New earlier start generation)
    {memory : Memory} {world : World}
    (holds : Reverting primitives earlier start qaRunId generation id memory
      world) :
    Leaving primitives embeddedCommit earlier start qaRunId generation memory
      world := by
  refine ⟨holds.1, ?_⟩
  rcases holds.2.2 with member | ⟨backed, -⟩
  · exact .misreported member new.generated
  · exact .backed backed

theorem calm_reverting (new : New earlier start generation) :
    Calm (During primitives embeddedCommit earlier start qaRunId) (Safe earlier)
      (Reverting primitives earlier start qaRunId generation id) := by
  apply calm_of
  · exact fun memory world holds =>
      calm_leaving.keeps memory world (leaving_of_reverting new holds)
  · intro memory before after same holds
    exact unseen_reverting same.unseen same.aside.framed
      ⟨congrFun same.files _, congrFun same.files _⟩ holds

theorem leaving_of_abandonable (new : New earlier start generation)
    {memory : Memory} {world : World}
    (holds : Abandonable primitives earlier start qaRunId generation id memory
      world) :
    Leaving primitives embeddedCommit earlier start qaRunId generation memory
      world :=
  ⟨holds.1, ((calm_abandonable new).keeps memory world holds).2⟩

private theorem hermes_abandonable :
    IgnoresHermes
      (Abandonable primitives earlier start qaRunId generation id) := by
  intro memory world target content hermes holds
  apply abandonable_unseen (replaceFile_hermes_unseen world hermes content) _ holds
  apply replaceFile_framed
  rcases hermes with rfl | rfl <;>
    · intro other file same
      cases same

private theorem rolledBack_used (isOpen : Open earlier qaRunId generation memory
      world) :
    Open earlier qaRunId generation
      { memory with rolledBack := generation :: memory.rolledBack } world := by
  refine ⟨⟨isOpen.lasting.1, ?_⟩, isOpen.generated, isOpen.unretired,
    isOpen.free⟩
  intro other member
  rcases List.mem_cons.mp member with rfl | before
  · exact isOpen.generated
  · exact isOpen.lasting.2 other before

theorem meets_rollback_abandonable (new : New earlier start generation) :
    Routine.Meets (underFaults primitives
        (During primitives embeddedCommit earlier start qaRunId) (Safe earlier))
      (Abandonable primitives earlier start qaRunId generation id)
      (rollbackAfterFailure generation)
      (fun _ => Reverting primitives earlier start qaRunId generation id)
      (Abandonable primitives earlier start qaRunId generation id) := by
  refine (@meets_rollbackAfterFailure _ _ _ _ (calm_abandonable new) generation
    ?_ hermes_abandonable ?_ ?_).consequence (fun _ _ holds => holds) ?_
    fun _ _ holds => holds
  · exact fun _ _ holds => ⟨new.earlier, holds.1.uncommitted⟩
  · intro memory world restoring holds
    obtain ⟨isOpen, issued, told⟩ := holds
    exact ⟨⟨isOpen.lasting, isOpen.generated, isOpen.unretired, isOpen.free⟩,
      issued, told⟩
  · exact fun _ _ holds => ⟨rolledBack_used holds.1, holds.2⟩
  · intro _ memory world holds
    obtain ⟨⟨isOpen, issued, told⟩, restored⟩ := holds
    refine ⟨isOpen, issued, ?_⟩
    rcases told with member | ⟨backed, held⟩
    · exact .inl member
    · exact .inr ⟨backed.mono fun _ => linked_of_undecided, held,
        backed.reverted restored⟩

theorem keeps_writeReverting (new : New earlier start generation)
    {fact : World → Prop} (stable : Stable fact) {state : JournalState}
    (before : state.afterCommit = false)
    (keeps : ∀ world journal, fact world →
      fact (world.replaceFile (.snapshot generation .journal)
        (.journal journal)))
    (refuses : ∀ op world, fact world → fact (refused op world))
    (links : ∀ world, fact world → Reverted start world →
      generation ∈ world.misreported ∨
      Linked start generation world {
        schemaVersion := journalSchema
        state
        operationLabel := some (operationLabelOf generation)
        clientId := some id }) :
    Routine.Keeps (underFaults primitives
        (During primitives embeddedCommit earlier start qaRunId) (Safe earlier))
      (fun memory world =>
        Reverting primitives earlier start qaRunId generation id memory world ∧
          fact world)
      (writeJournal (.snapshot generation .journal) state
        (some (operationLabelOf generation)) (some id)) := by
  have calm := (@calm_reverting primitives embeddedCommit earlier start qaRunId
    generation id new).and stable
  have uncommitted : state ≠ .committed := by
    intro committed
    rw [committed] at before
    cases before
  apply meets_writeJournal calm calm calm
  · intro memory world holds
    obtain ⟨⟨isOpen, issued, told⟩, known⟩ := holds
    refine ⟨⟨isOpen.writeJournal (isOpen.write new before issued) uncommitted,
      issued, ?_⟩, keeps world _ known⟩
    rcases told with member | ⟨backed, held, reverted⟩
    · exact .inl member
    · rcases links world known reverted with member | isLinked
      · exact .inl member
      · refine .inr ⟨backed.writeJournal rfl ?_ isLinked, held, ?_⟩
        · intro other same
          cases same
          exact held
        · exact reverted
  · exact fun _ _ holds => holds
  · intro memory world holds
    refine ⟨unseen_reverting (refused_unseen _ _) (refused_framed _ _) ?_
      holds.1, refuses _ world holds.2⟩
    rw [refused_files]
    exact ⟨rfl, rfl⟩

theorem keeps_reportFailed :
    Routine.Keeps (underFaults primitives
        (During primitives embeddedCommit earlier start qaRunId) (Safe earlier))
      (Leaving primitives embeddedCommit earlier start qaRunId generation)
      (ignore (reportFailedHermesRun qaRunId)) := by
  apply keeps_ignore
  apply meets_call calm_leaving.keeps
  · exact fun _ _ holds commit standing => (holds.1.free commit standing).2
  · exact fun _ _ holds => holds
  · intro memory world _ after holds performs
    obtain ⟨-, rfl⟩ := performs
    exact ⟨calm_leaving.keeps memory _ holds, holds, fun _ => holds⟩

private theorem meets_withdraw (new : New earlier start generation) :
    Routine.Meets (underFaults primitives
        (During primitives embeddedCommit earlier start qaRunId) (Safe earlier))
      (Reverting primitives earlier start qaRunId generation id)
      (call (.revokeClient id))
      (fun _ memory world =>
        Reverting primitives earlier start qaRunId generation id memory world ∧
          (generation ∈ world.misreported ∨ Withdrawn world generation))
      (Reverting primitives earlier start qaRunId generation id) := by
  have calm := @calm_reverting primitives embeddedCommit earlier start qaRunId
    generation id new
  refine (meets_revokeClient calm (@Calm.and _ _ _ calm (fun world =>
    generation ∈ world.misreported ∨ Withdrawn world generation) ?_) ?_
    ?_).consequence (fun _ _ holds => holds) (fun _ _ _ holds => holds) ?_
  · intro before after same holds
    exact @World.Same.fact before after same (fun world =>
      generation ∈ world.misreported ∨ Withdrawn world generation)
      (fun _ => Iff.rfl) holds
  · intro memory world holds
    exact safe_revoke holds.1.lasting.1 holds.1.uncommitted
      (holds.2.1 id rfl) memory
  · intro memory world holds
    obtain ⟨isOpen, issued, told⟩ := holds
    refine ⟨⟨isOpen.revoke id, issued.revoke id, ?_⟩, ?_⟩
    · rcases told with member | ⟨backed, held, reverted⟩
      · exact .inl member
      · exact .inr ⟨backed.revoke (candidate_new isOpen.lasting.1 backed
          issued) fun _ isLinked => isLinked.revoke id, held.revoke id,
          reverted⟩
    · rcases told with member | ⟨-, held, -⟩
      · exact .inl member
      · exact .inr held.withdrawn
  · intro memory world holds
    rcases holds with holds | holds
    · exact holds
    · exact holds.1

theorem meets_abandonCandidate (new : New earlier start generation) :
    Routine.Meets (underFaults primitives
        (During primitives embeddedCommit earlier start qaRunId) (Safe earlier))
      (Abandonable primitives earlier start qaRunId generation id)
      (abandonCandidate generation (operationLabelOf generation) id qaRunId)
      (fun _ => Leaving primitives embeddedCommit earlier start qaRunId
        generation)
      (Leaving primitives embeddedCommit earlier start qaRunId generation) := by
  have reports : Routine.Meets (underFaults primitives
        (During primitives embeddedCommit earlier start qaRunId) (Safe earlier))
      (Reverting primitives earlier start qaRunId generation id)
      (ignore (reportFailedHermesRun qaRunId))
      (fun _ => Leaving primitives embeddedCommit earlier start qaRunId
        generation)
      (Leaving primitives embeddedCommit earlier start qaRunId generation) :=
    keeps_reportFailed.strengthen fun _ _ => leaving_of_reverting new
  have pending := @keeps_writeReverting primitives embeddedCommit earlier start
    qaRunId generation id new (fun _ => True) (fun _ _ _ holds => holds)
    .rollbackCleanupPending rfl (fun _ _ holds => holds) (fun _ _ holds => holds)
    fun _ _ reverted => .inr (.inr ⟨reverted, .inl ⟨rfl, rfl⟩⟩)
  have completed := @keeps_writeReverting primitives embeddedCommit earlier start
    qaRunId generation id new
    (fun world => generation ∈ world.misreported ∨ Withdrawn world generation)
    (fun before after same => @World.Same.fact before after same (fun world =>
      generation ∈ world.misreported ∨ Withdrawn world generation)
      fun _ => Iff.rfl)
    .rolledBack rfl (fun _ _ holds => holds)
    (by
      intro op world holds
      have unseen := refused_unseen op world
      rcases holds with member | withdrawn
      · exact .inl (unseen.misreported _ member)
      · right
        unfold Withdrawn
        rw [unseen.clients]
        exact withdrawn)
    (by
      intro world holds reverted
      rcases holds with member | withdrawn
      · exact .inl member
      · exact .inr (.inr ⟨reverted, .inr ⟨.inl rfl, withdrawn⟩⟩))
  refine Routine.Meets.bind (Routine.Meets.attempt
    (meets_rollback_abandonable new)) fun rollback => ?_
  cases rollback with
  | error failure =>
      exact keeps_reportFailed.strengthen fun _ _ => leaving_of_abandonable new
  | ok value =>
      refine Routine.Meets.bind ((keeps_ignore pending).consequence
        (fun _ _ holds => ⟨holds, trivial⟩) (fun _ _ _ holds => holds.1)
        fun _ _ holds => leaving_of_reverting new holds.1) fun _ => ?_
      refine Routine.Meets.bind (Routine.Meets.attempt (meets_withdraw new))
        fun revocation => ?_
      cases revocation with
      | error failure => exact reports
      | ok value =>
          exact Routine.Meets.bind ((keeps_ignore completed).consequence
            (fun _ _ holds => holds) (fun _ _ _ holds => holds.1)
            fun _ _ holds => leaving_of_reverting new holds.1) fun _ => reports

private theorem owed_of_settling {receipt : SafeReceipt}
    (settling : Settling primitives embeddedCommit earlier start qaRunId
      generation receipt memory world) :
    receipt.qaRunId = some qaRunId ∧
      ∃ journal, Owed world generation journal receipt := by
  obtain ⟨-, committed, held, latest⟩ := settling
  obtain ⟨found, isFound, -, named, -, -, run⟩ := committed.receipt
  rw [held, Option.some.injEq, Content.receipt.injEq] at isFound
  subst isFound
  obtain ⟨journal, at_, -, isAfter, client, -⟩ := committed.journal
  exact ⟨run, journal, at_, isAfter, held, named, client, latest⟩

private theorem settling_revoke {receipt : SafeReceipt}
    (settling : Settling primitives embeddedCommit earlier start qaRunId
      generation receipt memory world) (previous : id ≠ receipt.clientId) :
    Settling primitives embeddedCommit earlier start qaRunId generation receipt
      memory (world.revoke id) :=
  ⟨⟨settling.1.1.revoke id, settling.1.2⟩, settling.2.1.revoke previous,
    settling.2.2⟩

private theorem settling_pass {receipt : SafeReceipt} (runId : Uuid)
    (settling : Settling primitives embeddedCommit earlier start qaRunId
      generation receipt memory world) :
    Settling primitives embeddedCommit earlier start qaRunId generation receipt
      memory { world with passedRuns := runId :: world.passedRuns } :=
  ⟨⟨settling.1.1.passRun runId, settling.1.2⟩, settling.2.1.pass runId,
    settling.2.2⟩

private theorem settling_refused {receipt : SafeReceipt} (op : Op)
    (settling : Settling primitives embeddedCommit earlier start qaRunId
      generation receipt memory world) :
    Settling primitives embeddedCommit earlier start qaRunId generation receipt
      memory (refused op world) := by
  have unseen := refused_unseen op world
  refine ⟨settling.1.unseen unseen,
    settling.2.1.framed (refused_framed op world) ?_ ?_, ?_,
    settling.2.2.2.unseen unseen⟩ <;>
    rw [refused_files]
  · exact ⟨rfl, rfl⟩
  · exact settling.2.2.1

private theorem settling_write {receipt : SafeReceipt} {state : JournalState}
    (later : state = .reconcilePending ∨ state = .reconciled ∧
      RemoteReconciled qaRunId receipt.clientId world)
    (settling : Settling primitives embeddedCommit earlier start qaRunId
      generation receipt memory world) :
    Settling primitives embeddedCommit earlier start qaRunId generation receipt
      memory (world.replaceFile (.snapshot generation .journal) (.journal {
        schemaVersion := journalSchema
        state
        operationLabel := some (operationLabelOf generation)
        clientId := some receipt.clientId })) := by
  obtain ⟨run, journal, owed⟩ := owed_of_settling settling
  obtain ⟨lasting, committed, held, latest⟩ := settling
  have uncommitted : state ≠ .committed := by
    rcases later with rfl | ⟨rfl, -⟩ <;> exact fun same => by cases same
  have label := (lasting.1.journals generation journal owed.at_).label
  have write := @Owed.write earlier world generation journal receipt owed
    lasting.1 state (by
      rcases later with pending | ⟨reconciled, passed, -⟩
      · exact .inl pending
      · refine .inr ⟨reconciled, ?_⟩
        intro runId isRun
        rw [run, Option.some.injEq] at isRun
        exact isRun ▸ passed)
  rw [label] at write
  exact ⟨⟨lasting.1.writeJournal write, lasting.2⟩,
    committed.writeJournal later, by simpa using held, by
      unfold Latest
      rw [commits_of_uncommitted uncommitted]
      exact latest⟩

theorem keeps_reconciliation {receipt : SafeReceipt} :
    Routine.Keeps (underFaults primitives
        (During primitives embeddedCommit earlier start qaRunId) (Safe earlier))
      (Settling primitives embeddedCommit earlier start qaRunId generation
        receipt) (do
        reconcileRemoteState receipt
        writeJournal (.snapshot generation .journal) .reconciled
          (some (operationLabelOf generation)) (some receipt.clientId) :
        Helper Unit) := by
  have calm := @calm_settling primitives embeddedCommit earlier start qaRunId
    generation receipt
  refine Routine.Meets.bind (meets_reconcileRemoteState calm ?_ ?_ ?_ ?_)
    fun _ => ?_
  · exact fun _ _ _ holds => holds
  · intro memory world id holds reconciling previous
    obtain ⟨-, journal, owed⟩ := owed_of_settling holds
    exact owed.safe_revoke holds.1.1 previous reconciling
  · exact fun _ _ _ holds previous => settling_revoke holds previous
  · exact fun _ _ runId holds _ => settling_pass runId holds
  · have calmRemote := @Calm.and _ _ _ calm
      (RemoteReconciled qaRunId receipt.clientId) fun before after same =>
        @World.Same.fact before after same
          (RemoteReconciled qaRunId receipt.clientId) fun _ => Iff.rfl
    refine (meets_writeJournal calmRemote calm calm ?_ ?_ ?_).strengthen ?_
    · exact fun _ _ holds => settling_write (.inr ⟨rfl, holds.2⟩) holds.1
    · exact fun _ _ holds => holds.1
    · exact fun _ _ holds => settling_refused _ holds
    · intro memory world holds
      exact ⟨holds.1, holds.2.2 qaRunId (owed_of_settling holds.1).1, holds.2.1⟩

theorem keeps_reconcilePending {receipt : SafeReceipt} :
    Routine.Keeps (underFaults primitives
        (During primitives embeddedCommit earlier start qaRunId) (Safe earlier))
      (Settling primitives embeddedCommit earlier start qaRunId generation
        receipt)
      (writeJournal (.snapshot generation .journal) .reconcilePending
        (some (operationLabelOf generation)) (some receipt.clientId)) := by
  apply meets_writeJournal calm_settling calm_settling calm_settling
  · exact fun _ _ holds => settling_write (.inl rfl) holds
  · exact fun _ _ holds => holds
  · exact fun _ _ holds => settling_refused _ holds

theorem leaving_of_undoing {memory : Memory} {world : World}
    (holds : Undoing primitives earlier start qaRunId generation memory world) :
    Leaving primitives embeddedCommit earlier start qaRunId generation memory
      world :=
  ⟨holds.1, .backed (holds.2.mono fun _ => linked_of_undecided)⟩

theorem keeps_rollback_undoing (new : New earlier start generation) :
    Routine.Keeps (underFaults primitives
        (During primitives embeddedCommit earlier start qaRunId) (Safe earlier))
      (Undoing primitives earlier start qaRunId generation)
      (rollbackAfterFailure generation) := by
  refine (@meets_rollbackAfterFailure _ _ _ _ calm_undoing generation ?_
    hermes_undoing ?_ ?_).consequence (fun _ _ holds => holds)
    (fun _ _ _ holds => holds.1) fun _ _ holds => holds
  · exact fun _ _ holds => ⟨new.earlier, holds.1.uncommitted⟩
  · intro memory world restoring holds
    obtain ⟨isOpen, backed⟩ := holds
    exact ⟨⟨isOpen.lasting, isOpen.generated, isOpen.unretired, isOpen.free⟩,
      backed⟩
  · exact fun _ _ holds => ⟨rolledBack_used holds.1, holds.2⟩

/-- Where `run` starts `apply`. -/
def Ready (primitives : Primitives) (earlier : List Uuid) (start : World)
    (qaRunId : Uuid) (memory : Memory) (world : World) : Prop :=
  world = start ∧ Lasting earlier memory world ∧ Settled primitives world ∧
    qaRunId ∉ world.passedRuns

private theorem meets_newGeneration :
    Routine.Meets (underFaults primitives
        (During primitives embeddedCommit earlier start qaRunId) (Safe earlier))
      (Ready primitives earlier start qaRunId) (call .newUuid)
      (fun generation memory world => New earlier start generation ∧
        Preparing primitives earlier start qaRunId generation memory world)
      (During primitives embeddedCommit earlier start qaRunId) := by
  have during : ∀ memory world,
      Ready primitives earlier start qaRunId memory world →
        During primitives embeddedCommit earlier start qaRunId memory world := by
    intro memory world ready
    obtain ⟨rfl, lasting, settled, -⟩ := ready
    exact ⟨lasting, .untouched settled ⟨⟨rfl, rfl⟩, rfl, rfl⟩⟩
  apply meets_call during
  · exact fun _ _ _ => trivial
  · exact during
  · intro memory world generation after ready performs
    obtain ⟨rfl, lasting, settled, unpassed⟩ := ready
    have same : world.Same after :=
      @Performs.same primitives .newUuid _ _ generation rfl performs
    obtain ⟨fresh, rfl⟩ := performs
    have new : New earlier world generation := {
      generated := fresh
      earlier := fun member => fresh (lasting.1.known generation member)
      unlabelled := fun item member label =>
        fresh (lasting.1.issued item member generation label) }
    have preparing : Preparing primitives earlier world qaRunId generation memory
        { world with used := generation :: world.used } := by
      refine ⟨⟨lasting.unseen same.unseen, List.mem_cons_self, ?_, ?_⟩,
        same.aside.framed.settled settled, ⟨rfl, rfl⟩, rfl, rfl⟩
      · cases retired : world.files (.retirement generation) with
        | none => rfl
        | some content =>
            exact absurd (lasting.1.retired generation (by rw [retired]; rfl))
              fresh
      · intro commit standing
        have before : world.standing commit := standing
        refine ⟨?_, ?_⟩
        · intro isNew
          exact fresh (isNew ▸ lasting.1.generated commit before.1)
        · intro isRun
          obtain ⟨runId, passed, isPassed⟩ := settled.passed lasting.1 before
          rw [isRun, Option.some.injEq] at isPassed
          exact unpassed (isPassed ▸ passed)
    exact ⟨calm_preparing.keeps memory _ preparing, ⟨new, preparing⟩,
      fun remote => by cases remote⟩

theorem meets_apply :
    Routine.Meets (underFaults primitives
        (During primitives embeddedCommit earlier start qaRunId) (Safe earlier))
      (Ready primitives earlier start qaRunId) (apply embeddedCommit qaRunId)
      (fun _ => During primitives embeddedCommit earlier start qaRunId)
      (During primitives embeddedCommit earlier start qaRunId) := by
  refine Routine.Meets.learn meets_newGeneration fun generation new => ?_
  have during : ∀ memory world, Leaving primitives embeddedCommit earlier start
      qaRunId generation memory world →
        During primitives embeddedCommit earlier start qaRunId memory world :=
    calm_leaving.keeps
  have reports : Routine.Meets (underFaults primitives
        (During primitives embeddedCommit earlier start qaRunId) (Safe earlier))
      (Leaving primitives embeddedCommit earlier start qaRunId generation)
      (ignore (reportFailedHermesRun qaRunId))
      (fun _ => During primitives embeddedCommit earlier start qaRunId)
      (During primitives embeddedCommit earlier start qaRunId) :=
    keeps_reportFailed.consequence (fun _ _ holds => holds)
      (fun _ _ _ => calm_leaving.keeps _ _) calm_leaving.keeps
  refine Routine.Meets.bind (Routine.Meets.attempt (meets_snapshot new))
    fun taken => ?_
  cases taken with
  | error failure =>
      refine Routine.Meets.bind reports fun _ => ?_
      exact fun _ _ holds => holds
  | ok value =>
      refine Routine.Meets.bind (Routine.Meets.attempt
        (meets_issueOrRotateClient new)) fun issue => ?_
      cases issue with
      | error failure =>
          refine Routine.Meets.bind ((keeps_ignore (keeps_rollback_undoing
            new)).consequence (fun _ _ holds => holds) (fun _ _ _ holds => holds)
            calm_undoing.keeps) fun _ => ?_
          refine Routine.Meets.bind (reports.strengthen ?_) fun _ => ?_
          · exact fun _ _ => leaving_of_undoing
          · exact fun _ _ holds => holds
      | ok issued =>
          refine Routine.Meets.bind (Routine.Meets.attempt
            (meets_candidateApplication new issued)) fun candidate => ?_
          cases candidate with
          | error failure =>
              refine Routine.Meets.bind ((meets_abandonCandidate
                new).consequence (fun _ _ holds => holds)
                (fun _ _ _ => calm_leaving.keeps _ _) calm_leaving.keeps)
                fun _ => ?_
              exact fun _ _ holds => holds
          | ok receipt =>
              refine Routine.Meets.assuming fun known => ?_
              obtain ⟨client, -⟩ := known
              rw [← client]
              refine Routine.Meets.bind (Routine.Meets.attempt
                keeps_reconciliation) fun reconciliation => ?_
              cases reconciliation with
              | ok value => exact calm_settling.keeps
              | error failure =>
                  refine Routine.Meets.bind ((keeps_ignore
                    keeps_reconcilePending).consequence (fun _ _ holds => holds)
                    (fun _ _ _ => calm_settling.keeps _ _) calm_settling.keeps)
                    fun _ => ?_
                  exact fun _ _ holds => holds

end Helper

end Cutover

end NvidiaBuildLb.Hermes
