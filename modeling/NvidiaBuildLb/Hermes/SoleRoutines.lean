import NvidiaBuildLb.Hermes.SoleGeneration

namespace NvidiaBuildLb.Hermes

open Foundation NvidiaBuildLb.Core

/-! The routines of the helper, under the lock, keep one generation under way
at most. -/

/-- A fact that mild requests leave alone. -/
def Persistent (fact : World → Prop) : Prop :=
  ∀ ⦃before after : World⦄, Alike before after → fact before → fact after

theorem Persistent.and {fact other : World → Prop}
    (persistent : Persistent fact) (persistent' : Persistent other) :
    Persistent fun world => fact world ∧ other world :=
  fun _ _ alike holds =>
    ⟨persistent alike holds.1, persistent' alike holds.2⟩

abbrev Fact (fact : World → Prop) : Memory → World → Prop :=
  fun _ => fact

theorem Persistent.stable {fact : World → Prop}
    (persistent : Persistent fact) : Stable (Fact fact) :=
  fun _ _ _ same holds => persistent (.of_same same) holds

/-- The generation that a cutover of the QA run works on: no other one is under
way, and it has not committed. -/
structure Working (runId generation : Uuid) (world : World) : Prop where
  used : generation ∈ world.used
  alone : ∀ other, world.Live other → other = generation
  unretired : world.files (.retirement generation) = none
  uncommitted : ∀ commit, world.standing commit →
    commit.generation ≠ generation
  undecided : runId ∉ world.passedRuns

/-- The generation that a cutover commits, with its receipt. -/
structure Closing (generation : Uuid) (receipt : SafeReceipt) (world : World) :
    Prop where
  used : generation ∈ world.used
  published : generation ∈ world.generations
  alone : ∀ other, world.Live other → other = generation
  unretired : world.files (.retirement generation) = none
  receipt : world.files (.receipt generation) = some (.receipt receipt)

theorem working_persistent (runId generation : Uuid) :
    Persistent (Working runId generation) := by
  intro before after alike working
  exact {
    used := alike.used _ working.used
    alone := fun other isLive => working.alone other (alike.live.mp isLive)
    unretired := (alike.retirements _).trans working.unretired
    uncommitted := fun commit standing =>
      working.uncommitted commit (alike.standing standing)
    undecided := alike.passedRuns ▸ working.undecided }

theorem closing_persistent (generation : Uuid) (receipt : SafeReceipt) :
    Persistent (Closing generation receipt) := by
  intro before after alike closing
  exact {
    used := alike.used _ closing.used
    published := alike.generations ▸ closing.published
    alone := fun other isLive => closing.alone other (alike.live.mp isLive)
    unretired := (alike.retirements _).trans closing.unretired
    receipt := (alike.receipts _).trans closing.receipt }

theorem published_persistent (generation : Uuid) :
    Persistent fun world => generation ∈ world.generations := by
  intro before after alike member
  exact Eq.mpr (congrArg (generation ∈ ·) alike.generations) member

theorem receipted_persistent (generation : Uuid) (content : Option Content) :
    Persistent fun world => world.files (.receipt generation) = content :=
  fun _ _ alike holds => (alike.receipts _).trans holds

theorem true_persistent : Persistent fun _ => True :=
  fun _ _ _ _ => trivial

namespace Sequel

open Helper

variable {primitives : Primitives}

section Mild

variable {fact : World → Prop} (persistent : Persistent fact)
include persistent

theorem keeps_mild {op : Op} (mild : op.mild = true) :
    Routine.Keeps (critical primitives Sole) (Fact fact) (call op) := by
  apply Critical.meets_call
  · exact fun _ _ _ moved => persistent (.of_same moved.same)
  · exact fun _ _ holds _ => persistent (alike_refused _ _) holds
  · intro memory world value after holds sole performs
    have alike := performs.alike mild
    have later := persistent alike holds
    exact ⟨sole.alike alike, later, fun _ => later⟩

theorem looks : Looks (critical primitives Sole) (Fact fact) :=
  Critical.looks sole_robust persistent.stable

theorem cleans (directory : Place) (targets : List Path) :
    Routine.Keeps (critical primitives Sole) (Fact fact)
      (cleanupAtomicTemps directory targets) :=
  Critical.keeps_cleanupAtomicTemps sole_robust persistent.stable _ _

theorem keeps_write {target : Path} (mild : target.mild = true)
    (content : Content) :
    Routine.Keeps (critical primitives Sole) (Fact fact)
      (atomicWrite target content) := by
  apply Critical.meets_atomicWrite sole_robust persistent.stable
    persistent.stable persistent.stable
  · intro memory world holds sole
    have alike := @alike_replaceFile world target mild content
    exact ⟨sole.alike alike, persistent alike holds⟩
  · exact fun _ _ holds => holds
  · exact fun _ _ holds => persistent (alike_refused _ _) holds

omit persistent in
theorem keeps_update (change : Memory → Memory) :
    Routine.Keeps (critical primitives Sole) (Fact fact)
      (Routine.update change : Helper Unit) :=
  fun _ _ holds => holds

theorem keeps_cleanupSnapshotStage (generation : Uuid) :
    Routine.Keeps (critical primitives Sole) (Fact fact)
      (cleanupSnapshotStage generation) := by
  refine Routine.Keeps.bind ((looks persistent).call rfl) fun _ => ?_
  refine Routine.Keeps.bind ((looks persistent).call rfl) fun entries => ?_
  refine Routine.Keeps.bind (Routine.Keeps.each ?_ entries) fun _ => ?_
  · intro entry
    cases entry with
    | file file =>
        exact Routine.Keeps.bind ((looks persistent).call rfl) fun _ =>
          keeps_mild persistent rfl
    | temporary file nonce =>
        exact Routine.Keeps.bind ((looks persistent).call rfl) fun _ =>
          keeps_mild persistent rfl
    | other name => exact keeps_bail
  · exact Routine.Keeps.bind (keeps_mild persistent rfl) fun _ =>
      (looks persistent).call rfl

theorem keeps_restoreSnapshot (generation : Uuid) :
    Routine.Keeps (critical primitives Sole) (Fact fact)
      (restoreSnapshot generation) := by
  refine Routine.Keeps.bind (keeps_verifySnapshot (looks persistent) _)
    fun _ => ?_
  refine Routine.Keeps.bind (keeps_update _) fun _ => ?_
  refine Routine.Keeps.bind (keeps_readBytes (looks persistent) _)
    fun env => ?_
  refine Routine.Keeps.bind (keeps_write persistent rfl _) fun _ => ?_
  refine Routine.Keeps.bind (keeps_readBytes (looks persistent) _)
    fun config => ?_
  refine Routine.Keeps.bind (keeps_write persistent rfl _) fun _ => ?_
  exact keeps_update _

theorem keeps_rollbackAfterFailure (generation : Uuid) :
    Routine.Keeps (critical primitives Sole) (Fact fact)
      (rollbackAfterFailure generation) := by
  have docks := keeps_docker (@looks primitives _ persistent)
  refine Routine.Keeps.bind (keeps_ignore (docks _)) fun _ => ?_
  refine Routine.Keeps.bind (keeps_restoreSnapshot persistent _) fun _ => ?_
  refine Routine.Keeps.bind (docks _) fun _ => ?_
  refine Routine.Keeps.bind (Routine.Keeps.attempt
    (keeps_waitForContainerHealth (looks persistent))) fun result => ?_
  cases result with
  | ok value => exact keeps_update _
  | error failure =>
      exact Routine.Keeps.bind (keeps_ignore (docks _)) fun _ =>
        Routine.Keeps.bind keeps_leave fun _ => keeps_update _

theorem keeps_issueOrRotateClient (label : String) :
    Routine.Keeps (critical primitives Sole) (Fact fact)
      (issueOrRotateClient label) := by
  refine Routine.Keeps.bind (keeps_mild persistent rfl) fun reply => ?_
  cases reply with
  | created response => exact keeps_pure
  | rejected status => exact keeps_bail
  | conflict =>
      refine Routine.Keeps.bind ((looks persistent).call rfl) fun clients => ?_
      split
      · exact keeps_bail
      · exact (looks persistent).call rfl

theorem keeps_revokePreviousClients (keep : Uuid) :
    Routine.Keeps (critical primitives Sole) (Fact fact)
      (revokePreviousClients keep) := by
  refine Routine.Keeps.bind ((looks persistent).call rfl) fun clients => ?_
  refine Routine.Keeps.each (fun item => ?_) clients
  split
  · exact keeps_mild persistent rfl
  · exact keeps_pure

theorem keeps_reportFailed (runId : Uuid) :
    Routine.Keeps (critical primitives Sole) (Fact fact)
      (ignore (reportFailedHermesRun runId)) :=
  keeps_ignore (keeps_mild persistent rfl)

end Mild

def written (state : JournalState) (operationLabel : Option String)
    (clientId : Option Uuid) : RecoveryJournal :=
  { schemaVersion := journalSchema, state, operationLabel, clientId }

theorem meets_writeJournal {pre post fails : World → Prop}
    (persistentPre : Persistent pre) (persistentPost : Persistent post)
    (persistentFails : Persistent fails) {generation : Uuid}
    {state : JournalState} {operationLabel : Option String}
    {clientId : Option Uuid}
    (replaced : ∀ world, pre world → Sole world →
      Sole (world.replaceFile (.snapshot generation .journal)
          (.journal (written state operationLabel clientId))) ∧
        post (world.replaceFile (.snapshot generation .journal)
          (.journal (written state operationLabel clientId))))
    (unwritten : ∀ world, pre world → fails world)
    (unsynced : ∀ world, post world → fails (refused
      (.syncDirectory (.replaced (.snapshot generation .journal))) world)) :
    Routine.Meets (critical primitives Sole) (Fact pre)
      (writeJournal (.snapshot generation .journal) state operationLabel
        clientId) (fun _ => Fact post) (Fact fails) := by
  apply Critical.meets_atomicWrite sole_robust persistentPre.stable
    persistentPost.stable persistentFails.stable
  · exact fun _ => replaced
  · exact fun _ => unwritten
  · exact fun _ => unsynced

section Working

variable {runId generation : Uuid} {world : World}

private theorem live_written {journal : RecoveryJournal}
    (alone : ∀ other, world.Live other → other = generation) {other : Uuid}
    (isLive : (world.replaceFile (.snapshot generation .journal)
      (.journal journal)).Live other) : other = generation := by
  obtain ⟨found, at_, state⟩ := isLive
  rw [journalAt_replace] at at_
  split at at_
  · rename_i same
    exact same
  · exact alone other ⟨found, at_, state⟩

private theorem Working.written (working : Working runId generation world)
    (sole : Sole world) (published : generation ∈ world.generations)
    (journal : RecoveryJournal) (uncommitted : journal.state ≠ .committed) :
    Sole (world.replaceFile (.snapshot generation .journal)
        (.journal journal)) ∧
      Working runId generation (world.replaceFile
        (.snapshot generation .journal) (.journal journal)) := by
  have closed : world.Closed generation := fun commit standing isGeneration =>
    absurd isGeneration (working.uncommitted commit standing)
  refine ⟨sole.journal working.used (fun _ => ⟨published, working.alone⟩)
    (fun _ => working.unretired) (fun _ => closed)
    (fun committed => absurd committed uncommitted), ?_⟩
  have commits : (world.replaceFile (.snapshot generation .journal)
      (.journal journal)).commits = world.commits := by
    simp [World.replaceFile, World.commitOf, uncommitted, World.setFile]
  exact {
    used := working.used
    alone := fun other => live_written working.alone
    unretired := working.unretired
    uncommitted := fun commit standing =>
      working.uncommitted commit ⟨commits ▸ standing.1, standing.2⟩
    undecided := working.undecided }

/-- The same, once its snapshot is published. -/
abbrev Open (runId generation : Uuid) (world : World) : Prop :=
  Working runId generation world ∧ generation ∈ world.generations

theorem open_persistent (runId generation : Uuid) :
    Persistent (Open runId generation) :=
  (working_persistent runId generation).and (published_persistent generation)

theorem keeps_writeJournal {state : JournalState}
    {operationLabel : Option String} {clientId : Option Uuid}
    (uncommitted : state ≠ .committed) :
    Routine.Keeps (critical primitives Sole) (Fact (Open runId generation))
      (writeJournal (.snapshot generation .journal) state operationLabel
        clientId) := by
  have lasts := open_persistent runId generation
  apply meets_writeJournal lasts lasts lasts
  · intro world ⟨working, published⟩ sole
    have kept := Working.written working sole published
      (written state operationLabel clientId) uncommitted
    exact ⟨kept.1, kept.2, published⟩
  · exact fun _ holds => holds
  · exact fun _ holds => lasts (alike_refused _ _) holds

private theorem Working.publish (working : Working runId generation world) :
    Working runId generation (world.publish generation) where
  used := working.used
  alone := fun _ isLive => (live_publish isLive).elim id (working.alone _)
  unretired := working.unretired
  uncommitted := working.uncommitted
  undecided := working.undecided

theorem meets_snapshot (operationLabel : String) :
    Routine.Meets (critical primitives Sole) (Fact (Working runId generation))
      (snapshot generation operationLabel)
      (fun _ => Fact (Open runId generation))
      (Fact (Working runId generation)) := by
  have lasts := working_persistent runId generation
  have looking := @looks primitives _ lasts
  refine Routine.Meets.bind (keeps_ensureRootDirectory looking _) fun _ => ?_
  refine Routine.Meets.bind (keeps_pathExists looking _) fun staged => ?_
  refine Routine.Meets.bind (keeps_pathExists looking _) fun published => ?_
  have works : Routine.Meets (critical primitives Sole)
      (Fact (Working runId generation))
      (do
        copySecure .env (.staged generation .env)
        copySecure .config (.staged generation .config)
        let envSha256 ← call (.sha256File (.staged generation .env))
        let configSha256 ← call (.sha256File (.staged generation .config))
        atomicWrite (.staged generation .manifest) (.manifest {
          schemaVersion := snapshotSchema
          generation
          envSha256
          configSha256 })
        writeJournal (.staged generation .journal) .clientOperationPrepared
          (some operationLabel) none
        call (.syncDirectory (.directory (.stage generation)))
        call (.publishStage generation)
        call (.syncDirectory (.directory .backupRoot)) : Helper Unit)
      (fun _ => Fact (Open runId generation))
      (Fact (Working runId generation)) := by
    refine Routine.Meets.bind (Routine.Keeps.bind (keeps_readBytes looking _)
      fun env => keeps_write lasts rfl _) fun _ => ?_
    refine Routine.Meets.bind (Routine.Keeps.bind (keeps_readBytes looking _)
      fun config => keeps_write lasts rfl _) fun _ => ?_
    refine Routine.Meets.bind (looking.call rfl) fun envSha256 => ?_
    refine Routine.Meets.bind (looking.call rfl) fun configSha256 => ?_
    refine Routine.Meets.bind (keeps_write lasts rfl _) fun _ => ?_
    let journal := written .clientOperationPrepared (some operationLabel) none
    let ready : World → Prop := fun world => Working runId generation world ∧
      world.files (.staged generation .journal) = some (.journal journal)
    have stable : Stable (Fact ready) := by
      intro _ before after same holds
      refine ⟨lasts (.of_same same) holds.1, ?_⟩
      rw [same.files]
      exact holds.2
    have stages : Routine.Meets (critical primitives Sole)
        (Fact (Working runId generation))
        (writeJournal (.staged generation .journal) .clientOperationPrepared
          (some operationLabel) none)
        (fun _ => Fact ready) (Fact (Working runId generation)) := by
      apply Critical.meets_atomicWrite sole_robust lasts.stable stable
        lasts.stable
      · intro memory world working sole
        have alike := @alike_replaceFile world (.staged generation .journal)
          rfl (.journal journal)
        exact ⟨sole.alike alike, lasts alike working, if_pos rfl⟩
      · exact fun _ _ working => working
      · exact fun _ _ holds => lasts (alike_refused _ _) holds.1
    refine Routine.Meets.bind stages fun _ => ?_
    have syncs : Routine.Meets (critical primitives Sole) (Fact ready)
        (call (.syncDirectory (.directory (.stage generation))))
        (fun _ => Fact ready) (Fact (Working runId generation)) :=
      (Critical.keeps_call sole_robust stable rfl).consequence
        (fun _ _ holds => holds) (fun _ _ _ holds => holds)
        (fun _ _ holds => holds.1)
    refine Routine.Meets.bind syncs fun _ => ?_
    have publishes : Routine.Meets (critical primitives Sole) (Fact ready)
        (call (.publishStage generation))
        (fun _ => Fact (Open runId generation))
        (Fact (Working runId generation)) := by
      apply Critical.meets_call
      · exact fun memory before after moved =>
          stable memory before after moved.same
      · exact fun _ _ holds _ => lasts (alike_refused _ _) holds.1
      · intro memory world _ after ⟨working, staged⟩ sole performs
        obtain ⟨-, -, rfl⟩ := performs
        refine ⟨sole.publish working.used working.alone ?_ ?_,
          ⟨Working.publish working, List.mem_cons_self⟩,
          fun remote => by cases remote⟩
        · exact fun commit standing isGeneration =>
            absurd isGeneration (working.uncommitted commit standing)
        · intro other isOther
          cases staged.symm.trans isOther
          rfl
    refine Routine.Meets.bind publishes fun _ => ?_
    exact ((looks (open_persistent runId generation)).call
      rfl).consequence (fun _ _ holds => holds) (fun _ _ _ holds => holds)
      (fun _ _ holds => holds.1)
  dsimp only
  split
  · exact fun _ _ holds => holds
  refine Routine.Meets.bind (keeps_mild lasts rfl) fun _ => ?_
  refine Routine.Meets.bind (Routine.Meets.attempt works) fun result => ?_
  cases result with
  | ok value => exact fun _ _ holds => holds
  | error failure =>
      refine Routine.Meets.bind (keeps_ignore (@keeps_cleanupSnapshotStage
        primitives _ lasts generation)) fun _ => ?_
      exact fun _ _ holds => holds

theorem meets_writeReceipt {receipt : SafeReceipt}
    (named : receipt.generation = generation) :
    Routine.Meets (critical primitives Sole) (Fact (Open runId generation))
      (writeReceipt receipt)
      (fun _ => Fact fun world => Open runId generation world ∧
        world.files (.receipt generation) = some (.receipt receipt))
      (Fact (Open runId generation)) := by
  subst named
  have lasts := open_persistent runId receipt.generation
  refine Routine.Meets.bind (keeps_ensureRootDirectory (looks lasts) _)
    fun _ => ?_
  apply Critical.meets_atomicWrite sole_robust lasts.stable
    (lasts.and (receipted_persistent _ _)).stable lasts.stable
  · intro memory world ⟨working, published⟩ sole
    refine ⟨sole.receipt working.uncommitted, ⟨?_, published⟩, if_pos rfl⟩
    exact {
      used := working.used
      alone := working.alone
      unretired := working.unretired
      uncommitted := working.uncommitted
      undecided := working.undecided }
  · exact fun _ _ holds => holds
  · exact fun _ _ holds => lasts (alike_refused _ _) holds.1

/-- A commit whose journal is in place but whose directory was not synced is
taken back. -/
private theorem unsynced_commit {receipt : SafeReceipt}
    {journal : RecoveryJournal} (committed : journal.state = .committed)
    (closing : Closing generation receipt world)
    (at_ : JournalAt world generation journal)
    (undecided : runId ∉ world.passedRuns) :
    Open runId generation (refused
      (.syncDirectory (.replaced (.snapshot generation .journal))) world) := by
  have isRefused : refused
      (.syncDirectory (.replaced (.snapshot generation .journal))) world =
        { world with misreported := generation :: world.misreported } := by
    unfold JournalAt at at_
    simp [refused, at_, committed]
  rw [isRefused]
  refine ⟨?_, closing.published⟩
  exact {
    used := closing.used
    alone := closing.alone
    unretired := closing.unretired
    uncommitted := by
      intro commit standing same
      exact standing.2 (same ▸ List.mem_cons_self)
    undecided }

theorem meets_commit {receipt : SafeReceipt}
    (ofRun : receipt.qaRunId = some runId) {operationLabel : Option String}
    {clientId : Option Uuid} :
    Routine.Meets (critical primitives Sole)
      (Fact fun world => Open runId generation world ∧
        world.files (.receipt generation) = some (.receipt receipt))
      (writeJournal (.snapshot generation .journal) .committed operationLabel
        clientId)
      (fun _ => Fact (Closing generation receipt))
      (Fact (Open runId generation)) := by
  have lasts := open_persistent runId generation
  let journal := written .committed operationLabel clientId
  let committed : World → Prop := fun world =>
    Closing generation receipt world ∧ JournalAt world generation journal ∧
      runId ∉ world.passedRuns
  have lastsCommitted : Persistent committed := by
    intro before after alike holds
    refine ⟨closing_persistent _ _ alike holds.1,
      alike.journalAt.mpr holds.2.1, ?_⟩
    rw [alike.passedRuns]
    exact holds.2.2
  refine (@meets_writeJournal primitives _ committed _
    (lasts.and (receipted_persistent _ _)) lastsCommitted lasts _ _ _ _
    ?_ ?_ ?_).consequence (fun _ _ holds => holds)
    (fun _ _ _ holds => holds.1) (fun _ _ holds => holds)
  · intro world ⟨⟨working, published⟩, receipted⟩ sole
    refine ⟨sole.journal working.used (fun _ => ⟨published, working.alone⟩)
      (fun _ => working.unretired) (fun finished => by cases finished) ?_,
      ?_, journalAt_replace.mpr (by rw [if_pos rfl]), working.undecided⟩
    · intro _ commit id standing isRun isReceipt
      have isId : id = runId := by
        have run : world.receiptRun generation = some runId := by
          unfold World.receiptRun
          rw [receipted]
          exact ofRun
        exact Option.some.inj (isReceipt.symm.trans run)
      rcases sole.decided commit standing with unfinished | closed
      · exact working.alone _ (live_of_unfinished unfinished)
      · have passed := closed commit standing rfl id isRun
        exact absurd (isId ▸ passed) working.undecided
    · exact {
        used := working.used
        published
        alone := fun other => live_written working.alone
        unretired := working.unretired
        receipt := receipted }
  · exact fun _ holds => holds.1
  · exact fun world holds =>
      unsynced_commit rfl holds.1 holds.2.1 holds.2.2

theorem meets_candidateApplication (embeddedCommit operationLabel : String)
    (issued : MutationResponse) :
    Routine.Meets (critical primitives Sole) (Fact (Open runId generation))
      (candidateApplication embeddedCommit generation operationLabel issued
        runId)
      (fun receipt => Fact (Closing generation receipt))
      (Fact (Open runId generation)) := by
  have lasts := open_persistent runId generation
  have looking := @looks primitives _ lasts
  have docks := keeps_docker looking
  have healthy := keeps_waitForContainerHealth looking
  refine Routine.Meets.bind (keeps_update _) fun _ => ?_
  refine Routine.Meets.bind (keeps_readToString looking _) fun env => ?_
  refine Routine.Meets.bind (keeps_readToString looking _) fun config => ?_
  refine Routine.Meets.bind Routine.Keeps.lift fun candidateConfig => ?_
  refine Routine.Meets.bind (keeps_writeJournal (by decide)) fun _ => ?_
  refine Routine.Meets.bind (docks _) fun _ => ?_
  refine Routine.Meets.bind (keeps_write lasts rfl _) fun _ => ?_
  refine Routine.Meets.bind (keeps_write lasts rfl _) fun _ => ?_
  refine Routine.Meets.bind (looking.call rfl) fun _ => ?_
  refine Routine.Meets.bind (keeps_writeJournal (by decide)) fun _ => ?_
  refine Routine.Meets.bind (docks _) fun _ => ?_
  refine Routine.Meets.bind healthy fun _ => ?_
  refine Routine.Meets.bind (looking.call rfl) fun first => ?_
  refine Routine.Meets.bind (docks _) fun _ => ?_
  refine Routine.Meets.bind (keeps_restoreSnapshot lasts _) fun _ => ?_
  refine Routine.Meets.bind (docks _) fun _ => ?_
  refine Routine.Meets.bind healthy fun _ => ?_
  refine Routine.Meets.bind (docks _) fun _ => ?_
  refine Routine.Meets.bind (keeps_write lasts rfl _) fun _ => ?_
  refine Routine.Meets.bind (keeps_write lasts rfl _) fun _ => ?_
  refine Routine.Meets.bind (docks _) fun _ => ?_
  refine Routine.Meets.bind healthy fun _ => ?_
  refine Routine.Meets.bind (looking.call rfl) fun second => ?_
  refine Routine.Meets.bind (looking.call rfl) fun secretScan => ?_
  refine Routine.Meets.bind (meets_writeReceipt rfl) fun _ => ?_
  refine Routine.Meets.bind (meets_commit rfl) fun _ => ?_
  exact fun _ _ holds => holds

theorem keeps_abandonCandidate (operationLabel : String)
    (clientId reported : Uuid) :
    Routine.Keeps (critical primitives Sole) (Fact (Open runId generation))
      (abandonCandidate generation operationLabel clientId reported) := by
  have lasts := open_persistent runId generation
  have reports := @keeps_reportFailed primitives _ lasts reported
  refine Routine.Keeps.bind (Routine.Keeps.attempt
    (keeps_rollbackAfterFailure lasts _)) fun result => ?_
  cases result with
  | error failure => exact reports
  | ok value =>
      refine Routine.Keeps.bind
        (keeps_ignore (keeps_writeJournal (by decide))) fun _ => ?_
      refine Routine.Keeps.bind (Routine.Keeps.attempt
        (keeps_mild lasts rfl)) fun result => ?_
      cases result with
      | error failure => exact reports
      | ok value =>
          exact Routine.Keeps.bind
            (keeps_ignore (keeps_writeJournal (by decide))) fun _ => reports

end Working

section Closing

variable {generation : Uuid} {world : World} {receipt : SafeReceipt}

def Passed (receipt : SafeReceipt) (world : World) : Prop :=
  ∀ runId, receipt.qaRunId = some runId → runId ∈ world.passedRuns

theorem passed_persistent (receipt : SafeReceipt) :
    Persistent (Passed receipt) := by
  intro before after alike passed runId isRun
  rw [alike.passedRuns]
  exact passed runId isRun

theorem closed_of_passed (sole : Sole world)
    (receipted : world.files (.receipt generation) = some (.receipt receipt))
    (passed : Passed receipt world) : world.Closed generation := by
  intro commit standing same runId isRun
  refine passed runId ?_
  rw [← isRun, sole.receipts commit standing, same]
  unfold World.receiptRun
  rw [receipted]

theorem meets_reconcileRemoteState {fact : World → Prop}
    (persistent : Persistent fact)
    (passing : ∀ world runId, fact world →
      fact { world with passedRuns := runId :: world.passedRuns }) :
    Routine.Meets (critical primitives Sole) (Fact fact)
      (reconcileRemoteState receipt)
      (fun _ => Fact fun world => fact world ∧ Passed receipt world)
      (Fact fact) := by
  refine Routine.Meets.bind (keeps_update _) fun _ => ?_
  refine Routine.Meets.bind (keeps_revokePreviousClients persistent _)
    fun _ => ?_
  refine Routine.Meets.bind (keeps_update _) fun _ => ?_
  cases isRun : receipt.qaRunId with
  | none =>
      refine fun _ _ holds => ⟨holds, fun runId same => ?_⟩
      rw [isRun] at same
      cases same
  | some runId =>
      apply Critical.meets_call
      · exact fun _ _ _ moved => persistent (.of_same moved.same)
      · exact fun _ _ holds _ => persistent (alike_refused _ _) holds
      · intro memory world _ after holds sole performs
        have isAfter : after =
            { world with passedRuns := runId :: world.passedRuns } := performs
        subst isAfter
        refine ⟨sole.passed runId, ⟨passing world runId holds, ?_⟩,
          fun _ => passing world runId holds⟩
        intro id same
        rw [isRun] at same
        cases same
        exact List.mem_cons_self

private theorem Closing.written (closing : Closing generation receipt world)
    (journal : RecoveryJournal) :
    Closing generation receipt (world.replaceFile
      (.snapshot generation .journal) (.journal journal)) where
  used := closing.used
  published := closing.published
  alone := fun _ => live_written closing.alone
  unretired := closing.unretired
  receipt := closing.receipt

theorem meets_reconciliation {operationLabel : Option String}
    {clientId : Option Uuid} :
    Routine.Keeps (critical primitives Sole)
      (Fact (Closing generation receipt))
      (do
        reconcileRemoteState receipt
        writeJournal (.snapshot generation .journal) .reconciled operationLabel
          clientId : Helper Unit) := by
  have lasts := closing_persistent generation receipt
  refine Routine.Meets.bind (meets_reconcileRemoteState lasts ?_) fun _ => ?_
  · exact fun _ _ closing => {
      used := closing.used
      published := closing.published
      alone := closing.alone
      unretired := closing.unretired
      receipt := closing.receipt }
  · apply meets_writeJournal (lasts.and (passed_persistent receipt)) lasts lasts
    · intro world ⟨closing, passed⟩ sole
      have closed := closed_of_passed sole closing.receipt passed
      exact ⟨sole.journal closing.used (fun live => by cases live)
        (fun unfinished => by cases unfinished) (fun _ => closed)
        (fun committed => by cases committed), Closing.written closing _⟩
    · exact fun _ holds => holds.1
    · exact fun _ holds => lasts (alike_refused _ _) holds

theorem keeps_reconcilePending {operationLabel : Option String}
    {clientId : Option Uuid} :
    Routine.Keeps (critical primitives Sole)
      (Fact (Closing generation receipt))
      (writeJournal (.snapshot generation .journal) .reconcilePending
        operationLabel clientId) := by
  have lasts := closing_persistent generation receipt
  apply meets_writeJournal lasts lasts lasts
  · intro world closing sole
    exact ⟨sole.journal closing.used
      (fun _ => ⟨closing.published, closing.alone⟩)
      (fun _ => closing.unretired) (fun finished => by cases finished)
      (fun committed => by cases committed), Closing.written closing _⟩
  · exact fun _ holds => holds
  · exact fun _ holds => lasts (alike_refused _ _) holds

end Closing

/-- Nothing is under way, and the QA run has not passed. -/
def Clear (runId : Uuid) (world : World) : Prop :=
  (∀ generation, ¬ world.Live generation) ∧ runId ∉ world.passedRuns

theorem clear_persistent (runId : Uuid) : Persistent (Clear runId) := by
  intro before after alike clear
  refine ⟨fun generation isLive => ?_, alike.passedRuns ▸ clear.2⟩
  exact clear.1 generation (alike.live.mp isLive)

theorem meets_newGeneration (runId : Uuid) :
    Routine.Meets (critical primitives Sole) (Fact (Clear runId))
      (call .newUuid) (fun generation => Fact (Working runId generation))
      (Fact fun _ => True) := by
  apply Critical.meets_call
  · exact fun _ _ _ moved => clear_persistent runId (.of_same moved.same)
  · exact fun _ _ _ _ => trivial
  · intro memory world generation after clear sole performs
    have same : world.Same after := performs.same rfl
    obtain ⟨new, rfl⟩ := performs
    refine ⟨sole.alike (.of_same same), ?_, fun _ => trivial⟩
    exact {
      used := List.mem_cons_self
      alone := fun other isLive => absurd isLive (clear.1 other)
      unretired := by
        refine Option.not_isSome_iff_eq_none.mp fun isRetired => ?_
        exact new (sole.retired generation isRetired).1
      uncommitted := fun commit standing isGeneration =>
        new (isGeneration ▸ sole.known commit standing)
      undecided := clear.2 }

theorem meets_apply (embeddedCommit : String) (runId : Uuid) :
    Routine.Meets (critical primitives Sole) (Fact (Clear runId))
      (apply embeddedCommit runId) (fun _ => Fact fun _ => True)
      (Fact fun _ => True) := by
  have drops : ∀ {fact : World → Prop} {memory : Memory} {world : World},
      Fact fact memory world → Fact (fun _ => True) memory world :=
    fun _ => trivial
  refine Routine.Meets.bind (meets_newGeneration runId) fun generation => ?_
  have working := working_persistent runId generation
  have lasts := open_persistent runId generation
  refine Routine.Meets.bind (Routine.Meets.attempt (meets_snapshot _))
    fun result => ?_
  cases result with
  | error failure =>
      refine Routine.Meets.bind ((keeps_reportFailed working _).consequence
        (fun _ _ holds => holds) (fun _ _ _ holds => holds)
        fun _ _ => drops) fun _ => ?_
      exact fun _ _ _ => trivial
  | ok value =>
      refine Routine.Meets.bind (Routine.Meets.attempt
        (keeps_issueOrRotateClient lasts _)) fun result => ?_
      cases result with
      | error failure =>
          refine Routine.Meets.bind ((keeps_ignore
            (keeps_rollbackAfterFailure lasts _)).consequence
            (fun _ _ holds => holds) (fun _ _ _ holds => holds)
            fun _ _ => drops) fun _ => ?_
          refine Routine.Meets.bind ((keeps_reportFailed lasts _).consequence
            (fun _ _ holds => holds) (fun _ _ _ holds => holds)
            fun _ _ => drops) fun _ => ?_
          exact fun _ _ _ => trivial
      | ok issued =>
          refine Routine.Meets.bind (Routine.Meets.attempt
            (meets_candidateApplication embeddedCommit _ issued))
            fun result => ?_
          cases result with
          | error failure =>
              refine Routine.Meets.bind ((keeps_abandonCandidate _ _
                _).consequence (fun _ _ holds => holds)
                (fun _ _ _ holds => holds) fun _ _ => drops) fun _ => ?_
              exact fun _ _ _ => trivial
          | ok receipt =>
              refine Routine.Meets.bind (Routine.Meets.attempt
                meets_reconciliation) fun result => ?_
              cases result with
              | ok value => exact fun _ _ _ => trivial
              | error failure =>
                  refine Routine.Meets.bind ((keeps_ignore
                    (@keeps_reconcilePending primitives generation receipt
                      _ _)).consequence
                    (fun _ _ holds => holds) (fun _ _ _ holds => holds)
                    fun _ _ => drops) fun _ => ?_
                  exact fun _ _ _ => trivial

end Sequel

end NvidiaBuildLb.Hermes
