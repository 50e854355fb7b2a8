import NvidiaBuildLb.Hermes.Apply

namespace NvidiaBuildLb.Hermes

open Foundation NvidiaBuildLb.Core

/-! From the issued client to the commit, and the ways out before and after. -/

section Cutover

variable {primitives : Primitives} {embeddedCommit : String}
  {earlier : List Uuid} {start : World} {qaRunId : Uuid}
  {memory : Memory} {world after : World} {generation id : Uuid}

theorem Open.writeJournal (isOpen : Open earlier qaRunId generation memory world)
    {journal : RecoveryJournal}
    (write : JournalWrite earlier world generation journal)
    (uncommitted : journal.state ≠ .committed) :
    Open earlier qaRunId generation memory
      (world.replaceFile (.snapshot generation .journal)
        (.journal journal)) where
  lasting := ⟨isOpen.lasting.1.writeJournal write, isOpen.lasting.2⟩
  generated := isOpen.generated
  unretired := by simpa using isOpen.unretired
  free := by
    intro commit standing
    have before : world.standing commit :=
      ⟨commits_of_uncommitted uncommitted ▸ standing.1, standing.2⟩
    exact isOpen.free commit before

theorem Open.write (isOpen : Open earlier qaRunId generation memory world)
    (new : New earlier start generation) {state : JournalState}
    (before : state.afterCommit = false) {clientId : Option Uuid}
    (issued : Helper.Issued world generation clientId) :
    JournalWrite earlier world generation {
      schemaVersion := journalSchema
      state
      operationLabel := some (operationLabelOf generation)
      clientId } where
  generated := isOpen.generated
  label := rfl
  client := issued
  commit := fun after => by
    rw [before] at after
    cases after
  settled := fun member => absurd member new.earlier
  standing := fun commit standing same =>
    absurd same (isOpen.free commit standing).1
  opening := by
    intro committed
    change state = .committed at committed
    rw [committed] at before
    cases before
  alone := by
    intro committed
    change state = .committed at committed
    rw [committed] at before
    cases before
  pending := by
    intro pending
    change state = .reconcilePending at pending
    rw [pending] at before
    cases before

namespace Helper

theorem Candidate.issued (candidate : Candidate generation id world) :
    Issued world generation (some id) := by
  intro other same
  cases same
  obtain ⟨item, member, isItem, label, -⟩ := candidate.2
  exact ⟨item, member, isItem, label⟩

def Working (primitives : Primitives) (earlier : List Uuid) (start : World)
    (qaRunId generation id : Uuid) (memory : Memory) (world : World) : Prop :=
  (Undoing primitives earlier start qaRunId generation memory world ∧
    Candidate generation id world) ∧ memory.restoring = none

/-- How `apply` may find things once its precommit steps failed. -/
def Abandonable (primitives : Primitives) (earlier : List Uuid) (start : World)
    (qaRunId generation id : Uuid) (memory : Memory) (world : World) : Prop :=
  Open earlier qaRunId generation memory world ∧
    Issued world generation (some id) ∧
    (generation ∈ world.misreported ∨
      Backed primitives start Undecided generation world ∧
        Held world generation id)

theorem aside_working {memory : Memory} {before after : World}
    (aside : before.Aside after)
    (holds : Working primitives earlier start qaRunId generation id memory
      before) :
    Working primitives earlier start qaRunId generation id memory after :=
  ⟨⟨aside_undoing aside holds.1.1, @World.Aside.fact before after aside
    (Candidate generation id) (fun _ => Iff.rfl) holds.1.2⟩, holds.2⟩

theorem calm_working :
    Calm (During primitives embeddedCommit earlier start qaRunId) (Safe earlier)
      (Working primitives earlier start qaRunId generation id) :=
  calm_of (fun memory world holds => calm_undoing.keeps memory world holds.1.1)
    fun _ _ _ same => aside_working same.aside

theorem abandonable_of_working {memory : Memory} {world : World}
    (holds : Working primitives earlier start qaRunId generation id memory world) :
    Abandonable primitives earlier start qaRunId generation id memory world :=
  ⟨holds.1.1.1, holds.1.2.issued, .inr ⟨holds.1.1.2, holds.1.2.1⟩⟩

theorem abandonable_unseen {memory : Memory} {before after : World}
    (unseen : Unseen before after) (framed : Framed before after)
    (holds : Abandonable primitives earlier start qaRunId generation id memory
      before) :
    Abandonable primitives earlier start qaRunId generation id memory after := by
  obtain ⟨isOpen, issued, told⟩ := holds
  refine ⟨isOpen.unseen unseen, ?_, ?_⟩
  · unfold Issued
    rw [unseen.clients]
    exact issued
  · rcases told with member | ⟨backed, held⟩
    · exact .inl (unseen.misreported _ member)
    · refine .inr ⟨backed.framed framed fun _ same => same, ?_⟩
      unfold Held
      rw [unseen.clients]
      exact held

theorem calm_abandonable (new : New earlier start generation) :
    Calm (During primitives embeddedCommit earlier start qaRunId) (Safe earlier)
      (Abandonable primitives earlier start qaRunId generation id) := by
  apply calm_of
  · intro memory world holds
    refine ⟨holds.1.lasting, ?_⟩
    rcases holds.2.2 with member | ⟨backed, -⟩
    · exact .misreported member new.generated
    · exact .backed (backed.mono fun _ => linked_of_undecided)
  · intro memory before after same holds
    exact abandonable_unseen same.unseen same.aside.framed holds

theorem hermes_undoing :
    IgnoresHermes (Undoing primitives earlier start qaRunId generation) := by
  intro memory world target content hermes holds
  refine ⟨holds.1.unseen (replaceFile_hermes_unseen world hermes content),
    holds.2.framed (replaceFile_framed world ?_ content) fun _ same => same⟩
  rcases hermes with rfl | rfl <;>
    · intro other file same
      cases same

theorem hermes_working :
    IgnoresHermes (Working primitives earlier start qaRunId generation id) := by
  intro memory world target content hermes holds
  refine ⟨⟨hermes_undoing memory world target content hermes holds.1.1, ?_⟩,
    holds.2⟩
  exact holds.1.2

/-- Every step up to the commit, for what else is known of the files. -/
private abbrev Works (primitives : Primitives) (embeddedCommit : String)
    (earlier : List Uuid) (start : World) (qaRunId generation id : Uuid)
    {α : Type} (before : World → Prop) (routine : Helper α)
    (later : α → World → Prop) : Prop :=
  Routine.Meets (underFaults primitives
      (During primitives embeddedCommit earlier start qaRunId) (Safe earlier))
    (fun memory world =>
      Working primitives earlier start qaRunId generation id memory world ∧
        before world) routine
    (fun value memory world =>
      Working primitives earlier start qaRunId generation id memory world ∧
        later value world)
    (Abandonable primitives earlier start qaRunId generation id)

/-- A fact about files that calm requests leave alone. -/
def Stable (fact : World → Prop) : Prop :=
  ∀ before after, World.Same before after → fact before → fact after

private theorem works_of_keeps {fact : World → Prop} (stable : Stable fact)
    {routine : Helper α}
    (keeps : ∀ {condition : Memory → World → Prop},
      Calm (During primitives embeddedCommit earlier start qaRunId)
        (Safe earlier) condition →
      Routine.Keeps (underFaults primitives
        (During primitives embeddedCommit earlier start qaRunId)
        (Safe earlier)) condition routine) :
    Works primitives embeddedCommit earlier start qaRunId generation id fact
      routine (fun _ => fact) :=
  (keeps (calm_working.and stable)).consequence (fun _ _ holds => holds)
    (fun _ _ _ holds => holds) fun _ _ holds => abandonable_of_working holds.1

private theorem works_call {fact : World → Prop} (stable : Stable fact) {op : Op}
    (isCalm : op.calm = true) :
    Works primitives embeddedCommit earlier start qaRunId generation id fact
      (call op) (fun _ => fact) :=
  works_of_keeps stable fun calm => keeps_call calm isCalm

private theorem works_replace {before later : World → Prop}
    (stableBefore : Stable before) (stableLater : Stable later) {target : Path}
    (hermes : target = .env ∨ target = .config) {content : Content}
    (turns : ∀ world, before world → later (world.replaceFile target content)) :
    Works primitives embeddedCommit earlier start qaRunId generation id before
      (atomicWrite target content) (fun _ => later) := by
  refine (meets_atomicWrite (calm_working.and stableBefore)
    (calm_working.and stableLater) calm_working ?_ ?_ ?_ ?_).consequence
    (fun _ _ holds => holds) (fun _ _ _ holds => holds)
    fun _ _ => abandonable_of_working
  · intro memory world nonce holds
    rcases hermes with rfl | rfl <;>
      · intro other restoring
        rw [holds.1.2] at restoring
        cases restoring
  · intro memory world holds
    exact ⟨hermes_working memory world target content hermes holds.1,
      turns world holds.2⟩
  · exact fun _ _ holds => holds.1
  · intro memory world holds
    rcases hermes with rfl | rfl <;> exact holds.1

private theorem works_journal (new : New earlier start generation)
    {fact : World → Prop} (stable : Stable fact) {state : JournalState}
    (calls : state.callsForRollback = true)
    (keeps : ∀ world journal, fact world →
      fact (world.replaceFile (.snapshot generation .journal)
        (.journal journal))) :
    Works primitives embeddedCommit earlier start qaRunId generation id fact
      (writeJournal (.snapshot generation .journal) state
        (some (operationLabelOf generation)) (some id)) (fun _ => fact) := by
  have before := callsForRollback_not_afterCommit calls
  refine (meets_writeJournal (calm_working.and stable)
    (calm_working.and stable) (calm_abandonable new) ?_ ?_ ?_).consequence
    (fun _ _ holds => holds) (fun _ _ _ holds => holds)
    fun _ _ holds => holds
  · intro memory world holds
    obtain ⟨⟨⟨⟨isOpen, backed⟩, candidate⟩, idle⟩, known⟩ := holds
    refine ⟨⟨⟨⟨isOpen.writeJournal (isOpen.write new before candidate.issued)
      ?_, backed.writeJournal rfl ?_ calls⟩, candidate⟩, idle⟩,
      keeps world _ known⟩
    · intro committed
      change state = .committed at committed
      rw [committed] at calls
      cases calls
    · intro other same
      cases same
      exact candidate.1
  · exact fun _ _ holds => abandonable_of_working holds.1
  · intro memory world holds
    exact abandonable_unseen (refused_unseen _ _) (refused_framed _ _)
      (abandonable_of_working holds.1)

def Settling (primitives : Primitives) (embeddedCommit : String)
    (earlier : List Uuid) (start : World) (qaRunId generation : Uuid)
    (receipt : SafeReceipt) (memory : Memory) (world : World) : Prop :=
  Lasting earlier memory world ∧
    Committed primitives embeddedCommit start qaRunId generation
      receipt.clientId world ∧
    world.files (.receipt generation) = some (.receipt receipt) ∧
    Latest world generation

theorem aside_settling {receipt : SafeReceipt} {memory : Memory}
    {before after : World} (aside : before.Aside after)
    (holds : Settling primitives embeddedCommit earlier start qaRunId generation
      receipt memory before) :
    Settling primitives embeddedCommit earlier start qaRunId generation receipt
      memory after :=
  ⟨holds.1.unseen aside.unseen, holds.2.1.aside aside,
    (aside.unseen.receipts generation).trans holds.2.2.1,
    holds.2.2.2.unseen aside.unseen⟩

theorem calm_settling {receipt : SafeReceipt} :
    Calm (During primitives embeddedCommit earlier start qaRunId) (Safe earlier)
      (Settling primitives embeddedCommit earlier start qaRunId generation
        receipt) :=
  calm_of (fun _ _ holds => ⟨holds.1, .committed holds.2.1⟩)
    fun _ _ _ same => aside_settling same.aside

def committedJournal (generation id : Uuid) : RecoveryJournal where
  schemaVersion := journalSchema
  state := .committed
  operationLabel := some (operationLabelOf generation)
  clientId := some id

/-- What the writer of the commit would find if it took it for failed. -/
structure JustCommitted (qaRunId generation id : Uuid) (world : World) :
    Prop where
  generated : generation ∈ world.used
  unretired : world.files (.retirement generation) = none
  free : ∀ commit, world.standing commit →
    commit.generation = generation ∨ commit.qaRunId ≠ some qaRunId
  issued : Issued world generation (some id)
  journal : JournalAt world generation (committedJournal generation id)

private theorem stable_justCommitted :
    Stable (JustCommitted qaRunId generation id) := by
  intro before after same holds
  have unseen := same.unseen
  refine ⟨same.used _ holds.generated,
    (unseen.retirements _).trans holds.unretired, ?_, ?_,
    (unseen.journals _).trans holds.journal⟩
  · exact fun commit standing =>
      holds.free commit (standing_of_unseen unseen standing)
  · unfold Issued
    rw [unseen.clients]
    exact holds.issued

private theorem abandonable_of_misreported
    (lasting : Lasting earlier memory world)
    (committed : JustCommitted qaRunId generation id world) :
    Abandonable primitives earlier start qaRunId generation id memory
      (refused (.syncDirectory (.replaced (.snapshot generation .journal)))
        world) := by
  have at_ := committed.journal
  unfold JournalAt at at_
  have reported : refused
      (.syncDirectory (.replaced (.snapshot generation .journal))) world =
        { world with misreported := generation :: world.misreported } := by
    simp [refused, at_, committedJournal]
  rw [reported]
  refine ⟨⟨?_, committed.generated, committed.unretired, ?_⟩, committed.issued,
    .inl List.mem_cons_self⟩
  · rw [← reported]
    exact lasting.unseen (refused_unseen _ _)
  · intro commit standing
    have different : commit.generation ≠ generation := fun same =>
      standing.2 (same ▸ List.mem_cons_self)
    have before : world.standing commit :=
      ⟨standing.1, fun member => standing.2 (List.mem_cons_of_mem _ member)⟩
    exact ⟨different, (committed.free commit before).resolve_left different⟩

/-- What is known when the commit is written. -/
structure Proven (embeddedCommit : String) (start : World)
    (qaRunId generation : Uuid) (receipt : SafeReceipt) (world : World) :
    Prop where
  files : ∃ env config, CandidateFiles start env config ∧
    FilesAre world env config
  held : world.files (.receipt generation) = some (.receipt receipt)
  schema : receipt.schemaVersion = receiptSchema
  named : receipt.generation = generation
  version : receipt.embeddedCommit = embeddedCommit
  run : receipt.qaRunId = some qaRunId

private theorem stable_proven {receipt : SafeReceipt} :
    Stable (Proven embeddedCommit start qaRunId generation receipt) := by
  intro before after same holds
  refine ⟨?_, ?_, holds.schema, holds.named, holds.version, holds.run⟩
  · unfold FilesAre
    rw [same.files]
    exact holds.files
  · rw [same.files]
    exact holds.held

private theorem settling_of_commit (new : New earlier start generation)
    {receipt : SafeReceipt}
    (working : Working primitives earlier start qaRunId generation
      receipt.clientId memory world)
    (proven : Proven embeddedCommit start qaRunId generation receipt world) :
    Settling primitives embeddedCommit earlier start qaRunId generation receipt
        memory (world.replaceFile (.snapshot generation .journal)
          (.journal (committedJournal generation receipt.clientId))) ∧
      JustCommitted qaRunId generation receipt.clientId
        (world.replaceFile (.snapshot generation .journal)
          (.journal (committedJournal generation receipt.clientId))) := by
  obtain ⟨⟨⟨isOpen, backed⟩, candidate⟩, -⟩ := working
  have write : JournalWrite earlier world generation
      (committedJournal generation receipt.clientId) := {
    generated := isOpen.generated
    label := rfl
    client := candidate.issued
    commit := fun _ => .inl rfl
    settled := fun member => absurd member new.earlier
    standing := fun commit standing same =>
      absurd same (isOpen.free commit standing).1
    opening := fun _ => ⟨backed.listed, isOpen.unretired, receipt, qaRunId,
      proven.held, rfl, proven.run⟩
    alone := fun _ other found different at_ =>
      backed.others.finished isOpen.lasting.1 different at_
    pending := fun pending => by cases pending }
  refine ⟨⟨⟨isOpen.lasting.1.writeJournal write, isOpen.lasting.2⟩, ?_, ?_,
    write.latest rfl⟩, ?_⟩
  · refine ⟨backed.listed, verified_writeJournal backed.verified,
      others_writeJournal backed.others, ?_, ?_, ?_, ?_⟩
    · unfold FilesAre
      simpa [FilesAre] using proven.files
    · exact ⟨receipt, by simpa using proven.held, proven.schema, proven.named,
        proven.version, rfl, proven.run⟩
    · obtain ⟨item, member, isItem, -, active⟩ := candidate.2
      exact ⟨item, member, isItem, active⟩
    · refine ⟨_, journalAt_replaceFile.mpr (.inl ⟨rfl, rfl⟩), rfl, rfl, rfl, ?_⟩
      intro reconciled
      cases reconciled
  · simpa using proven.held
  · refine ⟨isOpen.generated, by simpa using isOpen.unretired, ?_,
      candidate.issued, journalAt_replaceFile.mpr (.inl ⟨rfl, rfl⟩)⟩
    intro commit ⟨member, notMisreported⟩
    have cases_ : commit.generation = generation ∨ commit ∈ world.commits := by
      simp only [World.replaceFile, List.mem_append, Option.mem_toList] at member
      rcases member with isNew | old
      · left
        simp only [World.commitOf, committedJournal, if_true,
          Option.some.injEq] at isNew
        rw [← isNew]
      · exact .inr old
    rcases cases_ with isNew | old
    · exact .inl isNew
    · exact .inr (isOpen.free commit ⟨old, notMisreported⟩).2

private theorem meets_commit (new : New earlier start generation)
    {receipt : SafeReceipt} :
    Routine.Meets (underFaults primitives
        (During primitives embeddedCommit earlier start qaRunId) (Safe earlier))
      (fun memory world =>
        Working primitives earlier start qaRunId generation receipt.clientId
          memory world ∧
        Proven embeddedCommit start qaRunId generation receipt world)
      (writeJournal (.snapshot generation .journal) .committed
        (some (operationLabelOf generation)) (some receipt.clientId))
      (fun _ => Settling primitives embeddedCommit earlier start qaRunId
        generation receipt)
      (Abandonable primitives earlier start qaRunId generation
        receipt.clientId) := by
  refine (meets_writeJournal (calm_working.and stable_proven)
    (calm_settling.and (@stable_justCommitted qaRunId generation
      receipt.clientId)) (calm_abandonable new) ?_ ?_ ?_).consequence (fun _ _ holds => holds) (fun _ _ _ holds => holds.1)
    fun _ _ holds => holds
  · exact fun _ _ holds => settling_of_commit new holds.1 holds.2
  · exact fun _ _ holds => abandonable_of_working holds.1
  · exact fun _ _ holds => abandonable_of_misreported holds.1.1 holds.2

def OriginalText (start : World) (path : Path) (text : String) : Prop :=
  ∃ bytes, start.files path = some (.bytes bytes) ∧
    String.fromUTF8? (ByteArray.mk bytes.toArray) = some text

private theorem stable_constant {fact : Prop} : Stable fun _ => fact :=
  fun _ _ _ holds => holds

private theorem works_readToString {path : Path}
    (original : ∀ world, Reverted start world →
      world.files path = start.files path) :
    Routine.Meets (underFaults primitives
        (During primitives embeddedCommit earlier start qaRunId) (Safe earlier))
      (fun memory world =>
        Working primitives earlier start qaRunId generation id memory world ∧
          Reverted start world)
      (readToString path)
      (fun text memory world => OriginalText start path text ∧
        Working primitives earlier start qaRunId generation id memory world ∧
          Reverted start world)
      (Abandonable primitives earlier start qaRunId generation id) := by
  have stable : Stable (Reverted start) := fun before after same =>
    @World.Same.fact before after same (Reverted start) fun _ => Iff.rfl
  refine Routine.Meets.bind ((meets_readBytes (calm_working.and stable)
    path).consequence (fun _ _ holds => holds) (fun _ _ _ holds => holds)
    fun _ _ holds => abandonable_of_working holds.1) fun bytes => ?_
  split
  · rename_i text decoded
    intro memory world holds
    exact ⟨⟨bytes, (original world holds.1.2).symm.trans holds.2, decoded⟩,
      holds.1⟩
  · exact fun _ _ holds => abandonable_of_working holds.1.1

private theorem works_rehearsal (new : New earlier start generation) :
    Works primitives embeddedCommit earlier start qaRunId generation id
      (fun _ => True) (restoreSnapshot generation) (fun _ _ => True) := by
  let rehearsing : Memory → World → Prop := fun memory world =>
    Undoing primitives earlier start qaRunId generation memory world ∧
      Candidate generation id world
  have calm : Calm (During primitives embeddedCommit earlier start qaRunId)
      (Safe earlier) rehearsing :=
    calm_undoing.and fun before after same => @World.Same.fact before after same
      (Candidate generation id) fun _ => Iff.rfl
  refine (@meets_restoreSnapshot _ _ _ _ calm generation ?_ ?_ ?_).consequence
    (fun _ _ holds => holds.1.1)
    (fun _ _ _ holds => ⟨⟨holds.1.1, holds.2⟩, trivial⟩) ?_
  · exact fun _ _ holds => ⟨new.earlier, holds.1.1.uncommitted⟩
  · intro memory world target content hermes holds
    refine ⟨hermes_undoing memory world target content hermes holds.1, ?_⟩
    exact holds.2
  · intro memory world restoring holds
    obtain ⟨⟨isOpen, backed⟩, candidate⟩ := holds
    exact ⟨⟨⟨isOpen.lasting, isOpen.generated, isOpen.unretired, isOpen.free⟩,
      backed⟩, candidate⟩
  · exact fun _ _ holds =>
      ⟨holds.1.1, holds.2.issued, .inr ⟨holds.1.2, holds.2.1⟩⟩

private theorem works_writeReceipt {receipt : SafeReceipt}
    (named : receipt.generation = generation) {fact : World → Prop}
    (stable : Stable fact)
    (keeps : ∀ world content, fact world →
      fact (world.replaceFile (.receipt generation) content)) :
    Works primitives embeddedCommit earlier start qaRunId generation id fact
      (writeReceipt receipt) (fun _ world => fact world ∧
        world.files (.receipt generation) = some (.receipt receipt)) := by
  subst named
  refine Routine.Meets.bind (works_of_keeps stable fun calm =>
    keeps_ensureRootDirectory calm.looks _) fun _ => ?_
  have stableHeld : Stable fun world =>
      world.files (.receipt receipt.generation) = some (.receipt receipt) :=
    fun before after same => @World.Same.fact before after same (fun world =>
      world.files (.receipt receipt.generation) = some (.receipt receipt))
      fun _ => Iff.rfl
  refine (meets_atomicWrite (calm_working.and stable) (calm_working.and
    fun before after same (holds : fact before ∧ _) =>
      ⟨stable before after same holds.1, stableHeld before after same holds.2⟩)
    calm_working ?_ ?_ ?_ ?_).consequence (fun _ _ holds => holds)
    (fun _ _ _ holds => holds) fun _ _ => abandonable_of_working
  · exact fun _ _ _ _ => trivial
  · intro memory world holds
    obtain ⟨⟨⟨⟨isOpen, backed⟩, candidate⟩, idle⟩, known⟩ := holds
    refine ⟨⟨⟨⟨⟨⟨isOpen.lasting.1.writeReceipt isOpen.uncommitted receipt,
      isOpen.lasting.2⟩, isOpen.generated, ?_, isOpen.free⟩,
      backed.framed (replaceFile_framed world ?_ _) fun _ same => same⟩,
      candidate⟩, idle⟩, keeps world _ known, if_pos rfl⟩
    · simpa using isOpen.unretired
    · intro other file same
      cases same
  · exact fun _ _ holds => holds.1
  · exact fun _ _ holds => holds.1

private theorem meets_receiptAndCommit (new : New earlier start generation)
    {env config : List UInt8} (candidateFiles : CandidateFiles start env config)
    (receipt : SafeReceipt) (schema : receipt.schemaVersion = receiptSchema)
    (named : receipt.generation = generation)
    (version : receipt.embeddedCommit = embeddedCommit)
    (client : receipt.clientId = id)
    (run : receipt.qaRunId = some qaRunId) :
    Routine.Meets (underFaults primitives
        (During primitives embeddedCommit earlier start qaRunId) (Safe earlier))
      (fun memory world =>
        Working primitives earlier start qaRunId generation id memory world ∧
          FilesAre world env config)
      (do
        writeReceipt receipt
        writeJournal (.snapshot generation .journal) .committed
          (some (operationLabelOf generation)) (some id)
        return receipt : Helper SafeReceipt)
      (fun receipt memory world =>
        (receipt.clientId = id ∧ receipt.qaRunId = some qaRunId) ∧
        Settling primitives embeddedCommit earlier start qaRunId generation
          receipt memory world)
      (Abandonable primitives earlier start qaRunId generation id) := by
  subst client
  have stable : Stable fun world => FilesAre world env config :=
    fun before after same => @World.Same.fact before after same
      (fun world => FilesAre world env config) fun _ => Iff.rfl
  refine Routine.Meets.bind (works_writeReceipt named stable ?_) fun _ => ?_
  · exact fun _ _ holds => holds
  refine Routine.Meets.bind ((meets_commit new).strengthen ?_) fun _ => ?_
  · intro memory world holds
    exact ⟨holds.1, ⟨env, config, candidateFiles, holds.2.1⟩, holds.2.2, schema,
      named, version, run⟩
  · exact fun _ _ holds => ⟨⟨rfl, run⟩, holds⟩

private theorem meets_secondApplication (new : New earlier start generation)
    {env config : List UInt8} (candidateFiles : CandidateFiles start env config)
    (first : Verification) (token : String) :
    Routine.Meets (underFaults primitives
        (During primitives embeddedCommit earlier start qaRunId) (Safe earlier))
      (fun memory world =>
        Working primitives earlier start qaRunId generation id memory world ∧
          True)
      (do
        atomicWrite .env (.bytes env)
        atomicWrite .config (.bytes config)
        docker .start
        waitForContainerHealth
        let second ← call (.verifyHermes (some id))
        let secretScan ← call (.collectSecretScan token)
        let receipt : SafeReceipt := {
          schemaVersion := receiptSchema
          generation
          embeddedCommit
          clientId := id
          qaRunId := some qaRunId
          doctor := first.doctor && second.doctor
          marker := first.marker && second.marker
          tool := first.tool && second.tool
          rollbackRehearsal := true
          toolOutputSha256 := second.toolOutputSha256
          secretScan
          lbRequests := second.lbRequests }
        writeReceipt receipt
        writeJournal (.snapshot generation .journal) .committed
          (some (operationLabelOf generation)) (some id)
        return receipt : Helper SafeReceipt)
      (fun receipt memory world =>
        (receipt.clientId = id ∧ receipt.qaRunId = some qaRunId) ∧
        Settling primitives embeddedCommit earlier start qaRunId generation
          receipt memory world)
      (Abandonable primitives earlier start qaRunId generation id) := by
  have anything : Stable fun _ : World => True := stable_constant
  let envWritten (world : World) : Prop :=
    world.files .env = some (.bytes env)
  let written (world : World) : Prop := FilesAre world env config
  have stableEnv : Stable envWritten := fun before after same =>
    @World.Same.fact before after same envWritten fun _ => Iff.rfl
  have stable : Stable written := fun before after same =>
    @World.Same.fact before after same written fun _ => Iff.rfl
  refine Routine.Meets.bind (works_replace anything stableEnv (.inl rfl)
    fun _ _ => rfl) fun _ => ?_
  refine Routine.Meets.bind (works_replace stableEnv stable (.inr rfl)
    fun _ holds => ⟨holds, rfl⟩) fun _ => ?_
  refine Routine.Meets.bind (works_of_keeps stable fun calm =>
    keeps_docker calm.looks .start) fun _ => ?_
  refine Routine.Meets.bind (works_of_keeps stable fun calm =>
    keeps_waitForContainerHealth calm.looks) fun _ => ?_
  refine Routine.Meets.bind (works_call stable rfl) fun second => ?_
  refine Routine.Meets.bind (works_call stable rfl) fun secretScan => ?_
  exact meets_receiptAndCommit new candidateFiles _ rfl rfl rfl rfl rfl

theorem meets_candidateApplication (new : New earlier start generation)
    (issued : MutationResponse) :
    Routine.Meets (underFaults primitives
        (During primitives embeddedCommit earlier start qaRunId) (Safe earlier))
      (fun memory world =>
        Undoing primitives earlier start qaRunId generation memory world ∧
          Candidate generation issued.item.id world ∧ Reverted start world)
      (candidateApplication embeddedCommit generation
        (operationLabelOf generation) issued qaRunId)
      (fun receipt memory world =>
        (receipt.clientId = issued.item.id ∧ receipt.qaRunId = some qaRunId) ∧
        Settling primitives embeddedCommit earlier start qaRunId generation
          receipt memory world)
      (Abandonable primitives earlier start qaRunId generation
        issued.item.id) := by
  refine @Routine.Meets.bind _ _ _ _ _ _ _ _ _ _ _ _
    (fun _ memory world => Working primitives earlier start qaRunId generation
      issued.item.id memory world ∧ Reverted start world) _ ?_ fun _ => ?_
  · intro memory world holds
    obtain ⟨⟨isOpen, backed⟩, candidate, reverted⟩ := holds
    exact ⟨⟨⟨⟨⟨isOpen.lasting, isOpen.generated, isOpen.unretired, isOpen.free⟩,
      backed⟩, candidate⟩, rfl⟩, reverted⟩
  refine Routine.Meets.learn (works_readToString fun _ reverted => reverted.1)
    fun envText isEnvText => ?_
  refine Routine.Meets.learn (works_readToString fun _ reverted => reverted.2)
    fun configText isConfigText => ?_
  refine Routine.Meets.learn (Routine.Meets.lift fun _ _ holds =>
    abandonable_of_working holds.1) fun configCandidate isCandidate => ?_
  let env := utf8 (updateDotenv envText "NVIDIA_API_KEY" issued.token)
  let config := utf8 configCandidate
  have candidateFiles : CandidateFiles start env config := by
    obtain ⟨oldEnv, isOldEnv, decodedEnv⟩ := isEnvText
    obtain ⟨oldConfig, isOldConfig, decodedConfig⟩ := isConfigText
    exact ⟨oldEnv, oldConfig, envText, configText, issued.token,
      configCandidate, isOldEnv, isOldConfig, decodedEnv, decodedConfig,
      isCandidate, rfl, rfl⟩
  have anything : Stable fun _ : World => True := stable_constant
  have quiet : ∀ {op : Op}, op.calm = true →
      Works primitives embeddedCommit earlier start qaRunId generation
        issued.item.id (fun _ => True) (call op) (fun _ _ => True) :=
    fun isCalm => works_call anything isCalm
  have dockers : ∀ command, Works primitives embeddedCommit earlier start
      qaRunId generation issued.item.id (fun _ => True) (docker command)
      (fun _ _ => True) := fun command =>
    works_of_keeps anything fun calm => keeps_docker calm.looks command
  have healthy : Works primitives embeddedCommit earlier start qaRunId
      generation issued.item.id (fun _ => True) waitForContainerHealth
      (fun _ _ => True) :=
    works_of_keeps anything fun calm => keeps_waitForContainerHealth calm.looks
  refine Routine.Meets.bind ((works_journal new anything rfl
    fun _ _ holds => holds).strengthen fun _ _ holds =>
      ⟨holds.1, trivial⟩) fun _ => ?_
  refine Routine.Meets.bind (dockers .stop) fun _ => ?_
  refine Routine.Meets.bind (works_replace anything anything (.inl rfl)
    fun _ holds => holds) fun _ => ?_
  refine Routine.Meets.bind (works_replace anything anything (.inr rfl)
    fun _ holds => holds) fun _ => ?_
  refine Routine.Meets.bind (quiet rfl) fun _ => ?_
  refine Routine.Meets.bind (works_journal new anything rfl
    fun _ _ holds => holds) fun _ => ?_
  refine Routine.Meets.bind (dockers .start) fun _ => ?_
  refine Routine.Meets.bind healthy fun _ => ?_
  refine Routine.Meets.bind (quiet rfl) fun first => ?_
  refine Routine.Meets.bind (dockers .stop) fun _ => ?_
  refine Routine.Meets.bind (works_rehearsal new) fun _ => ?_
  refine Routine.Meets.bind (dockers .start) fun _ => ?_
  refine Routine.Meets.bind healthy fun _ => ?_
  refine Routine.Meets.bind (dockers .stop) fun _ => ?_
  exact meets_secondApplication new candidateFiles first issued.token

end Helper

end Cutover

end NvidiaBuildLb.Hermes
