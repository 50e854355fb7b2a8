import NvidiaBuildLb.Hermes.Routines

namespace NvidiaBuildLb.Hermes

open Foundation NvidiaBuildLb.Core

/-! Recovery: what it finds in the backups, and what it leaves of them. -/

/-- A world without its temporaries and stages. -/
def World.outside (world : World) : World :=
  { world.visible with
    files := fun path =>
      match path with
      | .staged .. => none
      | other => world.files other }

/-- Worlds that differ in temporaries and stages at most. -/
structure World.Aside (before after : World) : Prop where
  outside : after.outside = before.outside
  used : ∀ id ∈ before.used, id ∈ after.used
  nonces : before.KeepsNonces after

theorem World.Aside.fact {before after : World} (aside : before.Aside after)
    {fact : World → Prop} (looks : ∀ world, fact world.outside ↔ fact world)
    (holds : fact before) : fact after :=
  (looks after).mp (aside.outside ▸ (looks before).mpr holds)

theorem World.Same.aside {before after : World} (same : before.Same after) :
    before.Aside after where
  outside := by
    unfold World.outside
    rw [same.visible, same.files]
  used := same.used
  nonces := same.nonces

theorem World.Aside.refl (world : World) : world.Aside world :=
  (World.Same.refl world).aside

theorem World.Aside.unseen {before after : World}
    (aside : before.Aside after) : Unseen before after where
  journals := fun generation => congrFun (congrArg World.files aside.outside)
    (.snapshot generation .journal)
  receipts := fun generation => congrFun (congrArg World.files aside.outside)
    (.receipt generation)
  retirements := fun generation => congrFun (congrArg World.files aside.outside)
    (.retirement generation)
  generations := (congrArg World.generations aside.outside :)
  clients := (congrArg World.clients aside.outside :)
  passedRuns := (congrArg World.passedRuns aside.outside :)
  commits := (congrArg World.commits aside.outside :)
  misreported := by
    have same : after.misreported = before.misreported :=
      (congrArg World.misreported aside.outside :)
    exact fun _ member => same ▸ member
  reported := by
    have same : after.misreported = before.misreported :=
      (congrArg World.misreported aside.outside :)
    exact fun _ member => .inl (same ▸ member)
  used := aside.used
  nonces := aside.nonces

theorem aside_setStaged (world : World) (generation : Uuid)
    (file : SnapshotFile) (content : Option Content) :
    world.Aside (world.setFile (.staged generation file) content) where
  outside := by
    have files : (world.setFile (.staged generation file)
        content).outside.files = world.outside.files := by
      funext path
      cases path <;> simp [World.outside]
    exact congrArg (fun files => { world.visible with files }) files
  used := fun _ member => member
  nonces := World.keepsNonces_rfl rfl

theorem aside_replaceStaged (world : World) (generation : Uuid)
    (file : SnapshotFile) (content : Content) :
    world.Aside (world.replaceFile (.staged generation file) content) := by
  have same : world.replaceFile (.staged generation file) content =
      world.setFile (.staged generation file) (some content) := by
    unfold World.replaceFile
    cases content <;> rfl
  rw [same]
  exact aside_setStaged world generation file (some content)

theorem aside_stages (world : World) (stages : List Uuid) :
    world.Aside { world with stages } :=
  ⟨rfl, fun _ member => member, World.keepsNonces_rfl rfl⟩

/-- A snapshot that its own manifest vouches for. -/
def Verified (primitives : Primitives) (world : World) (generation : Uuid) :
    Prop :=
  ∃ manifest env config,
    world.files (.snapshot generation .manifest) = some (.manifest manifest) ∧
      world.files (.snapshot generation .env) = some (.bytes env) ∧
      world.files (.snapshot generation .config) = some (.bytes config) ∧
      manifest.schemaVersion = snapshotSchema ∧
      manifest.generation = generation ∧
      manifest.envSha256 = fingerprint primitives env ∧
      manifest.configSha256 = fingerprint primitives config

/-- A generation that recovery leaves alone. -/
def Finished (world : World) (generation : Uuid) : Prop :=
  ∃ journal, JournalAt world generation journal ∧
    recoveryAction journal = .ok .none

/-- Where every run of the helper starts its own work. -/
def Settled (primitives : Primitives) (world : World) : Prop :=
  ∀ generation ∈ world.generations,
    Verified primitives world generation ∧ Finished world generation

/-- What holds in every run of the helper, and of what the run has done. -/
def Lasting (earlier : List Uuid) (memory : Memory) (world : World) : Prop :=
  Inv earlier world ∧ ∀ generation ∈ memory.rolledBack, generation ∈ world.used

theorem Lasting.unseen {earlier : List Uuid} {memory : Memory}
    {before after : World} (lasting : Lasting earlier memory before)
    (unseen : Unseen before after) : Lasting earlier memory after :=
  ⟨lasting.1.unseen unseen, fun generation member =>
    unseen.used _ (lasting.2 generation member)⟩

section Facts

variable {earlier : List Uuid} {world : World}

theorem uncommitted_of_journal (inv : Inv earlier world) {generation : Uuid}
    {journal : RecoveryJournal} (at_ : JournalAt world generation journal)
    (before : journal.state.afterCommit = false) :
    ∀ commit, world.standing commit → commit.generation ≠ generation := by
  intro commit standing same
  subst same
  have after := ((inv.commits commit standing).journal journal at_).1
  rw [before] at after
  cases after

theorem not_earlier_of_journal (inv : Inv earlier world) {generation : Uuid}
    {journal : RecoveryJournal} (at_ : JournalAt world generation journal)
    (calls : journal.state.callsForRollback = true) :
    generation ∉ earlier := by
  intro member
  rw [inv.settled generation member journal at_] at calls
  cases calls

theorem safe_revoke (inv : Inv earlier world) {generation id : Uuid}
    (uncommitted : ∀ commit, world.standing commit →
      commit.generation ≠ generation)
    (candidate : ∃ item ∈ world.clients, item.id = id ∧
      item.label = operationLabelOf generation) (memory : Memory) :
    Safe earlier memory (.revokeClient id) world := by
  intro commit standing isClient
  obtain ⟨item, member, isItem, label⟩ := candidate
  obtain ⟨owner, ownerMember, isOwner, ownerLabel⟩ :=
    (inv.commits commit standing).client
  have sameId : owner.id = item.id := by
    rw [isClient, Option.some.injEq] at isOwner
    exact isOwner.symm.trans isItem.symm
  have sameLabel := inv.labels owner ownerMember item member sameId
  rw [ownerLabel, label] at sameLabel
  exact absurd (operationLabelOf_injective sameLabel)
    (uncommitted commit standing)

theorem Finished.not_unfinished {generation : Uuid}
    (finished : Finished world generation) {journal : RecoveryJournal}
    (at_ : JournalAt world generation journal) :
    journal.state.unfinished = false := by
  obtain ⟨found, foundAt, terminal⟩ := finished
  have same : found = journal := by
    have both := foundAt.symm.trans at_
    simpa using both
  subst same
  rcases recoveryAction_cases terminal with state | state | state <;>
    · rw [state]
      rfl

theorem callsForRollback_not_afterCommit {state : JournalState}
    (calls : state.callsForRollback = true) : state.afterCommit = false := by
  cases state <;> first | rfl | cases calls

theorem Settled.passed {primitives : Primitives}
    (settled : Settled primitives world) (inv : Inv earlier world)
    {commit : Commit} (standing : world.standing commit) :
    ∃ runId ∈ world.passedRuns, commit.qaRunId = some runId := by
  obtain ⟨runId, isRun, passed | completable⟩ :=
    (inv.commits commit standing).run
  · exact ⟨runId, passed, isRun⟩
  · obtain ⟨listed, -, journal, at_, unfinished⟩ := completable
    rw [(settled _ listed).2.not_unfinished at_] at unfinished
    cases unfinished

end Facts

namespace Helper

section Looking

variable {primitives : Primitives} {kept : Memory → World → Prop}
  {earlier : List Uuid} {condition : Memory → World → Prop}
  (calm : Calm kept (Safe earlier) condition)
include calm

theorem meets_verifySnapshot (generation : Uuid) :
    Routine.Meets (underFaults primitives kept (Safe earlier)) condition
      (verifySnapshot generation)
      (fun _ memory world => condition memory world ∧
        Verified primitives world generation) condition := by
  refine Routine.Meets.bind (keeps_call calm rfl) fun _ => ?_
  refine Routine.Meets.bind (keeps_call calm rfl) fun _ => ?_
  refine Routine.Meets.bind (keeps_call calm rfl) fun _ => ?_
  let manifestRead (manifest : SnapshotManifest) (world : World) : Prop :=
    world.files (.snapshot generation .manifest) = some (.manifest manifest)
  have stableManifest : ∀ manifest before after, World.Same before after →
      manifestRead manifest before → manifestRead manifest after :=
    fun _ _ _ same => same.fact fun _ => Iff.rfl
  refine @Routine.Meets.bind _ _ _ _ _ _ _ _ _ _ _ _
    (fun manifest memory world =>
      condition memory world ∧ manifestRead manifest world) _ ?_
    fun manifest => ?_
  · refine Routine.Meets.bind (meets_look calm rfl fun _ _ _ performs => by
      exact performs.2 ▸ performs.1) fun content => ?_
    cases content with
    | manifest value => exact fun _ _ holds => holds
    | _ => exact fun _ _ holds => holds.1
  have calmManifest := calm.and (stableManifest manifest)
  refine @Routine.Meets.bind _ _ _ _ _ _ _ _ _ _ _ _
    (fun same memory world => condition memory world ∧
      (same = true → Verified primitives world generation)) _ ?_
    fun same => ?_
  · unfold snapshotManifestMatches
    split
    · rename_i named
      refine Routine.Meets.bind ((meets_look calmManifest rfl fun _ _ _
        performs => by exact performs.2 ▸ performs.1).consequence
        (fun _ _ holds => holds) (fun _ _ _ holds => holds)
        fun _ _ holds => holds.1) fun envSha256 => ?_
      split
      · rename_i sameEnv
        have calmEnv := calmManifest.and (fun before after same =>
          @World.Same.fact before after same (fun world => ∃ value,
            world.files (.snapshot generation .env) = some (.bytes value) ∧
              envSha256 = fingerprint primitives value) fun _ => Iff.rfl)
        refine Routine.Meets.bind ((meets_look calmEnv rfl fun _ _ _
          performs => by exact performs.2 ▸ performs.1).consequence
          (fun _ _ holds => holds) (fun _ _ _ holds => holds)
          fun _ _ holds => holds.1.1) fun configSha256 => ?_
        intro memory world holds
        obtain ⟨⟨⟨before, read⟩, env, isEnv, envDigest⟩, config, isConfig,
          configDigest⟩ := holds
        refine ⟨before, fun matching => ?_⟩
        exact ⟨manifest, env, config, read, isEnv, isConfig, named.1, named.2,
          sameEnv.trans envDigest,
          (of_decide_eq_true matching).trans configDigest⟩
      · exact fun _ _ holds => ⟨holds.1.1, fun same => by cases same⟩
    · exact fun _ _ holds => ⟨holds.1, fun same => by cases same⟩
  · cases same with
    | true => exact fun _ _ holds => ⟨holds.1, holds.2 rfl⟩
    | false => exact fun _ _ holds => holds.1

theorem meets_pathExists (place : Place) :
    Routine.Meets (underFaults primitives kept (Safe earlier)) condition
      (pathExists place)
      (fun found memory world => condition memory world ∧
        found = world.holds place) condition := by
  apply @Routine.Meets.bind _ _ _ _ _ _ _ _ _ _ _ _
    (fun answer memory world => condition memory world ∧
      answer = .ok (world.holds place))
  · apply meets_ask calm.keeps
    · exact fun _ _ _ => trivial
    · intro memory world holds fallible
      cases fallible
    · intro memory world found after holds performs
      obtain ⟨isFound, rfl⟩ := performs
      exact ⟨calm.keeps memory after holds, ⟨holds, by rw [isFound]⟩,
        fun remote => by cases remote⟩
  · intro answer memory world holds
    obtain ⟨holds, rfl⟩ := holds
    exact ⟨holds, rfl⟩

variable (aside : ∀ memory before after, World.Aside before after →
  condition memory before → condition memory after)
include aside

theorem keeps_beside {op : Op} (unguarded : op.guarded = false)
    (harmless : ∀ world, refused op world = world)
    (performs : ∀ {world value after}, Performs primitives op world value after →
      world.Aside after) :
    Routine.Keeps (underFaults primitives kept (Safe earlier)) condition
      (call op) := by
  apply meets_call calm.keeps
  · exact fun _ _ _ => safe_of_unguarded unguarded
  · intro memory world holds
    rw [harmless]
    exact holds
  · intro memory world value after holds performed
    have later := aside memory world after (performs performed) holds
    exact ⟨calm.keeps memory after later, later, fun _ => later⟩

theorem keeps_cleanupSnapshotStage (generation : Uuid) :
    Routine.Keeps (underFaults primitives kept (Safe earlier)) condition
      (cleanupSnapshotStage generation) := by
  refine Routine.Keeps.bind (keeps_call calm rfl) fun _ => ?_
  refine Routine.Keeps.bind (keeps_call calm rfl) fun entries => ?_
  refine Routine.Keeps.bind (Routine.Keeps.each ?_ entries) fun _ => ?_
  · intro entry
    cases entry with
    | file file =>
        refine Routine.Keeps.bind (keeps_call calm rfl) fun _ => ?_
        apply keeps_beside calm aside rfl (fun _ => rfl)
        intro world _ after performed
        exact performed.2 ▸ aside_setStaged world generation file none
    | temporary file nonce =>
        refine Routine.Keeps.bind (keeps_call calm rfl) fun _ => ?_
        exact keeps_call calm rfl
    | other name => exact keeps_bail
  · refine Routine.Keeps.bind (keeps_beside calm aside rfl (fun _ => rfl) ?_)
      fun _ => ?_
    · intro world _ after performed
      exact performed.2.2 ▸ aside_stages world _
    · exact keeps_call calm rfl

theorem meets_collectBackups (entries : List BackupEntry) :
    Routine.Meets (underFaults primitives kept (Safe earlier)) condition
      (collectBackups entries)
      (fun backups memory world => condition memory world ∧
        (∀ generation ∈ backups, Verified primitives world generation) ∧
        ∀ generation, .generation generation ∈ entries →
          generation ∈ backups) condition := by
  induction entries generalizing condition with
  | nil =>
      intro memory world holds
      refine ⟨holds, ?_, ?_⟩ <;>
        · intro generation member
          cases member
  | cons entry rest induction =>
      cases entry with
      | other name => exact Routine.Meets.leave
      | stage generation =>
          refine Routine.Meets.bind
            (keeps_cleanupSnapshotStage calm aside generation) fun _ => ?_
          refine (induction calm aside).consequence (fun _ _ holds => holds) ?_
            fun _ _ holds => holds
          intro backups memory world holds
          refine ⟨holds.1, holds.2.1, ?_⟩
          intro other member
          simp only [List.mem_cons, reduceCtorEq, false_or] at member
          exact holds.2.2 other member
      | generation generation =>
          refine Routine.Meets.bind (keeps_call calm rfl) fun _ => ?_
          refine Routine.Meets.bind (meets_verifySnapshot calm generation)
            fun _ => ?_
          have calmVerified := calm.and fun before after same =>
            @World.Same.fact before after same
              (fun world => Verified primitives world generation)
              fun _ => Iff.rfl
          have asideVerified : ∀ memory before after,
              World.Aside before after → condition memory before ∧
                Verified primitives before generation →
              condition memory after ∧
                Verified primitives after generation := by
            intro memory before after beside holds
            exact ⟨aside memory before after beside holds.1,
              @World.Aside.fact before after beside
                (fun world => Verified primitives world generation)
                (fun _ => Iff.rfl) holds.2⟩
          refine Routine.Meets.bind ((induction calmVerified
            asideVerified).consequence (fun _ _ holds => holds)
            (fun _ _ _ holds => holds) fun _ _ holds => holds.1)
            fun backups => ?_
          intro memory world holds
          refine ⟨holds.1.1, ?_, ?_⟩
          · intro other member
            rcases List.mem_cons.mp member with rfl | inRest
            · exact holds.1.2
            · exact holds.2.1 other inRest
          · intro other member
            rcases List.mem_cons.mp member with same | inRest
            · cases same
              exact List.mem_cons_self
            · exact List.mem_cons_of_mem _ (holds.2.2 other inRest)

end Looking

section Generations

variable {primitives : Primitives} {earlier : List Uuid}

/-- Where recovery is: all backups are verified, some are finished. -/
structure Recovering (primitives : Primitives) (earlier listed done : List Uuid)
    (memory : Memory) (world : World) : Prop where
  lasting : Lasting earlier memory world
  all : ∀ generation ∈ world.generations, generation ∈ listed
  verified : ∀ generation ∈ listed, Verified primitives world generation
  finished : ∀ generation ∈ done, Finished world generation

variable {listed done : List Uuid} {memory : Memory} {world : World}

theorem Recovering.unseen (recovering : Recovering primitives earlier listed
      done memory world) {after : World} (unseen : Unseen world after)
    (snapshots : ∀ generation file, file ≠ .journal →
      after.files (.snapshot generation file) =
        world.files (.snapshot generation file)) :
    Recovering primitives earlier listed done memory after where
  lasting := recovering.lasting.unseen unseen
  all := by
    rw [unseen.generations]
    exact recovering.all
  verified := by
    intro generation member
    unfold Verified
    rw [snapshots generation .manifest (by decide),
      snapshots generation .env (by decide),
      snapshots generation .config (by decide)]
    exact recovering.verified generation member
  finished := by
    intro generation member
    obtain ⟨journal, at_, finished⟩ := recovering.finished generation member
    exact ⟨journal, (unseen.journals generation).trans at_, finished⟩

theorem Recovering.same (recovering : Recovering primitives earlier listed
      done memory world) {after : World} (same : world.Same after) :
    Recovering primitives earlier listed done memory after :=
  recovering.unseen same.unseen fun _ _ _ => congrFun same.files _

theorem Recovering.revoke (recovering : Recovering primitives earlier listed
      done memory world) (id : Uuid) :
    Recovering primitives earlier listed done memory (world.revoke id) :=
  ⟨⟨recovering.lasting.1.revoke id, recovering.lasting.2⟩, recovering.all,
    recovering.verified, recovering.finished⟩

theorem Recovering.writeJournal (recovering : Recovering primitives earlier
      listed done memory world) {generation : Uuid} {journal : RecoveryJournal}
    (write : JournalWrite earlier world generation journal)
    (terminal : recoveryAction journal = .ok .none) :
    Recovering primitives earlier listed (generation :: done) memory
      (world.replaceFile (.snapshot generation .journal)
        (.journal journal)) where
  lasting := ⟨recovering.lasting.1.writeJournal write, recovering.lasting.2⟩
  all := recovering.all
  verified := by
    intro other member
    unfold Verified
    simp only [replaceFile_files, Path.snapshot.injEq, reduceCtorEq, and_false,
      if_false]
    exact recovering.verified other member
  finished := by
    intro other member
    by_cases same : other = generation
    · exact ⟨journal, journalAt_replaceFile.mpr (.inl ⟨same, rfl⟩), terminal⟩
    · have before : other ∈ done := by simpa [same] using member
      obtain ⟨found, at_, finished⟩ := recovering.finished other before
      exact ⟨found, journalAt_replaceFile.mpr (.inr ⟨same, at_⟩), finished⟩

private theorem calm_recovering {fact : Memory → World → Prop}
    (stable : ∀ memory before after, World.Same before after →
      fact memory before → fact memory after) :
    Calm (Lasting earlier) (Safe earlier) fun memory world =>
      Recovering primitives earlier listed done memory world ∧
        fact memory world :=
  calm_of (fun _ _ holds => holds.1.lasting)
    fun memory before after same holds =>
      ⟨holds.1.same same, stable memory before after same holds.2⟩

theorem findActive_some {label : String} {clients : List ClientItem}
    {item : ClientItem} (found : findActive label clients = some item) :
    item ∈ clients ∧ item.active = true ∧ item.label = label := by
  have chosen := List.find?_some found
  simp only [Bool.and_eq_true, beq_iff_eq] at chosen
  exact ⟨List.mem_of_find?_eq_some found, chosen.1, chosen.2⟩

/-- The client is one that the generation's operation issued. -/
def Issued (world : World) (generation : Uuid) (clientId : Option Uuid) :
    Prop :=
  ∀ id, clientId = some id → ∃ item ∈ world.clients, item.id = id ∧
    item.label = operationLabelOf generation

theorem Issued.revoke {generation : Uuid} {clientId : Option Uuid}
    (issued : Issued world generation clientId) (other : Uuid) :
    Issued (world.revoke other) generation clientId := by
  intro id isId
  obtain ⟨item, member, isItem, label⟩ := issued id isId
  by_cases same : item.id = other
  · exact ⟨{ item with active := false }, mem_revoke_clients.mpr
      (.inr ⟨item, member, same, rfl⟩), isItem, label⟩
  · exact ⟨item, mem_revoke_clients.mpr (.inl ⟨member, same⟩), isItem, label⟩

theorem meets_interruptedClient {kept condition : Memory → World → Prop}
    (calm : Calm kept (Safe earlier) condition) {generation : Uuid}
    {journal : RecoveryJournal}
    (label : journal.operationLabel = some (operationLabelOf generation))
    (issued : ∀ memory world, condition memory world →
      Issued world generation journal.clientId) :
    Routine.Meets (underFaults primitives kept (Safe earlier)) condition
      (interruptedClient journal)
      (fun clientId memory world => condition memory world ∧
        Issued world generation clientId) condition := by
  unfold interruptedClient
  rw [label]
  cases known : journal.clientId with
  | some id =>
      intro memory world holds
      exact ⟨holds, known ▸ issued memory world holds⟩
  | none =>
      refine Routine.Meets.bind (meets_look calm rfl fun _ _ _ performs => by
        exact performs.2 ▸ performs.1) fun clients => ?_
      intro memory world holds
      refine ⟨holds.1, ?_⟩
      intro id isId
      obtain ⟨item, found, isItem⟩ := Option.map_eq_some_iff.mp isId
      obtain ⟨member, -, labelled⟩ := findActive_some found
      exact ⟨item, holds.2 ▸ member, isItem, labelled⟩

private theorem rolledBack_write (inv : Inv earlier world) {generation : Uuid}
    {journal : RecoveryJournal} (at_ : JournalAt world generation journal)
    (before : journal.state.afterCommit = false) {settled : JournalState}
    (terminal : settled = .recovered ∨ settled = .rolledBack)
    {clientId : Option Uuid} (issued : Issued world generation clientId) :
    JournalWrite earlier world generation {
      schemaVersion := journalSchema
      state := settled
      operationLabel := journal.operationLabel
      clientId } where
  generated := (inv.journals generation journal at_).generated
  label := (inv.journals generation journal at_).label
  client := issued
  commit := by
    rcases terminal with rfl | rfl <;> exact fun after => by cases after
  settled := by
    rcases terminal with rfl | rfl <;> exact fun _ => rfl
  standing := fun commit standing same =>
    absurd same (uncommitted_of_journal inv at_ before commit standing)
  opening := by
    rcases terminal with rfl | rfl <;> exact fun committed => by cases committed
  alone := by
    rcases terminal with rfl | rfl <;> exact fun committed => by cases committed
  pending := by
    rcases terminal with rfl | rfl <;> exact fun pending => by cases pending

theorem meets_recoverRolledBack {generation : Uuid} {journal : RecoveryJournal}
    (before : journal.state.afterCommit = false) {settled : JournalState}
    (terminal : settled = .recovered ∨ settled = .rolledBack) :
    Routine.Meets (underFaults primitives (Lasting earlier) (Safe earlier))
      (fun memory world =>
        Recovering primitives earlier listed done memory world ∧
          JournalAt world generation journal)
      (recoverRolledBack generation journal settled)
      (fun _ => Recovering primitives earlier listed (generation :: done))
      (Lasting earlier) := by
  have calm := @calm_recovering primitives earlier listed done
    (fun _ world => JournalAt world generation journal) fun _ before after same =>
    @World.Same.fact before after same (fun world =>
      JournalAt world generation journal) fun _ => Iff.rfl
  intro memory world start
  have label := (start.1.lasting.1.journals generation journal start.2).label
  refine Routine.Meets.bind ((meets_interruptedClient calm label
    fun memory world holds =>
      (holds.1.lasting.1.journals generation journal holds.2).client).consequence
    (fun _ _ holds => holds) (fun _ _ _ holds => holds)
    fun _ _ holds => holds.1.lasting) (fun clientId => ?_) memory world start
  have calmIssued := @calm_recovering primitives earlier listed done
    (fun _ world => JournalAt world generation journal ∧
      Issued world generation clientId) fun _ before after same =>
    @World.Same.fact before after same (fun world =>
      JournalAt world generation journal ∧ Issued world generation clientId)
      fun _ => Iff.rfl
  have calmDone := @calm_recovering primitives earlier listed
    (generation :: done) (fun _ _ => True) fun _ _ _ _ _ => trivial
  have writes : Routine.Meets
      (underFaults primitives (Lasting earlier) (Safe earlier))
      (fun memory world =>
        Recovering primitives earlier listed done memory world ∧
          JournalAt world generation journal ∧
          Issued world generation clientId)
      (writeJournal (.snapshot generation .journal) settled
        journal.operationLabel clientId)
      (fun _ => Recovering primitives earlier listed (generation :: done))
      (Lasting earlier) := by
    refine (meets_writeJournal calmIssued calmDone (calm_of
      (fun _ _ holds => holds) fun _ _ _ same holds =>
        holds.unseen same.unseen) ?_ ?_ ?_).consequence
      (fun _ _ holds => holds) (fun _ _ _ holds => holds.1)
      fun _ _ holds => holds
    · intro memory world holds
      refine ⟨holds.1.writeJournal (rolledBack_write holds.1.lasting.1
        holds.2.1 before terminal holds.2.2) ?_, trivial⟩
      rcases terminal with rfl | rfl <;> rfl
    · exact fun _ _ holds => holds.1.lasting
    · intro memory world holds
      exact holds.1.lasting.unseen (refused_unseen _ _)
  cases clientId with
  | none =>
      exact writes.strengthen fun _ _ holds =>
        ⟨holds.1.1, holds.1.2, holds.2⟩
  | some id =>
      refine Routine.Meets.bind (((meets_revokeClient calmIssued calmIssued ?_
        ?_).consequence (fun _ _ holds => holds) (fun _ _ _ holds => holds)
        ?_).strengthen ?_) fun _ => writes
      · intro memory world holds
        exact safe_revoke holds.1.lasting.1
          (uncommitted_of_journal holds.1.lasting.1 holds.2.1 before)
          (holds.2.2 id rfl) memory
      · intro memory world holds
        exact ⟨holds.1.revoke id, holds.2.1, holds.2.2.revoke id⟩
      · intro memory world holds
        rcases holds with holds | holds <;> exact holds.1.lasting
      · exact fun _ _ holds => ⟨holds.1.1, holds.1.2, holds.2⟩

theorem meets_loadCommittedReceipt {kept condition : Memory → World → Prop}
    (calm : Calm kept (Safe earlier) condition) (embeddedCommit : String)
    (generation : Uuid) (journal : RecoveryJournal) :
    Routine.Meets (underFaults primitives kept (Safe earlier)) condition
      (loadCommittedReceipt embeddedCommit generation journal)
      (fun receipt memory world => (receipt.generation = generation ∧
          some receipt.clientId = journal.clientId) ∧ condition memory world ∧
        world.files (.receipt generation) = some (.receipt receipt))
      condition := by
  refine Routine.Meets.bind (keeps_call calm rfl) fun _ => ?_
  refine Routine.Meets.bind (meets_readReceipt calm _) fun receipt => ?_
  dsimp only
  split
  · exact fun _ _ holds => holds.1
  · rename_i matching
    simp only [not_or, Decidable.not_not] at matching
    exact fun _ _ holds => ⟨⟨matching.2.1, matching.2.2.2⟩, holds⟩

/-- The newest committed generation and its receipt. -/
structure Owed (world : World) (generation : Uuid) (journal : RecoveryJournal)
    (receipt : SafeReceipt) : Prop where
  at_ : JournalAt world generation journal
  after : journal.state.afterCommit = true
  held : world.files (.receipt generation) = some (.receipt receipt)
  named : receipt.generation = generation
  client : journal.clientId = some receipt.clientId
  latest : Latest world generation

theorem Owed.safe_revoke {generation : Uuid} {journal : RecoveryJournal}
    {receipt : SafeReceipt} (owed : Owed world generation journal receipt)
    (inv : Inv earlier world) {id : Uuid} (previous : id ≠ receipt.clientId)
    (reconciling : memory.reconciling = some receipt.generation) :
    Safe earlier memory (.revokeClient id) world := by
  intro commit standing isClient
  obtain ⟨-, newest, member, isNewest⟩ := owed.latest
  refine ⟨newest, member, ?_, ?_⟩
  · rw [reconciling, owed.named, isNewest]
  · intro same
    obtain ⟨held, isHeld, client, -⟩ := (inv.commits commit standing).receipt
    rw [← same, isNewest, owed.held, Option.some.injEq,
      Content.receipt.injEq] at isHeld
    rw [isClient, ← isHeld, Option.some.injEq] at client
    exact previous client

theorem Owed.write {generation : Uuid} {journal : RecoveryJournal}
    {receipt : SafeReceipt} (owed : Owed world generation journal receipt)
    (inv : Inv earlier world) {state : JournalState}
    (later : state = .reconcilePending ∨ state = .reconciled ∧
      ∀ runId, receipt.qaRunId = some runId → runId ∈ world.passedRuns) :
    JournalWrite earlier world generation {
      schemaVersion := journalSchema
      state
      operationLabel := journal.operationLabel
      clientId := some receipt.clientId } where
  generated := (inv.journals generation journal owed.at_).generated
  label := (inv.journals generation journal owed.at_).label
  client := by
    rw [← owed.client]
    exact (inv.journals generation journal owed.at_).client
  commit := fun _ => .inr
    ((inv.journals generation journal owed.at_).commit owed.after)
  settled := by
    rcases later with rfl | ⟨rfl, -⟩ <;> exact fun _ => rfl
  standing := by
    intro commit standing same
    have sound := inv.commits commit standing
    obtain ⟨held, isHeld, client, run⟩ := sound.receipt
    rw [same, owed.held, Option.some.injEq, Content.receipt.injEq] at isHeld
    subst isHeld
    refine ⟨?_, client.symm, ?_⟩
    · rcases later with rfl | ⟨rfl, -⟩ <;> rfl
    · rcases later with rfl | ⟨rfl, passed⟩
      · exact .inr rfl
      · obtain ⟨runId, isRun, -⟩ := sound.run
        exact .inl ⟨runId, passed runId (run.symm.trans isRun), isRun⟩
  opening := by
    rcases later with rfl | ⟨rfl, -⟩ <;> exact fun committed => by cases committed
  alone := by
    rcases later with rfl | ⟨rfl, -⟩ <;> exact fun committed => by cases committed
  pending := fun _ => owed.latest

theorem meets_reconcileCommittedCutover {embeddedCommit : String}
    {generation : Uuid} {journal : RecoveryJournal}
    (unfinished : journal.state.unfinished = true) :
    Routine.Meets (underFaults primitives (Lasting earlier) (Safe earlier))
      (fun memory world =>
        Recovering primitives earlier listed done memory world ∧
          JournalAt world generation journal)
      (reconcileCommittedCutover embeddedCommit generation journal)
      (fun _ => Recovering primitives earlier listed (generation :: done))
      (Lasting earlier) := by
  have after : journal.state.afterCommit = true := by
    cases state : journal.state <;> rw [state] at unfinished <;>
      first | rfl | cases unfinished
  have calmAt := @calm_recovering primitives earlier listed done
    (fun _ world => JournalAt world generation journal) fun _ before after same =>
    @World.Same.fact before after same (fun world =>
      JournalAt world generation journal) fun _ => Iff.rfl
  refine Routine.Meets.bind ((meets_loadCommittedReceipt calmAt embeddedCommit
    generation journal).consequence (fun _ _ holds => holds)
    (fun _ _ _ holds => holds) fun _ _ holds => holds.1.lasting)
    fun receipt => ?_
  refine Routine.Meets.assuming fun matching => ?_
  let owing : Memory → World → Prop := fun memory world =>
    Recovering primitives earlier listed done memory world ∧
      Owed world generation journal receipt
  have stableOwed : ∀ before after, World.Same before after →
      Owed before generation journal receipt →
        Owed after generation journal receipt := by
    intro before later same owed
    have files := same.files
    exact ⟨(congrFun files _).trans owed.at_, owed.after,
      (congrFun files _).trans owed.held, owed.named, owed.client,
      owed.latest.unseen same.unseen⟩
  have calmOwing : Calm (Lasting earlier) (Safe earlier) owing :=
    calm_recovering fun _ => stableOwed
  refine Routine.Meets.bind (((meets_reconcileRemoteState calmOwing ?_ ?_ ?_
    ?_).consequence (fun _ _ holds => holds) (fun _ _ _ holds => holds)
    fun _ _ holds => holds.1.lasting).strengthen ?_) fun _ => ?_
  · intro memory world reconciling holds
    exact ⟨⟨holds.1.lasting, holds.1.all, holds.1.verified, holds.1.finished⟩,
      holds.2⟩
  · intro memory world id holds reconciling previous
    exact holds.2.safe_revoke holds.1.lasting.1 previous reconciling
  · intro memory world id holds _
    exact ⟨holds.1.revoke id, holds.2.at_, holds.2.after, holds.2.held,
      holds.2.named, holds.2.client, holds.2.latest⟩
  · intro memory world runId holds _
    exact ⟨⟨⟨holds.1.lasting.1.passRun runId, holds.1.lasting.2⟩, holds.1.all,
      holds.1.verified, holds.1.finished⟩, holds.2.at_, holds.2.after,
      holds.2.held, holds.2.named, holds.2.client, holds.2.latest⟩
  · exact fun _ _ holds => ⟨holds.1.1, holds.1.2, after, holds.2, matching.1,
      matching.2.symm,
      holds.1.1.lasting.1.latest generation journal holds.1.2 unfinished⟩
  let reconciledAll : Memory → World → Prop := fun memory world =>
    owing memory world ∧ PreviousRevoked world receipt.clientId ∧
      ∀ runId, receipt.qaRunId = some runId → runId ∈ world.passedRuns
  have calmReconciled : Calm (Lasting earlier) (Safe earlier) reconciledAll :=
    calmOwing.and fun before later same =>
      @World.Same.fact before later same (fun world =>
        PreviousRevoked world receipt.clientId ∧
          ∀ runId, receipt.qaRunId = some runId → runId ∈ world.passedRuns)
        fun _ => Iff.rfl
  have calmDone := @calm_recovering primitives earlier listed
    (generation :: done) (fun _ _ => True) fun _ _ _ _ _ => trivial
  refine Routine.Meets.bind ((meets_writeJournal calmReconciled calmDone (calm_of
    (fun _ _ holds => holds) fun _ _ _ same holds =>
      holds.unseen same.unseen) ?_ ?_ ?_).consequence
    (fun _ _ holds => holds) (fun _ _ _ holds => holds.1)
    fun _ _ holds => holds) fun _ _ _ holds => holds
  · intro memory world holds
    exact ⟨holds.1.1.writeJournal (holds.1.2.write holds.1.1.lasting.1
      (.inr ⟨rfl, holds.2.2⟩)) rfl, trivial⟩
  · exact fun _ _ holds => holds.1.1.lasting
  · intro memory world holds
    exact holds.1.lasting.unseen (refused_unseen _ _)

theorem meets_recoverGeneration (embeddedCommit : String) (generation : Uuid) :
    Routine.Meets (underFaults primitives (Lasting earlier) (Safe earlier))
      (Recovering primitives earlier listed done)
      (recoverGeneration embeddedCommit generation)
      (fun _ => Recovering primitives earlier listed (generation :: done))
      (Lasting earlier) := by
  have calm : Calm (Lasting earlier) (Safe earlier)
      (Recovering primitives earlier listed done) :=
    calm_of (fun _ _ holds => holds.lasting) fun _ _ _ same holds =>
      holds.same same
  refine Routine.Meets.bind ((meets_readRecoveryJournal calm
    generation).consequence (fun _ _ holds => holds) (fun _ _ _ holds => holds)
    fun _ _ holds => holds.lasting) fun journal => ?_
  refine Routine.Meets.bind (Routine.Meets.lift fun _ _ holds =>
    holds.1.lasting) fun action => ?_
  refine Routine.Meets.assuming fun decided => ?_
  have told := recoveryAction_cases decided
  cases action with
  | none =>
      intro memory world holds
      refine ⟨holds.1.lasting, holds.1.all, holds.1.verified, ?_⟩
      intro other member
      rcases List.mem_cons.mp member with rfl | before
      · exact ⟨journal, holds.2, decided⟩
      · exact holds.1.finished other before
  | reconcileCommitted => exact meets_reconcileCommittedCutover told
  | rollbackAndRevoke =>
      have calmAt := @calm_recovering primitives earlier listed done
        (fun _ world => JournalAt world generation journal)
        fun _ before after same =>
          @World.Same.fact before after same (fun world =>
            JournalAt world generation journal) fun _ => Iff.rfl
      have before := callsForRollback_not_afterCommit told
      refine Routine.Meets.bind ((@meets_rollbackAfterFailure _ _ _ _ calmAt
        generation ?_ ?_ ?_ ?_).consequence
        (fun _ _ holds => holds) (fun _ _ _ holds => holds)
        fun _ _ holds => holds.1.lasting) fun _ => ?_
      · intro memory world holds
        exact ⟨not_earlier_of_journal holds.1.lasting.1 holds.2 told,
          uncommitted_of_journal holds.1.lasting.1 holds.2 before⟩
      · intro memory world target content hermes holds
        refine ⟨holds.1.unseen (replaceFile_hermes_unseen world hermes content)
          ?_, ?_⟩
        · intro other file _
          rcases hermes with rfl | rfl <;> rfl
        · rcases hermes with rfl | rfl <;> exact holds.2
      · intro memory world restoring holds
        exact ⟨⟨holds.1.lasting, holds.1.all, holds.1.verified,
          holds.1.finished⟩, holds.2⟩
      · intro memory world holds
        refine ⟨⟨⟨holds.1.lasting.1, ?_⟩, holds.1.all, holds.1.verified,
          holds.1.finished⟩, holds.2⟩
        intro other member
        rcases List.mem_cons.mp member with rfl | earlierOne
        · exact (holds.1.lasting.1.journals other journal holds.2).generated
        · exact holds.1.lasting.2 other earlierOne
      · refine Routine.Meets.bind ((meets_recoverRolledBack before
          (.inl rfl)).strengthen fun _ _ holds => holds.1) fun _ => ?_
        exact fun _ _ holds => holds
  | revokeAfterRollback =>
      have before : journal.state.afterCommit = false := by
        rw [told.1]
        rfl
      refine Routine.Meets.bind (meets_recoverRolledBack before (.inr rfl))
        fun _ => ?_
      exact fun _ _ holds => holds

theorem meets_recoverGenerations (embeddedCommit : String)
    (backups : List Uuid) :
    Routine.Meets (underFaults primitives (Lasting earlier) (Safe earlier))
      (Recovering primitives earlier listed done)
      (recoverGenerations embeddedCommit backups)
      (fun _ => Recovering primitives earlier listed (backups.reverse ++ done))
      (Lasting earlier) := by
  induction backups generalizing done with
  | nil => exact fun _ _ holds => holds
  | cons generation rest induction =>
      refine Routine.Meets.bind (meets_recoverGeneration embeddedCommit
        generation) fun reconciled => ?_
      refine Routine.Meets.bind induction fun others => ?_
      intro memory world holds
      simpa using holds

theorem meets_recoverIncompleteCutovers (embeddedCommit : String) :
    Routine.Meets (underFaults primitives (Lasting earlier) (Safe earlier))
      (Lasting earlier) (recoverIncompleteCutovers embeddedCommit)
      (fun _ memory world => Lasting earlier memory world ∧
        Settled primitives world) (Lasting earlier) := by
  have calm : Calm (Lasting earlier) (Safe earlier) (Lasting earlier) :=
    calm_of (fun _ _ holds => holds) fun _ _ _ same holds =>
      holds.unseen same.unseen
  refine Routine.Meets.bind (meets_pathExists calm .backupRoot) fun found => ?_
  cases found with
  | false =>
      intro memory world holds
      cases holds.2
  | true =>
      refine Routine.Meets.bind ((keeps_ensureRootDirectory calm.looks
        .backupRoot).strengthen fun _ _ holds => holds.1) fun _ => ?_
      refine Routine.Meets.bind (@meets_look _ _ _ _ calm .listBackupRoot rfl
        (fun entries world => ∀ generation ∈ world.generations,
          .generation generation ∈ entries) ?_) fun entries => ?_
      · intro world entries after performs generation member
        obtain ⟨-, listed, rfl⟩ := performs
        exact (listed (.generation generation)).mpr member
      have calmListed := calm.and fun before after same =>
        @World.Same.fact before after same (fun world =>
          ∀ generation ∈ world.generations,
            .generation generation ∈ entries) fun _ => Iff.rfl
      refine Routine.Meets.bind ((meets_collectBackups calmListed ?_
        entries).consequence (fun _ _ holds => holds) (fun _ _ _ holds => holds)
        fun _ _ holds => holds.1) fun backups => ?_
      · intro memory before after beside holds
        exact ⟨holds.1.unseen beside.unseen, @World.Aside.fact before after
          beside (fun world => ∀ generation ∈ world.generations,
            .generation generation ∈ entries) (fun _ => Iff.rfl) holds.2⟩
      refine (@meets_recoverGenerations _ _ backups [] embeddedCommit
        (sortBackups backups)).consequence ?_ ?_
        fun _ _ holds => holds
      · intro memory world holds
        refine ⟨holds.1.1, ?_, holds.2.1, ?_⟩
        · exact fun generation member =>
            holds.2.2 generation (holds.1.2 generation member)
        · intro generation member
          cases member
      · intro _ memory world holds
        refine ⟨holds.lasting, ?_⟩
        intro generation member
        have isListed := holds.all generation member
        refine ⟨holds.verified generation isListed, ?_⟩
        apply holds.finished
        simpa [sortBackups] using isListed

end Generations

end Helper

end NvidiaBuildLb.Hermes
