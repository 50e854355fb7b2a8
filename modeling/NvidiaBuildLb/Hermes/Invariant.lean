import NvidiaBuildLb.Hermes.Rules

namespace NvidiaBuildLb.Hermes

open Foundation NvidiaBuildLb.Core

/-! What holds of the files and the gateway in every run of the helper. -/

def JournalAt (world : World) (generation : Uuid)
    (journal : RecoveryJournal) : Prop :=
  world.files (.snapshot generation .journal) = some (.journal journal)

def JournalState.callsForRollback : JournalState → Bool
  | .clientOperationPrepared | .candidateReady | .candidateApplied => true
  | _ => false

/-- The states in which recovery completes the cutover. -/
def JournalState.unfinished : JournalState → Bool
  | .committed | .reconcilePending => true
  | _ => false

def JournalState.afterCommit : JournalState → Bool
  | .committed | .reconcilePending | .reconciled => true
  | _ => false

theorem recoveryAction_cases {journal : RecoveryJournal}
    {action : RecoveryAction} (decided : recoveryAction journal = .ok action) :
    match action with
    | .none => journal.state = .reconciled ∨ journal.state = .rolledBack ∨
        journal.state = .recovered
    | .reconcileCommitted => journal.state.unfinished = true
    | .rollbackAndRevoke => journal.state.callsForRollback = true
    | .revokeAfterRollback => journal.state = .rollbackCleanupPending ∧
        journal.clientId.isSome = true := by
  unfold recoveryAction at decided
  split at decided
  · cases decided
  cases state : journal.state <;> rw [state] at decided <;>
    simp only [Except.ok.injEq, reduceCtorEq] at decided
  case rollbackCleanupPending =>
      split at decided
      · cases decided
      · rename_i present
        cases decided
        exact ⟨rfl, by simpa [Option.isSome_iff_ne_none] using present⟩
  all_goals
    subst decided
    simp [JournalState.unfinished, JournalState.callsForRollback]

structure JournalSound (world : World) (generation : Uuid)
    (journal : RecoveryJournal) : Prop where
  generated : generation ∈ world.used
  label : journal.operationLabel = some (operationLabelOf generation)
  client : ∀ id, journal.clientId = some id →
    ∃ item ∈ world.clients, item.id = id ∧
      item.label = operationLabelOf generation
  commit : journal.state.afterCommit = true →
    ∃ commit ∈ world.commits, commit.generation = generation

/-- A commit that is not completed yet can still be. -/
def Completable (world : World) (generation : Uuid) : Prop :=
  generation ∈ world.generations ∧
    world.files (.retirement generation) = none ∧
    ∃ journal, JournalAt world generation journal ∧
      journal.state.unfinished = true

/-- The newest commit is that of the generation, whose backup is kept. -/
def Latest (world : World) (generation : Uuid) : Prop :=
  generation ∈ world.generations ∧
    ∃ newest ∈ world.commits.head?, newest.generation = generation

structure CommitSound (world : World) (commit : Commit) : Prop where
  client : ∃ item ∈ world.clients, commit.clientId = some item.id ∧
    item.label = operationLabelOf commit.generation
  journal : ∀ journal, JournalAt world commit.generation journal →
    journal.state.afterCommit = true ∧ journal.clientId = commit.clientId
  receipt : ∃ receipt, world.files (.receipt commit.generation) =
      some (.receipt receipt) ∧
    commit.clientId = some receipt.clientId ∧
      commit.qaRunId = receipt.qaRunId
  run : ∃ runId, commit.qaRunId = some runId ∧
    (runId ∈ world.passedRuns ∨ Completable world commit.generation)

/-- The commits whose writer was not told that they failed. -/
def World.standing (world : World) (commit : Commit) : Prop :=
  commit ∈ world.commits ∧ commit.generation ∉ world.misreported

/-- `earlier` are the generations that earlier runs of the helper rolled
back. -/
structure Inv (earlier : List Uuid) (world : World) : Prop where
  labels : ∀ left ∈ world.clients, ∀ right ∈ world.clients,
    left.id = right.id → left.label = right.label
  active : ∀ left ∈ world.clients, ∀ right ∈ world.clients,
    left.active = true → right.active = true → left.label = right.label →
      left.id = right.id
  issued : ∀ item ∈ world.clients, ∀ generation,
    item.label = operationLabelOf generation → generation ∈ world.used
  reported : ∀ generation ∈ world.misreported, generation ∈ world.used
  retired : ∀ generation,
    (world.files (.retirement generation)).isSome = true →
      generation ∈ world.used
  nonces : ∀ temporary ∈ world.temporaries, temporary.nonce ∈ world.used
  journals : ∀ generation journal, JournalAt world generation journal →
    JournalSound world generation journal
  generated : ∀ commit ∈ world.commits, commit.generation ∈ world.used
  commits : ∀ commit, world.standing commit → CommitSound world commit
  latest : ∀ generation journal, JournalAt world generation journal →
    journal.state.unfinished = true → Latest world generation
  known : ∀ generation ∈ earlier, generation ∈ world.used
  settled : ∀ generation ∈ earlier, ∀ journal,
    JournalAt world generation journal →
      journal.state.callsForRollback = false

variable {earlier : List Uuid} {world : World}

/-- What is not looked at may change. -/
structure Unseen (before after : World) : Prop where
  journals : ∀ generation, after.files (.snapshot generation .journal) =
    before.files (.snapshot generation .journal)
  receipts : ∀ generation,
    after.files (.receipt generation) = before.files (.receipt generation)
  retirements : ∀ generation,
    after.files (.retirement generation) =
      before.files (.retirement generation)
  generations : after.generations = before.generations
  clients : after.clients = before.clients
  passedRuns : after.passedRuns = before.passedRuns
  commits : after.commits = before.commits
  misreported : ∀ generation ∈ before.misreported,
    generation ∈ after.misreported
  reported : ∀ generation ∈ after.misreported,
    generation ∈ before.misreported ∨
      ∃ journal, JournalAt before generation journal
  used : ∀ id ∈ before.used, id ∈ after.used
  nonces : before.KeepsNonces after

theorem Latest.unseen {after : World} {generation : Uuid}
    (latest : Latest world generation) (unseen : Unseen world after) :
    Latest after generation := by
  unfold Latest
  rw [unseen.generations, unseen.commits]
  exact latest

theorem Inv.unseen {after : World} (inv : Inv earlier world)
    (unseen : Unseen world after) : Inv earlier after where
  labels := by
    rw [unseen.clients]
    exact inv.labels
  active := by
    rw [unseen.clients]
    exact inv.active
  issued := by
    rw [unseen.clients]
    exact fun item member generation label =>
      unseen.used _ (inv.issued item member generation label)
  reported := by
    intro generation member
    rcases unseen.reported generation member with before | ⟨journal, at_⟩
    · exact unseen.used _ (inv.reported generation before)
    · exact unseen.used _ (inv.journals generation journal at_).generated
  retired := by
    intro generation retired
    rw [unseen.retirements] at retired
    exact unseen.used _ (inv.retired generation retired)
  nonces := by
    intro temporary member
    rcases unseen.nonces temporary member with ⟨old, isOld, same⟩ | known
    · exact same ▸ unseen.used _ (inv.nonces old isOld)
    · exact known
  journals := by
    intro generation journal at_
    unfold JournalAt at at_
    rw [unseen.journals] at at_
    have sound := inv.journals generation journal at_
    exact {
      generated := unseen.used _ sound.generated
      label := sound.label
      client := unseen.clients ▸ sound.client
      commit := unseen.commits ▸ sound.commit }
  generated := by
    rw [unseen.commits]
    exact fun commit member => unseen.used _ (inv.generated commit member)
  commits := by
    intro commit standing
    have stood : world.standing commit :=
      ⟨unseen.commits ▸ standing.1, fun member =>
        standing.2 (unseen.misreported _ member)⟩
    have sound := inv.commits commit stood
    refine {
      client := unseen.clients ▸ sound.client
      journal := ?_
      receipt := ?_
      run := ?_ }
    · intro journal at_
      unfold JournalAt at at_
      rw [unseen.journals] at at_
      exact sound.journal journal at_
    · rw [unseen.receipts]
      exact sound.receipt
    · unfold Completable JournalAt
      rw [unseen.passedRuns, unseen.generations, unseen.retirements,
        unseen.journals]
      exact sound.run
  latest := by
    intro generation journal at_ unfinished
    unfold JournalAt at at_
    rw [unseen.journals] at at_
    exact (inv.latest generation journal at_ unfinished).unseen unseen
  known := fun generation member =>
    unseen.used _ (inv.known generation member)
  settled := by
    intro generation member journal at_
    unfold JournalAt at at_
    rw [unseen.journals] at at_
    exact inv.settled generation member journal at_

theorem World.Same.unseen {before after : World} (same : before.Same after) :
    Unseen before after where
  journals := fun _ => congrFun same.files _
  receipts := fun _ => congrFun same.files _
  retirements := fun _ => congrFun same.files _
  generations := same.generations
  clients := same.clients
  passedRuns := same.passedRuns
  commits := same.commits
  misreported := fun _ member => same.misreported ▸ member
  reported := fun _ member => .inl (same.misreported ▸ member)
  used := same.used
  nonces := same.nonces

theorem refused_unseen (op : Op) (world : World) :
    Unseen world (refused op world) := by
  have unchanged : Unseen world world := (World.Same.refl world).unseen
  unfold refused
  split
  · split
    · rename_i journal at_
      split
      · refine ⟨fun _ => rfl, fun _ => rfl, fun _ => rfl, rfl, rfl, rfl, rfl,
          fun _ member => List.mem_cons_of_mem _ member, ?_,
          fun _ member => member, World.keepsNonces_rfl rfl⟩
        intro generation member
        rcases List.mem_cons.mp member with rfl | before
        · exact .inr ⟨journal, at_⟩
        · exact .inl before
      · exact unchanged
    · exact unchanged
  · exact unchanged

theorem replaceFile_hermes_unseen (world : World) {target : Path}
    (hermes : target = .env ∨ target = .config) (content : Content) :
    Unseen world (world.replaceFile target content) := by
  rcases hermes with rfl | rfl <;>
    exact ⟨fun _ => rfl, fun _ => rfl, fun _ => rfl, rfl, rfl, rfl, rfl,
      fun _ member => member, fun _ member => .inl member,
      fun _ member => member, World.keepsNonces_rfl rfl⟩

@[simp] theorem setFile_files (world : World) (path place : Path)
    (content : Option Content) :
    (world.setFile path content).files place =
      if place = path then content else world.files place :=
  rfl

@[simp] theorem replaceFile_files (world : World) (target place : Path)
    (content : Content) :
    (world.replaceFile target content).files place =
      if place = target then some content else world.files place :=
  rfl

theorem journalAt_replaceFile {generation other : Uuid}
    {journal found : RecoveryJournal} :
    JournalAt (world.replaceFile (.snapshot generation .journal)
        (.journal journal)) other found ↔
      (other = generation ∧ found = journal) ∨
        (other ≠ generation ∧ JournalAt world other found) := by
  unfold JournalAt
  by_cases same : other = generation
  · simp [same, eq_comm]
  · simp [same]

/-- What a journal may be replaced by. -/
structure JournalWrite (earlier : List Uuid) (world : World)
    (generation : Uuid) (journal : RecoveryJournal) : Prop where
  generated : generation ∈ world.used
  label : journal.operationLabel = some (operationLabelOf generation)
  client : ∀ id, journal.clientId = some id →
    ∃ item ∈ world.clients, item.id = id ∧
      item.label = operationLabelOf generation
  commit : journal.state.afterCommit = true → journal.state = .committed ∨
    ∃ commit ∈ world.commits, commit.generation = generation
  settled : generation ∈ earlier → journal.state.callsForRollback = false
  standing : ∀ commit, world.standing commit →
    commit.generation = generation →
      journal.state.afterCommit = true ∧ journal.clientId = commit.clientId ∧
        ((∃ runId ∈ world.passedRuns, commit.qaRunId = some runId) ∨
          journal.state.unfinished = true)
  opening : journal.state = .committed →
    generation ∈ world.generations ∧
      world.files (.retirement generation) = none ∧
      ∃ receipt runId, world.files (.receipt generation) =
          some (.receipt receipt) ∧
        journal.clientId = some receipt.clientId ∧
          receipt.qaRunId = some runId
  alone : journal.state = .committed → ∀ other found, other ≠ generation →
    JournalAt world other found → found.state.unfinished = false
  pending : journal.state = .reconcilePending → Latest world generation

private theorem commitOf_journal (world : World) (generation : Uuid)
    (journal : RecoveryJournal) :
    world.commitOf (.snapshot generation .journal) (.journal journal) =
      if journal.state = .committed then
        some {
          generation
          clientId := journal.clientId
          qaRunId := world.receiptRun generation }
      else
        none :=
  rfl

private theorem mem_commits_replaceFile {generation : Uuid}
    {journal : RecoveryJournal} {commit : Commit} :
    commit ∈ (world.replaceFile (.snapshot generation .journal)
        (.journal journal)).commits ↔
      (journal.state = .committed ∧ commit = {
        generation
        clientId := journal.clientId
        qaRunId := world.receiptRun generation }) ∨
        commit ∈ world.commits := by
  simp only [World.replaceFile, commitOf_journal, List.mem_append,
    Option.mem_toList]
  by_cases committed : journal.state = .committed <;>
    simp [committed, eq_comm]

private theorem completable_replaceFile_other {generation other : Uuid}
    {journal : RecoveryJournal} (different : other ≠ generation)
    (completable : Completable world other) :
    Completable (world.replaceFile (.snapshot generation .journal)
      (.journal journal)) other := by
  obtain ⟨listed, kept, found, at_, unfinished⟩ := completable
  refine ⟨listed, by simpa using kept, found, ?_, unfinished⟩
  exact journalAt_replaceFile.mpr (.inr ⟨different, at_⟩)

theorem commits_of_uncommitted {generation : Uuid}
    {journal : RecoveryJournal} (uncommitted : journal.state ≠ .committed) :
    (world.replaceFile (.snapshot generation .journal)
      (.journal journal)).commits = world.commits := by
  simp [World.replaceFile, World.commitOf, uncommitted]

theorem JournalWrite.latest {generation : Uuid}
    {journal : RecoveryJournal}
    (write : JournalWrite earlier world generation journal)
    (unfinished : journal.state.unfinished = true) :
    Latest (world.replaceFile (.snapshot generation .journal)
      (.journal journal)) generation := by
  by_cases committed : journal.state = .committed
  · refine ⟨(write.opening committed).1, {
      generation
      clientId := journal.clientId
      qaRunId := world.receiptRun generation }, ?_, rfl⟩
    simp only [World.replaceFile, commitOf_journal, committed, if_true,
      Option.toList_some, List.cons_append, List.head?_cons, Option.mem_def]
  · have pending : journal.state = .reconcilePending := by
      cases state : journal.state <;> rw [state] at unfinished <;>
        first | rfl | exact absurd state committed | cases unfinished
    unfold Latest
    rw [commits_of_uncommitted committed]
    exact write.pending pending

theorem Inv.writeJournal (inv : Inv earlier world) {generation : Uuid}
    {journal : RecoveryJournal}
    (write : JournalWrite earlier world generation journal) :
    Inv earlier (world.replaceFile (.snapshot generation .journal)
      (.journal journal)) where
  labels := inv.labels
  active := inv.active
  issued := inv.issued
  reported := inv.reported
  retired := inv.retired
  nonces := inv.nonces
  journals := by
    intro other found at_
    rcases journalAt_replaceFile.mp at_ with ⟨rfl, rfl⟩ | ⟨-, at_⟩
    · refine ⟨write.generated, write.label, write.client, ?_⟩
      intro after
      rcases write.commit after with committed | ⟨commit, member, same⟩
      · exact ⟨_, mem_commits_replaceFile.mpr (.inl ⟨committed, rfl⟩), rfl⟩
      · exact ⟨commit, mem_commits_replaceFile.mpr (.inr member), same⟩
    · have sound := inv.journals other found at_
      refine ⟨sound.generated, sound.label, sound.client, ?_⟩
      intro after
      obtain ⟨commit, member, same⟩ := sound.commit after
      exact ⟨commit, mem_commits_replaceFile.mpr (.inr member), same⟩
  generated := by
    intro commit member
    rcases mem_commits_replaceFile.mp member with ⟨-, rfl⟩ | old
    · exact write.generated
    · exact inv.generated commit old
  commits := by
    intro commit ⟨member, notMisreported⟩
    rcases mem_commits_replaceFile.mp member with ⟨committed, rfl⟩ | old
    · obtain ⟨listed, kept, receipt, runId, held, client, run⟩ :=
        write.opening committed
      obtain ⟨item, inClients, isItem, label⟩ := write.client _ client
      refine ⟨⟨item, inClients, by simp [client, isItem], label⟩, ?_, ?_, ?_⟩
      · intro found at_
        rcases journalAt_replaceFile.mp at_ with ⟨-, rfl⟩ | ⟨different, -⟩
        · exact ⟨by rw [committed]; rfl, rfl⟩
        · exact absurd rfl different
      · refine ⟨receipt, by simpa using held, client, ?_⟩
        simp [World.receiptRun, held]
      · refine ⟨runId, by simp [World.receiptRun, held, run], .inr ?_⟩
        refine ⟨listed, by simpa using kept, journal, ?_, ?_⟩
        · exact journalAt_replaceFile.mpr (.inl ⟨rfl, rfl⟩)
        · rw [committed]
          rfl
    · have sound := inv.commits commit ⟨old, notMisreported⟩
      obtain ⟨receipt, held, client, run⟩ := sound.receipt
      refine ⟨sound.client, ?_, ⟨receipt, by simpa using held, client, run⟩,
        ?_⟩
      · intro found at_
        rcases journalAt_replaceFile.mp at_ with ⟨same, rfl⟩ | ⟨-, at_⟩
        · obtain ⟨after, clients, -⟩ :=
            write.standing commit ⟨old, notMisreported⟩ same
          exact ⟨after, clients⟩
        · exact sound.journal found at_
      · obtain ⟨runId, isRun, passed | completable⟩ := sound.run
        · exact ⟨runId, isRun, .inl passed⟩
        by_cases same : commit.generation = generation
        · obtain ⟨-, -, ⟨passedRun, passed, isPassed⟩ | unfinished⟩ :=
            write.standing commit ⟨old, notMisreported⟩ same
          · exact ⟨passedRun, isPassed, .inl passed⟩
          · refine ⟨runId, isRun, .inr ⟨completable.1, ?_, journal, ?_,
              unfinished⟩⟩
            · simpa using completable.2.1
            · exact journalAt_replaceFile.mpr (.inl ⟨same, rfl⟩)
        · exact ⟨runId, isRun,
            .inr (completable_replaceFile_other same completable)⟩
  latest := by
    intro other found at_ unfinished
    rcases journalAt_replaceFile.mp at_ with ⟨rfl, rfl⟩ | ⟨different, at_⟩
    · exact write.latest unfinished
    · have uncommitted : journal.state ≠ .committed := fun committed => by
        rw [write.alone committed other found different at_] at unfinished
        cases unfinished
      unfold Latest
      rw [commits_of_uncommitted uncommitted]
      exact inv.latest other found at_ unfinished
  known := inv.known
  settled := by
    intro other member found at_
    rcases journalAt_replaceFile.mp at_ with ⟨rfl, rfl⟩ | ⟨-, at_⟩
    · exact write.settled member
    · exact inv.settled other member found at_

/-- A generation without a standing commit, apart from those whose run is
over. -/
def Retirable (world : World) (generation : Uuid) : Prop :=
  ∀ commit, world.standing commit → commit.generation = generation →
    ∃ runId ∈ world.passedRuns, commit.qaRunId = some runId

private theorem Inv.remainder (inv : Inv earlier world) {after : World}
    (generation : Uuid) (retirable : Retirable world generation)
    (journals : ∀ other journal, JournalAt after other journal →
      JournalAt world other journal)
    (others : ∀ other, other ≠ generation → Completable world other →
      Completable after other)
    (listed : ∀ other journal, JournalAt after other journal →
      other ∈ world.generations → other ∈ after.generations)
    (receipts : ∀ other, (world.files (.receipt other)).isSome = true →
      after.files (.receipt other) = world.files (.receipt other))
    (retired : ∀ other, (after.files (.retirement other)).isSome = true →
      other ∈ world.used)
    (clients : after.clients = world.clients)
    (passedRuns : after.passedRuns = world.passedRuns)
    (commits : after.commits = world.commits)
    (misreported : after.misreported = world.misreported)
    (used : after.used = world.used)
    (temporaries : after.temporaries = world.temporaries) :
    Inv earlier after where
  labels := by
    rw [clients]
    exact inv.labels
  active := by
    rw [clients]
    exact inv.active
  issued := by
    rw [clients, used]
    exact inv.issued
  reported := by
    rw [misreported, used]
    exact inv.reported
  retired := by
    rw [used]
    exact retired
  nonces := by
    rw [temporaries, used]
    exact inv.nonces
  journals := by
    intro other journal at_
    have sound := inv.journals other journal (journals other journal at_)
    refine ⟨by rw [used]; exact sound.generated, sound.label, ?_, ?_⟩
    · rw [clients]
      exact sound.client
    · rw [commits]
      exact sound.commit
  generated := by
    rw [commits, used]
    exact inv.generated
  commits := by
    intro commit standing
    have stood : world.standing commit := by
      unfold World.standing at standing ⊢
      rwa [commits, misreported] at standing
    have sound := inv.commits commit stood
    obtain ⟨receipt, held, client, run⟩ := sound.receipt
    refine ⟨by rw [clients]; exact sound.client, ?_, ⟨receipt, ?_, client, run⟩,
      ?_⟩
    · intro journal at_
      exact sound.journal journal (journals _ journal at_)
    · rw [receipts _ (by rw [held]; rfl), held]
    · obtain ⟨runId, isRun, passed | completable⟩ := sound.run
      · exact ⟨runId, isRun, .inl (by rw [passedRuns]; exact passed)⟩
      by_cases same : commit.generation = generation
      · obtain ⟨passedRun, passed, isPassed⟩ := retirable commit stood same
        exact ⟨passedRun, isPassed, .inl (by rw [passedRuns]; exact passed)⟩
      · exact ⟨runId, isRun, .inr (others _ same completable)⟩
  latest := by
    intro other journal at_ unfinished
    obtain ⟨member, newest⟩ :=
      inv.latest other journal (journals other journal at_) unfinished
    unfold Latest
    rw [commits]
    exact ⟨listed other journal at_ member, newest⟩
  known := by
    rw [used]
    exact inv.known
  settled := by
    intro other member journal at_
    exact inv.settled other member journal (journals other journal at_)

theorem Inv.removeFile (inv : Inv earlier world) {generation : Uuid}
    (retirable : Retirable world generation) (file : SnapshotFile) :
    Inv earlier (world.setFile (.snapshot generation file) none) := by
  apply inv.remainder generation retirable <;>
    try first | rfl | exact fun _ _ => rfl | exact inv.retired
  · intro other journal at_
    unfold JournalAt at at_ ⊢
    simp only [setFile_files] at at_
    split at at_
    · cases at_
    · exact at_
  · intro other different completable
    obtain ⟨listed, kept, journal, at_, unfinished⟩ := completable
    refine ⟨listed, by simpa using kept, journal, ?_, unfinished⟩
    unfold JournalAt
    simp only [setFile_files, Path.snapshot.injEq, different, false_and,
      if_false]
    exact at_
  · exact fun _ _ _ listed => listed

theorem Inv.removeGeneration (inv : Inv earlier world) {generation : Uuid}
    (retirable : Retirable world generation)
    (empty : ∀ journal, ¬ JournalAt world generation journal) :
    Inv earlier { world with
      generations := world.generations.filter (· ≠ generation) } := by
  apply inv.remainder generation retirable <;>
    try first | rfl | exact fun _ _ => rfl | exact inv.retired
  · exact fun _ _ at_ => at_
  · intro other different completable
    obtain ⟨listed, rest⟩ := completable
    refine ⟨?_, rest⟩
    simpa using ⟨listed, different⟩
  · intro other journal at_ listed
    have different : other ≠ generation := fun same =>
      empty journal (same ▸ at_)
    simpa using ⟨listed, different⟩

theorem Inv.writeRetirement (inv : Inv earlier world) {generation : Uuid}
    (generated : generation ∈ world.used)
    (retirable : Retirable world generation) (receipt : RetirementReceipt) :
    Inv earlier (world.replaceFile (.retirement generation)
      (.retirement receipt)) := by
  apply inv.remainder generation retirable <;>
    try first | rfl | exact fun _ _ => rfl | exact inv.retired
  · exact fun _ _ at_ => at_
  · intro other different completable
    obtain ⟨listed, kept, rest⟩ := completable
    refine ⟨listed, ?_, rest⟩
    simpa [different] using kept
  · exact fun _ _ _ listed => listed
  · intro other retired
    by_cases same : other = generation
    · exact same ▸ generated
    · exact inv.retired other (by simpa [same] using retired)

theorem Inv.writeReceipt (inv : Inv earlier world) {generation : Uuid}
    (uncommitted : ∀ commit, world.standing commit →
      commit.generation ≠ generation)
    (receipt : SafeReceipt) :
    Inv earlier (world.replaceFile (.receipt generation)
      (.receipt receipt)) where
  labels := inv.labels
  active := inv.active
  issued := inv.issued
  reported := inv.reported
  retired := inv.retired
  nonces := inv.nonces
  journals := by
    intro other journal at_
    have sound := inv.journals other journal at_
    exact ⟨sound.generated, sound.label, sound.client, sound.commit⟩
  generated := inv.generated
  commits := by
    intro commit standing
    have sound := inv.commits commit standing
    obtain ⟨held, isHeld, client, run⟩ := sound.receipt
    refine ⟨sound.client, sound.journal, ⟨held, ?_, client, run⟩, sound.run⟩
    simpa [uncommitted commit standing] using isHeld
  latest := inv.latest
  known := inv.known
  settled := inv.settled

theorem Inv.createClient (inv : Inv earlier world) {item : ClientItem}
    (new : ∀ known ∈ world.clients, known.id ≠ item.id)
    (unlabelled : ∀ known ∈ world.clients, known.active = true →
      known.label ≠ item.label)
    (issued : ∀ generation, item.label = operationLabelOf generation →
      generation ∈ world.used) :
    Inv earlier { world with clients := world.clients ++ [item] } where
  labels := by
    intro left leftMember right rightMember same
    rcases List.mem_append.mp leftMember with leftOld | leftNew <;>
      rcases List.mem_append.mp rightMember with rightOld | rightNew
    · exact inv.labels left leftOld right rightOld same
    · rw [List.mem_singleton.mp rightNew] at same
      exact absurd same (new left leftOld)
    · rw [List.mem_singleton.mp leftNew] at same
      exact absurd same.symm (new right rightOld)
    · rw [List.mem_singleton.mp leftNew, List.mem_singleton.mp rightNew]
  active := by
    intro left leftMember right rightMember leftActive rightActive same
    rcases List.mem_append.mp leftMember with leftOld | leftNew <;>
      rcases List.mem_append.mp rightMember with rightOld | rightNew
    · exact inv.active left leftOld right rightOld leftActive rightActive same
    · rw [List.mem_singleton.mp rightNew] at same
      exact absurd same (unlabelled left leftOld leftActive)
    · rw [List.mem_singleton.mp leftNew] at same
      exact absurd same.symm (unlabelled right rightOld rightActive)
    · rw [List.mem_singleton.mp leftNew, List.mem_singleton.mp rightNew]
  issued := by
    intro known member generation label
    rcases List.mem_append.mp member with old | new
    · exact inv.issued known old generation label
    · rw [List.mem_singleton.mp new] at label
      exact issued generation label
  reported := inv.reported
  retired := inv.retired
  nonces := inv.nonces
  journals := by
    intro generation journal at_
    have sound := inv.journals generation journal at_
    refine ⟨sound.generated, sound.label, ?_, sound.commit⟩
    intro id isId
    obtain ⟨known, member, facts⟩ := sound.client id isId
    exact ⟨known, List.mem_append_left _ member, facts⟩
  generated := inv.generated
  commits := by
    intro commit standing
    have sound := inv.commits commit standing
    obtain ⟨known, member, facts⟩ := sound.client
    exact ⟨⟨known, List.mem_append_left _ member, facts⟩, sound.journal,
      sound.receipt, sound.run⟩
  latest := inv.latest
  known := inv.known
  settled := inv.settled

private theorem mem_revoke {id : Uuid} {item : ClientItem} :
    item ∈ (world.revoke id).clients →
      ∃ original ∈ world.clients, item.id = original.id ∧
        item.label = original.label ∧
          (item.active = true → original.active = true) := by
  intro member
  obtain ⟨original, isOriginal, rfl⟩ := List.mem_map.mp member
  refine ⟨original, isOriginal, ?_⟩
  split
  · exact ⟨rfl, rfl, fun active => by cases active⟩
  · exact ⟨rfl, rfl, fun active => active⟩

private theorem revoke_mem {id : Uuid} {original : ClientItem}
    (member : original ∈ world.clients) :
    ∃ item ∈ (world.revoke id).clients, item.id = original.id ∧
      item.label = original.label := by
  refine ⟨_, List.mem_map.mpr ⟨original, member, rfl⟩, ?_⟩
  split <;> exact ⟨rfl, rfl⟩

theorem Inv.revoke (inv : Inv earlier world) (id : Uuid) :
    Inv earlier (world.revoke id) where
  labels := by
    intro left leftMember right rightMember same
    obtain ⟨first, firstMember, firstId, firstLabel, -⟩ :=
      mem_revoke leftMember
    obtain ⟨second, secondMember, secondId, secondLabel, -⟩ :=
      mem_revoke rightMember
    rw [firstLabel, secondLabel]
    apply inv.labels first firstMember second secondMember
    rw [← firstId, ← secondId, same]
  active := by
    intro left leftMember right rightMember leftActive rightActive same
    obtain ⟨first, firstMember, firstId, firstLabel, firstActive⟩ :=
      mem_revoke leftMember
    obtain ⟨second, secondMember, secondId, secondLabel, secondActive⟩ :=
      mem_revoke rightMember
    rw [firstId, secondId]
    apply inv.active first firstMember second secondMember
      (firstActive leftActive) (secondActive rightActive)
    rw [← firstLabel, ← secondLabel, same]
  issued := by
    intro item member generation label
    obtain ⟨original, isOriginal, -, sameLabel, -⟩ := mem_revoke member
    exact inv.issued original isOriginal generation (sameLabel ▸ label)
  reported := inv.reported
  retired := inv.retired
  nonces := inv.nonces
  journals := by
    intro generation journal at_
    have sound := inv.journals generation journal at_
    refine ⟨sound.generated, sound.label, ?_, sound.commit⟩
    intro client isClient
    obtain ⟨known, member, isKnown, label⟩ := sound.client client isClient
    obtain ⟨item, inClients, sameId, sameLabel⟩ := revoke_mem member
    exact ⟨item, inClients, sameId.trans isKnown, sameLabel.trans label⟩
  generated := inv.generated
  commits := by
    intro commit standing
    have sound := inv.commits commit standing
    obtain ⟨known, member, isKnown, label⟩ := sound.client
    obtain ⟨item, inClients, sameId, sameLabel⟩ := revoke_mem member
    exact ⟨⟨item, inClients, sameId ▸ isKnown, sameLabel.trans label⟩,
      sound.journal, sound.receipt, sound.run⟩
  latest := inv.latest
  known := inv.known
  settled := inv.settled

theorem Inv.passRun (inv : Inv earlier world) (runId : Uuid) :
    Inv earlier { world with passedRuns := runId :: world.passedRuns } where
  labels := inv.labels
  active := inv.active
  issued := inv.issued
  reported := inv.reported
  retired := inv.retired
  nonces := inv.nonces
  journals := by
    intro generation journal at_
    have sound := inv.journals generation journal at_
    exact ⟨sound.generated, sound.label, sound.client, sound.commit⟩
  generated := inv.generated
  commits := by
    intro commit standing
    have sound := inv.commits commit standing
    refine ⟨sound.client, sound.journal, sound.receipt, ?_⟩
    obtain ⟨run, isRun, passed | completable⟩ := sound.run
    · exact ⟨run, isRun, .inl (List.mem_cons_of_mem _ passed)⟩
    · exact ⟨run, isRun, .inr completable⟩
  latest := inv.latest
  known := inv.known
  settled := inv.settled

@[simp] theorem publish_snapshot (generation other : Uuid)
    (file : SnapshotFile) :
    (world.publish generation).files (.snapshot other file) =
      if other = generation then world.files (.staged generation file)
      else world.files (.snapshot other file) :=
  rfl

theorem Inv.publish (inv : Inv earlier world) {generation : Uuid}
    (generated : generation ∈ world.used) (new : generation ∉ earlier)
    (uncommitted : ∀ commit, world.standing commit →
      commit.generation ≠ generation)
    (prepared : world.files (.staged generation .journal) =
      some (.journal {
        schemaVersion := journalSchema
        state := .clientOperationPrepared
        operationLabel := some (operationLabelOf generation)
        clientId := none })) :
    Inv earlier (world.publish generation) where
  labels := inv.labels
  active := inv.active
  issued := inv.issued
  reported := inv.reported
  retired := inv.retired
  nonces := by
    intro temporary member
    obtain ⟨old, isOld, rfl⟩ := List.mem_map.mp member
    have known := inv.nonces old isOld
    split
    · split <;> exact known
    · exact known
  journals := by
    intro other journal at_
    unfold JournalAt at at_
    by_cases same : other = generation
    · subst same
      simp only [publish_snapshot, if_true, prepared, Option.some.injEq,
        Content.journal.injEq] at at_
      subst at_
      refine ⟨generated, rfl, ?_, ?_⟩
      · intro id isId
        cases isId
      · intro after
        cases after
    · simp only [publish_snapshot, same, if_false] at at_
      have sound := inv.journals other journal at_
      exact ⟨sound.generated, sound.label, sound.client, sound.commit⟩
  generated := inv.generated
  commits := by
    intro commit standing
    have different := uncommitted commit standing
    have sound := inv.commits commit standing
    refine ⟨sound.client, ?_, sound.receipt, ?_⟩
    · intro journal at_
      unfold JournalAt at at_
      simp only [publish_snapshot, different, if_false] at at_
      exact sound.journal journal at_
    · obtain ⟨runId, isRun, passed | ⟨listed, kept, journal, at_, unfinished⟩⟩ :=
        sound.run
      · exact ⟨runId, isRun, .inl passed⟩
      · refine ⟨runId, isRun, .inr ⟨List.mem_cons_of_mem _ listed, kept,
          journal, ?_, unfinished⟩⟩
        simpa [JournalAt, different] using at_
  latest := by
    intro other journal at_ unfinished
    unfold JournalAt at at_
    by_cases same : other = generation
    · subst same
      simp only [publish_snapshot, if_true, prepared, Option.some.injEq,
        Content.journal.injEq] at at_
      subst at_
      cases unfinished
    · simp only [publish_snapshot, same, if_false] at at_
      obtain ⟨listed, newest⟩ := inv.latest other journal at_ unfinished
      exact ⟨List.mem_cons_of_mem _ listed, newest⟩
  known := inv.known
  settled := by
    intro other member journal at_
    have different : other ≠ generation := fun same => new (same ▸ member)
    unfold JournalAt at at_
    simp only [publish_snapshot, different, if_false] at at_
    exact inv.settled other member journal at_

end NvidiaBuildLb.Hermes
