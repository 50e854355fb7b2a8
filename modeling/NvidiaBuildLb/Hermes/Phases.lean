import NvidiaBuildLb.Hermes.Recovery

namespace NvidiaBuildLb.Hermes

open Foundation NvidiaBuildLb.Core

/-! How far a cutover has got, told from the files and the gateway alone.
`start` is the world in which it began. -/

def Reverted (start world : World) : Prop :=
  world.files .env = start.files .env ∧ world.files .config = start.files .config

def Untouched (start world : World) : Prop :=
  Reverted start world ∧ world.clients = start.clients ∧
    world.passedRuns = start.passedRuns

/-- No other client is active under the generation's label. -/
def Held (world : World) (generation id : Uuid) : Prop :=
  ∀ item ∈ world.clients, item.active = true →
    item.label = operationLabelOf generation → item.id = id

def Withdrawn (world : World) (generation : Uuid) : Prop :=
  ∀ item ∈ world.clients, item.label = operationLabelOf generation →
    item.active = false

def OthersSettled (primitives : Primitives) (world : World)
    (generation : Uuid) : Prop :=
  ∀ other ∈ world.generations, other ≠ generation →
    Verified primitives world other ∧ Finished world other

/-- A published generation that has not committed, with the original files in
its snapshot. -/
structure Backed (primitives : Primitives) (start : World)
    (linked : World → RecoveryJournal → Prop) (generation : Uuid)
    (world : World) : Prop where
  listed : generation ∈ world.generations
  env : world.files (.snapshot generation .env) = start.files .env
  config : world.files (.snapshot generation .config) = start.files .config
  verified : Verified primitives world generation
  others : OthersSettled primitives world generation
  unlabelled : ∀ item ∈ start.clients,
    item.label ≠ operationLabelOf generation
  clients : ∃ issued, world.clients = start.clients ++ issued ∧
    ∀ item ∈ issued, item.label = operationLabelOf generation
  passedRuns : world.passedRuns = start.passedRuns
  journal : ∃ journal, JournalAt world generation journal ∧
    journal.schemaVersion = journalSchema ∧
    (∀ id, journal.clientId = some id → Held world generation id) ∧
    linked world journal

/-- The files may be anything as long as the journal calls for a rollback. -/
def Undecided (_ : World) (journal : RecoveryJournal) : Prop :=
  journal.state.callsForRollback = true

/-- How the journal is linked to the files and the candidate. -/
def Linked (start : World) (generation : Uuid) (world : World)
    (journal : RecoveryJournal) : Prop :=
  journal.state.callsForRollback = true ∨
    Reverted start world ∧
      (journal.state = .rollbackCleanupPending ∧
          journal.clientId.isSome = true ∨
        (journal.state = .rolledBack ∨ journal.state = .recovered) ∧
          Withdrawn world generation)

/-- What the cutover puts in place of the two files. -/
def CandidateFiles (start : World) (env config : List UInt8) : Prop :=
  ∃ oldEnv oldConfig envText configText token configCandidate,
    start.files .env = some (.bytes oldEnv) ∧
      start.files .config = some (.bytes oldConfig) ∧
      String.fromUTF8? (ByteArray.mk oldEnv.toArray) = some envText ∧
      String.fromUTF8? (ByteArray.mk oldConfig.toArray) = some configText ∧
      updateYaml configText = .ok configCandidate ∧
      env = utf8 (updateDotenv envText "NVIDIA_API_KEY" token) ∧
      config = utf8 configCandidate

def FilesAre (world : World) (env config : List UInt8) : Prop :=
  world.files .env = some (.bytes env) ∧
    world.files .config = some (.bytes config)

structure Committed (primitives : Primitives) (embeddedCommit : String)
    (start : World) (qaRunId generation id : Uuid) (world : World) : Prop where
  listed : generation ∈ world.generations
  verified : Verified primitives world generation
  others : OthersSettled primitives world generation
  files : ∃ env config, CandidateFiles start env config ∧
    FilesAre world env config
  receipt : ∃ receipt,
    world.files (.receipt generation) = some (.receipt receipt) ∧
      receipt.schemaVersion = receiptSchema ∧
      receipt.generation = generation ∧
      receipt.embeddedCommit = embeddedCommit ∧
      receipt.clientId = id ∧ receipt.qaRunId = some qaRunId
  candidate : ∃ item ∈ world.clients, item.id = id ∧ item.active = true
  journal : ∃ journal, JournalAt world generation journal ∧
    journal.schemaVersion = journalSchema ∧
    journal.state.afterCommit = true ∧ journal.clientId = some id ∧
    (journal.state = .reconciled →
      qaRunId ∈ world.passedRuns ∧ PreviousRevoked world id)

/-- What a cutover can leave behind wherever it is cut off. -/
inductive Interrupted (primitives : Primitives) (embeddedCommit : String)
    (start : World) (qaRunId : Uuid) (world : World) : Prop where
  | untouched (settled : Settled primitives world)
      (untouched : Untouched start world)
  | backed {generation : Uuid} (backed : Backed primitives start
      (Linked start generation) generation world)
  | committed {generation id : Uuid} (committed : Committed primitives
      embeddedCommit start qaRunId generation id world)
  | misreported {generation : Uuid} (member : generation ∈ world.misreported)
      (new : generation ∉ start.used)

section Facts

variable {primitives : Primitives} {embeddedCommit : String}
  {start world after : World} {qaRunId generation id : Uuid}
  {linked linked' : World → RecoveryJournal → Prop}

/-- Worlds that agree on the backups and the gateway. -/
structure Framed (before after : World) : Prop where
  snapshots : ∀ generation file, after.files (.snapshot generation file) =
    before.files (.snapshot generation file)
  generations : after.generations = before.generations
  clients : after.clients = before.clients
  passedRuns : after.passedRuns = before.passedRuns

theorem World.Aside.framed (aside : world.Aside after) : Framed world after where
  snapshots := fun generation file =>
    congrFun (congrArg World.files aside.outside) (.snapshot generation file)
  generations := (congrArg World.generations aside.outside :)
  clients := (congrArg World.clients aside.outside :)
  passedRuns := (congrArg World.passedRuns aside.outside :)

theorem World.Aside.reverted (aside : world.Aside after)
    (reverted : Reverted start world) : Reverted start after :=
  @World.Aside.fact world after aside (Reverted start) (fun _ => Iff.rfl) reverted

theorem replaceFile_framed (world : World) {target : Path}
    (outside : ∀ generation file, target ≠ .snapshot generation file)
    (content : Content) : Framed world (world.replaceFile target content) := by
  refine ⟨?_, rfl, rfl, rfl⟩
  intro other file
  simp [(outside other file).symm]

theorem refused_files (op : Op) (world : World) :
    (refused op world).files = world.files := by
  unfold refused
  split
  · split
    · split <;> rfl
    · rfl
  · rfl

theorem refused_framed (op : Op) (world : World) :
    Framed world (refused op world) := by
  have unchanged : Framed world world := (World.Aside.refl world).framed
  unfold refused
  split
  · split
    · split
      · exact ⟨fun _ _ => rfl, rfl, rfl, rfl⟩
      · exact unchanged
    · exact unchanged
  · exact unchanged

theorem Framed.verified (framed : Framed world after)
    (verified : Verified primitives world generation) :
    Verified primitives after generation := by
  unfold Verified
  rw [framed.snapshots, framed.snapshots, framed.snapshots]
  exact verified

theorem Framed.finished (framed : Framed world after)
    (finished : Finished world generation) : Finished after generation := by
  obtain ⟨journal, at_, decided⟩ := finished
  exact ⟨journal, (framed.snapshots _ _).trans at_, decided⟩

theorem Framed.others (framed : Framed world after)
    (others : OthersSettled primitives world generation) :
    OthersSettled primitives after generation := by
  intro other member different
  rw [framed.generations] at member
  obtain ⟨verified, finished⟩ := others other member different
  exact ⟨framed.verified verified, framed.finished finished⟩

theorem OthersSettled.finished {earlier : List Uuid}
    (others : OthersSettled primitives world generation)
    (inv : Inv earlier world) {other : Uuid} {journal : RecoveryJournal}
    (different : other ≠ generation) (at_ : JournalAt world other journal) :
    journal.state.unfinished = false := by
  cases unfinished : journal.state.unfinished with
  | false => rfl
  | true =>
      have listed := (inv.latest other journal at_ unfinished).1
      rw [(others other listed different).2.not_unfinished at_] at unfinished
      cases unfinished

theorem Framed.settled (framed : Framed world after)
    (settled : Settled primitives world) : Settled primitives after := by
  intro other member
  rw [framed.generations] at member
  obtain ⟨verified, finished⟩ := settled other member
  exact ⟨framed.verified verified, framed.finished finished⟩

theorem Backed.framed (backed : Backed primitives start linked generation world)
    (framed : Framed world after)
    (links : ∀ journal, linked world journal → linked' after journal) :
    Backed primitives start linked' generation after where
  listed := framed.generations ▸ backed.listed
  env := (framed.snapshots _ _).trans backed.env
  config := (framed.snapshots _ _).trans backed.config
  verified := framed.verified backed.verified
  others := framed.others backed.others
  unlabelled := backed.unlabelled
  clients := framed.clients ▸ backed.clients
  passedRuns := framed.passedRuns.trans backed.passedRuns
  journal := by
    obtain ⟨journal, at_, schema, held, isLinked⟩ := backed.journal
    refine ⟨journal, (framed.snapshots _ _).trans at_, schema, ?_,
      links journal isLinked⟩
    unfold Held
    rw [framed.clients]
    exact held

theorem Backed.mono (backed : Backed primitives start linked generation world)
    (links : ∀ journal, linked world journal → linked' world journal) :
    Backed primitives start linked' generation world :=
  backed.framed ⟨fun _ _ => rfl, rfl, rfl, rfl⟩ links

theorem verified_writeJournal {other : Uuid} {journal : RecoveryJournal}
    (verified : Verified primitives world other) :
    Verified primitives (world.replaceFile (.snapshot generation .journal)
      (.journal journal)) other := by
  unfold Verified
  simp only [replaceFile_files, Path.snapshot.injEq, reduceCtorEq, and_false,
    if_false]
  exact verified

theorem others_writeJournal {journal : RecoveryJournal}
    (others : OthersSettled primitives world generation) :
    OthersSettled primitives (world.replaceFile (.snapshot generation .journal)
      (.journal journal)) generation := by
  intro other member different
  obtain ⟨verified, found, at_, finished⟩ := others other member different
  exact ⟨verified_writeJournal verified, found,
    journalAt_replaceFile.mpr (.inr ⟨different, at_⟩), finished⟩

theorem Backed.writeJournal
    (backed : Backed primitives start linked generation world)
    {journal : RecoveryJournal} (schema : journal.schemaVersion = journalSchema)
    (held : ∀ id, journal.clientId = some id → Held world generation id)
    (links : linked' (world.replaceFile (.snapshot generation .journal)
      (.journal journal)) journal) :
    Backed primitives start linked' generation
      (world.replaceFile (.snapshot generation .journal)
        (.journal journal)) where
  listed := backed.listed
  env := by simpa using backed.env
  config := by simpa using backed.config
  verified := verified_writeJournal backed.verified
  others := others_writeJournal backed.others
  unlabelled := backed.unlabelled
  clients := backed.clients
  passedRuns := backed.passedRuns
  journal := ⟨journal, journalAt_replaceFile.mpr (.inl ⟨rfl, rfl⟩), schema, held,
    links⟩

theorem Held.revoke (held : Held world generation id) (other : Uuid) :
    Held (world.revoke other) generation id := by
  intro item member active label
  exact held item (Helper.active_of_revoke member active).1 active label

theorem Backed.revoke (backed : Backed primitives start linked generation world)
    (own : ∀ item ∈ start.clients, item.id ≠ id)
    (links : ∀ journal, linked world journal →
      linked' (world.revoke id) journal) :
    Backed primitives start linked' generation (world.revoke id) where
  listed := backed.listed
  env := backed.env
  config := backed.config
  verified := backed.verified
  others := backed.others
  unlabelled := backed.unlabelled
  clients := by
    obtain ⟨issued, isClients, labels⟩ := backed.clients
    refine ⟨issued.map fun item =>
      if item.id = id then { item with active := false } else item, ?_, ?_⟩
    · unfold World.revoke
      simp only [isClients, List.map_append, List.append_cancel_right_eq]
      refine (List.map_congr_left ?_).trans (List.map_id _)
      intro item member
      simp [own item member]
    · intro item member
      obtain ⟨original, isOriginal, rfl⟩ := List.mem_map.mp member
      have label := labels original isOriginal
      split <;> exact label
  passedRuns := backed.passedRuns
  journal := by
    obtain ⟨journal, at_, schema, held, isLinked⟩ := backed.journal
    exact ⟨journal, at_, schema, fun client isClient =>
      (held client isClient).revoke id, links journal isLinked⟩

theorem Backed.reverted (backed : Backed primitives start linked generation world)
    (restored : Restored world generation) : Reverted start world := by
  obtain ⟨env, config, savedEnv, savedConfig, isEnv, isConfig⟩ := restored
  exact ⟨isEnv.trans (savedEnv.symm.trans backed.env),
    isConfig.trans (savedConfig.symm.trans backed.config)⟩

theorem Committed.framed (committed : Committed primitives embeddedCommit start
      qaRunId generation id world) (framed : Framed world after)
    (files : after.files .env = world.files .env ∧
      after.files .config = world.files .config)
    (receipt : after.files (.receipt generation) =
      world.files (.receipt generation)) :
    Committed primitives embeddedCommit start qaRunId generation id after where
  listed := framed.generations ▸ committed.listed
  verified := framed.verified committed.verified
  others := framed.others committed.others
  files := by
    unfold FilesAre
    rw [files.1, files.2]
    exact committed.files
  receipt := receipt ▸ committed.receipt
  candidate := framed.clients ▸ committed.candidate
  journal := by
    obtain ⟨journal, at_, rest⟩ := committed.journal
    refine ⟨journal, (framed.snapshots _ _).trans at_, ?_⟩
    unfold PreviousRevoked
    rw [framed.passedRuns, framed.clients]
    exact rest

theorem Committed.aside (committed : Committed primitives embeddedCommit start
      qaRunId generation id world) (aside : world.Aside after) :
    Committed primitives embeddedCommit start qaRunId generation id after :=
  committed.framed aside.framed
    ⟨congrFun (congrArg World.files aside.outside) .env,
      congrFun (congrArg World.files aside.outside) .config⟩
    (congrFun (congrArg World.files aside.outside) (.receipt generation))

theorem Linked.aside {journal : RecoveryJournal} (aside : world.Aside after)
    (isLinked : Linked start generation world journal) :
    Linked start generation after journal :=
  @World.Aside.fact world after aside
    (fun world => Linked start generation world journal) (fun _ => Iff.rfl)
    isLinked

theorem Interrupted.aside
    (interrupted : Interrupted primitives embeddedCommit start qaRunId world)
    (aside : world.Aside after) :
    Interrupted primitives embeddedCommit start qaRunId after := by
  cases interrupted with
  | untouched settled untouched =>
      exact .untouched (aside.framed.settled settled) (@World.Aside.fact world
        after aside (Untouched start) (fun _ => Iff.rfl) untouched)
  | backed backed =>
      exact .backed (backed.framed aside.framed fun _ => Linked.aside aside)
  | committed committed => exact .committed (committed.aside aside)
  | misreported member new =>
      have same : after.misreported = world.misreported :=
        (congrArg World.misreported aside.outside :)
      exact .misreported (same ▸ member) new

end Facts

end NvidiaBuildLb.Hermes
