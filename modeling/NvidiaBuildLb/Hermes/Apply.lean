import NvidiaBuildLb.Hermes.Phases

namespace NvidiaBuildLb.Hermes

open Foundation NvidiaBuildLb.Core

/-! Applying a cutover: what holds wherever `apply` is cut off, and that it
takes nothing away that stands. -/

section Cutover

variable {primitives : Primitives} {embeddedCommit : String}
  {earlier : List Uuid} {start : World} {qaRunId : Uuid}

variable (primitives embeddedCommit earlier start qaRunId) in
def During (memory : Memory) (world : World) : Prop :=
  Lasting earlier memory world ∧
    Interrupted primitives embeddedCommit start qaRunId world

structure New (earlier : List Uuid) (start : World) (generation : Uuid) :
    Prop where
  generated : generation ∉ start.used
  earlier : generation ∉ earlier
  unlabelled : ∀ item ∈ start.clients,
    item.label ≠ operationLabelOf generation

/-- The generation and the QA run belong to no standing commit. -/
structure Open (earlier : List Uuid) (qaRunId generation : Uuid)
    (memory : Memory) (world : World) : Prop where
  lasting : Lasting earlier memory world
  generated : generation ∈ world.used
  unretired : world.files (.retirement generation) = none
  free : ∀ commit, world.standing commit →
    commit.generation ≠ generation ∧ commit.qaRunId ≠ some qaRunId

variable {memory : Memory} {world after : World} {generation id : Uuid}

theorem standing_of_unseen (unseen : Unseen world after) {commit : Commit}
    (standing : after.standing commit) : world.standing commit :=
  ⟨unseen.commits ▸ standing.1, fun member =>
    standing.2 (unseen.misreported _ member)⟩

theorem Open.unseen (isOpen : Open earlier qaRunId generation memory world)
    (unseen : Unseen world after) :
    Open earlier qaRunId generation memory after where
  lasting := isOpen.lasting.unseen unseen
  generated := unseen.used _ isOpen.generated
  unretired := (unseen.retirements _).trans isOpen.unretired
  free := fun commit standing =>
    isOpen.free commit (standing_of_unseen unseen standing)

theorem Open.revoke (isOpen : Open earlier qaRunId generation memory world)
    (id : Uuid) : Open earlier qaRunId generation memory (world.revoke id) :=
  ⟨⟨isOpen.lasting.1.revoke id, isOpen.lasting.2⟩, isOpen.generated,
    isOpen.unretired, isOpen.free⟩

theorem Open.uncommitted (isOpen : Open earlier qaRunId generation memory world) :
    ∀ commit, world.standing commit → commit.generation ≠ generation :=
  fun commit standing => (isOpen.free commit standing).1

namespace Helper

/-- Nothing of the generation is published. -/
def Preparing (primitives : Primitives) (earlier : List Uuid) (start : World)
    (qaRunId generation : Uuid) (memory : Memory) (world : World) : Prop :=
  Open earlier qaRunId generation memory world ∧ Settled primitives world ∧
    Untouched start world

/-- The generation is published and its client not issued. -/
def Prepared (primitives : Primitives) (earlier : List Uuid) (start : World)
    (qaRunId generation : Uuid) (memory : Memory) (world : World) : Prop :=
  Open earlier qaRunId generation memory world ∧
    Backed primitives start Undecided generation world ∧ Reverted start world ∧
    world.clients = start.clients

/-- Whatever the cutover has come to, the generation has not committed. -/
def Leaving (primitives : Primitives) (embeddedCommit : String)
    (earlier : List Uuid) (start : World) (qaRunId generation : Uuid)
    (memory : Memory) (world : World) : Prop :=
  Open earlier qaRunId generation memory world ∧
    Interrupted primitives embeddedCommit start qaRunId world

theorem linked_of_undecided {world : World} {journal : RecoveryJournal}
    (undecided : Undecided world journal) :
    Linked start generation world journal :=
  .inl undecided

theorem aside_preparing {memory : Memory} {before after : World}
    (aside : before.Aside after)
    (holds : Preparing primitives earlier start qaRunId generation memory before) :
    Preparing primitives earlier start qaRunId generation memory after :=
  ⟨holds.1.unseen aside.unseen, aside.framed.settled holds.2.1,
    @World.Aside.fact before after aside (Untouched start) (fun _ => Iff.rfl)
      holds.2.2⟩

theorem calm_preparing :
    Calm (During primitives embeddedCommit earlier start qaRunId) (Safe earlier)
      (Preparing primitives earlier start qaRunId generation) :=
  calm_of (fun _ _ holds => ⟨holds.1.lasting, .untouched holds.2.1 holds.2.2⟩)
    fun _ _ _ same => aside_preparing same.aside

theorem aside_prepared {memory : Memory} {before after : World}
    (aside : before.Aside after)
    (holds : Prepared primitives earlier start qaRunId generation memory before) :
    Prepared primitives earlier start qaRunId generation memory after :=
  ⟨holds.1.unseen aside.unseen,
    holds.2.1.framed aside.framed fun _ undecided => undecided,
    aside.reverted holds.2.2.1, aside.framed.clients.trans holds.2.2.2⟩

theorem calm_prepared :
    Calm (During primitives embeddedCommit earlier start qaRunId) (Safe earlier)
      (Prepared primitives earlier start qaRunId generation) :=
  calm_of (fun _ _ holds => ⟨holds.1.lasting,
    .backed (holds.2.1.mono fun _ => linked_of_undecided)⟩)
    fun _ _ _ same => aside_prepared same.aside

theorem aside_leaving {memory : Memory} {before after : World}
    (aside : before.Aside after)
    (holds : Leaving primitives embeddedCommit earlier start qaRunId generation
      memory before) :
    Leaving primitives embeddedCommit earlier start qaRunId generation memory
      after :=
  ⟨holds.1.unseen aside.unseen, holds.2.aside aside⟩

theorem calm_leaving :
    Calm (During primitives embeddedCommit earlier start qaRunId) (Safe earlier)
      (Leaving primitives embeddedCommit earlier start qaRunId generation) :=
  calm_of (fun _ _ holds => ⟨holds.1.lasting, holds.2⟩)
    fun _ _ _ same => aside_leaving same.aside

def preparedJournal (generation : Uuid) : RecoveryJournal where
  schemaVersion := journalSchema
  state := .clientOperationPrepared
  operationLabel := some (operationLabelOf generation)
  clientId := none

def StagedCopy (start : World) (generation : Uuid) (source : Path)
    (file : SnapshotFile) (world : World) : Prop :=
  ∃ bytes, start.files source = some (.bytes bytes) ∧
    world.files (.staged generation file) = some (.bytes bytes)

def StagedDigest (primitives : Primitives) (generation : Uuid)
    (file : SnapshotFile) (digest : String) (world : World) : Prop :=
  ∃ bytes, world.files (.staged generation file) = some (.bytes bytes) ∧
    digest = fingerprint primitives bytes

def StagedManifest (primitives : Primitives) (generation : Uuid)
    (world : World) : Prop :=
  ∃ manifest, world.files (.staged generation .manifest) =
      some (.manifest manifest) ∧
    manifest.schemaVersion = snapshotSchema ∧
    manifest.generation = generation ∧
    StagedDigest primitives generation .env manifest.envSha256 world ∧
    StagedDigest primitives generation .config manifest.configSha256 world

/-- What is in the stage when it is published. -/
def Staged (primitives : Primitives) (start : World) (generation : Uuid)
    (world : World) : Prop :=
  StagedCopy start generation .env .env world ∧
    StagedCopy start generation .config .config world ∧
    StagedManifest primitives generation world ∧
    world.files (.staged generation .journal) =
      some (.journal (preparedJournal generation))

section StagedElsewhere

variable {file other : SnapshotFile} {content : Content}
  (different : file ≠ other)
include different

private theorem StagedCopy.elsewhere {source : Path}
    (copied : StagedCopy start generation source file world) :
    StagedCopy start generation source file
      (world.replaceFile (.staged generation other) content) := by
  obtain ⟨bytes, isBytes, held⟩ := copied
  exact ⟨bytes, isBytes, by simpa [different] using held⟩

private theorem StagedDigest.elsewhere {digest : String}
    (digested : StagedDigest primitives generation file digest world) :
    StagedDigest primitives generation file digest
      (world.replaceFile (.staged generation other) content) := by
  obtain ⟨bytes, held, isDigest⟩ := digested
  exact ⟨bytes, by simpa [different] using held, isDigest⟩

end StagedElsewhere

private theorem verified_publish (staged : Staged primitives start generation
      world) :
    Verified primitives (world.publish generation) generation := by
  obtain ⟨-, -, ⟨manifest, isManifest, schema, named, ⟨env, isEnv, envDigest⟩,
    config, isConfig, configDigest⟩, -⟩ := staged
  refine ⟨manifest, env, config, ?_, ?_, ?_, schema, named, envDigest,
    configDigest⟩
  · simpa using isManifest
  · simpa using isEnv
  · simpa using isConfig

private theorem backed_publish (new : New earlier start generation)
    (settled : Settled primitives world)
    (untouched : Untouched start world)
    (staged : Staged primitives start generation world) :
    Backed primitives start Undecided generation (world.publish generation) where
  listed := List.mem_cons_self
  env := by
    obtain ⟨⟨bytes, isBytes, copied⟩, -⟩ := staged
    simpa [isBytes] using copied
  config := by
    obtain ⟨-, ⟨bytes, isBytes, copied⟩, -⟩ := staged
    simpa [isBytes] using copied
  verified := verified_publish staged
  others := by
    intro other member different
    have before : other ∈ world.generations := by
      simpa [World.publish, different] using member
    obtain ⟨verified, journal, at_, finished⟩ := settled other before
    refine ⟨?_, journal, ?_, finished⟩
    · unfold Verified
      simp only [publish_snapshot, different, if_false]
      exact verified
    · unfold JournalAt at at_ ⊢
      simpa [different] using at_
  unlabelled := new.unlabelled
  clients := ⟨[], by simpa [World.publish] using untouched.2.1, by simp⟩
  passedRuns := untouched.2.2
  journal := by
    refine ⟨preparedJournal generation, ?_, rfl, ?_, rfl⟩
    · unfold JournalAt
      simpa using staged.2.2.2
    · intro id isId
      cases isId

private theorem open_publish (isOpen : Open earlier qaRunId generation memory
      world) (new : New earlier start generation)
    (staged : Staged primitives start generation world) :
    Open earlier qaRunId generation memory (world.publish generation) where
  lasting := ⟨isOpen.lasting.1.publish isOpen.generated new.earlier
    isOpen.uncommitted staged.2.2.2, isOpen.lasting.2⟩
  generated := isOpen.generated
  unretired := isOpen.unretired
  free := isOpen.free

theorem meets_writeStaged (file : SnapshotFile) {content : Content}
    {before later : World → Prop}
    (stableBefore : ∀ first last, World.Same first last → before first →
      before last)
    (stableLater : ∀ first last, World.Same first last → later first →
      later last)
    (turns : ∀ world, before world →
      later (world.replaceFile (.staged generation file) content)) :
    Routine.Meets (underFaults primitives
        (During primitives embeddedCommit earlier start qaRunId) (Safe earlier))
      (fun memory world =>
        Preparing primitives earlier start qaRunId generation memory world ∧
          before world)
      (atomicWrite (.staged generation file) content)
      (fun _ memory world =>
        Preparing primitives earlier start qaRunId generation memory world ∧
          later world)
      (Preparing primitives earlier start qaRunId generation) := by
  apply meets_atomicWrite (calm_preparing.and stableBefore)
    (calm_preparing.and stableLater) calm_preparing
  · exact fun _ _ _ _ => trivial
  · intro memory world holds
    exact ⟨aside_preparing (aside_replaceStaged world generation file content)
      holds.1, turns world holds.2⟩
  · exact fun _ _ holds => holds.1
  · exact fun _ _ holds => holds.1

theorem leaving_of_preparing {memory : Memory} {world : World}
    (holds : Preparing primitives earlier start qaRunId generation memory world) :
    Leaving primitives embeddedCommit earlier start qaRunId generation memory
      world :=
  ⟨holds.1, .untouched holds.2.1 holds.2.2⟩

theorem leaving_of_prepared {memory : Memory} {world : World}
    (holds : Prepared primitives earlier start qaRunId generation memory world) :
    Leaving primitives embeddedCommit earlier start qaRunId generation memory
      world :=
  ⟨holds.1, .backed (holds.2.1.mono fun _ => linked_of_undecided)⟩

private theorem meets_copy {source : Path} (file : SnapshotFile)
    (hermes : ∀ world, Untouched start world →
      world.files source = start.files source)
    {staged : World → Prop}
    (stable : ∀ first last, World.Same first last → staged first → staged last)
    (kept : ∀ world content, staged world →
      staged (world.replaceFile (.staged generation file) content)) :
    Routine.Meets (underFaults primitives
        (During primitives embeddedCommit earlier start qaRunId) (Safe earlier))
      (fun memory world =>
        Preparing primitives earlier start qaRunId generation memory world ∧
          staged world)
      (copySecure source (.staged generation file))
      (fun _ memory world =>
        Preparing primitives earlier start qaRunId generation memory world ∧
          staged world ∧ StagedCopy start generation source file world)
      (Preparing primitives earlier start qaRunId generation) := by
  refine Routine.Meets.bind ((meets_readBytes (calm_preparing.and stable)
    source).consequence (fun _ _ holds => holds) (fun _ _ _ holds => holds)
    fun _ _ holds => holds.1) fun bytes => ?_
  let found (world : World) : Prop :=
    staged world ∧ start.files source = some (.bytes bytes)
  refine (@meets_writeStaged _ _ _ _ _ generation file (.bytes bytes) found
    (fun world => staged world ∧ StagedCopy start generation source file world)
    ?_ ?_ ?_).strengthen ?_
  · exact fun first last same holds => ⟨stable first last same holds.1, holds.2⟩
  · intro first last same holds
    exact ⟨stable first last same holds.1, @World.Same.fact first last same
      (StagedCopy start generation source file) (fun _ => Iff.rfl) holds.2⟩
  · intro world holds
    exact ⟨kept world _ holds.1, bytes, holds.2, by simp⟩
  · intro memory world holds
    exact ⟨holds.1.1, holds.1.2,
      (hermes world holds.1.1.2.2).symm.trans holds.2⟩

theorem meets_snapshot (new : New earlier start generation) :
    Routine.Meets (underFaults primitives
        (During primitives embeddedCommit earlier start qaRunId) (Safe earlier))
      (Preparing primitives earlier start qaRunId generation)
      (snapshot generation (operationLabelOf generation))
      (fun _ => Prepared primitives earlier start qaRunId generation)
      (Leaving primitives embeddedCommit earlier start qaRunId generation) := by
  have calm := @calm_preparing primitives embeddedCommit earlier start qaRunId
    generation
  have calmPrepared := @calm_prepared primitives embeddedCommit earlier start
    qaRunId generation
  have calmLeaving := @calm_leaving primitives embeddedCommit earlier start
    qaRunId generation
  have early : ∀ {α : Type} {routine : Helper α} {before later : World → Prop},
      Routine.Meets (underFaults primitives
          (During primitives embeddedCommit earlier start qaRunId)
          (Safe earlier))
        (fun memory world => Preparing primitives earlier start qaRunId
          generation memory world ∧ before world) routine
        (fun _ memory world => Preparing primitives earlier start qaRunId
          generation memory world ∧ later world)
        (Preparing primitives earlier start qaRunId generation) →
      Routine.Meets (underFaults primitives
          (During primitives embeddedCommit earlier start qaRunId)
          (Safe earlier))
        (fun memory world => Preparing primitives earlier start qaRunId
          generation memory world ∧ before world) routine
        (fun _ memory world => Preparing primitives earlier start qaRunId
          generation memory world ∧ later world)
        (Leaving primitives embeddedCommit earlier start qaRunId generation) :=
    fun meets => meets.consequence (fun _ _ holds => holds)
      (fun _ _ _ holds => holds) fun _ _ => leaving_of_preparing
  have looks : ∀ {α : Type} {routine : Helper α}, Routine.Keeps
        (underFaults primitives
          (During primitives embeddedCommit earlier start qaRunId)
          (Safe earlier))
        (Preparing primitives earlier start qaRunId generation) routine →
      Routine.Meets (underFaults primitives
          (During primitives embeddedCommit earlier start qaRunId)
          (Safe earlier))
        (Preparing primitives earlier start qaRunId generation) routine
        (fun _ => Preparing primitives earlier start qaRunId generation)
        (Leaving primitives embeddedCommit earlier start qaRunId generation) :=
    fun keeps => keeps.consequence (fun _ _ holds => holds)
      (fun _ _ _ holds => holds) fun _ _ => leaving_of_preparing
  refine Routine.Meets.bind (looks (keeps_ensureRootDirectory calm.looks _))
    fun _ => ?_
  refine Routine.Meets.bind (looks (keeps_pathExists calm.looks _)) fun staged => ?_
  refine Routine.Meets.bind (looks (keeps_pathExists calm.looks _))
    fun published => ?_
  dsimp only
  split
  · exact fun _ _ => leaving_of_preparing
  refine Routine.Meets.bind (looks (keeps_beside calm
    (fun _ _ _ => aside_preparing) rfl (fun _ => rfl) ?_)) fun _ => ?_
  · intro world _ after performs
    exact performs.2 ▸ aside_stages world _
  let contract := underFaults primitives
    (During primitives embeddedCommit earlier start qaRunId) (Safe earlier)
  have publishing : Routine.Meets contract
      (Preparing primitives earlier start qaRunId generation) (do
        copySecure .env (.staged generation .env)
        copySecure .config (.staged generation .config)
        let envSha256 ← call (.sha256File (.staged generation .env))
        let configSha256 ← call (.sha256File (.staged generation .config))
        atomicWrite (.staged generation .manifest) (.manifest {
          schemaVersion := snapshotSchema
          generation
          envSha256
          configSha256 })
        writeJournal (.staged generation .journal) .clientOperationPrepared
          (some (operationLabelOf generation)) none
        call (.syncDirectory (.directory (.stage generation)))
        call (.publishStage generation)
        call (.syncDirectory (.directory .backupRoot)) : Helper Unit)
      (fun _ => Prepared primitives earlier start qaRunId generation)
      (Leaving primitives embeddedCommit earlier start qaRunId generation) := by
    let copiedEnv (world : World) : Prop :=
      True ∧ StagedCopy start generation .env .env world
    let copied (world : World) : Prop :=
      copiedEnv world ∧ StagedCopy start generation .config .config world
    refine Routine.Meets.bind ((early (@meets_copy _ _ _ _ _ _ .env .env
      (fun _ untouched => untouched.1.1) (fun _ => True)
      (fun _ _ _ _ => trivial) fun _ _ _ => trivial)).strengthen
      fun _ _ holds => ⟨holds, trivial⟩) fun _ => ?_
    refine Routine.Meets.bind (early (@meets_copy _ _ _ _ _ _ .config .config
      (fun _ untouched => untouched.1.2) copiedEnv
      (fun _ _ same => same.fact fun _ => Iff.rfl) ?_)) fun _ => ?_
    · intro world content holds
      exact ⟨trivial, holds.2.elsewhere (by decide)⟩
    have calmCopied := @Calm.and _ _ _ calm copied fun _ _ same =>
      same.fact fun _ => Iff.rfl
    refine Routine.Meets.bind ((@meets_look _ _ _ _ calmCopied
      (.sha256File (.staged generation .env)) rfl
      (StagedDigest primitives generation .env) ?_).consequence
      (fun _ _ holds => holds) (fun _ _ _ holds => holds)
      fun _ _ holds => leaving_of_preparing holds.1) fun envSha256 => ?_
    · intro world digest after performs
      exact performs.2 ▸ performs.1
    have calmDigest := @Calm.and _ _ _ calmCopied
      (StagedDigest primitives generation .env envSha256) fun _ _ same =>
      same.fact fun _ => Iff.rfl
    refine Routine.Meets.bind ((@meets_look _ _ _ _ calmDigest
      (.sha256File (.staged generation .config)) rfl
      (StagedDigest primitives generation .config) ?_).consequence
      (fun _ _ holds => holds) (fun _ _ _ holds => holds)
      fun _ _ holds => leaving_of_preparing holds.1.1) fun configSha256 => ?_
    · intro world digest after performs
      exact performs.2 ▸ performs.1
    let hashed (world : World) : Prop :=
      copied world ∧ StagedDigest primitives generation .env envSha256 world ∧
        StagedDigest primitives generation .config configSha256 world
    let described (world : World) : Prop :=
      copied world ∧ StagedManifest primitives generation world
    refine Routine.Meets.bind ((early (@meets_writeStaged _ _ _ _ _ generation
      .manifest _ hashed described (fun _ _ same => same.fact fun _ => Iff.rfl)
      (fun _ _ same => same.fact fun _ => Iff.rfl) ?_)).strengthen
      fun _ _ holds => ⟨holds.1.1.1, holds.1.1.2, holds.1.2, holds.2⟩)
      fun _ => ?_
    · intro world holds
      obtain ⟨⟨⟨-, env⟩, config⟩, envDigest, configDigest⟩ := holds
      refine ⟨⟨⟨trivial, ?_⟩, ?_⟩, _, if_pos rfl, rfl, rfl, ?_, ?_⟩
      · exact env.elsewhere (by decide)
      · exact config.elsewhere (by decide)
      · exact envDigest.elsewhere (by decide)
      · exact configDigest.elsewhere (by decide)
    refine Routine.Meets.bind (early (@meets_writeStaged _ _ _ _ _ generation
      .journal (.journal (preparedJournal generation)) described
      (Staged primitives start generation)
      (fun _ _ same => same.fact fun _ => Iff.rfl)
      (fun _ _ same => same.fact fun _ => Iff.rfl) ?_)) fun _ => ?_
    · intro world holds
      obtain ⟨⟨⟨-, env⟩, config⟩, manifest, isManifest, schema, named,
        envDigest, configDigest⟩ := holds
      refine ⟨?_, ?_, ⟨manifest, ?_, schema, named, ?_, ?_⟩, if_pos rfl⟩
      · exact env.elsewhere (by decide)
      · exact config.elsewhere (by decide)
      · simpa using isManifest
      · exact envDigest.elsewhere (by decide)
      · exact configDigest.elsewhere (by decide)
    have calmStaged := @Calm.and _ _ _ calm (Staged primitives start generation)
      fun _ _ same => same.fact fun _ => Iff.rfl
    refine Routine.Meets.bind (early (keeps_call calmStaged rfl |>.consequence
      (fun _ _ holds => holds) (fun _ _ _ holds => holds)
      fun _ _ holds => holds.1)) fun _ => ?_
    refine Routine.Meets.bind (@meets_call _ _ _ (.publishStage generation) _
      (fun _ => Prepared primitives earlier start qaRunId generation) _
      calmStaged.keeps ?_ ?_ ?_) fun _ => ?_
    · exact fun _ _ _ => trivial
    · exact fun _ _ holds => leaving_of_preparing holds.1
    · intro memory world _ after holds performs
      obtain ⟨-, -, rfl⟩ := performs
      obtain ⟨⟨isOpen, settled, untouched⟩, staged⟩ := holds
      have later : Prepared primitives earlier start qaRunId generation memory
          (world.publish generation) :=
        ⟨open_publish isOpen new staged, backed_publish new settled untouched
          staged,
          untouched.1, untouched.2.1⟩
      exact ⟨calmPrepared.keeps memory _ later, later, fun remote => by
        cases remote⟩
    · exact (keeps_call calmPrepared rfl).consequence (fun _ _ holds => holds)
        (fun _ _ _ holds => holds) fun _ _ => leaving_of_prepared
  refine Routine.Meets.bind (Routine.Meets.attempt publishing) fun result => ?_
  cases result with
  | ok value => exact fun _ _ holds => holds
  | error failure =>
      refine Routine.Meets.bind (keeps_ignore (keeps_cleanupSnapshotStage
        calmLeaving (fun _ _ _ => aside_leaving) generation)) fun _ => ?_
      exact fun _ _ holds => holds

/-- The journal calls for a rollback. -/
def Undoing (primitives : Primitives) (earlier : List Uuid) (start : World)
    (qaRunId generation : Uuid) (memory : Memory) (world : World) : Prop :=
  Open earlier qaRunId generation memory world ∧
    Backed primitives start Undecided generation world

/-- The client is the generation's only one. -/
def Candidate (generation id : Uuid) (world : World) : Prop :=
  Held world generation id ∧ ∃ item ∈ world.clients, item.id = id ∧
    item.label = operationLabelOf generation ∧ item.active = true

theorem aside_undoing {memory : Memory} {before after : World}
    (aside : before.Aside after)
    (holds : Undoing primitives earlier start qaRunId generation memory before) :
    Undoing primitives earlier start qaRunId generation memory after :=
  ⟨holds.1.unseen aside.unseen,
    holds.2.framed aside.framed fun _ undecided => undecided⟩

theorem calm_undoing :
    Calm (During primitives embeddedCommit earlier start qaRunId) (Safe earlier)
      (Undoing primitives earlier start qaRunId generation) :=
  calm_of (fun _ _ holds => ⟨holds.1.lasting,
    .backed (holds.2.mono fun _ => linked_of_undecided)⟩)
    fun _ _ _ same => aside_undoing same.aside

private theorem clientId_of_unissued (new : New earlier start generation)
    (isOpen : Open earlier qaRunId generation memory world)
    (clients : world.clients = start.clients) {journal : RecoveryJournal}
    (at_ : JournalAt world generation journal) : journal.clientId = none := by
  cases isClient : journal.clientId with
  | none => rfl
  | some id =>
      obtain ⟨item, member, -, label⟩ :=
        (isOpen.lasting.1.journals generation journal at_).client id isClient
      exact absurd label (new.unlabelled item (clients ▸ member))

private theorem created (new : New earlier start generation)
    (holds : Prepared primitives earlier start qaRunId generation memory world)
    {item : ClientItem}
    (unlabelled : ∀ known ∈ world.clients, known.active = true →
      known.label ≠ operationLabelOf generation)
    (unknown : ∀ known ∈ world.clients, known.id ≠ item.id)
    (label : item.label = operationLabelOf generation)
    (active : item.active = true) :
    Undoing primitives earlier start qaRunId generation memory
        { world with clients := world.clients ++ [item] } ∧
      Candidate generation item.id
        { world with clients := world.clients ++ [item] } := by
  obtain ⟨isOpen, backed, -, clients⟩ := holds
  refine ⟨⟨⟨⟨isOpen.lasting.1.createClient unknown ?_ ?_, isOpen.lasting.2⟩,
    isOpen.generated, isOpen.unretired, isOpen.free⟩, ?_⟩, ?_, item, by simp,
    rfl, label, active⟩
  · rw [label]
    exact unlabelled
  · intro other same
    rw [label] at same
    exact operationLabelOf_injective same ▸ isOpen.generated
  · refine ⟨backed.listed, backed.env, backed.config, backed.verified,
      backed.others, new.unlabelled, ⟨[item], by simp [clients], by simpa using label⟩,
      backed.passedRuns, ?_⟩
    obtain ⟨journal, at_, schema, -, undecided⟩ := backed.journal
    refine ⟨journal, at_, schema, ?_, undecided⟩
    intro id isId
    rw [clientId_of_unissued new isOpen clients at_] at isId
    cases isId
  · intro known member _ labelled
    rcases List.mem_append.mp member with old | isNew
    · exact absurd labelled (new.unlabelled known (clients ▸ old))
    · rw [List.mem_singleton.mp isNew]

theorem meets_issueOrRotateClient (new : New earlier start generation) :
    Routine.Meets (underFaults primitives
        (During primitives embeddedCommit earlier start qaRunId) (Safe earlier))
      (Prepared primitives earlier start qaRunId generation)
      (issueOrRotateClient (operationLabelOf generation))
      (fun issued memory world =>
        Undoing primitives earlier start qaRunId generation memory world ∧
          Candidate generation issued.item.id world ∧ Reverted start world)
      (Undoing primitives earlier start qaRunId generation) := by
  refine @Routine.Meets.bind _ _ _ _ _ _ _ _ _ _ _ _
    (fun reply memory world =>
      match reply with
      | .created issued =>
          Undoing primitives earlier start qaRunId generation memory world ∧
            Candidate generation issued.item.id world ∧ Reverted start world
      | .conflict => False
      | .rejected _ =>
          Undoing primitives earlier start qaRunId generation memory world) _ ?_
    fun reply => ?_
  · apply meets_call calm_prepared.keeps
    · exact fun _ _ _ => trivial
    · exact fun _ _ holds => ⟨holds.1, holds.2.1⟩
    · intro memory world reply after holds performs
      cases reply with
      | created issued =>
          obtain ⟨unlabelled, unknown, label, active, rfl⟩ := performs
          obtain ⟨undoing, candidate⟩ :=
            created new holds unlabelled unknown label active
          exact ⟨calm_undoing.keeps memory _ undoing,
            ⟨undoing, candidate, holds.2.2.1⟩, fun _ => undoing⟩
      | conflict =>
          obtain ⟨⟨item, member, -, label⟩, -⟩ := performs
          exact absurd label (new.unlabelled item (holds.2.2.2 ▸ member))
      | rejected status =>
          have same : after = world := performs
          subst same
          exact ⟨calm_prepared.keeps memory after holds, ⟨holds.1, holds.2.1⟩,
            fun _ => ⟨holds.1, holds.2.1⟩⟩
  · cases reply with
    | created issued => exact fun _ _ holds => holds
    | conflict => exact fun _ _ holds => holds.elim
    | rejected status => exact fun _ _ holds => holds

end Helper

end Cutover

end NvidiaBuildLb.Hermes
