import NvidiaBuildLb.Hermes.Invariant

namespace NvidiaBuildLb.Hermes

open Foundation NvidiaBuildLb.Core

/-! The requests that take something away, when they are in order, and the
routines that apply and recovery share. -/

/-- A snapshot is not restored over a standing commit or a second time, a
client of a standing commit is revoked on behalf of a newer commit only, and
its QA run is not reported as failed. -/
def Safe (earlier : List Uuid) (memory : Memory) (op : Op) (world : World) :
    Prop :=
  match op with
  | .replace .env _ | .replace .config _ =>
      ∀ generation, memory.restoring = some generation →
        generation ∉ earlier ∧
          ∀ commit, world.standing commit → commit.generation ≠ generation
  | .revokeClient id =>
      ∀ commit, world.standing commit → commit.clientId = some id →
        ∃ newest ∈ world.commits.head?,
          memory.reconciling = some newest.generation ∧
            newest.generation ≠ commit.generation
  | .completeRun runId .failed =>
      ∀ commit, world.standing commit → commit.qaRunId ≠ some runId
  | _ => True

theorem safe_of_unguarded {earlier : List Uuid} {memory : Memory} {op : Op}
    {world : World} (unguarded : op.guarded = false) :
    Safe earlier memory op world := by
  cases op <;> trivial

def Restored (world : World) (generation : Uuid) : Prop :=
  ∃ env config,
    world.files (.snapshot generation .env) = some (.bytes env) ∧
      world.files (.snapshot generation .config) = some (.bytes config) ∧
      world.files .env = some (.bytes env) ∧
      world.files .config = some (.bytes config)

/-- No client but one is left of those that cutovers issued. -/
def PreviousRevoked (world : World) (keep : Uuid) : Prop :=
  ∀ item ∈ world.clients, item.active = true →
    startsWith item.label clientLabelPrefix = true → item.id = keep

namespace Helper

variable {primitives : Primitives} {kept : Memory → World → Prop}
  {earlier : List Uuid} {condition : Memory → World → Prop}

theorem calm_of (keeps : ∀ memory world, condition memory world →
      kept memory world)
    (stable : ∀ memory before after, before.Same after →
      condition memory before → condition memory after) :
    Calm kept (Safe earlier) condition where
  keeps := keeps
  asks := fun _ _ _ _ => safe_of_unguarded
  stable := stable

theorem meets_readBytes (calm : Calm kept (Safe earlier) condition)
    (path : Path) :
    Routine.Meets (underFaults primitives kept (Safe earlier)) condition
      (readBytes path)
      (fun bytes memory world => condition memory world ∧
        world.files path = some (.bytes bytes)) condition := by
  refine Routine.Meets.bind (meets_look calm rfl fun _ _ _ performs => by
    exact performs.2 ▸ performs.1) fun content => ?_
  cases content with
  | bytes value => exact fun _ _ holds => holds
  | _ => exact fun _ _ holds => holds.1

theorem meets_readJournal (calm : Calm kept (Safe earlier) condition)
    (generation : Uuid) :
    Routine.Meets (underFaults primitives kept (Safe earlier)) condition
      (readJournal (.snapshot generation .journal))
      (fun journal memory world => condition memory world ∧
        JournalAt world generation journal) condition := by
  refine Routine.Meets.bind (meets_look calm rfl fun _ _ _ performs => by
    exact performs.2 ▸ performs.1) fun content => ?_
  cases content with
  | journal value => exact fun _ _ holds => holds
  | _ => exact fun _ _ holds => holds.1

theorem meets_readReceipt (calm : Calm kept (Safe earlier) condition)
    (path : Path) :
    Routine.Meets (underFaults primitives kept (Safe earlier)) condition
      (readReceipt path)
      (fun receipt memory world => condition memory world ∧
        world.files path = some (.receipt receipt)) condition := by
  refine Routine.Meets.bind (meets_look calm rfl fun _ _ _ performs => by
    exact performs.2 ▸ performs.1) fun content => ?_
  cases content with
  | receipt value => exact fun _ _ holds => holds
  | _ => exact fun _ _ holds => holds.1

theorem meets_readRecoveryJournal (calm : Calm kept (Safe earlier) condition)
    (generation : Uuid) :
    Routine.Meets (underFaults primitives kept (Safe earlier)) condition
      (readRecoveryJournal generation)
      (fun journal memory world => condition memory world ∧
        JournalAt world generation journal) condition := by
  refine Routine.Meets.bind (keeps_pathExists calm.looks _) fun found => ?_
  have reads : Routine.Meets (underFaults primitives kept (Safe earlier))
      condition
      (do
        call (.validate (.file (.snapshot generation .journal)))
        readJournal (.snapshot generation .journal))
      (fun journal memory world => condition memory world ∧
        JournalAt world generation journal) condition :=
    Routine.Meets.bind (keeps_call calm rfl) fun _ =>
      meets_readJournal calm generation
  cases found with
  | true => exact reads
  | false => exact Routine.Meets.bind keeps_bail fun _ => reads

/-- A condition that does not look at the two configuration files. -/
def IgnoresHermes (condition : Memory → World → Prop) : Prop :=
  ∀ memory world target content, target = .env ∨ target = .config →
    condition memory world →
      condition memory (world.replaceFile target content)

theorem meets_restoreSnapshot (calm : Calm kept (Safe earlier) condition)
    {generation : Uuid}
    (allowed : ∀ memory world, condition memory world →
      generation ∉ earlier ∧
        ∀ commit, world.standing commit → commit.generation ≠ generation)
    (hermes : IgnoresHermes condition)
    (restoring : ∀ memory world restoring, condition memory world →
      condition { memory with restoring } world) :
    Routine.Meets (underFaults primitives kept (Safe earlier)) condition
      (restoreSnapshot generation)
      (fun _ memory world => (condition memory world ∧
        Restored world generation) ∧ memory.restoring = none) condition := by
  refine Routine.Meets.bind (keeps_verifySnapshot calm.looks generation) fun _ => ?_
  let inner : Memory → World → Prop := fun memory world =>
    condition memory world ∧ memory.restoring = some generation
  have calmInner : Calm kept (Safe earlier) inner :=
    calm_of (fun memory world holds => calm.keeps memory world holds.1)
      fun memory before after same holds =>
        ⟨calm.stable memory before after same holds.1, holds.2⟩
  refine @Routine.Meets.bind _ _ _ _ _ _ _ _ _ _ _ _ (fun _ => inner) _
    (fun memory world holds =>
      ⟨restoring memory world _ holds, rfl⟩) fun _ => ?_
  have weaken : ∀ {facts : World → Prop} (memory : Memory) (world : World),
      inner memory world ∧ facts world → condition memory world :=
    fun _ _ holds => holds.1.1
  have asks : ∀ {facts : World → Prop} {target : Path}
      (_ : target = .env ∨ target = .config) (memory : Memory) (world : World)
      (nonce : Uuid), inner memory world ∧ facts world →
        Safe earlier memory (.replace target nonce) world := by
    intro facts target isHermes memory world nonce holds
    have permitted := allowed memory world holds.1.1
    rcases isHermes with rfl | rfl <;>
      · intro other isOther
        rw [holds.1.2, Option.some.injEq] at isOther
        exact isOther ▸ permitted
  have reads : ∀ {facts : World → Prop},
      (∀ before after, World.Same before after → facts before → facts after) →
      ∀ path, Routine.Meets (underFaults primitives kept (Safe earlier))
        (fun memory world => inner memory world ∧ facts world)
        (readBytes path)
        (fun bytes memory world => inner memory world ∧ facts world ∧
          world.files path = some (.bytes bytes)) condition := by
    intro facts stable path
    refine (meets_readBytes (calmInner.and stable) path).consequence
      (fun _ _ holds => holds) ?_ weaken
    intro bytes memory world holds
    exact ⟨holds.1.1, holds.1.2, holds.2⟩
  have writes : ∀ {before after : World → Prop},
      (∀ first last, World.Same first last → before first → before last) →
      (∀ first last, World.Same first last → after first → after last) →
      ∀ {target content}, target = .env ∨ target = .config →
      (∀ world, before world → after (world.replaceFile target content)) →
      Routine.Meets (underFaults primitives kept (Safe earlier))
        (fun memory world => inner memory world ∧ before world)
        (atomicWrite target content)
        (fun _ memory world => inner memory world ∧ after world)
        condition := by
    intro before after stableBefore stableAfter target content isHermes turns
    apply meets_atomicWrite (calmInner.and stableBefore)
      (calmInner.and stableAfter) calm (asks isHermes)
    · intro memory world holds
      exact ⟨⟨hermes memory world target content isHermes holds.1.1, holds.1.2⟩,
        turns world holds.2⟩
    · exact weaken
    · intro memory world holds
      rcases isHermes with rfl | rfl <;> exact holds.1.1
  have first := @reads (fun _ => True) (fun _ _ _ _ => trivial)
    (.snapshot generation .env)
  refine Routine.Meets.bind (first.strengthen fun _ _ holds =>
    ⟨holds, trivial⟩) fun env => ?_
  let envRead (world : World) : Prop :=
    True ∧ world.files (.snapshot generation .env) = some (.bytes env)
  let envWritten (world : World) : Prop :=
    world.files (.snapshot generation .env) = some (.bytes env) ∧
      world.files .env = some (.bytes env)
  have stableEnv : ∀ before after, World.Same before after →
      envWritten before → envWritten after := fun _ _ same =>
    same.fact fun _ => Iff.rfl
  refine Routine.Meets.bind (@writes envRead envWritten
    (fun _ _ same => same.fact fun _ => Iff.rfl) stableEnv .env _ (.inl rfl)
    fun world holds => ⟨holds.2, rfl⟩) fun _ => ?_
  refine Routine.Meets.bind (@reads envWritten stableEnv
    (.snapshot generation .config)) fun config => ?_
  let configRead (world : World) : Prop :=
    envWritten world ∧
      world.files (.snapshot generation .config) = some (.bytes config)
  refine Routine.Meets.bind (@writes configRead
    (fun world => Restored world generation)
    (fun _ _ same => same.fact fun _ => Iff.rfl) (fun _ _ same =>
      @World.Same.fact _ _ same (fun world => Restored world generation)
        fun _ => Iff.rfl) .config _ (.inr rfl)
    fun world holds => ⟨env, config, holds.1.1, holds.2, holds.1.2, rfl⟩)
    fun _ => ?_
  exact fun memory world holds =>
    ⟨⟨restoring memory world none holds.1.1, holds.2⟩, rfl⟩

theorem meets_rollbackAfterFailure (calm : Calm kept (Safe earlier) condition)
    {generation : Uuid}
    (allowed : ∀ memory world, condition memory world →
      generation ∉ earlier ∧
        ∀ commit, world.standing commit → commit.generation ≠ generation)
    (hermes : IgnoresHermes condition)
    (restoring : ∀ memory world restoring, condition memory world →
      condition { memory with restoring } world)
    (rolledBack : ∀ memory world, condition memory world →
      condition
        { memory with rolledBack := generation :: memory.rolledBack } world) :
    Routine.Meets (underFaults primitives kept (Safe earlier)) condition
      (rollbackAfterFailure generation)
      (fun _ memory world => condition memory world ∧
        Restored world generation) condition := by
  refine Routine.Meets.bind (keeps_ignore (keeps_docker calm.looks .stop))
    fun _ => ?_
  refine Routine.Meets.bind ((meets_restoreSnapshot calm allowed hermes
    restoring).consequence (fun _ _ holds => holds)
    (fun _ _ _ holds => holds.1) fun _ _ holds => holds) fun _ => ?_
  have calmRestored := calm.and fun before after same =>
    @World.Same.fact before after same (fun world => Restored world generation)
      fun _ => Iff.rfl
  have weaken : ∀ memory world, condition memory world ∧
      Restored world generation → condition memory world :=
    fun _ _ holds => holds.1
  refine Routine.Meets.bind ((keeps_docker calmRestored.looks .start).consequence
    (fun _ _ holds => holds) (fun _ _ _ holds => holds) weaken) fun _ => ?_
  refine Routine.Meets.bind (Routine.Meets.attempt
    (keeps_waitForContainerHealth calmRestored.looks)) fun result => ?_
  cases result with
  | ok value =>
      exact fun memory world holds =>
        ⟨rolledBack memory world holds.1, holds.2⟩
  | error failure =>
      refine Routine.Meets.bind ((keeps_ignore (keeps_docker calmRestored.looks
        .stop)).consequence (fun _ _ holds => holds) (fun _ _ _ holds => holds)
        weaken) fun _ => ?_
      exact fun memory world holds => holds.1

theorem meets_writeJournal {pre post fails : Memory → World → Prop}
    (calmPre : Calm kept (Safe earlier) pre)
    (calmPost : Calm kept (Safe earlier) post)
    (calmFails : Calm kept (Safe earlier) fails) {generation : Uuid}
    {state : JournalState} {operationLabel : Option String}
    {clientId : Option Uuid}
    (written : ∀ memory world, pre memory world →
      post memory (world.replaceFile (.snapshot generation .journal)
        (.journal {
          schemaVersion := journalSchema
          state
          operationLabel
          clientId })))
    (unwritten : ∀ memory world, pre memory world → fails memory world)
    (unsynced : ∀ memory world, post memory world →
      fails memory (refused
        (.syncDirectory (.replaced (.snapshot generation .journal))) world)) :
    Routine.Meets (underFaults primitives kept (Safe earlier)) pre
      (writeJournal (.snapshot generation .journal) state operationLabel
        clientId) (fun _ => post) fails := by
  apply meets_atomicWrite calmPre calmPost calmFails
  · exact fun _ _ _ _ => trivial
  · exact written
  · exact unwritten
  · exact unsynced

theorem mem_revoke_clients {world : World} {id : Uuid} {item : ClientItem} :
    item ∈ (world.revoke id).clients ↔
      (item ∈ world.clients ∧ item.id ≠ id) ∨
        ∃ original ∈ world.clients, original.id = id ∧
          item = { original with active := false } := by
  simp only [World.revoke, List.mem_map]
  constructor
  · rintro ⟨original, member, rfl⟩
    by_cases same : original.id = id
    · exact .inr ⟨original, member, same, by simp [same]⟩
    · exact .inl ⟨by simpa [same] using member, by simp [same]⟩
  · rintro (⟨member, different⟩ | ⟨original, member, same, rfl⟩)
    · exact ⟨item, member, by simp [different]⟩
    · exact ⟨original, member, by simp [same]⟩

theorem active_of_revoke {world : World} {id : Uuid} {item : ClientItem}
    (member : item ∈ (world.revoke id).clients) (active : item.active = true) :
    item ∈ world.clients ∧ item.id ≠ id := by
  rcases mem_revoke_clients.mp member with kept | ⟨original, -, -, rfl⟩
  · exact kept
  · cases active

theorem meets_revokeClient {pre post : Memory → World → Prop}
    (calmPre : Calm kept (Safe earlier) pre)
    (calmPost : Calm kept (Safe earlier) post) {id : Uuid}
    (asks : ∀ memory world, pre memory world →
      Safe earlier memory (.revokeClient id) world)
    (revoked : ∀ memory world, pre memory world →
      post memory (world.revoke id)) :
    Routine.Meets (underFaults primitives kept (Safe earlier)) pre
      (call (.revokeClient id)) (fun _ => post)
      (fun memory world => pre memory world ∨ post memory world) := by
  apply meets_call calmPre.keeps asks
  · exact fun _ _ holds => .inl holds
  · intro memory world _ after holds performs
    have isAfter : after = world.revoke id := performs.2
    subst isAfter
    have later := revoked memory world holds
    exact ⟨calmPost.keeps memory _ later, later, fun _ => .inr later⟩

def StillToRevoke (keep : Uuid) (clients : List ClientItem)
    (world : World) : Prop :=
  ∀ item ∈ world.clients, item.active = true →
    startsWith item.label clientLabelPrefix = true →
      item.id = keep ∨ ∃ listed ∈ clients, listed.id = item.id ∧
        listed.active = true ∧
        startsWith listed.label clientLabelPrefix = true

section StillToRevoke

variable {keep : Uuid} {item : ClientItem} {rest : List ClientItem}
  {world : World}

theorem StillToRevoke.all : StillToRevoke keep world.clients world :=
  fun item member active labelled => .inr ⟨item, member, rfl, active, labelled⟩

theorem StillToRevoke.revoked (still : StillToRevoke keep (item :: rest) world) :
    StillToRevoke keep rest (world.revoke item.id) := by
  intro other member active labelled
  obtain ⟨inClients, different⟩ := active_of_revoke member active
  rcases still other inClients active labelled with
    isKept | ⟨listed, inList, same, facts⟩
  · exact .inl isKept
  · rcases List.mem_cons.mp inList with rfl | inRest
    · exact absurd same.symm different
    · exact .inr ⟨listed, inRest, same, facts⟩

theorem StillToRevoke.skipped (still : StillToRevoke keep (item :: rest) world)
    (other : ¬ (item.id ≠ keep ∧ item.active = true ∧
      startsWith item.label clientLabelPrefix = true)) :
    StillToRevoke keep rest world := by
  intro client member active labelled
  rcases still client member active labelled with
    isKept | ⟨listed, inList, same, isActive, isLabelled⟩
  · exact .inl isKept
  · rcases List.mem_cons.mp inList with rfl | inRest
    · by_cases isKept : listed.id = keep
      · exact .inl (same.symm.trans isKept)
      · exact absurd ⟨isKept, isActive, isLabelled⟩ other
    · exact .inr ⟨listed, inRest, same, isActive, isLabelled⟩

theorem StillToRevoke.done (still : StillToRevoke keep [] world) :
    PreviousRevoked world keep := by
  intro item member active labelled
  rcases still item member active labelled with isKept | ⟨_, inNil, -⟩
  · exact isKept
  · cases inNil

end StillToRevoke

theorem meets_revokePreviousClients (calm : Calm kept (Safe earlier) condition)
    {keep : Uuid}
    (asks : ∀ memory world id, condition memory world → id ≠ keep →
      Safe earlier memory (.revokeClient id) world)
    (revoked : ∀ memory world id, condition memory world → id ≠ keep →
      condition memory (world.revoke id)) :
    Routine.Meets (underFaults primitives kept (Safe earlier)) condition
      (revokePreviousClients keep)
      (fun _ memory world => condition memory world ∧
        PreviousRevoked world keep) condition := by
  refine Routine.Meets.bind (meets_look calm rfl fun _ _ _ performs => by
    exact performs.2 ▸ performs.1) fun clients => ?_
  refine ((Routine.Meets.each (fun remaining memory world =>
    condition memory world ∧ StillToRevoke keep remaining world) ?_
    clients).strengthen ?_).consequence (fun _ _ holds => holds) ?_
      (fun _ _ holds => holds)
  · intro item rest
    have calmStill : ∀ remaining, Calm kept (Safe earlier)
        fun memory world => condition memory world ∧
          StillToRevoke keep remaining world := fun remaining =>
      calm.and fun before after same =>
        @World.Same.fact before after same (StillToRevoke keep remaining)
          fun _ => Iff.rfl
    by_cases previous : item.id ≠ keep ∧ item.active = true ∧
        startsWith item.label clientLabelPrefix = true
    · rw [if_pos previous]
      refine (meets_revokeClient (calmStill (item :: rest)) (calmStill rest)
        (fun memory world holds =>
          asks memory world item.id holds.1 previous.1) ?_).consequence
        (fun _ _ holds => holds) (fun _ _ _ holds => holds) ?_
      · exact fun memory world holds =>
          ⟨revoked memory world item.id holds.1 previous.1, holds.2.revoked⟩
      · rintro memory world (holds | holds) <;> exact holds.1
    · rw [if_neg previous]
      exact fun memory world holds => ⟨holds.1, holds.2.skipped previous⟩
  · intro memory world holds
    obtain ⟨before, rfl⟩ := holds
    exact ⟨before, .all⟩
  · exact fun _ memory world holds => ⟨holds.1, holds.2.done⟩

theorem meets_reconcileRemoteState (calm : Calm kept (Safe earlier) condition)
    {receipt : SafeReceipt}
    (reconciling : ∀ memory world reconciling, condition memory world →
      condition { memory with reconciling } world)
    (asks : ∀ memory world id, condition memory world →
      memory.reconciling = some receipt.generation → id ≠ receipt.clientId →
        Safe earlier memory (.revokeClient id) world)
    (revoked : ∀ memory world id, condition memory world →
      id ≠ receipt.clientId → condition memory (world.revoke id))
    (passed : ∀ memory world runId, condition memory world →
      receipt.qaRunId = some runId →
        condition memory { world with
          passedRuns := runId :: world.passedRuns }) :
    Routine.Meets (underFaults primitives kept (Safe earlier)) condition
      (reconcileRemoteState receipt)
      (fun _ memory world => condition memory world ∧
        PreviousRevoked world receipt.clientId ∧
        ∀ runId, receipt.qaRunId = some runId → runId ∈ world.passedRuns)
      condition := by
  let inner : Memory → World → Prop := fun memory world =>
    condition memory world ∧ memory.reconciling = some receipt.generation
  have calmInner : Calm kept (Safe earlier) inner :=
    calm_of (fun memory world holds => calm.keeps memory world holds.1)
      fun memory before after same holds =>
        ⟨calm.stable memory before after same holds.1, holds.2⟩
  refine @Routine.Meets.bind _ _ _ _ _ _ _ _ _ _ _ _ (fun _ => inner) _
    (fun memory world holds =>
      ⟨reconciling memory world _ holds, rfl⟩) fun _ => ?_
  refine Routine.Meets.bind ((meets_revokePreviousClients calmInner
    (fun memory world id holds => asks memory world id holds.1 holds.2)
    fun memory world id holds different =>
      ⟨revoked memory world id holds.1 different, holds.2⟩).consequence
    (fun _ _ holds => holds) (fun _ _ _ holds => holds)
    fun _ _ holds => holds.1) fun _ => ?_
  let revokedAll : Memory → World → Prop := fun memory world =>
    condition memory world ∧ PreviousRevoked world receipt.clientId
  refine @Routine.Meets.bind _ _ _ _ _ _ _ _ _ _ _ _ (fun _ => revokedAll) _
    (fun memory world holds =>
      ⟨reconciling memory world none holds.1.1, holds.2⟩) fun _ => ?_
  cases run : receipt.qaRunId with
  | none =>
      intro memory world holds
      refine ⟨holds.1, holds.2, ?_⟩
      intro runId isRun
      cases isRun
  | some runId =>
      apply meets_call
      · exact fun memory world holds => calm.keeps memory world holds.1
      · exact fun _ _ _ => trivial
      · exact fun _ _ holds => holds.1
      · intro memory world _ after holds performs
        have isAfter : after = { world with
            passedRuns := runId :: world.passedRuns } := performs
        subst isAfter
        have later := passed memory world runId holds.1 run
        refine ⟨calm.keeps memory _ later, ⟨later, holds.2, ?_⟩,
          fun _ => later⟩
        intro other isRun
        cases isRun
        exact List.mem_cons_self

end Helper

end NvidiaBuildLb.Hermes
