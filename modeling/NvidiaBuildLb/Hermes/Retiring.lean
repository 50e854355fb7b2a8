import NvidiaBuildLb.Hermes.Recovery

namespace NvidiaBuildLb.Hermes

open Foundation NvidiaBuildLb.Core

/-! Retiring a backup takes nothing away that recovery would still need. -/

variable {primitives : Primitives} {earlier : List Uuid} {world : World}

theorem retirable_of_retirement (inv : Inv earlier world) {generation : Uuid}
    (retired : (world.files (.retirement generation)).isSome = true) :
    Retirable world generation := by
  intro commit standing same
  obtain ⟨runId, isRun, passed | completable⟩ := (inv.commits commit standing).run
  · exact ⟨runId, passed, isRun⟩
  · rw [← same, completable.2.1] at retired
    cases retired

theorem retirable_of_reconciled (inv : Inv earlier world) {generation : Uuid}
    {journal : RecoveryJournal} (at_ : JournalAt world generation journal)
    (reconciled : journal.state = .reconciled) :
    Retirable world generation := by
  intro commit standing same
  obtain ⟨runId, isRun, passed | completable⟩ := (inv.commits commit standing).run
  · exact ⟨runId, passed, isRun⟩
  · obtain ⟨-, -, found, foundAt, unfinished⟩ := completable
    rw [same] at foundAt
    have isFound := foundAt.symm.trans at_
    simp only [Option.some.injEq, Content.journal.injEq] at isFound
    rw [isFound, reconciled] at unfinished
    cases unfinished

namespace Helper

def Retiring (earlier : List Uuid) (generation : Uuid) (memory : Memory)
    (world : World) : Prop :=
  Lasting earlier memory world ∧ generation ∈ world.used ∧
    Retirable world generation

theorem calm_retiring (generation : Uuid) :
    Calm (Lasting earlier) (Safe earlier) (Retiring earlier generation) :=
  calm_of (fun _ _ holds => holds.1) fun _ before after same holds =>
    ⟨holds.1.unseen same.unseen, same.used _ holds.2.1,
      @World.Same.fact before after same
        (fun world => Retirable world generation) (fun _ => Iff.rfl)
        holds.2.2⟩

theorem calm_lasting :
    Calm (Lasting earlier) (Safe earlier) (Lasting earlier) :=
  calm_of (fun _ _ holds => holds) fun _ _ _ same holds =>
    holds.unseen same.unseen

private theorem keeps_removal {op : Op} {generation : Uuid}
    (unguarded : op.guarded = false) (harmless : ∀ world, refused op world = world)
    (performed : ∀ memory world value after,
      Retiring earlier generation memory world →
        Performs primitives op world value after →
          Retiring earlier generation memory after) :
    Routine.Keeps (underFaults primitives (Lasting earlier) (Safe earlier))
      (Retiring earlier generation) (call op) := by
  apply meets_call
  · exact fun _ _ holds => holds.1
  · exact fun _ _ _ => safe_of_unguarded unguarded
  · intro memory world holds
    rw [harmless]
    exact holds
  · intro memory world value after holds performs
    have later := performed memory world value after holds performs
    exact ⟨later.1, later, fun _ => later⟩

theorem snapshotPaths_within {generation : Uuid} {path : Path}
    (member : path ∈ snapshotPaths generation) :
    ∃ file, path = .snapshot generation file := by
  simp only [snapshotPaths, List.mem_cons, List.not_mem_nil, or_false] at member
  rcases member with rfl | rfl | rfl | rfl <;> exact ⟨_, rfl⟩

private theorem keeps_removeFiles (generation : Uuid) :
    Routine.Keeps (underFaults primitives (Lasting earlier) (Safe earlier))
      (Retiring earlier generation)
      (Routine.each (snapshotPaths generation) fun path => do
        if ← pathExists (.file path) then
          call (.validate (.file path))
          call (.removeFile path)) := by
  have calm := @calm_retiring earlier generation
  refine Routine.Keeps.eachMember fun path member => ?_
  obtain ⟨file, rfl⟩ := snapshotPaths_within member
  refine Routine.Keeps.bind (keeps_pathExists calm.looks _) fun found => ?_
  cases found with
  | false => exact keeps_pure
  | true =>
      refine Routine.Keeps.bind (keeps_call calm rfl) fun _ => ?_
      apply keeps_removal rfl (fun _ => rfl)
      intro memory world _ after holds performs
      obtain ⟨-, rfl⟩ := performs
      exact ⟨⟨holds.1.1.removeFile holds.2.2 file, holds.1.2⟩, holds.2⟩

private theorem keeps_cleanup (generation : Uuid) :
    Routine.Keeps (underFaults primitives (Lasting earlier) (Safe earlier))
      (Retiring earlier generation) (do
        call (.validate (.generation generation))
        let entries ← call (.listDirectory (.generation generation))
        Routine.each entries fun
          | .file file => call (.validate (.file (.snapshot generation file)))
          | _ => bail "retired Hermes generation contains an unexpected entry"
        Routine.each (snapshotPaths generation) fun path => do
          if ← pathExists (.file path) then
            call (.validate (.file path))
            call (.removeFile path)
        call (.syncDirectory (.directory (.generation generation)))
        call (.removeGeneration generation)
        call (.syncDirectory (.directory .backupRoot)) : Helper Unit) := by
  have calm := @calm_retiring earlier generation
  refine Routine.Keeps.bind (keeps_call calm rfl) fun _ => ?_
  refine Routine.Keeps.bind (keeps_call calm rfl) fun entries => ?_
  refine Routine.Keeps.bind (Routine.Keeps.each ?_ entries) fun _ => ?_
  · intro entry
    cases entry with
    | file file => exact keeps_call calm rfl
    | temporary file nonce => exact keeps_bail
    | other name => exact keeps_bail
  refine Routine.Keeps.bind (keeps_removeFiles generation) fun _ => ?_
  refine Routine.Keeps.bind (keeps_call calm rfl) fun _ => ?_
  refine Routine.Keeps.bind (keeps_removal rfl (fun _ => rfl) ?_) fun _ => ?_
  · intro memory world _ after holds performs
    obtain ⟨-, empty, rfl⟩ := performs
    refine ⟨⟨holds.1.1.removeGeneration holds.2.2 ?_, holds.1.2⟩, holds.2⟩
    intro journal at_
    unfold JournalAt at at_
    exact empty (.file .journal) (by simp [World.holdsEntry, at_])
  · exact keeps_call calm rfl

theorem keeps_finishRetiredBackupCleanup (generation : Uuid) :
    Routine.Keeps (underFaults primitives (Lasting earlier) (Safe earlier))
      (Retiring earlier generation) (finishRetiredBackupCleanup generation) := by
  have calm := @calm_retiring earlier generation
  refine Routine.Keeps.bind (keeps_pathExists calm.looks _) fun found => ?_
  cases found with
  | true => exact keeps_cleanup generation
  | false => exact Routine.Keeps.bind (keeps_call calm rfl) fun _ => keeps_pure

private theorem meets_cleanup (generation : Uuid) :
    Routine.Meets (underFaults primitives (Lasting earlier) (Safe earlier))
      (Retiring earlier generation) (finishRetiredBackupCleanup generation)
      (fun _ => Lasting earlier) (Lasting earlier) :=
  (keeps_finishRetiredBackupCleanup generation).consequence
    (fun _ _ holds => holds) (fun _ _ _ holds => holds.1)
    fun _ _ holds => holds.1

private theorem meets_writeRetirement (generation : Uuid)
    (receipt : RetirementReceipt) :
    Routine.Meets (underFaults primitives (Lasting earlier) (Safe earlier))
      (Retiring earlier generation)
      (atomicWrite (.retirement generation) (.retirement receipt))
      (fun _ => Retiring earlier generation) (Lasting earlier) := by
  apply meets_atomicWrite (calm_retiring generation) (calm_retiring generation)
    calm_lasting
  · exact fun _ _ _ _ => trivial
  · intro memory world holds
    refine ⟨⟨holds.1.1.writeRetirement holds.2.1 holds.2.2 receipt,
      holds.1.2⟩, ?_⟩
    exact holds.2
  · exact fun _ _ holds => holds.1
  · exact fun _ _ holds => holds.1

theorem keeps_retireBackup (embeddedCommit : String) (generation : Uuid)
    (providerRevoked : Bool) :
    Routine.Keeps (underFaults primitives (Lasting earlier) (Safe earlier))
      (Lasting earlier)
      (retireBackup embeddedCommit generation providerRevoked) := by
  have calm := @calm_lasting earlier
  have calmRetiring := @calm_retiring earlier generation
  have weaken : ∀ memory world, Retiring earlier generation memory world →
      Lasting earlier memory world := fun _ _ holds => holds.1
  have quiet : ∀ {op : Op}, op.calm = true →
      Routine.Meets (underFaults primitives (Lasting earlier) (Safe earlier))
        (Retiring earlier generation) (call op)
        (fun _ => Retiring earlier generation) (Lasting earlier) :=
    fun isCalm => (keeps_call calmRetiring isCalm).consequence
      (fun _ _ holds => holds) (fun _ _ _ holds => holds) weaken
  have existing : Routine.Meets
      (underFaults primitives (Lasting earlier) (Safe earlier))
      (Retiring earlier generation) (do
        let receipt ← readRetirementReceipt (.retirement generation)
        if receipt.generation ≠ generation ∨
            receipt.embeddedCommit ≠ embeddedCommit ∨
            receipt.providerRevocationConfirmed = false then
          bail <| "existing retirement receipt does not match this generation " ++
            "and helper"
        finishRetiredBackupCleanup generation : Helper Unit)
      (fun _ => Lasting earlier) (Lasting earlier) := by
    refine Routine.Meets.bind ((keeps_readRetirementReceipt
      calmRetiring.looks _).consequence (fun _ _ holds => holds) (fun _ _ _ holds => holds) weaken)
      fun receipt => ?_
    dsimp only
    split
    · exact fun _ _ holds => holds.1
    · exact meets_cleanup generation
  have retires : ∀ clientId, Routine.Meets
      (underFaults primitives (Lasting earlier) (Safe earlier))
      (Retiring earlier generation) (do
        let manifest ← readManifest (.snapshot generation .manifest)
        atomicWrite (.retirement generation) (.retirement {
          schemaVersion := retirementSchema
          generation
          embeddedCommit
          cutoverClientId := clientId
          snapshotEnvSha256 := manifest.envSha256
          snapshotConfigSha256 := manifest.configSha256
          providerRevocationConfirmed := true })
        call (.syncDirectory (.directory .retirementRoot))
        finishRetiredBackupCleanup generation : Helper Unit)
      (fun _ => Lasting earlier) (Lasting earlier) := by
    intro clientId
    refine Routine.Meets.bind ((keeps_readManifest calmRetiring.looks _).consequence
      (fun _ _ holds => holds) (fun _ _ _ holds => holds) weaken)
      fun manifest => ?_
    refine Routine.Meets.bind (meets_writeRetirement generation _) fun _ => ?_
    exact Routine.Meets.bind (quiet rfl) fun _ => meets_cleanup generation
  unfold retireBackup
  dsimp only
  split
  · exact fun _ _ holds => holds
  refine Routine.Meets.bind (keeps_ensureRootDirectory calm.looks _) fun _ => ?_
  refine Routine.Meets.bind (keeps_ensureRootDirectory calm.looks _) fun _ => ?_
  refine Routine.Meets.bind (keeps_ensureRootDirectory calm.looks _) fun _ => ?_
  refine Routine.Meets.bind (meets_pathExists calm _) fun found => ?_
  cases found with
  | true =>
      refine existing.strengthen ?_
      intro memory world holds
      exact ⟨holds.1, holds.1.1.retired generation holds.2.symm,
        retirable_of_retirement holds.1.1 holds.2.symm⟩
  | false =>
      refine Routine.Meets.bind ((keeps_call calm rfl).strengthen
        fun _ _ holds => holds.1) fun _ => ?_
      refine Routine.Meets.bind (keeps_verifySnapshot calm.looks _) fun _ => ?_
      refine Routine.Meets.bind (keeps_call calm rfl) fun _ => ?_
      refine Routine.Meets.bind (meets_readJournal calm generation)
        fun journal => ?_
      split
      · exact fun _ _ holds => holds.1
      rename_i accepted
      simp only [not_or, Decidable.not_not] at accepted
      cases journal.clientId with
      | none => exact fun _ _ holds => holds.1
      | some clientId =>
          refine Routine.Meets.bind ((quiet rfl).strengthen ?_) fun _ => ?_
          · intro memory world holds
            exact ⟨holds.1,
              (holds.1.1.journals generation journal holds.2).generated,
              retirable_of_reconciled holds.1.1 holds.2 accepted.2⟩
          refine Routine.Meets.bind ((keeps_readReceipt calmRetiring.looks
            _).consequence (fun _ _ holds => holds) (fun _ _ _ holds => holds)
            weaken) fun cutover => ?_
          split
          · exact fun _ _ holds => holds.1
          · exact retires clientId

end Helper

end NvidiaBuildLb.Hermes
