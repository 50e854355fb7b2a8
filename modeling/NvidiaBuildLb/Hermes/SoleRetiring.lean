import NvidiaBuildLb.Hermes.Retiring
import NvidiaBuildLb.Hermes.SoleRecovery

namespace NvidiaBuildLb.Hermes

open Foundation NvidiaBuildLb.Core

/-! Retiring a backup only takes away a generation whose cutover is over, so
whatever a helper does under the lock keeps the invariant. -/

def Retired (generation : Uuid) (world : World) : Prop :=
  (world.files (.retirement generation)).isSome = true

theorem retired_persistent (generation : Uuid) :
    Persistent (Retired generation) := by
  intro before after alike retired
  unfold Retired
  rw [alike.retirements]
  exact retired

namespace Sequel

open Helper

variable {primitives : Primitives} {generation : Uuid}

private theorem keeps_removal {op : Op} (mild : ∀ world, refused op world = world)
    (performed : ∀ world value after, Retired generation world → Sole world →
      Performs primitives op world value after →
        Sole after ∧ Retired generation after) :
    Routine.Keeps (critical primitives Sole) (Fact (Retired generation))
      (call op) := by
  apply Critical.meets_call
  · exact fun _ _ _ moved =>
      retired_persistent generation (.of_same moved.same)
  · intro _ world retired _
    rw [mild]
    exact retired
  · intro _ world value after retired sole performs
    have later := performed world value after retired sole performs
    exact ⟨later.1, later.2, fun _ => later.2⟩

private theorem keeps_removeFiles :
    Routine.Keeps (critical primitives Sole) (Fact (Retired generation))
      (Routine.each (snapshotPaths generation) fun path => do
        if ← pathExists (.file path) then
          call (.validate (.file path))
          call (.removeFile path)) := by
  have looking := @looks primitives _ (retired_persistent generation)
  refine Routine.Keeps.eachMember fun path member => ?_
  obtain ⟨file, rfl⟩ := snapshotPaths_within member
  refine Routine.Keeps.bind (keeps_pathExists looking _) fun found => ?_
  cases found with
  | false => exact keeps_pure
  | true =>
      refine Routine.Keeps.bind (looking.call rfl) fun _ => ?_
      apply keeps_removal fun _ => rfl
      intro world _ after retired sole performs
      obtain ⟨-, rfl⟩ := performs
      exact ⟨sole.removeFile retired file, retired⟩

private theorem keeps_cleanup :
    Routine.Keeps (critical primitives Sole) (Fact (Retired generation)) (do
        call (.validate (.generation generation))
        let entries ← call (.listDirectory (.generation generation))
        Routine.each entries fun
          | .file file => call (.validate (.file (.snapshot generation file)))
          | _ => bail "retired Hermes generation contains an unexpected entry"
        Routine.each (snapshotPaths generation) fun path => do
          if ← pathExists (.file path) then
            call (.validate (.file path))
            call (.removeFile path)
        call (.syncDirectory (.directory (.generation generation)))
        call (.removeGeneration generation)
        call (.syncDirectory (.directory .backupRoot)) : Helper Unit) := by
  have looking := @looks primitives _ (retired_persistent generation)
  refine Routine.Keeps.bind (looking.call rfl) fun _ => ?_
  refine Routine.Keeps.bind (looking.call rfl) fun entries => ?_
  refine Routine.Keeps.bind (Routine.Keeps.each ?_ entries) fun _ => ?_
  · intro entry
    cases entry with
    | file file => exact looking.call rfl
    | temporary file nonce => exact keeps_bail
    | other name => exact keeps_bail
  refine Routine.Keeps.bind keeps_removeFiles fun _ => ?_
  refine Routine.Keeps.bind (looking.call rfl) fun _ => ?_
  refine Routine.Keeps.bind (keeps_removal (fun _ => rfl) ?_) fun _ => ?_
  · intro world _ after retired sole performs
    obtain ⟨-, empty, rfl⟩ := performs
    exact ⟨sole.removeGeneration empty, retired⟩
  · exact looking.call rfl

theorem keeps_finishRetiredBackupCleanup :
    Routine.Keeps (critical primitives Sole) (Fact (Retired generation))
      (finishRetiredBackupCleanup generation) := by
  have looking := @looks primitives _ (retired_persistent generation)
  refine Routine.Keeps.bind (keeps_pathExists looking _) fun found => ?_
  cases found with
  | true => exact keeps_cleanup
  | false => exact Routine.Keeps.bind (looking.call rfl) fun _ => keeps_pure

private theorem meets_writeRetirement {journal : RecoveryJournal}
    (reconciled : journal.state = .reconciled) (receipt : RetirementReceipt) :
    Routine.Meets (critical primitives Sole)
      (Fact fun world => JournalAt world generation journal)
      (atomicWrite (.retirement generation) (.retirement receipt))
      (fun _ => Fact (Retired generation)) (Fact fun _ => True) := by
  apply Critical.meets_atomicWrite sole_robust
    (journal_persistent generation journal).stable
    (retired_persistent generation).stable true_persistent.stable
  · intro _ world at_ sole
    have placed : (world.replaceFile (.retirement generation)
        (.retirement receipt)).files (.retirement generation) =
          some (.retirement receipt) := if_pos rfl
    refine ⟨sole.retirement (sole.placed generation journal at_) ?_,
      Option.isSome_of_eq_some placed⟩
    intro ⟨other, isOther, unfinished⟩
    cases at_.symm.trans isOther
    rw [reconciled] at unfinished
    cases unfinished
  · exact fun _ _ _ => trivial
  · exact fun _ _ _ => trivial

theorem meets_retireBackup (embeddedCommit : String) (providerRevoked : Bool) :
    Routine.Meets (critical primitives Sole) (Fact fun _ => True)
      (retireBackup embeddedCommit generation providerRevoked)
      (fun _ => Fact fun _ => True) (Fact fun _ => True) := by
  have looking := @looks primitives _ true_persistent
  have weakens : ∀ {α : Type} {fact : World → Prop} {routine : Helper α}
      {post : α → Memory → World → Prop},
      Routine.Meets (critical primitives Sole) (Fact fact) routine post
        (Fact fact) →
      Routine.Meets (critical primitives Sole) (Fact fact) routine post
        (Fact fun _ => True) :=
    fun meets => meets.consequence (fun _ _ holds => holds)
      (fun _ _ _ holds => holds) fun _ _ _ => trivial
  have finishes : Routine.Meets (critical primitives Sole)
      (Fact (Retired generation)) (finishRetiredBackupCleanup generation)
      (fun _ => Fact fun _ => True) (Fact fun _ => True) :=
    keeps_finishRetiredBackupCleanup.consequence (fun _ _ holds => holds)
      (fun _ _ _ _ => trivial) fun _ _ _ => trivial
  unfold retireBackup
  dsimp only
  split
  · exact fun _ _ _ => trivial
  refine Routine.Meets.bind (keeps_ensureRootDirectory looking _) fun _ => ?_
  refine Routine.Meets.bind (keeps_ensureRootDirectory looking _) fun _ => ?_
  refine Routine.Meets.bind (keeps_ensureRootDirectory looking _) fun _ => ?_
  refine Routine.Meets.bind (meets_pathExists true_persistent _) fun found => ?_
  cases found with
  | true =>
      have retiredLooks := @looks primitives _ (retired_persistent generation)
      refine Routine.Meets.bind ((weakens (keeps_readRetirementReceipt
        retiredLooks (.retirement generation))).strengthen ?_)
        fun receipt => ?_
      · exact fun _ _ holds => holds.1.symm
      split
      · exact fun _ _ _ => trivial
      · exact finishes
  | false =>
      refine Routine.Meets.bind ((looking.call rfl).strengthen
        fun _ _ _ => trivial) fun _ => ?_
      refine Routine.Meets.bind (keeps_verifySnapshot looking _) fun _ => ?_
      refine Routine.Meets.bind (looking.call rfl) fun _ => ?_
      refine Routine.Meets.bind (meets_readJournal true_persistent)
        fun journal => ?_
      split
      · exact fun _ _ _ => trivial
      rename_i accepted
      simp only [not_or, Decidable.not_not] at accepted
      have lasts := journal_persistent generation journal
      have journalLooks := @looks primitives _ lasts
      cases journal.clientId with
      | none => exact fun _ _ _ => trivial
      | some clientId =>
          refine Routine.Meets.bind ((weakens (journalLooks.call
            rfl)).strengthen fun _ _ holds => holds.2) fun _ => ?_
          refine Routine.Meets.bind (weakens (keeps_readReceipt journalLooks
            _)) fun cutover => ?_
          split
          · exact fun _ _ _ => trivial
          refine Routine.Meets.bind (weakens (keeps_readManifest journalLooks
            _)) fun manifest => ?_
          refine Routine.Meets.bind (meets_writeRetirement accepted.2 _)
            fun _ => ?_
          have retiredLooks := @looks primitives _
            (retired_persistent generation)
          exact Routine.Meets.bind (weakens (retiredLooks.call rfl))
            fun _ => finishes

theorem meets_afterLock (embeddedCommit expectedCommit : String)
    (action : Action) (intent : QaRunIntent) :
    Routine.Meets (critical primitives Sole) (Fact fun _ => True)
      (afterLock embeddedCommit expectedCommit action intent)
      (fun _ => Fact fun _ => True) (Fact fun _ => True) := by
  cases action with
  | retireBackup generation providerRevoked =>
      exact meets_retireBackup embeddedCommit providerRevoked
  | preflight =>
      exact meets_underLock embeddedCommit expectedCommit .preflight intent
  | apply qaRunId =>
      exact meets_underLock embeddedCommit expectedCommit (.apply qaRunId) intent
  | verify =>
      exact meets_underLock embeddedCommit expectedCommit .verify intent

end Sequel

end NvidiaBuildLb.Hermes
