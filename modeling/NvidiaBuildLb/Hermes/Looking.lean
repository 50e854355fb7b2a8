import NvidiaBuildLb.Hermes.Helper

namespace NvidiaBuildLb.Hermes

open Foundation NvidiaBuildLb.Core

/-! The routines that only look, under whatever contract their requests keep a
condition. -/

/-- Requests that change temporaries at most, refused or not. -/
def Op.calm : Op → Bool
  | .replace .. | .createStage _ | .publishStage _ | .removeFile _
  | .removeStage _ | .removeGeneration _ | .createClient _ | .revokeClient _
  | .completeRun .. | .syncDirectory (.replaced _) => false
  | _ => true

/-- Requests that change a directory. -/
def Op.mutates : Op → Bool
  | .createTemporary .. | .writeTemporary .. | .replace .. | .removeTemporary ..
  | .createStage _ | .publishStage _ | .removeFile _ | .removeStage _
  | .removeGeneration _ => true
  | _ => false

def Op.acquiresLock : Op → Bool
  | .inspect subject => subject = "acquire the cutover lock"
  | _ => false

def Op.looks (op : Op) : Bool :=
  op.calm && !op.mutates && !op.acquiresLock

abbrev HelperContract : Type :=
  Contract (Memory × Op) (fun request => Answer request.2) World

namespace Helper

variable {contract : HelperContract} {condition : Memory → World → Prop}

theorem keeps_pure {value : α} :
    Routine.Keeps contract condition
      (pure value : Helper α) :=
  fun _ _ holds => holds

theorem keeps_bail {message : String} :
    Routine.Keeps contract condition
      (bail message : Helper α) :=
  Routine.Meets.leave

theorem keeps_leave {failure : Failure} :
    Routine.Keeps contract condition
      (Routine.leave failure : Helper α) :=
  Routine.Meets.leave

theorem keeps_ignore {routine : Helper α}
    (keeps : Routine.Keeps contract condition
      routine) :
    Routine.Keeps contract condition
      (ignore routine) :=
  Routine.Keeps.bind (Routine.Keeps.attempt keeps) fun _ => keeps_pure

/-- Requests that only look keep the condition. -/
structure Looks (contract : HelperContract)
    (condition : Memory → World → Prop) : Prop where
  ask : ∀ op, op.looks = true →
    Routine.Keeps contract condition (Routine.ask op : Helper (Answer op))

theorem Looks.call (looks : Looks contract condition) {op : Op}
    (isLook : op.looks = true) :
    Routine.Keeps contract condition (call op) := by
  refine Routine.Keeps.bind (looks.ask op isLook) fun answer => ?_
  exact Routine.Keeps.lift

section Looking

variable (looks : Looks contract condition)
include looks

theorem keeps_pathExists (place : Place) :
    Routine.Keeps contract condition
      (pathExists place) := by
  refine Routine.Keeps.bind (looks.ask _ rfl) fun answer => ?_
  cases answer <;> exact keeps_pure

theorem keeps_temporaryExists (target : Path) (nonce : Uuid) :
    Routine.Keeps contract condition
      (temporaryExists target nonce) := by
  refine Routine.Keeps.bind (looks.ask _ rfl) fun answer => ?_
  cases answer <;> exact keeps_pure

theorem keeps_ensureRootDirectory (place : Place) :
    Routine.Keeps contract condition
      (ensureRootDirectory place) := by
  refine Routine.Keeps.bind (keeps_pathExists looks place) fun found => ?_
  cases found with
  | true => exact looks.call rfl
  | false =>
      refine Routine.Keeps.bind (looks.call rfl) fun _ => ?_
      exact looks.call rfl

theorem keeps_readBytes (path : Path) :
    Routine.Keeps contract condition
      (readBytes path) := by
  refine Routine.Keeps.bind (looks.call rfl) fun content => ?_
  cases content <;> first | exact keeps_pure | exact keeps_bail

theorem keeps_readToString (path : Path) :
    Routine.Keeps contract condition
      (readToString path) := by
  refine Routine.Keeps.bind (keeps_readBytes looks path) fun bytes => ?_
  split
  · exact keeps_pure
  · exact keeps_bail

theorem keeps_readJournal (path : Path) :
    Routine.Keeps contract condition
      (readJournal path) := by
  refine Routine.Keeps.bind (looks.call rfl) fun content => ?_
  cases content <;> first | exact keeps_pure | exact keeps_bail

theorem keeps_readManifest (path : Path) :
    Routine.Keeps contract condition
      (readManifest path) := by
  refine Routine.Keeps.bind (looks.call rfl) fun content => ?_
  cases content <;> first | exact keeps_pure | exact keeps_bail

theorem keeps_readReceipt (path : Path) :
    Routine.Keeps contract condition
      (readReceipt path) := by
  refine Routine.Keeps.bind (looks.call rfl) fun content => ?_
  cases content <;> first | exact keeps_pure | exact keeps_bail

theorem keeps_readRetirementReceipt (path : Path) :
    Routine.Keeps contract condition (readRetirementReceipt path) := by
  refine Routine.Keeps.bind (looks.call rfl) fun _ => ?_
  refine Routine.Keeps.bind (looks.call rfl) fun content => ?_
  cases content with
  | retirement receipt =>
      dsimp only
      split
      · exact Routine.Keeps.bind keeps_bail fun _ => keeps_pure
      · exact keeps_pure
  | _ => exact keeps_bail

theorem keeps_snapshotManifestMatches (generation : Uuid)
    (manifest : SnapshotManifest) :
    Routine.Keeps contract condition
      (snapshotManifestMatches generation manifest) := by
  unfold snapshotManifestMatches
  split
  · refine Routine.Keeps.bind (looks.call rfl) fun envSha256 => ?_
    split
    · exact Routine.Keeps.bind (looks.call rfl) fun _ => keeps_pure
    · exact keeps_pure
  · exact keeps_pure

theorem keeps_verifySnapshot (generation : Uuid) :
    Routine.Keeps contract condition
      (verifySnapshot generation) := by
  refine Routine.Keeps.bind (looks.call rfl) fun _ => ?_
  refine Routine.Keeps.bind (looks.call rfl) fun _ => ?_
  refine Routine.Keeps.bind (looks.call rfl) fun _ => ?_
  refine Routine.Keeps.bind (keeps_readManifest looks _) fun manifest => ?_
  refine Routine.Keeps.bind (keeps_snapshotManifestMatches looks generation
    manifest) fun same => ?_
  cases same with
  | true => exact keeps_pure
  | false => exact keeps_bail

theorem keeps_docker (command : DockerCommand) :
    Routine.Keeps contract condition
      (docker command) :=
  Routine.Keeps.bind (looks.call rfl) fun _ => keeps_pure

theorem keeps_waitForContainerHealth :
    Routine.Keeps contract condition
      waitForContainerHealth := by
  unfold waitForContainerHealth
  refine Routine.Keeps.bind (Routine.Keeps.loop ?_ 30 false) fun healthy => ?_
  · intro _
    refine Routine.Keeps.bind (looks.call rfl) fun status => ?_
    split <;> exact keeps_pure
  · cases healthy with
    | true => exact keeps_pure
    | false =>
        exact Routine.Keeps.bind (keeps_ignore (keeps_docker looks .logs))
          fun _ => keeps_bail

theorem keeps_loadCommittedReceipt (embeddedCommit : String)
    (generation : Uuid) (journal : RecoveryJournal) :
    Routine.Keeps contract condition
      (loadCommittedReceipt embeddedCommit generation journal) := by
  refine Routine.Keeps.bind (looks.call rfl) fun _ => ?_
  refine Routine.Keeps.bind (keeps_readReceipt looks _) fun receipt => ?_
  dsimp only
  split
  · exact Routine.Keeps.bind keeps_bail fun _ => keeps_pure
  · exact keeps_pure

theorem keeps_readRecoveryJournal (generation : Uuid) :
    Routine.Keeps contract condition
      (readRecoveryJournal generation) := by
  refine Routine.Keeps.bind (keeps_pathExists looks _) fun found => ?_
  have reads : Routine.Keeps contract condition
      (do
        call (.validate (.file (.snapshot generation .journal)))
        readJournal (.snapshot generation .journal)) :=
    Routine.Keeps.bind (looks.call rfl) fun _ => keeps_readJournal looks _
  cases found with
  | true => exact reads
  | false => exact Routine.Keeps.bind keeps_bail fun _ => reads

theorem keeps_validateQaRunTarget (embeddedCommit : String)
    (requestedId : Uuid) (expectedCommit : String) :
    Routine.Keeps contract condition
      (validateQaRunTarget embeddedCommit requestedId expectedCommit) := by
  refine Routine.Keeps.bind (looks.call rfl) fun target => ?_
  dsimp only
  repeat' first
    | exact keeps_pure
    | exact keeps_bail
    | split

theorem keeps_preflight :
    Routine.Keeps contract condition preflight := by
  refine Routine.Keeps.bind (looks.call rfl) fun _ => ?_
  refine Routine.Keeps.bind (looks.call rfl) fun _ => ?_
  refine Routine.Keeps.bind (looks.call rfl) fun _ => ?_
  exact looks.call rfl

variable (cleans : ∀ generation, Routine.Keeps contract condition
  (cleanupAtomicTemps (.generation generation) (snapshotPaths generation)))
include cleans

theorem keeps_hasMatchingGeneration (embeddedCommit : String) (runId : Uuid)
    (acceptedStates : List JournalState) (entries : List BackupEntry) :
    Routine.Keeps contract condition
      (hasMatchingGeneration embeddedCommit runId acceptedStates entries) := by
  induction entries with
  | nil => exact keeps_pure
  | cons entry rest induction =>
      cases entry with
      | other name => exact keeps_bail
      | stage generation => exact induction
      | generation generation =>
          refine Routine.Keeps.bind (looks.call rfl) fun _ => ?_
          refine Routine.Keeps.bind (cleans generation)
            fun _ => ?_
          refine Routine.Keeps.bind (keeps_verifySnapshot looks _) fun _ => ?_
          refine Routine.Keeps.bind (keeps_readRecoveryJournal looks _)
            fun journal => ?_
          refine Routine.Keeps.bind Routine.Keeps.lift fun _ => ?_
          split
          · refine Routine.Keeps.bind (keeps_loadCommittedReceipt looks _ _ _)
              fun receipt => ?_
            split
            · exact keeps_pure
            · exact induction
          · exact induction

theorem keeps_hasMatchingLocalGeneration (embeddedCommit : String)
    (runId : Uuid) (acceptedStates : List JournalState) :
    Routine.Keeps contract condition
      (hasMatchingLocalGeneration embeddedCommit runId acceptedStates) := by
  refine Routine.Keeps.bind (keeps_pathExists looks _) fun found => ?_
  cases found with
  | false => exact keeps_pure
  | true =>
      refine Routine.Keeps.bind (looks.call rfl) fun _ => ?_
      refine Routine.Keeps.bind (looks.call rfl) fun entries => ?_
      exact keeps_hasMatchingGeneration looks cleans _ _ _ entries

theorem keeps_qaIntent (embeddedCommit expectedCommit : String)
    (qaRunId : Option Uuid) :
    Routine.Keeps contract condition
      (qaIntent embeddedCommit expectedCommit qaRunId) := by
  cases qaRunId with
  | none => exact keeps_pure
  | some runId =>
      refine Routine.Keeps.bind (keeps_validateQaRunTarget looks _ _ _)
        fun target => ?_
      refine Routine.Keeps.bind (keeps_hasMatchingLocalGeneration looks cleans _ _ _)
        fun _ => ?_
      exact Routine.Keeps.lift

end Looking

end Helper

end NvidiaBuildLb.Hermes
