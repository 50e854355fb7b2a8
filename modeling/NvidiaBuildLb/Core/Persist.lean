import NvidiaBuildLb.Core.Records

namespace NvidiaBuildLb.Core

/-! Writing the vault file: a temporary sibling is filled, synced, and renamed
over the vault, and the directory is synced last.  Every step can fail;
serialising the state before them cannot, its only map has string keys. -/

inductive PersistStep where
  | openTemporary
  | writeTemporary
  | syncTemporary
  | protectTemporary
  | rename
  | openDirectory
  | syncDirectory
  deriving DecidableEq, Repr

/-- The files of the vault directory.  A file's bytes are represented by the
state they decode to; a temporary that is not completely written decodes to
nothing. -/
structure Disk where
  temporary : Option (Option VaultFile)
  committed : Option VaultFile
  deriving DecidableEq, Repr

def PersistStep.context : PersistStep → String
  | .openTemporary => "open vault temp"
  | .writeTemporary => "write vault"
  | .syncTemporary => "sync vault"
  | .protectTemporary => "protect vault"
  | .rename => "commit vault"
  | .openDirectory => "open vault directory"
  | .syncDirectory => "sync vault directory"

/-- What a step that succeeds does to the files. -/
def PersistStep.perform (state : VaultFile) : PersistStep → Disk → Disk
  | .openTemporary, disk => { disk with temporary := some none }
  | .writeTemporary, disk => { disk with temporary := some (some state) }
  | .rename, disk => { temporary := none, committed := disk.temporary.join }
  | _, disk => disk

def persistSteps : List PersistStep := [
  .openTemporary, .writeTemporary, .syncTemporary, .protectTemporary,
  .rename, .openDirectory, .syncDirectory]

def persistFrom (state : VaultFile) (fault : Option PersistStep) :
    List PersistStep → Disk → Except VaultError Unit × Disk
  | [], disk => (.ok (), disk)
  | step :: rest, disk =>
      if fault = some step then
        (.error (.persist step.context), disk)
      else
        persistFrom state fault rest (step.perform state disk)

/-- `fault` is the step the operating system refuses, if any.  A path without
a parent skips the two directory steps, which is the run without a fault. -/
def persist (state : VaultFile) (fault : Option PersistStep) (disk : Disk) :
    Except VaultError Unit × Disk :=
  persistFrom state fault persistSteps disk

/-- Whether a write with this fault gets past the rename. -/
def publishes : Option PersistStep → Bool
  | none => true
  | some .openDirectory => true
  | some .syncDirectory => true
  | some _ => false

theorem persist_result (state : VaultFile) (fault : Option PersistStep)
    (disk : Disk) :
    (persist state fault disk).1 =
      match fault with
      | none => .ok ()
      | some step => .error (.persist step.context) := by
  cases fault with
  | none => rfl
  | some step => cases step <;> rfl

/-- The rename alone decides which state the vault file holds. -/
theorem persist_committed (state : VaultFile) (fault : Option PersistStep)
    (disk : Disk) :
    (persist state fault disk).2.committed =
      if publishes fault then some state else disk.committed := by
  cases fault with
  | none => rfl
  | some step => cases step <;> rfl

/-- How far a mutator has taken the in-memory state when it stops touching it:
it has given up, it is done without a write, or it goes on to
`self.persist()?`. -/
inductive Staged (α : Type) where
  | failed (error : VaultError) (state : VaultFile)
  | settled (value : α) (state : VaultFile)
  | persisting (value : α) (state : VaultFile)

namespace Staged

def state : Staged α → VaultFile
  | .failed _ state => state
  | .settled _ state => state
  | .persisting _ state => state

def map (change : α → β) : Staged α → Staged β
  | .failed error state => .failed error state
  | .settled value state => .settled (change value) state
  | .persisting value state => .persisting (change value) state

@[simp] theorem state_map (change : α → β) (staged : Staged α) :
    (staged.map change).state = staged.state := by
  cases staged <;> rfl

theorem map_map (first : α → β) (second : β → γ) (staged : Staged α) :
    (staged.map first).map second = staged.map fun value =>
      second (first value) := by
  cases staged <;> rfl

def run (fault : Option PersistStep) (disk : Disk) :
    Staged α → Except VaultError α × Disk
  | .failed error _ => (.error error, disk)
  | .settled value _ => (.ok value, disk)
  | .persisting value state =>
      match persist state fault disk with
      | (.ok (), disk) => (.ok value, disk)
      | (.error error, disk) => (.error error, disk)

/-- The state a mutator renames over the vault file, if it gets that far. -/
def published (fault : Option PersistStep) : Staged α → Option VaultFile
  | .persisting _ state => if publishes fault then some state else none
  | _ => none

theorem run_committed (fault : Option PersistStep) (disk : Disk)
    (staged : Staged α) :
    (staged.run fault disk).2.committed =
      (staged.published fault).or disk.committed := by
  cases staged with
  | failed => rfl
  | settled => rfl
  | persisting value state =>
      have written := persist_committed state fault disk
      simp only [run, published]
      cases hpersist : persist state fault disk with
      | mk result after =>
          rw [hpersist] at written
          cases result <;> cases hp : publishes fault <;> simp_all

theorem published_eq {fault : Option PersistStep} {staged : Staged α}
    {state : VaultFile} (published : staged.published fault = some state) :
    state = staged.state := by
  cases staged with
  | failed => cases published
  | settled => cases published
  | persisting value after =>
      simp only [Staged.published, Option.ite_none_right_eq_some,
        Option.some.injEq] at published
      exact published.2.symm

theorem run_ok (fault : Option PersistStep) (disk : Disk)
    {staged : Staged α} {value : α}
    (succeeded : (staged.run fault disk).1 = .ok value) :
    staged = .settled value staged.state ∨
      (staged = .persisting value staged.state ∧ fault = none) := by
  cases staged with
  | failed => cases succeeded
  | settled result state =>
      cases succeeded
      exact .inl rfl
  | persisting result state =>
      right
      have outcome := persist_result state fault disk
      simp only [run] at succeeded
      cases fault with
      | none =>
          cases hpersist : persist state none disk with
          | mk written after =>
              rw [hpersist] at outcome succeeded
              cases outcome
              cases succeeded
              exact ⟨rfl, rfl⟩
      | some step =>
          cases hpersist : persist state (some step) disk with
          | mk written after =>
              rw [hpersist] at outcome succeeded
              cases outcome
              cases succeeded

end Staged

end NvidiaBuildLb.Core
