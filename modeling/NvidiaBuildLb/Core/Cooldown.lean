import NvidiaBuildLb.Core.Invariant
import NvidiaBuildLb.Core.Router

namespace NvidiaBuildLb.Core

open Foundation

/-! The cooldown of one key, over any run of the operations that report on the
health of keys or change their standing. -/

inductive HealthOperation where
  | recordFailure (retryAfter : Option Duration)
  | recordRequest
  | markVerified
  | setEnabled (enabled : Bool)
  | quarantine
  | delete
  deriving DecidableEq

namespace HealthOperation

def isFailure : HealthOperation → Bool
  | recordFailure _ => true
  | _ => false

/-- A success, a verification, a quarantine or a retirement. -/
def clears : HealthOperation → Bool
  | recordRequest => true
  | markVerified => true
  | quarantine => true
  | delete => true
  | _ => false

/-- What gives a key back to routing before its cooldown has passed. -/
def recovers : HealthOperation → Bool
  | recordRequest => true
  | markVerified => true
  | _ => false

def vaultOperation (id : Uuid) (now : Timestamp) :
    HealthOperation → VaultOperation
  | recordFailure retryAfter => .recordFailure id retryAfter now
  | recordRequest => .recordRequest id
  | markVerified => .markVerified id
  | setEnabled enabled => .setEnabled id enabled now
  | quarantine => .quarantine id
  | delete => .delete id

end HealthOperation

/-- One operation, the clock it reads, and the step of its write that the
system refuses. -/
structure HealthStep where
  key : Uuid
  operation : HealthOperation
  now : Timestamp
  fault : Option PersistStep

namespace HealthStep

def attempt (step : HealthStep) : Attempt :=
  (step.operation.vaultOperation step.key step.now, step.fault)

def fails (id : Uuid) (step : HealthStep) : Bool :=
  step.key = id && step.operation.isFailure

def clears (id : Uuid) (step : HealthStep) : Bool :=
  step.key = id && step.operation.clears

def recovers (id : Uuid) (step : HealthStep) : Bool :=
  step.key = id && step.operation.recovers

end HealthStep

def lastFailure (id : Uuid) (steps : List HealthStep) : Option Timestamp :=
  (steps.filter (HealthStep.fails id)).getLast?.map HealthStep.now

def VaultFile.keyOf (id : Uuid) (state : VaultFile) : Option StoredKey :=
  state.keys.find? fun key => key.id = id

def VaultFile.cooldownOf (id : Uuid) (state : VaultFile) : Option Timestamp :=
  (state.keyOf id).bind StoredKey.cooldownUntil

def VaultWorld.replayHealth (primitives : Primitives) (masterKey : MasterKey)
    (world : VaultWorld) (steps : List HealthStep) : VaultWorld :=
  world.replay primitives masterKey (steps.map HealthStep.attempt)

def longestCooldown : Duration := Duration.seconds 300

/-- The exponent stops at six, so a counter of any size stays within the
bound. -/
theorem failureDelay_le (retryAfter : Option Duration) (count : Nat) :
    Vault.failureDelay retryAfter count ≤ longestCooldown := by
  cases retryAfter with
  | some value =>
      exact max_le (by decide) (min_le_right value (Duration.seconds 300))
  | none =>
      have capped : 1 <<< min count 6 ≤ 64 := by
        rw [Nat.shiftLeft_eq, one_mul]
        exact Nat.pow_le_pow_right (by omega) (Nat.min_le_right count 6)
      have wide : ((1 <<< min count 6 : Nat) : Int) ≤ 300 := by omega
      exact Int.mul_le_mul_of_nonneg_right wide (by decide)

/-- What one step may make of a stored key: it leaves the cooldown alone,
clears it, or applies a failure.  A key whose cooldown is cleared has
recovered or is out of service. -/
inductive HealthStep.Moves (step : HealthStep) (key : StoredKey) :
    StoredKey → Prop
  | kept {after : StoredKey} (id : after.id = key.id)
      (retired : after.retired = key.retired)
      (verified : after.verified = key.verified)
      (cooldown : after.cooldownUntil = key.cooldownUntil) : Moves step key after
  | cleared {after : StoredKey} (id : after.id = key.id)
      (clears : step.clears key.id = true)
      (cooldown : after.cooldownUntil = none)
      (out : step.recovers key.id = false →
        after.retired = true ∨ after.verified = false) : Moves step key after
  | failed (retryAfter : Option Duration)
      (fails : step.fails key.id = true) :
      Moves step key (Vault.applyFailure retryAfter step.now key)

theorem HealthStep.Moves.refl (step : HealthStep) (key : StoredKey) :
    step.Moves key key :=
  .kept rfl rfl rfl rfl

theorem HealthStep.Moves.id {step : HealthStep} {key after : StoredKey}
    (moves : step.Moves key after) : after.id = key.id := by
  cases moves with
  | kept id _ _ _ => exact id
  | cleared id _ _ _ => exact id
  | failed retryAfter _ =>
      simp only [Vault.applyFailure]
      split <;> rfl

private theorem editKey_moves {step : HealthStep} {state : VaultFile}
    {select : StoredKey → Bool} {edit : StoredKey → StoredKey}
    (changes : ∀ key, select key = true → step.Moves key (edit key)) :
    List.Forall₂ step.Moves state.keys
      (Vault.editKey state select edit).state.keys := by
  unfold Vault.editKey
  cases found : modifyFirst? select edit state.keys with
  | none => exact List.forall₂_same.mpr fun key _ => .refl step key
  | some result =>
      apply modifyFirst?_forall₂ (.refl step) _ found
      intro original isFound
      exact changes original (List.find?_some isFound)

/-- The one place that looks into the vault's operations. -/
theorem HealthStep.attempt_moves (primitives : Primitives)
    (masterKey : MasterKey) (world : VaultWorld) (step : HealthStep) :
    List.Forall₂ step.Moves world.memory.keys
      (world.attempt primitives masterKey step.attempt).memory.keys := by
  obtain ⟨id, operation, now, fault⟩ := step
  have named : ∀ {key : StoredKey}, Vault.isLive id key = true → key.id = id := by
    intro key live
    simp only [Vault.isLive, Bool.and_eq_true, decide_eq_true_eq] at live
    exact live.1
  cases operation with
  | recordFailure retryAfter =>
      simp only [VaultWorld.attempt, attempt, HealthOperation.vaultOperation,
        VaultOperation.stage, Vault.recordFailure, Staged.state_map]
      apply editKey_moves
      intro key selected
      have same := of_decide_eq_true selected
      exact .failed retryAfter (by simp [fails, same, HealthOperation.isFailure])
  | recordRequest =>
      simp only [VaultWorld.attempt, attempt, HealthOperation.vaultOperation,
        VaultOperation.stage, Vault.recordRequest, Staged.state_map]
      apply editKey_moves
      intro key selected
      have same := of_decide_eq_true selected
      exact .cleared rfl (by simp [clears, same, HealthOperation.clears]) rfl
        (by simp [recovers, same, HealthOperation.recovers])
  | markVerified =>
      simp only [VaultWorld.attempt, attempt, HealthOperation.vaultOperation,
        VaultOperation.stage, Vault.markVerified, Staged.state_map]
      apply editKey_moves
      intro key selected
      have same := named selected
      exact .cleared rfl (by simp [clears, same, HealthOperation.clears]) rfl
        (by simp [recovers, same, HealthOperation.recovers])
  | setEnabled enabled =>
      simp only [VaultWorld.attempt, attempt, HealthOperation.vaultOperation,
        VaultOperation.stage, Vault.setEnabled, Staged.state_map]
      have unchanged : List.Forall₂ (Moves ⟨id, .setEnabled enabled, now, fault⟩)
          world.memory.keys world.memory.keys :=
        List.forall₂_same.mpr fun key _ => .refl _ key
      split
      · exact unchanged
      · split
        · exact unchanged
        · split
          · exact unchanged
          · apply editKey_moves
            intro key _
            exact .kept rfl rfl rfl rfl
  | quarantine =>
      simp only [VaultWorld.attempt, attempt, HealthOperation.vaultOperation,
        VaultOperation.stage, Vault.quarantine, Staged.state_map]
      apply editKey_moves
      intro key selected
      have same := named selected
      exact .cleared rfl (by simp [clears, same, HealthOperation.clears]) rfl
        fun _ => .inr rfl
  | delete =>
      simp only [VaultWorld.attempt, attempt, HealthOperation.vaultOperation,
        VaultOperation.stage, Vault.delete, Staged.state_map]
      apply editKey_moves
      intro key selected
      have same := named selected
      exact .cleared rfl (by simp [clears, same, HealthOperation.clears]) rfl
        fun _ => .inl rfl

/-- The entry that stands for a key moves as the step says, or there is none
before and after. -/
theorem HealthStep.keyOf_attempt (primitives : Primitives)
    (masterKey : MasterKey) (world : VaultWorld) (step : HealthStep)
    (id : Uuid) :
    Option.Rel step.Moves (world.memory.keyOf id)
      ((world.attempt primitives masterKey step.attempt).memory.keyOf id) := by
  apply find?_rel_of_forall₂ _ (step.attempt_moves primitives masterKey world)
  intro key after moves
  rw [moves.id]

/-! What holds of a key's cooldown once some steps have been taken, and how one
more step keeps it. -/

structure StoredKey.Cooled (last : Option Timestamp) (key : StoredKey) :
    Prop where
  retired : key.retired = true → key.cooldownUntil = none
  bounded : ∀ until_, key.cooldownUntil = some until_ →
    ∃ failedAt, last = some failedAt ∧ until_ ≤ failedAt + longestCooldown

theorem StoredKey.Cooled.of_none {last : Option Timestamp} {key : StoredKey}
    (clear : key.cooldownUntil = none) : key.Cooled last := by
  refine ⟨fun _ => clear, ?_⟩
  intro until_ cooling
  rw [clear] at cooling
  cases cooling

theorem lastFailure_snoc (id : Uuid) (steps : List HealthStep)
    (step : HealthStep) :
    lastFailure id (steps ++ [step]) =
      if step.fails id then some step.now else lastFailure id steps := by
  unfold lastFailure
  cases fails : step.fails id <;> simp [List.filter_append, fails]

theorem lastFailure_mem {id : Uuid} {steps : List HealthStep}
    {failedAt : Timestamp} (failed : lastFailure id steps = some failedAt) :
    ∃ step ∈ steps, step.now = failedAt := by
  obtain ⟨step, isLast, rfl⟩ := Option.map_eq_some_iff.mp failed
  have member := List.mem_of_getLast? isLast
  exact ⟨step, List.mem_of_mem_filter member, rfl⟩

theorem HealthStep.fails_of_clears {id : Uuid} {step : HealthStep}
    (clears : step.clears id = true) : step.fails id = false := by
  obtain ⟨key, operation, now, fault⟩ := step
  cases operation <;>
    simp_all [fails, HealthStep.clears, HealthOperation.clears,
      HealthOperation.isFailure]

namespace HealthStep.Moves

variable {step : HealthStep} {key after : StoredKey}

/-- A failure of a live key leaves a cooldown that is no earlier than the old
one and no later than the bound allows. -/
theorem applyFailure_live (retryAfter : Option Duration) (now : Timestamp)
    (live : key.retired = false) :
    ∃ until_, (Vault.applyFailure retryAfter now key).cooldownUntil =
        some until_ ∧
      (∀ old, key.cooldownUntil = some old → old ≤ until_) ∧
      (until_ ≤ now + longestCooldown ∨ key.cooldownUntil = some until_) := by
  let next := now + Vault.failureDelay retryAfter
    (saturatingAdd key.failureCount 1)
  have within : next ≤ now + longestCooldown :=
    Int.add_le_add_left (failureDelay_le _ _) now
  cases cooling : key.cooldownUntil with
  | none =>
      refine ⟨next, by simp [Vault.applyFailure, live, cooling, next], ?_,
        .inl within⟩
      intro old isOld
      cases isOld
  | some old =>
      refine ⟨max old next,
        by simp [Vault.applyFailure, live, cooling, next], ?_, ?_⟩
      · intro same isSame
        cases isSame
        exact le_max_left _ _
      · cases max_choice old next with
        | inl keeps => exact .inr (congrArg some keeps.symm)
        | inr extends_ => exact .inl (extends_.trans_le within)

theorem retired_applyFailure (retryAfter : Option Duration)
    (now : Timestamp) :
    (Vault.applyFailure retryAfter now key).retired = key.retired := by
  simp only [Vault.applyFailure]
  split <;> rfl

theorem cooled {steps : List HealthStep} (moves : step.Moves key after)
    (cooled : key.Cooled (lastFailure key.id steps))
    (later : ∀ earlier ∈ steps, earlier.now ≤ step.now) :
    after.Cooled (lastFailure key.id (steps ++ [step])) := by
  -- An old bound is still one when the clock has not gone back.
  have carried : ∀ until_, key.cooldownUntil = some until_ →
      ∃ failedAt, lastFailure key.id (steps ++ [step]) = some failedAt ∧
        until_ ≤ failedAt + longestCooldown := by
    intro until_ cooling
    obtain ⟨failedAt, isLast, within⟩ := cooled.bounded until_ cooling
    rw [lastFailure_snoc]
    split
    · obtain ⟨earlier, member, rfl⟩ := lastFailure_mem isLast
      exact ⟨step.now, rfl,
        within.trans (Int.add_le_add_right (later earlier member) _)⟩
    · exact ⟨failedAt, isLast, within⟩
  cases moves with
  | kept _ retired _ cooldown =>
      refine ⟨?_, ?_⟩
      · rw [retired, cooldown]
        exact cooled.retired
      · rw [cooldown]
        exact carried
  | cleared _ _ cooldown _ => exact .of_none cooldown
  | failed retryAfter fails =>
      cases retired : key.retired with
      | true => exact .of_none (by simp [Vault.applyFailure, retired])
      | false =>
          obtain ⟨until_, isUntil, _, bound⟩ :=
            applyFailure_live retryAfter step.now retired
          refine ⟨?_, ?_⟩
          · rw [retired_applyFailure, retired]
            intro impossible
            cases impossible
          · intro other isOther
            cases isUntil.symm.trans isOther
            cases bound with
            | inl within =>
                exact ⟨step.now, by rw [lastFailure_snoc, if_pos fails], within⟩
            | inr unchanged => exact carried until_ unchanged

theorem lengthens {last : Option Timestamp} (moves : step.Moves key after)
    (cooled : key.Cooled last) (fails : step.fails key.id = true)
    {old : Timestamp} (cooling : key.cooldownUntil = some old) :
    ∃ until_, after.cooldownUntil = some until_ ∧ old ≤ until_ := by
  cases moves with
  | kept _ _ _ cooldown => exact ⟨old, cooldown.trans cooling, le_refl old⟩
  | cleared _ clears _ _ =>
      rw [fails_of_clears clears] at fails
      cases fails
  | failed retryAfter _ =>
      have live : key.retired = false := by
        cases retired : key.retired with
        | false => rfl
        | true =>
            rw [cooled.retired retired] at cooling
            cases cooling
      obtain ⟨until_, isUntil, lengthens, _⟩ :=
        applyFailure_live retryAfter step.now live
      exact ⟨until_, isUntil, lengthens old cooling⟩

theorem clears_of_none {last : Option Timestamp} (moves : step.Moves key after)
    (cooled : key.Cooled last) (cooling : key.cooldownUntil ≠ none)
    (cleared : after.cooldownUntil = none) : step.clears key.id = true := by
  cases moves with
  | kept _ _ _ cooldown => exact absurd (cooldown.symm.trans cleared) cooling
  | cleared _ clears _ _ => exact clears
  | failed retryAfter fails =>
      obtain ⟨old, isOld⟩ := Option.ne_none_iff_exists'.mp cooling
      obtain ⟨until_, isUntil, _⟩ :=
        lengthens (.failed retryAfter fails) cooled fails isOld
      cases isUntil.symm.trans cleared

end HealthStep.Moves

def VaultWorld.CooledAfter (id : Uuid) (steps : List HealthStep)
    (world : VaultWorld) : Prop :=
  ∀ key, world.memory.keyOf id = some key → key.Cooled (lastFailure id steps)

theorem VaultFile.id_of_keyOf {id : Uuid} {state : VaultFile} {key : StoredKey}
    (found : state.keyOf id = some key) : key.id = id :=
  of_decide_eq_true (List.find?_some found :)

theorem VaultWorld.replayHealth_snoc (primitives : Primitives)
    (masterKey : MasterKey) (world : VaultWorld) (steps : List HealthStep)
    (step : HealthStep) :
    world.replayHealth primitives masterKey (steps ++ [step]) =
      (world.replayHealth primitives masterKey steps).attempt primitives
        masterKey step.attempt := by
  simp [replayHealth, replay]

theorem VaultWorld.CooledAfter.snoc {primitives : Primitives}
    {masterKey : MasterKey} {world : VaultWorld} {id : Uuid}
    {steps : List HealthStep} (cooled : world.CooledAfter id steps)
    (step : HealthStep) (later : ∀ earlier ∈ steps, earlier.now ≤ step.now) :
    (world.attempt primitives masterKey step.attempt).CooledAfter id
      (steps ++ [step]) := by
  intro after isAfter
  have relation := step.keyOf_attempt primitives masterKey world id
  rw [isAfter] at relation
  cases found : world.memory.keyOf id with
  | none =>
      rw [found] at relation
      cases relation
  | some key =>
      rw [found] at relation
      cases relation with
      | some moves =>
          have same := VaultFile.id_of_keyOf found
          exact same ▸ moves.cooled (same ▸ cooled key found) later

/-- The clock does not go back. -/
def Ordered (steps : List HealthStep) : Prop :=
  steps.Pairwise fun earlier later => earlier.now ≤ later.now

instance (steps : List HealthStep) : Decidable (Ordered steps) :=
  inferInstanceAs (Decidable (List.Pairwise _ steps))

theorem VaultWorld.cooled_replayHealth (primitives : Primitives)
    (masterKey : MasterKey) {world : VaultWorld} {id : Uuid}
    (fresh : world.memory.cooldownOf id = none) {steps : List HealthStep}
    (ordered : Ordered steps) :
    (world.replayHealth primitives masterKey steps).CooledAfter id steps := by
  induction steps using List.reverseRecOn with
  | nil =>
      intro key found
      change world.memory.keyOf id = some key at found
      apply StoredKey.Cooled.of_none
      simpa [VaultFile.cooldownOf, found] using fresh
  | append_singleton steps step induction =>
      obtain ⟨front, _, later⟩ := List.pairwise_append.mp ordered
      rw [replayHealth_snoc]
      apply (induction front).snoc
      intro earlier member
      exact later earlier member step (List.mem_singleton_self step)

/-- At every point of a run a failure does not shorten the cooldown, only what
is meant to clears it, and it ends no later than five minutes after the last
failure. -/
theorem VaultWorld.cooldown_bounded (primitives : Primitives)
    (masterKey : MasterKey) (world : VaultWorld) (id : Uuid)
    (fresh : world.memory.cooldownOf id = none) (steps : List HealthStep)
    (ordered : Ordered steps) :
    let cooldownAfter := fun taken =>
      (world.replayHealth primitives masterKey taken).memory.cooldownOf id
    (∀ taken step, taken ++ [step] <+: steps →
      (∀ old, step.fails id = true → cooldownAfter taken = some old →
        ∃ until_, cooldownAfter (taken ++ [step]) = some until_ ∧
          old ≤ until_) ∧
      (cooldownAfter taken ≠ none → cooldownAfter (taken ++ [step]) = none →
        step.clears id = true)) ∧
    ∀ taken, taken <+: steps → ∀ until_, cooldownAfter taken = some until_ →
      ∃ failedAt, lastFailure id taken = some failedAt ∧
        until_ ≤ failedAt + Duration.seconds 300 := by
  intro cooldownAfter
  have cooled : ∀ taken, taken <+: steps →
      (world.replayHealth primitives masterKey taken).CooledAfter id taken := by
    intro taken isPrefix
    exact cooled_replayHealth primitives masterKey fresh
      (ordered.sublist isPrefix.sublist)
  refine ⟨?_, ?_⟩
  · intro taken step isPrefix
    have cooledBefore :=
      cooled taken ((List.prefix_append taken [step]).trans isPrefix)
    have relation := step.keyOf_attempt primitives masterKey
      (world.replayHealth primitives masterKey taken) id
    simp only [cooldownAfter, VaultFile.cooldownOf, replayHealth_snoc]
    cases found :
        (world.replayHealth primitives masterKey taken).memory.keyOf id with
    | none => simp
    | some key =>
        rw [found] at relation
        have same := VaultFile.id_of_keyOf found
        generalize ((world.replayHealth primitives masterKey taken).attempt
          primitives masterKey step.attempt).memory.keyOf id = after?
          at relation ⊢
        cases relation with
        | some moves =>
            refine ⟨?_, ?_⟩
            · intro old fails cooling
              exact moves.lengthens (cooledBefore key found) (same ▸ fails)
                cooling
            · intro cooling cleared
              exact same ▸ moves.clears_of_none (cooledBefore key found) cooling
                cleared
  · intro taken isPrefix until_ cooling
    obtain ⟨key, found, isUntil⟩ := Option.bind_eq_some_iff.mp cooling
    exact (cooled taken isPrefix key found).bounded until_ isUntil

namespace Cooldown.Sample

def key : StoredKey where
  id := 1
  label := "key"
  fingerprint := ""
  nonce := ""
  ciphertext := ""
  enabled := true
  verified := true
  retired := false
  cooldownUntil := none
  requestCount := 0
  failureCount := 0

def world : VaultWorld where
  memory := { VaultFile.empty with keys := [key] }
  disk := { temporary := none, committed := none }

def failure (retryAfter : Option Duration) (now : Timestamp) : HealthStep where
  key := 1
  operation := .recordFailure retryAfter
  now
  fault := none

def steps : List HealthStep :=
  [failure (some (Duration.seconds 1000)) 0, failure none (Duration.seconds 1)]

/-- A second failure with a short delay of its own keeps the first one's. -/
theorem cooldown_bounded_steps :
    Ordered steps ∧
      (∃ until_, (world.replayHealth (.tabulated []) (Vector.replicate 32 0)
          steps).memory.cooldownOf 1 = some until_ ∧
        Duration.seconds 300 ≤ until_) ∧
      ∃ failedAt, lastFailure 1 steps = some failedAt ∧
        Duration.seconds 300 ≤ failedAt + Duration.seconds 300 := by
  have bounded := VaultWorld.cooldown_bounded (.tabulated [])
    (Vector.replicate 32 0) world 1 rfl steps (by decide)
  refine ⟨by decide, ?_, ?_⟩
  · exact (bounded.1 (steps.take 1) (failure none (Duration.seconds 1))
      List.prefix_rfl).1 (Duration.seconds 300) rfl rfl
  · exact bounded.2 steps List.prefix_rfl (Duration.seconds 300) rfl

end Cooldown.Sample

end NvidiaBuildLb.Core
