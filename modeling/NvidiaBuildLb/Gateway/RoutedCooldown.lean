import NvidiaBuildLb.Gateway.ClientUpdates
import NvidiaBuildLb.Gateway.KeyRouting
import NvidiaBuildLb.Gateway.RoutingPolicy

namespace NvidiaBuildLb.Gateway

open Foundation NvidiaBuildLb.Core

/-! The cooldown that a routing policy asks for, and how long routing leaves a key
out that fails under it. -/

section Rows

variable {primitives : Primitives} {masterKey : MasterKey} {env : CallEnvironment}
  {store : VaultStore} {database : Database} {closure : Closure ε α}

/-- A call leaves the rows of its sync if it commits, and the old ones if not. -/
inductive MutateRows (primitives : Primitives) (masterKey : MasterKey) (env : CallEnvironment)
    (store : VaultStore) (database : Database) (closure : Closure ε α) :
    VaultStore → Prop
  | committed {ended : VaultStore} {result : α} {vault : VaultWorld}
      {before current : VaultSyncSnapshot} {recorded : Option Uuid} {rows : Database}
      (commits : store.commits primitives masterKey env closure (fun _ => none) = true)
      (awaited : env.dropped ≠ some .beforeCommit)
      (ran : closure.run primitives masterKey store.vault = (.ok result, vault))
      (beforeOut : snapshotOf store.vault.memory = .ok before)
      (currentOut : snapshotOf vault.memory = .ok current)
      (synced : syncDatabaseDelta env.now env.auditId before current none env.refuses .received
        database = (.ok recorded, rows))
      (present : ended.database = some rows) :
      MutateRows primitives masterKey env store database closure ended
  | unchanged {ended : VaultStore}
      (commits : store.commits primitives masterKey env closure (fun _ => none) = false)
      (present : ended.database = some database)
      (memory : ended.vault.memory = store.vault.memory ∨
        ended.vault.memory = (closure.run primitives masterKey store.vault).2.memory) :
      MutateRows primitives masterKey env store database closure ended

private theorem commits_of_ran {result : α} {vault : VaultWorld}
    (present : store.database = some database)
    (ran : closure.run primitives masterKey store.vault = (.ok result, vault)) :
    store.commits primitives masterKey env closure (fun _ => none) =
      match snapshotOf vault.memory, snapshotOf store.vault.memory with
      | .ok current, .ok before => env.dropped ≠ some .beforeCommit &&
          (syncDatabaseDelta env.now env.auditId before current none env.refuses .received
            database).1.isOk
      | _, _ => false := by
  unfold VaultStore.commits
  cases currentOut : snapshotOf vault.memory <;> cases snapshotOf store.vault.memory <;>
    simp only [ran, present, currentOut]

theorem mutate_rows (present : store.database = some database) :
    MutateRows primitives masterKey env store database closure
      (store.mutate primitives masterKey env closure).store := by
  unfold VaultStore.mutate VaultStore.operate
  cases ran : closure.run primitives masterKey store.vault with
  | mk result vault =>
  cases result with
  | error error =>
      have aborts : store.commits primitives masterKey env closure (fun _ => none) = false := by
        unfold VaultStore.commits
        simp only [ran, present]
      exact .unchanged aborts present (.inl rfl)
  | ok result =>
  have commits := @commits_of_ran _ _ primitives masterKey env store database closure result
    vault present ran
  have ends := syncUnlocked_ends env store.vault.memory none { store with vault }
  simp only
  generalize VaultStore.syncUnlockedWithAudit env store.vault.memory none
    { store with vault } = synced at ends ⊢
  cases ends with
  | absent missing =>
      rw [present] at missing
      cases missing
  | unexported failure refused =>
      refine .unchanged ?_ present (.inl rfl)
      rw [commits]
      cases currentOut : snapshotOf vault.memory with
      | error error => rfl
      | ok current =>
          cases beforeOut : snapshotOf store.vault.memory with
          | error error => rfl
          | ok before => exact absurd currentOut (refused before current beforeOut)
  | failed failure observed isPresent currentOut beforeOut aborted =>
      cases present.symm.trans isPresent
      refine .unchanged ?_ present (.inl rfl)
      rw [commits, currentOut, beforeOut]
      simp only [aborted, Bool.and_false]
  | dropped currentOut beforeOut uncommitted =>
      refine .unchanged ?_ present (.inr (by rw [ran]))
      rw [commits, currentOut, beforeOut]
      simp [uncommitted]
  | unheard failure isPresent currentOut beforeOut took waited lost =>
      cases present.symm.trans isPresent
      refine .committed ?_ (by simp [waited]) ran beforeOut currentOut took rfl
      rw [commits, currentOut, beforeOut]
      simp [took, waited, Except.isOk, Except.toBool]
  | committed isPresent currentOut beforeOut took kept observed =>
      cases present.symm.trans isPresent
      refine .committed ?_ kept ran beforeOut currentOut took ?_
      · rw [commits, currentOut, beforeOut]
        simp [took, kept, Except.isOk, Except.toBool]
      · rcases observed with unobserved | ⟨isReturned, -⟩
        · rw [unobserved]
        · rw [isReturned]

end Rows

/-- What is left of a call that reports on a key: the rows of some vault, with the
key's row moved if the call commits.  While the row is out of routing, memory does
not bring it back. -/
structure Reported (id : Uuid) (commits : Bool) (row after : KeyLifecycle)
    (ended : VaultStore) (rows : Database) (entry : UpstreamKeyRow) : Prop where
  present : ended.database = some rows
  found : rows.upstreamKeys.find? id = some entry
  kept : ∃ state, Kept state (some rows)
  moved : entry.lifecycle = if commits then after else row
  backed : ∀ until_, entry.lifecycle.Out until_ → ended.Backed id entry.lifecycle

section Report

variable {primitives : Primitives} {masterKey : MasterKey} {env : CallEnvironment}
  {store : VaultStore} {database : Database} {id : Uuid} {row : UpstreamKeyRow}
  {key : StoredKey}

theorem Kept.backed (present : store.database = some database)
    (kept : Kept store.vault.memory (some database))
    (found : database.upstreamKeys.find? id = some row) : store.Backed id row.lifecycle := by
  obtain ⟨key, isKey, isStored, -⟩ := kept.key found
  refine ⟨kept.keyIds, ⟨key, isKey, ?_⟩, database, present, ?_⟩
  · rw [isStored]
    exact ⟨fun retired => retired, fun unverified => .inr (.inl unverified)⟩
  · rw [Database.keyLifecycle, found, Option.map_some]

/-- A call whose closure runs one operation on the vault and writes nothing else. -/
structure RunsOne (primitives : Primitives) (masterKey : MasterKey) (id : Uuid)
    (operation : VaultOperation) (closure : Closure ε α) (world : VaultWorld) : Prop where
  fresh : closure.FreshFrom primitives masterKey world
  spares : closure.Spares primitives masterKey id world
  memory : (closure.run primitives masterKey world).2.memory =
    (operation.stage primitives masterKey world.memory).state
  operated : Operated primitives masterKey world.memory
    (operation.adds primitives masterKey world.memory)
    (operation.stage primitives masterKey world.memory).state

theorem mutate_reported {closure : Closure ε α} {operation : VaultOperation}
    {after : StoredKey} (present : store.database = some database)
    (kept : Kept store.vault.memory (some database))
    (found : database.upstreamKeys.find? id = some row)
    (isKey : store.vault.memory.keyOf id = some key)
    (isStored : row.lifecycle = storedLifecycle key)
    (runs : RunsOne primitives masterKey id operation closure store.vault)
    (isAfter : (operation.stage primitives masterKey store.vault.memory).state.keyOf id =
      some after)
    (lags : ∀ until_, row.lifecycle.Out until_ → Backs row.lifecycle after) :
    ∃ rows entry, Reported id
      (store.commits primitives masterKey env closure fun _ => none) row.lifecycle
      (storedLifecycle after) (store.mutate primitives masterKey env closure).store rows
      entry := by
  have backed := Kept.backed present kept found
  have advances := Closure.run_advances primitives masterKey runs.fresh
  have rows := @mutate_rows _ _ primitives masterKey env store database closure present
  have withholds : env.dropped ≠ some .beforeCommit →
      (store.mutate primitives masterKey env closure).store.Withholds id row.lifecycle :=
    backed.operate runs.fresh runs.spares
  generalize (store.mutate primitives masterKey env closure).store = ended at rows withholds ⊢
  cases rows with
  | @committed result vault before current recorded rows commits awaited ran beforeOut
      currentOut synced isRows =>
      have memory := runs.memory
      rw [ran] at memory advances
      obtain ⟨later, isBacked, -⟩ := withholds awaited
      obtain ⟨isDatabase, isPresent, isLater⟩ := isBacked.stored
      cases isRows.symm.trans isPresent
      obtain ⟨was, is, next, wasShown, isShown, isNext, moved⟩ :=
        syncDatabaseDelta_keyMoved advances kept.keyIds beforeOut currentOut isKey
          (memory ▸ isAfter) (by rw [Database.keyLifecycle, found, Option.map_some]) synced
      rw [isStored, ← wasShown.lifecycle] at moved
      have follows := moved.followed.trans isShown.lifecycle
      cases isLater.symm.trans isNext
      obtain ⟨entry, isEntry, isLifecycle⟩ := Option.map_eq_some_iff.mp isNext
      refine ⟨rows, entry, isPresent, isEntry, ⟨_, kept.synced runs.operated beforeOut
        (memory ▸ currentOut) synced⟩, ?_, ?_⟩
      · rw [commits, if_pos rfl, isLifecycle, follows]
      · intro _ _
        rw [isLifecycle]
        exact isBacked
  | unchanged commits isRows memory =>
      refine ⟨database, row, isRows, found, ⟨_, kept⟩, by rw [commits]; rfl, ?_⟩
      intro until_ out
      have held : database.keyLifecycle id = some row.lifecycle := by
        rw [Database.keyLifecycle, found, Option.map_some]
      rcases memory with same | operated
      · exact ⟨same ▸ backed.ids, same ▸ backed.memory, database, isRows, held⟩
      · refine ⟨operated ▸ advances.keyIds backed.ids, ⟨after, ?_, lags until_ out⟩, database,
          isRows, held⟩
        rw [operated, runs.memory]
        exact isAfter

end Report

section Reports

variable {primitives : Primitives} {masterKey : MasterKey} {report : HealthReport}
  {id : Uuid} {world : VaultWorld} {key : StoredKey}

private theorem failureClosure_runs (retryAfter : Option Duration) :
    RunsOne primitives masterKey id (.recordFailure id retryAfter report.now)
      (failureClosure report id retryAfter) world where
  fresh := by
    refine ⟨trivial, ?_⟩
    dsimp only
    split <;> trivial
  spares := by
    refine ⟨by simp [VaultOperation.recovers], ?_⟩
    dsimp only
    split <;> trivial
  memory := by
    simp only [failureClosure, Closure.run]
    split <;> rfl
  operated := .step (.recordFailure id retryAfter report.now) (.refl world.memory) trivial trivial

private theorem quarantineClosure_runs :
    RunsOne primitives masterKey id (.quarantine id) (quarantineClosure report id) world where
  fresh := ⟨trivial, trivial⟩
  spares := ⟨by simp [VaultOperation.recovers], trivial⟩
  memory := rfl
  operated := .step (.quarantine id) (.refl world.memory) trivial trivial

private theorem micros_max (left right : Timestamp) :
    micros (max left right) = max (micros left) (micros right) :=
  Monotone.map_max fun _ _ earlier => Int.ediv_le_ediv (by decide) earlier

theorem storedLifecycle_applyFailure_out_iff (retryAfter : Option Duration) (now : Timestamp)
    (until_ : Micros) :
    (storedLifecycle (Vault.applyFailure retryAfter now key)).Out until_ ↔
      (storedLifecycle key).Out until_ ∨ until_ ≤ micros (now +
        Vault.failureDelay retryAfter (saturatingAdd key.failureCount 1)) := by
  cases retired : key.retired with
  | true =>
      simp [KeyLifecycle.Out, storedLifecycle, HealthStep.Moves.retired_applyFailure, retired]
  | false =>
      cases cooling : key.cooldownUntil with
      | none => simp [KeyLifecycle.Out, storedLifecycle, Vault.applyFailure, retired, cooling]
      | some old =>
          simp [KeyLifecycle.Out, storedLifecycle, Vault.applyFailure, retired, cooling,
            micros_max, or_assoc]

end Reports

namespace RoutingPolicyPatch

/-- The failure is one that is retried under the policy, and its answer, if
there is one, has no Retry-After header. -/
def Retries (patch : RoutingPolicyPatch) : ProviderFailure → Prop
  | .transport => True
  | .answered status retryAfter => retryAfter = none ∧
      (rejectsCredential status = true ∨ status ∈ patch.retryableStatuses)

/-- The cooldown a failure brings is no shorter than the policy's.  Without
the policy's row the built-in one counts; a failure without an answer doubles
its delay up to 64 seconds. -/
def CoveredBy (patch : RoutingPolicyPatch) (readable : Bool)
    (failureCount : Nat) : ProviderFailure → Prop
  | .transport => patch.seconds ≤ 1 <<< min (saturatingAdd failureCount 1) 6
  | .answered status _ => rejectsCredential status = true ∨
      if readable then patch.seconds ≤ 300
      else patch.seconds ≤ 2 ∧
        status ∈ RuntimeRoutingPolicy.builtIn.retryableStatuses

/-- What is loaded once the patch is stored, if its row can be read. -/
def inForce (patch : RoutingPolicyPatch) (rows : List RoutingPolicyRow) (readable : Bool) :
    RuntimeRoutingPolicy :=
  loadRoutingPolicy (if readable then some (updateRoutingPolicy patch rows) else none)

theorem inForce_eq {patch : RoutingPolicyPatch} (accepted : patch.accepted = true)
    (rows : List RoutingPolicyRow) (readable : Bool) :
    patch.inForce rows readable = if readable then
      { retryableStatuses := patch.retryableStatuses
        defaultCooldown := Duration.seconds patch.seconds }
      else .builtIn := by
  cases readable with
  | true => exact loadRoutingPolicy_update accepted rows
  | false => rfl

end RoutingPolicyPatch

section Honoured

variable (primitives : Primitives) (masterKey : MasterKey) (report : HealthReport) (id : Uuid)

def RuntimeRoutingPolicy.reportCommits (policy : RuntimeRoutingPolicy)
    (failure : ProviderFailure) (store : VaultStore) : Bool :=
  let commits := fun closure : Closure VaultError (Option Timestamp) =>
    store.commits primitives masterKey report.env closure fun _ => none
  match failure with
  | .transport => commits (failureClosure report id none)
  | .answered status retryAfter =>
      if rejectsCredential status then
        commits (quarantineClosure report id)
      else
        policy.retryableStatuses.contains status &&
          commits (failureClosure report id (retryAfter.or (some policy.defaultCooldown)))

end Honoured

private theorem micros_seconds_le {now : Int} {asked given : Nat} :
    (now + (asked : Int) * 1000000000) / 1000 ≤ (now + (given : Int) * 1000000000) / 1000 ↔
      asked ≤ given := by
  omega

private theorem before_whole {now : Int} {seconds : Nat} (positive : 1 ≤ seconds) :
    now ≤ (now + (seconds : Int) * 1000000000) / 1000 * 1000 - 1 := by
  omega

theorem failureDelay_asked (asked count : Nat) :
    Vault.failureDelay (some (Duration.seconds asked)) count =
      Duration.seconds (min asked 300 : Nat) := by
  have shown : max 0 (min ((asked : Int) * 1000000000) (300 * 1000000000)) =
      ((min asked 300 : Nat) : Int) * 1000000000 := by
    omega
  exact shown

section Honoured

variable {primitives : Primitives} {masterKey : MasterKey} {report : HealthReport} {id : Uuid}
  {store : VaultStore} {database : Database} {row : UpstreamKeyRow}

/-- A report that records a failure keeps the key out up to a later time exactly
if its row does already, or the report commits and its delay reaches so far. -/
theorem recordFailure_staysOut_iff (present : store.database = some database)
    (kept : Kept store.vault.memory (some database))
    (found : database.upstreamKeys.find? id = some row) (retryAfter : Option Duration)
    {until_ : Timestamp} (later : report.now ≤ lastBefore until_) :
    (recordFailure primitives masterKey report id retryAfter store).store.StaysOut primitives
        masterKey id report.now until_ ↔
      row.lifecycle.Out (micros until_) ∨
        (store.commits primitives masterKey report.env (failureClosure report id retryAfter)
          (fun _ => none) = true ∧
        micros until_ ≤ micros (report.now + Vault.failureDelay retryAfter
          (saturatingAdd row.failureCount.toNat 1))) := by
  obtain ⟨key, isKey, isStored, failures⟩ := kept.key found
  have lags : ∀ until_, row.lifecycle.Out until_ →
      Backs row.lifecycle (Vault.applyFailure retryAfter report.now key) := by
    intro _ _
    rw [isStored]
    refine ⟨?_, ?_⟩
    · rw [HealthStep.Moves.retired_applyFailure]
      exact fun retired => retired
    · rw [StoredKey.verified_applyFailure]
      exact fun unverified => .inr (.inl unverified)
  have isAfter : ((VaultOperation.recordFailure id retryAfter report.now).stage primitives
      masterKey store.vault.memory).state.keyOf id =
        some (Vault.applyFailure retryAfter report.now key) := by
    simp only [VaultOperation.stage, Staged.state_map, Vault.keyOf_recordFailure, isKey,
      Option.map_some]
  obtain ⟨rows, entry, reported⟩ := @mutate_reported primitives masterKey report.env store
    database id row key _ _ (failureClosure report id retryAfter) _ _ present kept found isKey
    isStored (failureClosure_runs retryAfter) isAfter lags
  obtain ⟨state, keptAfter⟩ := reported.kept
  have count : row.failureCount.toNat = key.failureCount := by rw [failures, Int.toNat_natCast]
  have stays := @VaultStore.staysOut_iff primitives masterKey
    (recordFailure primitives masterKey report id retryAfter store).store id rows entry state
    report.now until_ reported.present reported.found keptAfter (reported.backed _) later
  rw [stays, reported.moved]
  cases store.commits primitives masterKey report.env (failureClosure report id retryAfter)
      (fun _ => none) with
  | false => simp
  | true =>
      rw [if_pos rfl, storedLifecycle_applyFailure_out_iff, count, isStored]
      simp

theorem quarantineKey_staysOut_iff (present : store.database = some database)
    (kept : Kept store.vault.memory (some database))
    (found : database.upstreamKeys.find? id = some row)
    {until_ : Timestamp} (later : report.now ≤ lastBefore until_) :
    (quarantineKey primitives masterKey report id store).store.StaysOut primitives
        masterKey id report.now until_ ↔
      row.lifecycle.Out (micros until_) ∨
        store.commits primitives masterKey report.env (quarantineClosure report id)
          (fun _ => none) = true := by
  obtain ⟨key, isKey, isStored, -⟩ := kept.key found
  obtain ⟨after, isAfter, retired, taken⟩ := Vault.keyOf_quarantine isKey
  have out : ∀ until_, (storedLifecycle after).Out until_ := by
    intro until_
    cases isRetired : key.retired with
    | true => exact .inl (retired.trans isRetired)
    | false => exact .inr (.inl (taken isRetired).1)
  have lags : ∀ until_, row.lifecycle.Out until_ → Backs row.lifecycle after := by
    rw [isStored]
    intro until_ isOut
    refine ⟨fun isRetired => retired.symm.trans isRetired, ?_⟩
    intro _
    rcases isOut with isRetired | unverified | ⟨old, cooling, -⟩
    · exact .inl (retired.trans isRetired)
    · exact .inr (.inl unverified)
    · cases isRetired : key.retired with
      | true => exact .inl (retired.trans isRetired)
      | false => exact .inr (.inr ⟨(taken isRetired).2, by simp [cooling]⟩)
  have isStaged : ((VaultOperation.quarantine id).stage primitives masterKey
      store.vault.memory).state.keyOf id = some after := by
    simp only [VaultOperation.stage, Staged.state_map]
    exact isAfter
  obtain ⟨rows, entry, reported⟩ := @mutate_reported primitives masterKey report.env store
    database id row key _ _ (quarantineClosure report id) _ _ present kept found isKey isStored
    quarantineClosure_runs isStaged lags
  obtain ⟨state, keptAfter⟩ := reported.kept
  have stays := @VaultStore.staysOut_iff primitives masterKey
    (quarantineKey primitives masterKey report id store).store id rows entry state
    report.now until_ reported.present reported.found keptAfter (reported.backed _) later
  rw [stays, reported.moved]
  cases store.commits primitives masterKey report.env (quarantineClosure report id)
      (fun _ => none) with
  | false => simp
  | true => simp [out]

private theorem quarantines {policy : RuntimeRoutingPolicy} {status : UInt16}
    {retryAfter : Option Duration} (rejects : rejectsCredential status = true) :
    policy.reportFailure primitives masterKey report id (.answered status retryAfter) store =
        quarantineKey primitives masterKey report id store ∧
      policy.reportCommits primitives masterKey report id (.answered status retryAfter) store =
        store.commits primitives masterKey report.env (quarantineClosure report id)
          fun _ => none := by
  simp only [RuntimeRoutingPolicy.reportFailure, RuntimeRoutingPolicy.reportCommits, rejects,
    if_true, and_self]

private theorem records {policy : RuntimeRoutingPolicy} {status : UInt16}
    (accepts : rejectsCredential status = false)
    (listed : policy.retryableStatuses.contains status = true) :
    policy.reportFailure primitives masterKey report id (.answered status none) store =
        recordFailure primitives masterKey report id (some policy.defaultCooldown) store ∧
      policy.reportCommits primitives masterKey report id (.answered status none) store =
        store.commits primitives masterKey report.env
          (failureClosure report id (some policy.defaultCooldown)) fun _ => none := by
  simp only [RuntimeRoutingPolicy.reportFailure, RuntimeRoutingPolicy.reportCommits, accepts,
    listed, Bool.false_eq_true, if_false, if_true, Bool.true_and, Option.none_or, and_self]

private theorem reportsNothing {policy : RuntimeRoutingPolicy} {status : UInt16}
    {retryAfter : Option Duration} (accepts : rejectsCredential status = false)
    (unlisted : policy.retryableStatuses.contains status = false) :
    (policy.reportFailure primitives masterKey report id (.answered status retryAfter)
        store).store = store ∧
      policy.reportCommits primitives masterKey report id (.answered status retryAfter) store =
        false := by
  simp only [RuntimeRoutingPolicy.reportFailure, RuntimeRoutingPolicy.reportCommits, accepts,
    unlisted, Bool.false_eq_true, if_false, Bool.false_and, and_self]

end Honoured

/-- The policy an operator set is honoured on a failure exactly when the row of
the key is out of routing anyway, or the report of the failure commits and its
cooldown is long enough. -/
theorem cooldown_honoured_iff (primitives : Primitives) (masterKey : MasterKey)
    {patch : RoutingPolicyPatch} (accepted : patch.accepted = true)
    (rows : List RoutingPolicyRow) (readable : Bool) {failure : ProviderFailure}
    (retries : patch.Retries failure) (report : HealthReport) {store : VaultStore}
    {database : Database} (present : store.database = some database)
    (kept : Kept store.vault.memory (some database)) {id : Uuid} {row : UpstreamKeyRow}
    (found : database.upstreamKeys.find? id = some row) :
    ((patch.inForce rows readable).reportFailure primitives masterKey report id failure
        store).store.StaysOut primitives masterKey id report.now
        (report.now + Duration.seconds patch.seconds) ↔
      row.lifecycle.Out (micros (report.now + Duration.seconds patch.seconds)) ∨
        ((patch.inForce rows readable).reportCommits primitives masterKey report id failure
            store = true ∧
          patch.CoveredBy readable row.failureCount.toNat failure) := by
  have positive := (RoutingPolicyPatch.accepted_iff.mp accepted).1.1
  have later : report.now ≤ lastBefore (report.now + Duration.seconds patch.seconds) :=
    before_whole positive
  have reaches : ∀ given : Nat, micros (report.now + Duration.seconds patch.seconds) ≤
      micros (report.now + Duration.seconds given) ↔ patch.seconds ≤ given :=
    fun given => micros_seconds_le
  cases failure with
  | transport =>
      refine (recordFailure_staysOut_iff present kept found none later).trans ?_
      exact or_congr_right (and_congr_right fun _ => reaches _)
  | answered status retryAfter =>
      obtain ⟨rfl, isRetried⟩ := retries
      cases rejects : rejectsCredential status with
      | true =>
          rw [(quarantines rejects).1, (quarantines rejects).2]
          refine (quarantineKey_staysOut_iff present kept found later).trans ?_
          simp only [RoutingPolicyPatch.CoveredBy, rejects, true_or, and_true]
      | false =>
          have member : status ∈ patch.retryableStatuses :=
            isRetried.resolve_left (by simp [rejects])
          have policy := patch.inForce_eq accepted rows readable
          generalize patch.inForce rows readable = inForce at policy
          cases listed : inForce.retryableStatuses.contains status with
          | true =>
              rw [(records rejects listed).1, (records rejects listed).2]
              refine (recordFailure_staysOut_iff present kept found _ later).trans ?_
              apply or_congr_right
              apply and_congr_right
              intro _
              rw [List.contains_iff_mem] at listed
              cases readable with
              | true =>
                  rw [policy]
                  simp only [if_true, failureDelay_asked, reaches, le_min_iff,
                    RoutingPolicyPatch.CoveredBy, rejects, Bool.false_eq_true, false_or,
                    and_iff_right_iff_imp]
                  exact fun _ => le_refl _
              | false =>
                  rw [policy] at listed ⊢
                  have short : RuntimeRoutingPolicy.builtIn.defaultCooldown =
                      Duration.seconds (2 : Nat) := rfl
                  simp only [Bool.false_eq_true, if_false] at listed ⊢
                  rw [short, failureDelay_asked, reaches]
                  simp only [RoutingPolicyPatch.CoveredBy, rejects, Bool.false_eq_true,
                    false_or, if_false, listed, and_true]
                  exact Iff.rfl
          | false =>
              rw [(reportsNothing rejects listed).1, (reportsNothing rejects listed).2]
              refine (VaultStore.staysOut_iff present found kept
                (fun _ => Kept.backed present kept found) later).trans ?_
              simp

namespace RoutingPolicy.Sample

def servingKey : StoredKey where
  id := 1
  label := "primary"
  fingerprint := hexEncode (List.replicate 32 7)
  nonce := base64UrlEncode (List.replicate 12 1)
  ciphertext := base64UrlEncode (List.replicate 54 2)
  enabled := true
  verified := true
  retired := false
  cooldownUntil := none
  requestCount := 0
  failureCount := 0

def vaultOf (key : StoredKey) : VaultFile :=
  { VaultFile.empty with keys := [key] }

def worldOf (key : StoredKey) : VaultWorld where
  memory := vaultOf key
  disk := { temporary := none, committed := some (vaultOf key) }

def servingRow : UpstreamKeyRow where
  id := 1
  label := "primary"
  fingerprint := List.replicate 32 7
  ciphertext := List.replicate 54 2
  nonce := List.replicate 12 1
  enabled := true
  verified := true
  retired := false
  cooldownUntil := none
  requestCount := 0
  failureCount := 0
  createdAt := 0
  slotNo := 1

def database : Database :=
  { Database.migrated .empty with
    upstreamKeys := { rows := [servingRow], nodup := by decide } }

def store : VaultStore where
  vault := worldOf servingKey
  database := some database

def report : HealthReport where
  env := quietEnvironment
  now := 0
  fault := none

def patch (seconds : UInt32) : RoutingPolicyPatch where
  retryableStatuses := [429]
  defaultCooldownSeconds := seconds

def ended (seconds : UInt32) : VaultStore :=
  (((patch seconds).inForce [] true).reportFailure (.tabulated []) (Vector.replicate 32 0)
    report 1 (.answered 429 none) store).store

def coolingKey : StoredKey :=
  { servingKey with
    cooldownUntil := some longestCooldown, failureCount := 1 }

private theorem worldOf_exported (cooldownUntil : Option Timestamp)
    (failureCount : Nat) :
    snapshotOf (vaultOf { servingKey with cooldownUntil, failureCount }) = .ok {
        keys := [{
          id := 1
          label := "primary"
          fingerprint := List.replicate 32 7
          nonce := List.replicate 12 1
          ciphertext := List.replicate 54 2
          enabled := true
          verified := true
          retired := false
          cooldownUntil
          requestCount := 0
          failureCount }]
        downstream := []
        cursors := profiles.map fun profile => (profile, 0) } := by
  simp [snapshotOf, vaultOf, servingKey, VaultFile.empty, Vault.keyRecords,
    Vault.keyRecord, Vault.downstreamRecords, Vault.decodeField,
    Vault.routerCursorFor, Bind.bind, Except.bind, Pure.pure, Except.pure]

private theorem store_kept : Kept store.vault.memory (some database) where
  sound := by
    refine ⟨⟨rfl, by decide, List.nodup_singleton _⟩, List.nodup_singleton _, ?_, ?_, ?_⟩
    · intro key member
      cases List.mem_singleton.mp member
      exact fun _ => ⟨rfl, rfl⟩
    · intro key member
      cases List.mem_singleton.mp member
      exact ⟨⟨_, by decide, rfl⟩, ⟨_, by decide, rfl⟩, ⟨_, by decide, rfl⟩⟩
    · intro item member
      cases member
  keyIds := List.nodup_singleton _
  downstreamIds := List.nodup_nil
  stored := by
    intro rows isRows
    cases isRows
    obtain ⟨keysOut, downstreamOut⟩ := snapshotOf_eq_ok (worldOf_exported none 0)
    refine ⟨_, _, keysOut, downstreamOut, List.nodup_singleton _, List.nodup_nil, ?_, rfl⟩
    funext id
    simp only [Database.keyView, database, Table.find?, snapshotView, List.find?_cons,
      List.find?_nil, servingRow]
    cases decide ((1 : Uuid) = id) <;> rfl

private theorem retries (seconds : UInt32) : (patch seconds).Retries (.answered 429 none) :=
  ⟨rfl, .inr (List.mem_singleton_self 429)⟩

section Asked

variable {seconds : UInt32}
  (delay : Vault.failureDelay (some (Duration.seconds (patch seconds).seconds))
    1 = longestCooldown)

include delay

private theorem applied :
    Vault.applyFailure (some (Duration.seconds (patch seconds).seconds)) 0 servingKey =
      coolingKey := by
  have once : saturatingAdd servingKey.failureCount 1 = 1 := by decide
  simp only [Vault.applyFailure, once, delay, coolingKey]
  simp [servingKey]

private theorem ran :
    (failureClosure report 1 (some (Duration.seconds
      (patch seconds).seconds))).run (.tabulated []) (Vector.replicate 32 0)
        store.vault = (.ok (some longestCooldown), worldOf coolingKey) := by
  have applied := applied delay
  have staged : Vault.recordFailure 1 (some (Duration.seconds
      (patch seconds).seconds)) 0 (vaultOf servingKey) =
        .persisting () (vaultOf coolingKey) := by
    have first : decide (servingKey.id = 1) = true := rfl
    simp only [Vault.recordFailure, Vault.editKey, vaultOf, modifyFirst?, first,
      if_true, applied, Staged.map]
  simp only [failureClosure, report, Closure.run, VaultWorld.attempt,
    VaultOperation.stage, store, worldOf, staged]
  rfl

private theorem commits : store.commits (.tabulated []) (Vector.replicate 32 0) report.env
    (failureClosure report 1 (some (Duration.seconds (patch seconds).seconds)))
      (fun _ => none) = true := by
  have before : snapshotOf (worldOf servingKey).memory = _ := worldOf_exported none 0
  have after : snapshotOf (worldOf coolingKey).memory = _ :=
    worldOf_exported (some longestCooldown) 1
  unfold VaultStore.commits
  rw [ran delay]
  simp only [store, before, after]
  decide +kernel

end Asked

private theorem records_seconds {seconds : UInt32}
    (accepted : (patch seconds).accepted = true) :
    ended seconds = (recordFailure (.tabulated []) (Vector.replicate 32 0) report 1
        (some (Duration.seconds (patch seconds).seconds)) store).store ∧
      ((patch seconds).inForce [] true).reportCommits (.tabulated []) (Vector.replicate 32 0)
          report 1 (.answered 429 none) store =
        store.commits (.tabulated []) (Vector.replicate 32 0) report.env
          (failureClosure report 1 (some (Duration.seconds (patch seconds).seconds)))
            fun _ => none := by
  have listed : (patch seconds).retryableStatuses.contains 429 = true := rfl
  unfold ended
  rw [(patch seconds).inForce_eq accepted [] true, if_pos rfl]
  have reported := @records (.tabulated []) (Vector.replicate 32 0) report 1 store
    { retryableStatuses := (patch seconds).retryableStatuses
      defaultCooldown := Duration.seconds (patch seconds).seconds } 429 (by decide) listed
  exact ⟨congrArg CallEnd.store reported.1, reported.2⟩

theorem cooldown_honoured_iff_five_minutes :
    (ended 300).StaysOut (.tabulated []) (Vector.replicate 32 0) 1 report.now
      (report.now + Duration.seconds (patch 300).seconds) := by
  have accepted : (patch 300).accepted = true := by decide
  have found : database.upstreamKeys.find? 1 = some servingRow := by decide
  have reports := (records_seconds accepted).2.trans (commits (by decide))
  exact (cooldown_honoured_iff (.tabulated []) (Vector.replicate 32 0) accepted [] true
    (retries 300) report rfl store_kept found).mpr (.inr ⟨reports, .inr (by decide)⟩)

/-- An hour is accepted and the failure is on record, but five minutes later the
key is eligible again. -/
theorem hour_cut_to_five_minutes :
    (patch 3600).accepted = true ∧
      (patch 3600).Retries (.answered 429 none) ∧
      (∃ rows row, (ended 3600).database = some rows ∧
        rows.upstreamKeys.find? 1 = some row ∧
        row.lifecycle = storedLifecycle coolingKey ∧
        OperationsState.baseEligible longestCooldown row = true) ∧
      ¬ (ended 3600).StaysOut (.tabulated []) (Vector.replicate 32 0) 1 report.now
        (report.now + Duration.seconds (patch 3600).seconds) := by
  have accepted : (patch 3600).accepted = true := by decide
  have found : database.upstreamKeys.find? 1 = some servingRow := by decide
  have isAfter : ((VaultOperation.recordFailure 1 (some (Duration.seconds
      (patch 3600).seconds)) report.now).stage (.tabulated []) (Vector.replicate 32 0)
        store.vault.memory).state.keyOf 1 = some coolingKey := by
    have isServing : store.vault.memory.keyOf 1 = some servingKey := rfl
    simp only [VaultOperation.stage, Staged.state_map, Vault.keyOf_recordFailure, isServing,
      Option.map_some]
    exact congrArg some (applied (by decide))
  obtain ⟨rows, row, reported⟩ := @mutate_reported (.tabulated []) (Vector.replicate 32 0)
    report.env store database 1 servingRow servingKey _ _
    (failureClosure report 1 (some (Duration.seconds (patch 3600).seconds))) _ coolingKey rfl
    store_kept found rfl rfl (failureClosure_runs _) isAfter
    (fun _ _ => ⟨fun retired => retired, fun unverified => .inr (.inl unverified)⟩)
  have isEnded : (ended 3600).database = some rows := by
    rw [(records_seconds accepted).1, recordFailure]
    exact reported.present
  have isCommitted := @commits 3600 (by decide)
  have cools : row.lifecycle = storedLifecycle coolingKey := by
    rw [reported.moved, isCommitted, if_pos rfl]
  have eligible : OperationsState.baseEligible longestCooldown row = true := by
    refine baseEligible_iff.mpr ⟨congrArg KeyLifecycle.enabled cools, ?_⟩
    rw [cools]
    rintro (retired | unverified | ⟨old, cooling, long⟩)
    · cases retired
    · cases unverified
    · cases cooling
      exact absurd long (by decide)
  refine ⟨accepted, retries 3600, ⟨rows, row, isEnded, reported.found, cools, eligible⟩, ?_⟩
  intro staysOut
  have never := staysOut _ (.now _) longestCooldown (by decide) (by decide) rows row isEnded
    reported.found
  rw [eligible] at never
  cases never

end RoutingPolicy.Sample

end NvidiaBuildLb.Gateway
