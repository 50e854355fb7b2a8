import NvidiaBuildLb.Core.Invariant
import NvidiaBuildLb.Gateway.Delta
import Mathlib.Data.List.Sort

namespace NvidiaBuildLb.Gateway

open Foundation NvidiaBuildLb.Core
open Transaction (Acknowledgement)

/-! The vault store: the vault in memory, its file, and the PostgreSQL rows
that are synced with it when the gateway has a database. -/

structure VaultStore where
  vault : VaultWorld
  database : Option Database

/-- What a mutation closure does with the vault it is lent.  What it does next
may depend on all it has seen so far. -/
inductive Closure (ε α : Type) where
  | done (result : Except ε α)
  | inspect (next : VaultFile → Closure ε α)
  | call (operation : VaultOperation) (fault : Option PersistStep)
      (next : Except VaultError VaultValue → Closure ε α)
  | save (fault : Option PersistStep)
      (next : Except VaultError Unit → Closure ε α)

namespace Closure

variable (primitives : Primitives) (masterKey : MasterKey)

def run : Closure ε α → VaultWorld → Except ε α × VaultWorld
  | .done result, world => (result, world)
  | .inspect next, world => (next world.memory).run world
  | .call operation fault next, world =>
      let staged := operation.stage primitives masterKey world.memory
      (next (staged.run fault world.disk).1).run
        (world.attempt primitives masterKey (operation, fault))
  | .save fault next, world =>
      (next (persist world.memory fault world.disk).1).run
        { world with disk := (persist world.memory fault world.disk).2 }

/-- The last state the closure renames over the vault file, if it renames
any. -/
def published : Closure ε α → VaultWorld → Option VaultFile
  | .done _, _ => none
  | .inspect next, world => (next world.memory).published world
  | .call operation fault next, world =>
      let staged := operation.stage primitives masterKey world.memory
      ((next (staged.run fault world.disk).1).published
        (world.attempt primitives masterKey (operation, fault))).or
        (staged.published fault)
  | .save fault next, world =>
      ((next (persist world.memory fault world.disk).1).published
        { world with disk := (persist world.memory fault world.disk).2 }).or
        (if publishes fault then some world.memory else none)

/-- Every identifier the closure has generated is new when it is used. -/
def FreshFrom : Closure ε α → VaultWorld → Prop
  | .done _, _ => True
  | .inspect next, world => (next world.memory).FreshFrom world
  | .call operation fault next, world =>
      let staged := operation.stage primitives masterKey world.memory
      operation.Fresh world.memory ∧
        (next (staged.run fault world.disk).1).FreshFrom
          (world.attempt primitives masterKey (operation, fault))
  | .save fault next, world =>
      (next (persist world.memory fault world.disk).1).FreshFrom
        { world with disk := (persist world.memory fault world.disk).2 }

theorem run_committed (closure : Closure ε α) (world : VaultWorld) :
    (closure.run primitives masterKey world).2.disk.committed =
      (closure.published primitives masterKey world).or
        world.disk.committed := by
  induction closure generalizing world with
  | done result => rfl
  | inspect next induction => exact induction _ world
  | call operation fault next induction =>
      simp only [run, published, induction, Option.or_assoc]
      congr 1
      exact Staged.run_committed fault world.disk _
  | save fault next induction =>
      simp only [run, published, induction, Option.or_assoc]
      congr 1
      rw [persist_committed]
      cases publishes fault <;> rfl

theorem run_advances {closure : Closure ε α} {world : VaultWorld}
    (fresh : closure.FreshFrom primitives masterKey world) :
    Advances world.memory
      (closure.run primitives masterKey world).2.memory := by
  induction closure generalizing world with
  | done result => exact Advances.refl world.memory
  | inspect next induction => exact induction _ fresh
  | call operation fault next induction =>
      exact (VaultOperation.advances primitives masterKey fresh.1).trans
        (induction _ fresh.2)
  | save fault next induction => exact induction _ fresh

end Closure

/-- What surrounds one call: the clock of its transaction, the identifier of
its audit event, the statements the server refuses, whether the answer to its
COMMIT arrives, the step of the rollback's rewrite that fails, and when the
caller drops the call, if it does. -/
inductive Dropped where
  | beforeCommit
  | afterCommit
  deriving DecidableEq, Repr

structure CallEnvironment where
  now : Micros
  auditId : Uuid
  refuses : Nat → Bool
  acknowledgement : Acknowledgement
  rollbackFault : Option PersistStep
  dropped : Option Dropped

/-- The call's sync takes effect exactly when the store learns that it did. -/
def CallEnvironment.Observed (env : CallEnvironment) : Prop :=
  env.dropped ≠ some .beforeCommit ∧
    (env.dropped = none → env.acknowledgement = .received)

/-- Nothing fails and nobody goes away. -/
def quietEnvironment : CallEnvironment where
  now := 0
  auditId := 0
  refuses := fun _ => false
  acknowledgement := .received
  rollbackFault := none
  dropped := none

theorem quietEnvironment_observed : quietEnvironment.Observed := by
  constructor
  · intro dropped
    cases dropped
  · intro _
    rfl

inductive SyncFailure where
  | exported (error : VaultError)
  | database (error : SyncError)
  deriving DecidableEq, Repr

inductive StoreError (ε : Type) where
  | operation (error : ε)
  | synced (context : String) (failure : SyncFailure)
  | rollback (error : VaultError)
  | bail (message : String)
  deriving DecidableEq, Repr

/-- A dropped call returns nothing. -/
structure CallEnd (ε α : Type) where
  returned : Option (Except ε α)
  store : VaultStore

def snapshotOf (state : VaultFile) : Except VaultError VaultSyncSnapshot := do
  let keys ← Vault.keyRecords state
  let downstream ← Vault.downstreamRecords state
  .ok {
    keys
    downstream
    cursors := profiles.map fun profile =>
      (profile, Vault.routerCursorFor profile state) }

namespace VaultStore

/-- The rows a sync leaves, and what its caller sees of it.  A transaction that
is not committed has no effect when it is dropped, and a caller that goes away
after the COMMIT does not wait for its answer. -/
def observeSync (env : CallEnvironment) (store : VaultStore)
    (sync : Acknowledgement → Except SyncError (Option Uuid) × Database) :
    CallEnd SyncFailure (Option Uuid) :=
  match env.dropped with
  | none =>
      let (result, rows) := sync env.acknowledgement
      { returned := some (result.mapError .database)
        store := { store with database := some rows } }
  | some .beforeCommit => { returned := none, store }
  | some .afterCommit =>
      match sync .received with
      | (.ok _, rows) =>
          { returned := none, store := { store with database := some rows } }
      | (.error error, rows) =>
          { returned := some (.error (.database error))
            store := { store with database := some rows } }

def syncUnlockedWithAudit (env : CallEnvironment) (previous : VaultFile)
    (audit : Option VaultAuditMutation) (store : VaultStore) :
    CallEnd SyncFailure (Option Uuid) :=
  match store.database with
  | none => { returned := some (.ok none), store }
  | some database =>
      match snapshotOf store.vault.memory, snapshotOf previous with
      | .error error, _ =>
          { returned := some (.error (.exported error)), store }
      | _, .error error =>
          { returned := some (.error (.exported error)), store }
      | .ok current, .ok before =>
          store.observeSync env fun acknowledgement =>
            syncDatabaseDelta env.now env.auditId before current audit
              env.refuses acknowledgement database

/-- The previous state goes back into memory and is written over the file. -/
def abandon (env : CallEnvironment) (previous : VaultFile)
    (error : StoreError ε) (store : VaultStore) :
    CallEnd (StoreError ε) α :=
  let written := persist previous env.rollbackFault store.vault.disk
  { returned := some (.error (match written.1 with
      | .ok () => error
      | .error failure => .rollback failure))
    store := { store with vault := { memory := previous, disk := written.2 } } }

/-- The common body of the two mutating calls: `settle` says whether the value
and the recorded audit event make a result. -/
def operate (primitives : Primitives) (masterKey : MasterKey)
    (env : CallEnvironment) (closure : Closure ε α)
    (auditFor : α → Option VaultAuditMutation) (context : String)
    (settle : α → Option Uuid → Except (StoreError ε) β)
    (store : VaultStore) : CallEnd (StoreError ε) β :=
  let previous := store.vault.memory
  match closure.run primitives masterKey store.vault with
  | (.error error, vault) =>
      -- Memory goes back, the file is left as the operation wrote it.
      { returned := some (.error (.operation error))
        store := { store with vault := { vault with memory := previous } } }
  | (.ok result, vault) =>
      let synced := syncUnlockedWithAudit env previous (auditFor result)
        { store with vault }
      match synced.returned with
      | none => { returned := none, store := synced.store }
      | some (.error failure) =>
          synced.store.abandon env previous (.synced context failure)
      | some (.ok recorded) =>
          match settle result recorded with
          | .ok value =>
              { returned := some (.ok value), store := synced.store }
          | .error error => synced.store.abandon env previous error

def mutate (primitives : Primitives) (masterKey : MasterKey)
    (env : CallEnvironment) (closure : Closure ε α) :
    VaultStore → CallEnd (StoreError ε) α :=
  operate primitives masterKey env closure (fun _ => none)
    "rollback vault mutation after database sync failure"
    fun result _ => .ok result

def mutateWithAudit (primitives : Primitives) (masterKey : MasterKey)
    (env : CallEnvironment) (closure : Closure ε α)
    (auditFor : α → VaultAuditMutation) :
    VaultStore → CallEnd (StoreError ε) (α × Uuid) :=
  operate primitives masterKey env closure (fun result => some (auditFor result))
    "rollback audited vault mutation" fun result recorded =>
    match recorded with
    | some auditId => .ok (result, auditId)
    | none => .error (.bail "audited mutation requires PostgreSQL")

/-- Whether a call that is made now commits its transaction, be it heard of or
not. -/
def commits (primitives : Primitives) (masterKey : MasterKey)
    (env : CallEnvironment) (closure : Closure ε α)
    (auditFor : α → Option VaultAuditMutation) (store : VaultStore) : Bool :=
  match closure.run primitives masterKey store.vault, store.database with
  | (.ok result, vault), some database =>
      match snapshotOf vault.memory, snapshotOf store.vault.memory with
      | .ok current, .ok before =>
          env.dropped ≠ some .beforeCommit &&
            (syncDatabaseDelta env.now env.auditId before current
              (auditFor result) env.refuses .received database).1.isOk
      | _, _ => false
  | _, _ => false

end VaultStore

inductive DownstreamAuthenticationError where
  | invalidCredential
  | insufficientScope
  | storeUnavailable
  deriving DecidableEq, Repr

/-- A use as it is recorded: the clock is read once against the policy and once
for the record, and both the policy query and the file write may fail. -/
structure AcceptedUse where
  id : Uuid
  policyRefused : Bool
  policyClock : Timestamp
  usedAt : Timestamp
  fault : Option PersistStep

def AcceptedUse.closure (use : AcceptedUse) : Closure VaultError VaultValue :=
  .call (.recordDownstreamUse use.id use.usedAt) use.fault .done

namespace VaultStore

def acceptedDownstreamPolicy (use : AcceptedUse) (store : VaultStore) :
    Except DownstreamAuthenticationError Unit :=
  match store.database with
  | none => .ok ()
  | some database =>
      if use.policyRefused then
        .error .storeUnavailable
      else
        match database.downstreamCredentials.find? use.id with
        | none => .error .invalidCredential
        | some row =>
            if !row.active || row.expiresAt.any fun expires =>
                expires * 1000 ≤ use.policyClock then
              .error .invalidCredential
            else
              .ok ()

def recordAcceptedDownstreamUse (primitives : Primitives)
    (masterKey : MasterKey) (env : CallEnvironment) (use : AcceptedUse)
    (store : VaultStore) : CallEnd DownstreamAuthenticationError Unit :=
  match store.acceptedDownstreamPolicy use with
  | .error error => { returned := some (.error error), store }
  | .ok () =>
      let recorded := store.operate primitives masterKey env use.closure
        (fun _ => none) "" fun _ _ => .ok ()
      { returned := recorded.returned.map fun result =>
          result.mapError fun _ => .storeUnavailable
        store := recorded.store }

end VaultStore

inductive StartError where
  | vault (error : VaultError)
  | conversion (context : String)
  deriving DecidableEq, Repr

/-- `u64::try_from` on a stored counter. -/
def toU64 (context : String) (count : Int) : Except StartError Nat :=
  if 0 ≤ count then .ok count.toNat else .error (.conversion context)

/-- A stored time comes back with whole microseconds. -/
def fromMicros (time : Micros) : Timestamp := time * 1000

def dbKeyRecord (row : UpstreamKeyRow) : Except StartError VaultKeyRecord := do
  let requestCount ← toU64 "invalid key request count" row.requestCount
  let failureCount ← toU64 "invalid key failure count" row.failureCount
  .ok {
    id := row.id
    label := row.label
    fingerprint := row.fingerprint
    nonce := row.nonce
    ciphertext := row.ciphertext
    enabled := row.enabled
    verified := row.verified
    retired := row.retired
    cooldownUntil := row.cooldownUntil.map fromMicros
    requestCount
    failureCount }

def dbDownstreamRecord (row : DownstreamCredentialRow) :
    Except StartError VaultDownstreamRecord := do
  let requestCount ←
    toU64 "invalid downstream request count" row.requestCount
  .ok {
    id := row.id
    label := row.label
    scopes := row.scopes
    tokenDigest := row.digest
    active := row.active
    requestCount
    lastUsedAt := row.lastUsedAt.map fromMicros
    createdAt := fromMicros row.createdAt
    revokedAt := row.revokedAt.map fromMicros }

def shouldMigrateFileVault (databaseKeys databaseDownstream fileKeys
    fileDownstream : Nat) : Bool :=
  databaseKeys == 0 && databaseDownstream == 0 &&
    (decide (0 < fileKeys) || decide (0 < fileDownstream))

/-- `ORDER BY created_at, id`. -/
def orderedByCreation (createdAt : α → Micros) (id : α → Uuid)
    (rows : List α) : List α :=
  rows.insertionSort fun left right =>
    createdAt left < createdAt right ∨
      (createdAt left = createdAt right ∧ id left ≤ id right)

def Database.cursors (database : Database) : RouterCursors :=
  database.routingState.rows.map fun row => (row.profileId, row.nextSlot - 1)

def Database.hasCredentials (database : Database) : Bool :=
  !(database.upstreamKeys.rows.isEmpty &&
    database.downstreamCredentials.rows.isEmpty)

def Database.loadRecords (database : Database) : Except StartError VaultFile := do
  let keys ← (orderedByCreation UpstreamKeyRow.createdAt UpstreamKeyRow.id
    database.upstreamKeys.rows).mapM dbKeyRecord
  let downstream ← (orderedByCreation DownstreamCredentialRow.createdAt
    DownstreamCredentialRow.id
    database.downstreamCredentials.rows).mapM dbDownstreamRecord
  (Vault.fromRecordsWithCursors keys downstream database.cursors).mapError .vault

/-- Whether the file is taken over while both credential tables are empty. -/
def migratable (file : VaultFile) : Bool :=
  shouldMigrateFileVault 0 0 (Vault.list file).length
    (Vault.listDownstream file).length

/-- The vault a restart has in memory.  Writing a migrated file's records to
the empty tables does not change it. -/
def VaultStore.reload (store : VaultStore) : Except StartError VaultFile :=
  match store.database with
  | none => (Vault.open store.vault.disk).mapError .vault
  | some database =>
      if database.hasCredentials then
        database.loadRecords
      else do
        let file ← (Vault.open store.vault.disk).mapError .vault
        if migratable file then .ok file else database.loadRecords

inductive StoreCall : Type 1 where
  | mutate {ε α : Type} (closure : Closure ε α)
  | mutateWithAudit {ε α : Type} (closure : Closure ε α)
      (auditFor : α → VaultAuditMutation)
  | recordAcceptedDownstreamUse (use : AcceptedUse)

def VaultStore.perform (primitives : Primitives) (masterKey : MasterKey)
    (env : CallEnvironment) (store : VaultStore) : StoreCall → VaultStore
  | .mutate closure => (store.mutate primitives masterKey env closure).store
  | .mutateWithAudit closure auditFor =>
      (store.mutateWithAudit primitives masterKey env closure auditFor).store
  | .recordAcceptedDownstreamUse use =>
      (store.recordAcceptedDownstreamUse primitives masterKey env use).store

section Sync

variable {env : CallEnvironment} {previous : VaultFile}
  {audit : Option VaultAuditMutation} {store : VaultStore}

inductive SyncEnds (env : CallEnvironment) (previous : VaultFile)
    (audit : Option VaultAuditMutation) (store : VaultStore) :
    CallEnd SyncFailure (Option Uuid) → Prop
  | absent (database : store.database = none) :
      SyncEnds env previous audit store { returned := some (.ok none), store }
  | unexported (failure : SyncFailure)
      (refused : ∀ before current, snapshotOf previous = .ok before →
        snapshotOf store.vault.memory ≠ .ok current) :
      SyncEnds env previous audit store
        { returned := some (.error failure), store }
  | failed {database : Database} {before current : VaultSyncSnapshot}
      (failure : SyncFailure) (observed : env.dropped ≠ some .beforeCommit)
      (present : store.database = some database)
      (currentOut : snapshotOf store.vault.memory = .ok current)
      (beforeOut : snapshotOf previous = .ok before)
      (aborted : (syncDatabaseDelta env.now env.auditId before current audit
        env.refuses .received database).1.isOk = false) :
      SyncEnds env previous audit store
        { returned := some (.error failure), store }
  | dropped {before current : VaultSyncSnapshot}
      (currentOut : snapshotOf store.vault.memory = .ok current)
      (beforeOut : snapshotOf previous = .ok before)
      (uncommitted : env.dropped = some .beforeCommit) :
      SyncEnds env previous audit store { returned := none, store }
  | unheard {database rows : Database} {before current : VaultSyncSnapshot}
      {recorded : Option Uuid} (failure : SyncFailure)
      (present : store.database = some database)
      (currentOut : snapshotOf store.vault.memory = .ok current)
      (beforeOut : snapshotOf previous = .ok before)
      (ran : syncDatabaseDelta env.now env.auditId before current audit
        env.refuses .received database = (.ok recorded, rows))
      (waited : env.dropped = none) (lost : env.acknowledgement = .lost) :
      SyncEnds env previous audit store
        { returned := some (.error failure)
          store := { store with database := some rows } }
  | committed {database rows : Database} {before current : VaultSyncSnapshot}
      {recorded : Option Uuid}
      {returned : Option (Except SyncFailure (Option Uuid))}
      (present : store.database = some database)
      (currentOut : snapshotOf store.vault.memory = .ok current)
      (beforeOut : snapshotOf previous = .ok before)
      (ran : syncDatabaseDelta env.now env.auditId before current audit
        env.refuses .received database = (.ok recorded, rows))
      (kept : env.dropped ≠ some .beforeCommit)
      (observed : returned = none ∨
        returned = some (.ok recorded) ∧ env.acknowledgement = .received) :
      SyncEnds env previous audit store
        { returned, store := { store with database := some rows } }

private theorem observeSync_ends {database : Database}
    {before current : VaultSyncSnapshot}
    (present : store.database = some database)
    (currentOut : snapshotOf store.vault.memory = .ok current)
    (beforeOut : snapshotOf previous = .ok before) :
    SyncEnds env previous audit store
      (store.observeSync env fun acknowledgement =>
        syncDatabaseDelta env.now env.auditId before current audit env.refuses
          acknowledgement database) := by
  have same : { store with database := some database } = store := by
    rw [← present]
  unfold VaultStore.observeSync
  cases drops : env.dropped with
  | none =>
      simp only
      cases ran : syncDatabaseDelta env.now env.auditId before current audit
          env.refuses .received database with
      | mk result rows =>
      cases result with
      | ok recorded =>
          cases heard : env.acknowledgement with
          | received =>
              rw [ran]
              exact .committed present currentOut beforeOut ran (by simp [drops])
                (.inr ⟨rfl, heard⟩)
          | lost =>
              rw [syncDatabaseDelta_lost ran]
              exact .unheard _ present currentOut beforeOut ran drops heard
      | error error =>
          rw [syncDatabaseDelta_aborted ran]
          rcases syncDatabaseDelta_error ran with rfl | ⟨lost, -, -⟩
          · simp only [same]
            exact .failed _ (by simp [drops]) present currentOut beforeOut
              (by rw [ran]; rfl)
          · cases lost
  | some moment =>
      cases moment with
      | beforeCommit => exact .dropped currentOut beforeOut drops
      | afterCommit =>
          simp only
          cases ran : syncDatabaseDelta env.now env.auditId before current audit
              env.refuses .received database with
          | mk result rows =>
          cases result with
          | ok recorded =>
              exact .committed present currentOut beforeOut ran
                (by simp [drops]) (.inl rfl)
          | error error =>
              rcases syncDatabaseDelta_error ran with rfl | ⟨lost, -, -⟩
              · simp only [same]
                exact .failed _ (by simp [drops]) present currentOut beforeOut
                  (by rw [ran]; rfl)
              · cases lost

theorem syncUnlocked_ends (env : CallEnvironment) (previous : VaultFile)
    (audit : Option VaultAuditMutation) (store : VaultStore) :
    SyncEnds env previous audit store
      (store.syncUnlockedWithAudit env previous audit) := by
  unfold VaultStore.syncUnlockedWithAudit
  split
  · rename_i absent
    exact .absent absent
  rename_i database present
  cases currentOut : snapshotOf store.vault.memory with
  | error error =>
      refine .unexported _ fun _ current _ exported => ?_
      rw [currentOut] at exported
      cases exported
  | ok current =>
      cases beforeOut : snapshotOf previous with
      | error error =>
          refine .unexported _ fun before _ exported => ?_
          rw [beforeOut] at exported
          cases exported
      | ok before => exact observeSync_ends present currentOut beforeOut

private theorem anything_ensured (body : Sync α) :
    Transaction.Ensures (fun _ => True) body fun _ _ => True :=
  fun _ _ _ _ _ => trivial

theorem audited_recorded {now : Micros} {auditId : Uuid}
    {before current : VaultSyncSnapshot} {mutation : VaultAuditMutation} :
    Transaction.Ensures (fun _ => True)
      (syncDatabaseDeltaBody now auditId before current (some mutation))
      fun recorded _ => recorded ≠ none := by
  unfold syncDatabaseDeltaBody
  refine Transaction.Ensures.bind _ (anything_ensured _) fun _ => ?_
  refine Transaction.Ensures.bind _ (anything_ensured _) fun _ => ?_
  refine Transaction.Ensures.bind _ (anything_ensured _) fun _ => ?_
  refine Transaction.Ensures.bind _ (anything_ensured _) fun _ => ?_
  refine Transaction.Ensures.bind _ (anything_ensured _) fun _ => ?_
  refine Transaction.Ensures.bind (fun recorded _ => recorded ≠ none) ?_
    fun recorded => ?_
  · refine Transaction.Ensures.bind _ (anything_ensured _) fun _ => ?_
    exact Transaction.Ensures.pure fun _ _ isNone => by cases isNone
  refine Transaction.Ensures.bind (fun _ _ => recorded ≠ none) ?_ fun _ => ?_
  · apply Transaction.Ensures.execute
    exact fun _ _ _ isRecorded _ => isRecorded
  · exact Transaction.Ensures.pure fun _ isRecorded => isRecorded

theorem audited_delta {now : Micros} {auditId : Uuid}
    {before current : VaultSyncSnapshot} {mutation : VaultAuditMutation}
    {refuses : Nat → Bool} {acknowledgement : Acknowledgement}
    {database rows : Database} {recorded : Option Uuid}
    (ran : syncDatabaseDelta now auditId before current (some mutation) refuses
      acknowledgement database = (.ok recorded, rows)) : recorded ≠ none := by
  obtain ⟨-, ran⟩ := syncDatabaseDelta_eq_ok.mp ran
  exact audited_recorded.transact trivial (congrArg Prod.fst ran)

end Sync

end NvidiaBuildLb.Gateway
