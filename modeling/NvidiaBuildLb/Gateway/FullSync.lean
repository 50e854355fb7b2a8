import NvidiaBuildLb.Gateway.SnapshotRefinement

namespace NvidiaBuildLb.Gateway

open Foundation NvidiaBuildLb.Core Foundation.Transaction

/-! Writing a whole vault to the database, as a start that takes over a vault
file does. -/

/-- `slot_no` of a row that is written for the first time is null when both
slots are taken; a row that is there keeps its own. -/
def Database.slotFor (database : Database) (slotHash : Uuid → Nat)
    (key : VaultKeyRecord) : Option Nat :=
  match database.upstreamKeys.find? key.id with
  | some row => some row.slotNo
  | none =>
      if key.retired then some (slotHash key.id)
      else freeSlot database.upstreamKeys

def Database.storeKey (database : Database) (row : UpstreamKeyRow) :
    Database :=
  match database.upstreamKeys.insert? row with
  | some upstreamKeys => { database with upstreamKeys }
  | none =>
      { database with
        upstreamKeys := database.upstreamKeys.update
          (fun stored => stored.id = row.id)
          (fun stored => { row with
            id := stored.id
            createdAt := stored.createdAt
            slotNo := stored.slotNo }) fun _ => rfl }

def persistUpstreamKey (slotHash : Uuid → Nat) (now : Micros)
    (key : VaultKeyRecord) : Sync Unit := do
  let requestCount ← Transaction.lift <|
    toI64 "key request count overflow" key.requestCount
  let failureCount ← Transaction.lift <|
    toI64 "key failure count overflow" key.failureCount
  Transaction.execute (.database "persist upstream key") fun rows =>
    (rows.slotFor slotHash key).map fun slotNo =>
      ((), rows.storeKey {
        id := key.id
        label := key.label
        fingerprint := key.fingerprint
        ciphertext := key.ciphertext
        nonce := key.nonce
        enabled := key.enabled
        verified := key.verified
        retired := key.retired
        cooldownUntil := key.cooldownUntil.map micros
        requestCount
        failureCount
        createdAt := now
        slotNo })

def Database.storeDownstream (database : Database)
    (row : DownstreamCredentialRow) : Database :=
  match database.downstreamCredentials.insert? row with
  | some downstreamCredentials => { database with downstreamCredentials }
  | none =>
      { database with
        downstreamCredentials := database.downstreamCredentials.update
          (fun stored => stored.id = row.id)
          (fun stored => { stored with
            label := row.label
            digest := row.digest
            scopes := row.scopes
            active := row.active
            requestCount := row.requestCount
            lastUsedAt := row.lastUsedAt
            revokedAt := row.revokedAt }) fun _ => rfl }

def persistDownstreamCredential (item : VaultDownstreamRecord) : Sync Unit := do
  let requestCount ← Transaction.lift <|
    toI64 "downstream request count overflow" item.requestCount
  Transaction.execute (.database "persist downstream credential") fun rows =>
    some ((), rows.storeDownstream {
      id := item.id
      label := item.label
      digest := item.tokenDigest
      scopes := item.scopes
      active := item.active
      requestCount
      lastUsedAt := item.lastUsedAt.map micros
      createdAt := micros item.createdAt
      revokedAt := item.revokedAt.map micros
      keyPrefix := issuedKeyPrefix item.id
      rotatedAt := none
      expiresAt := none
      modelAllowlist := none
      rpmLimit := none
      maxConcurrency := none
      requestLimitDay := none })

def persistRoutingCursor (cursors : RouterCursors) (profile : String) :
    Sync Unit :=
  Transaction.execute (.database "persist routing cursor") fun rows =>
    let nextSlot := (cursors.lookup profile).getD 0 % 2 + 1
    let stored := match rows.routingState.insert?
        { profileId := profile, nextSlot, generation := 1 } with
      | some routingState => routingState
      | none =>
          rows.routingState.update (fun row => row.profileId = profile)
            (fun row => { row with
              nextSlot
              generation := row.generation + 1 }) fun _ => rfl
    some ((), { rows with routingState := stored })

def syncDatabaseRows (slotHash : Uuid → Nat) (now : Micros)
    (snapshot : VaultSyncSnapshot) : Sync Unit := do
  control "begin vault sync"
  control "lock vault sync"
  snapshot.keys.forM (persistUpstreamKey slotHash now)
  snapshot.downstream.forM persistDownstreamCredential
  profiles.forM (persistRoutingCursor snapshot.cursors)
  control "commit vault sync"

/-- `slotHash` is the server's hash of an id, reduced to a slot. -/
def syncDatabase (slotHash : Uuid → Nat) (now : Micros)
    (snapshot : VaultSyncSnapshot) (refuses : Nat → Bool)
    (database : Database) : Except SyncError Unit × Database :=
  (syncDatabaseRows slotHash now snapshot).transact refuses database

section

variable {keys : Uuid → Option KeyColumns}
  {downstream : Uuid → Option DownstreamColumns} {slotHash : Uuid → Nat}
  {now : Micros}

private theorem insert?_of_absent {row columns : Type} {key : row → Uuid}
    {read : row → columns} {table : Table key} {entry : row}
    (absent : (table.find? (key entry)).map read = none) :
    ∃ stored, table.insert? entry = some stored := by
  have missing : key entry ∉ table.rows.map key := by
    intro member
    obtain ⟨stored, inRows, same⟩ := List.mem_map.mp member
    have found := Table.find?_eq_some_iff.mpr ⟨inRows, same⟩
    rw [found] at absent
    cases absent
  exact ⟨_, dif_neg missing⟩

theorem persistUpstreamKey_ensures {key : VaultKeyRecord}
    (absent : keys key.id = none) :
    Ensures (Reads keys downstream) (persistUpstreamKey slotHash now key)
      fun _ => Reads (Function.update keys key.id (some (keyColumns key)))
        downstream := by
  unfold persistUpstreamKey
  refine Ensures.bind _ (toI64_ensures _ _) fun requestCount => ?_
  refine Ensures.bind (fun value rows =>
    (requestCount = (key.requestCount : Int) ∧
      value = (key.failureCount : Int)) ∧ Reads keys downstream rows) ?_
    fun failureCount => ?_
  · apply Ensures.lift
    intro value rows holds succeeded
    exact ⟨⟨holds.1, toI64_eq_ok succeeded⟩, holds.2⟩
  apply Ensures.execute
  rintro rows _ rows' ⟨⟨rfl, rfl⟩, reads⟩ answered
  simp only [Option.map_eq_some_iff] at answered
  obtain ⟨slotNo, -, stored⟩ := answered
  cases stored
  have view := congrFun reads.1 key.id
  rw [absent] at view
  obtain ⟨upstreamKeys, inserted⟩ := @insert?_of_absent _ _ UpstreamKeyRow.id
    UpstreamKeyRow.columns rows.upstreamKeys {
      id := key.id
      label := key.label
      fingerprint := key.fingerprint
      ciphertext := key.ciphertext
      nonce := key.nonce
      enabled := key.enabled
      verified := key.verified
      retired := key.retired
      cooldownUntil := key.cooldownUntil.map micros
      requestCount := key.requestCount
      failureCount := key.failureCount
      createdAt := now
      slotNo } view
  simp only [Database.storeKey, inserted]
  exact ⟨insert_columns UpstreamKeyRow.columns reads.1 inserted rfl rfl,
    reads.2⟩

theorem persistDownstreamCredential_ensures {item : VaultDownstreamRecord}
    (absent : downstream item.id = none) :
    Ensures (Reads keys downstream) (persistDownstreamCredential item)
      fun _ => Reads keys
        (Function.update downstream item.id (some (downstreamColumns item))) := by
  unfold persistDownstreamCredential
  refine Ensures.bind _ (toI64_ensures _ _) fun requestCount => ?_
  apply Ensures.execute
  rintro rows _ rows' ⟨rfl, reads⟩ answered
  cases answered
  have view := congrFun reads.2 item.id
  rw [absent] at view
  obtain ⟨credentials, inserted⟩ := @insert?_of_absent _ _
    DownstreamCredentialRow.id DownstreamCredentialRow.columns
    rows.downstreamCredentials {
      id := item.id
      label := item.label
      digest := item.tokenDigest
      scopes := item.scopes
      active := item.active
      requestCount := item.requestCount
      lastUsedAt := item.lastUsedAt.map micros
      createdAt := micros item.createdAt
      revokedAt := item.revokedAt.map micros
      keyPrefix := issuedKeyPrefix item.id
      rotatedAt := none
      expiresAt := none
      modelAllowlist := none
      rpmLimit := none
      maxConcurrency := none
      requestLimitDay := none } view
  simp only [Database.storeDownstream, inserted]
  exact ⟨reads.1, insert_columns DownstreamCredentialRow.columns reads.2
    inserted rfl rfl⟩

theorem persistRoutingCursor_ensures (cursors : RouterCursors)
    (profile : String) :
    Ensures (Reads keys downstream) (persistRoutingCursor cursors profile)
      fun _ => Reads keys downstream := by
  apply Ensures.execute
  intro rows answer rows' reads answered
  cases answered
  exact reads

private theorem succeeds_nothing {key : α → Uuid} {entries : List α}
    (distinct : (entries.map key).Nodup) : Succeeds key [] entries where
  before := List.nodup_nil
  after := distinct
  kept := by
    intro entry member
    cases member

theorem syncDatabase_represents {snapshot : VaultSyncSnapshot}
    {refuses : Nat → Bool} {database rows : Database}
    (keyIds : (snapshot.keys.map VaultKeyRecord.id).Nodup)
    (downstreamIds :
      (snapshot.downstream.map VaultDownstreamRecord.id).Nodup)
    (noKeys : database.keyView = fun _ => none)
    (noClients : database.downstreamView = fun _ => none)
    (ran : syncDatabase slotHash now snapshot refuses database =
      (.ok (), rows)) :
    rows.Represents snapshot.keys snapshot.downstream := by
  let KeysDone : Database → Prop := fun rows =>
    rows.keyView = snapshotView VaultKeyRecord.id keyColumns snapshot.keys
  let AllDone : Database → Prop := fun rows =>
    rows.downstreamView = snapshotView VaultDownstreamRecord.id
      downstreamColumns snapshot.downstream ∧ KeysDone rows
  have spec : Ensures
      (fun rows => rows.keyView = snapshotView VaultKeyRecord.id keyColumns [] ∧
        rows.downstreamView = fun _ => none)
      (syncDatabaseRows slotHash now snapshot) fun _ => AllDone := by
    unfold syncDatabaseRows
    refine Ensures.bind _ (control_ensures _) fun _ => ?_
    refine Ensures.bind _ (control_ensures _) fun _ => ?_
    refine Ensures.bind _ (syncAll_ensures (succeeds_nothing keyIds)
      fun key _ view seen => ?_) fun _ => ?_
    · have absent : view key.id = none := seen
      intro session value after start ran
      exact persistUpstreamKey_ensures absent session value after start ran
    refine Ensures.bind (fun _ => AllDone) ?_ fun _ => ?_
    · have loop := @syncAll_ensures _ _ VaultDownstreamRecord.id
        downstreamColumns Database.downstreamView KeysDone
        persistDownstreamCredential [] _ (succeeds_nothing downstreamIds)
        fun item _ view seen => by
          have absent : view item.id = none := seen
          intro session value after start ran
          exact (persistDownstreamCredential_ensures absent session value after
            ⟨start.2, start.1⟩ ran).symm
      intro session value after start ran
      exact loop session value after ⟨start.2, start.1⟩ ran
    refine Ensures.bind (fun _ => AllDone) ?_ fun _ => ?_
    · apply Ensures.forM fun _ => AllDone
      intro _ profile _ _ session value after start ran
      have kept := persistRoutingCursor_ensures _ _ session value after
        ⟨start.2, start.1⟩ ran
      exact ⟨kept.2, kept.1⟩
    exact control_ensures _
  have done := spec.transact ⟨noKeys, noClients⟩ (congrArg Prod.fst ran)
  unfold syncDatabase at ran
  rw [ran] at done
  exact ⟨keyIds, downstreamIds, done.2, done.1⟩

end

end NvidiaBuildLb.Gateway
