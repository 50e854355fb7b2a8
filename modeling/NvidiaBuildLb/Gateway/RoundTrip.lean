import NvidiaBuildLb.Core.RoundTrip
import NvidiaBuildLb.Gateway.FullSync
import NvidiaBuildLb.Gateway.TwoCopies
import Mathlib.Data.List.Perm.Basic

namespace NvidiaBuildLb.Gateway

open Foundation NvidiaBuildLb.Core
open Transaction (Acknowledgement)

/-! A vault whose records went through the database and are loaded again. -/

/-- A time as `timestamptz` keeps it. -/
def restoredTime (time : Timestamp) : Timestamp :=
  fromMicros (micros time)

def restoredKeyRecord (key : VaultKeyRecord) : VaultKeyRecord :=
  { key with cooldownUntil := key.cooldownUntil.map restoredTime }

def restoredKey (key : StoredKey) : StoredKey :=
  { key with cooldownUntil := key.cooldownUntil.map restoredTime }

def restoredDownstreamRecord (item : VaultDownstreamRecord) :
    VaultDownstreamRecord :=
  { item with
    lastUsedAt := item.lastUsedAt.map restoredTime
    createdAt := restoredTime item.createdAt
    revokedAt := item.revokedAt.map restoredTime }

def restoredDownstream (item : StoredDownstream) : StoredDownstream :=
  { item with
    lastUsedAt := item.lastUsedAt.map restoredTime
    createdAt := restoredTime item.createdAt
    revokedAt := item.revokedAt.map restoredTime }

section Lists

variable {ρ σ γ : Type}

/-- Two lists without doubled ids that show the same under every id hold the
same entries. -/
theorem perm_of_views {rowId : ρ → Uuid} {recordId : σ → Uuid} {read : ρ → γ}
    {write : σ → γ} {rows : List ρ} {records : List σ} {decode : ρ → σ}
    {restored : σ → σ} (rowIds : (rows.map rowId).Nodup)
    (recordIds : (records.map recordId).Nodup)
    (views : ∀ id, (rows.find? fun row => rowId row = id).map read =
      snapshotView recordId write records id)
    (decodes : ∀ row record, rowId row = recordId record →
      read row = write record → decode row = restored record)
    (keepsId : ∀ record, recordId (restored record) = recordId record) :
    (rows.map decode).Perm (records.map restored) := by
  have toRecord : ∀ row ∈ rows, ∃ record ∈ records,
      rowId row = recordId record ∧ decode row = restored record := by
    intro row member
    have shown := views (rowId row)
    have found := (@Table.find?_eq_some_iff _ _ rowId _ ⟨rows, rowIds⟩ _
      row).mpr ⟨member, rfl⟩
    unfold Table.find? at found
    rw [found, Option.map_some] at shown
    obtain ⟨record, isRecord, same⟩ := Option.map_eq_some_iff.mp shown.symm
    have named : recordId record = rowId row := by
      simpa using List.find?_some isRecord
    exact ⟨record, List.mem_of_find?_eq_some isRecord, named.symm,
      decodes row record named.symm same.symm⟩
  have toRow : ∀ record ∈ records, ∃ row ∈ rows,
      decode row = restored record := by
    intro record member
    have shown := views (recordId record)
    rw [snapshotView_of_mem recordIds member] at shown
    obtain ⟨row, isRow, same⟩ := Option.map_eq_some_iff.mp shown
    have named : rowId row = recordId record := by
      simpa using List.find?_some isRow
    exact ⟨row, List.mem_of_find?_eq_some isRow,
      decodes row record named same⟩
  have ids : (rows.map decode).map recordId = rows.map rowId := by
    rw [List.map_map]
    apply List.map_congr_left
    intro row member
    obtain ⟨record, -, named, isDecoded⟩ := toRecord row member
    simp only [Function.comp, isDecoded, keepsId, named]
  have restoredIds : (records.map restored).map recordId =
      records.map recordId := by
    rw [List.map_map]
    exact List.map_congr_left fun record _ => keepsId record
  apply (List.perm_ext_iff_of_nodup (ids ▸ rowIds).of_map
    (restoredIds ▸ recordIds).of_map).mpr
  intro entry
  constructor
  · intro member
    obtain ⟨row, inRows, rfl⟩ := List.mem_map.mp member
    obtain ⟨record, inRecords, -, isDecoded⟩ := toRecord row inRows
    exact isDecoded ▸ List.mem_map_of_mem inRecords
  · intro member
    obtain ⟨record, inRecords, rfl⟩ := List.mem_map.mp member
    obtain ⟨row, inRows, isDecoded⟩ := toRow record inRecords
    exact isDecoded ▸ List.mem_map_of_mem inRows

theorem find?_of_perm {entryId : ρ → Uuid} {entries permuted : List ρ}
    (distinct : (entries.map entryId).Nodup) (perm : entries.Perm permuted)
    (id : Uuid) :
    permuted.find? (fun entry => entryId entry = id) =
      entries.find? fun entry => entryId entry = id := by
  have permutedIds := (perm.map entryId).nodup_iff.mp distinct
  apply Option.ext
  intro entry
  have left := @Table.find?_eq_some_iff _ _ entryId _ ⟨entries, distinct⟩ id
    entry
  have right := @Table.find?_eq_some_iff _ _ entryId _
    ⟨permuted, permutedIds⟩ id entry
  unfold Table.find? at left right
  rw [left, right, perm.mem_iff]

theorem mapM_ok_of_forall₂ {ε : Type} {encode : ρ → Except ε σ}
    {entries : List ρ} {codes : List σ}
    (relations : List.Forall₂ (fun entry code => encode entry = .ok code)
      entries codes) : entries.mapM encode = .ok codes := by
  induction relations with
  | nil => rfl
  | cons head _ induction =>
      simp only [List.mapM_cons, head, induction]
      rfl

end Lists

def decodedKey (row : UpstreamKeyRow) : VaultKeyRecord where
  id := row.id
  label := row.label
  fingerprint := row.fingerprint
  nonce := row.nonce
  ciphertext := row.ciphertext
  enabled := row.enabled
  verified := row.verified
  retired := row.retired
  cooldownUntil := row.cooldownUntil.map fromMicros
  requestCount := row.requestCount.toNat
  failureCount := row.failureCount.toNat

def decodedDownstream (row : DownstreamCredentialRow) :
    VaultDownstreamRecord where
  id := row.id
  label := row.label
  scopes := row.scopes
  tokenDigest := row.digest
  active := row.active
  requestCount := row.requestCount.toNat
  lastUsedAt := row.lastUsedAt.map fromMicros
  createdAt := fromMicros row.createdAt
  revokedAt := row.revokedAt.map fromMicros

theorem dbKeyRecord_eq_ok {row : UpstreamKeyRow}
    (requests : 0 ≤ row.requestCount) (failures : 0 ≤ row.failureCount) :
    dbKeyRecord row = .ok (decodedKey row) := by
  simp [dbKeyRecord, toU64, requests, failures, decodedKey, Bind.bind,
    Except.bind]

theorem dbDownstreamRecord_eq_ok {row : DownstreamCredentialRow}
    (requests : 0 ≤ row.requestCount) :
    dbDownstreamRecord row = .ok (decodedDownstream row) := by
  simp [dbDownstreamRecord, toU64, requests, decodedDownstream, Bind.bind,
    Except.bind]

theorem decodedKey_restored {row : UpstreamKeyRow} {record : VaultKeyRecord}
    (named : row.id = record.id) (same : row.columns = keyColumns record) :
    decodedKey row = restoredKeyRecord record ∧
      0 ≤ row.requestCount ∧ 0 ≤ row.failureCount := by
  cases row
  cases record
  simp only [UpstreamKeyRow.columns, keyColumns, KeyColumns.mk.injEq]
    at named same
  obtain ⟨rfl, rfl, rfl, rfl, rfl, rfl, rfl, rfl, rfl, rfl⟩ := same
  subst named
  refine ⟨?_, Int.natCast_nonneg _, Int.natCast_nonneg _⟩
  simp only [decodedKey, restoredKeyRecord, Option.map_map, Int.toNat_natCast]
  rfl

theorem decodedDownstream_restored {row : DownstreamCredentialRow}
    {record : VaultDownstreamRecord} (named : row.id = record.id)
    (same : row.columns = downstreamColumns record) :
    decodedDownstream row = restoredDownstreamRecord record ∧
      0 ≤ row.requestCount := by
  cases row
  cases record
  simp only [DownstreamCredentialRow.columns, downstreamColumns,
    DownstreamColumns.mk.injEq] at named same
  obtain ⟨rfl, rfl, rfl, rfl, rfl, rfl, rfl, rfl⟩ := same
  subst named
  refine ⟨?_, Int.natCast_nonneg _⟩
  simp only [decodedDownstream, restoredDownstreamRecord, Option.map_map,
    Int.toNat_natCast]
  rfl

theorem orderedByCreation_perm {α : Type} (createdAt : α → Micros)
    (id : α → Uuid) (rows : List α) :
    (orderedByCreation createdAt id rows).Perm rows :=
  List.perm_insertionSort _ rows

section Load

variable {database : Database} {keys : List VaultKeyRecord}
  {downstream : List VaultDownstreamRecord}

theorem Database.Represents.decoded
    (represents : database.Represents keys downstream) :
    ∃ loadedKeys loadedDownstream,
      (orderedByCreation UpstreamKeyRow.createdAt UpstreamKeyRow.id
        database.upstreamKeys.rows).mapM dbKeyRecord = .ok loadedKeys ∧
      (orderedByCreation DownstreamCredentialRow.createdAt
        DownstreamCredentialRow.id
        database.downstreamCredentials.rows).mapM dbDownstreamRecord =
          .ok loadedDownstream ∧
      loadedKeys.Perm (keys.map restoredKeyRecord) ∧
      loadedDownstream.Perm (downstream.map restoredDownstreamRecord) := by
  have keyRows := orderedByCreation_perm UpstreamKeyRow.createdAt
    UpstreamKeyRow.id database.upstreamKeys.rows
  have clientRows := orderedByCreation_perm DownstreamCredentialRow.createdAt
    DownstreamCredentialRow.id database.downstreamCredentials.rows
  generalize orderedByCreation UpstreamKeyRow.createdAt UpstreamKeyRow.id
    database.upstreamKeys.rows = ordered at keyRows ⊢
  generalize orderedByCreation DownstreamCredentialRow.createdAt
    DownstreamCredentialRow.id database.downstreamCredentials.rows = clients
    at clientRows ⊢
  refine ⟨ordered.map decodedKey, clients.map decodedDownstream,
    mapM_ok_of_forall₂ ?_, mapM_ok_of_forall₂ ?_, ?_, ?_⟩
  · apply List.forall₂_map_right_iff.mpr
    apply List.forall₂_same.mpr
    intro row member
    have shown := congrFun represents.keys row.id
    have found := Table.find?_eq_some_iff.mpr
      ⟨keyRows.mem_iff.mp member, rfl⟩
    simp only [Database.keyView, found, Option.map_some] at shown
    obtain ⟨record, isRecord, same⟩ := Option.map_eq_some_iff.mp shown.symm
    have named : record.id = row.id := by simpa using List.find?_some isRecord
    obtain ⟨-, requests, failures⟩ := decodedKey_restored named.symm same.symm
    exact dbKeyRecord_eq_ok requests failures
  · apply List.forall₂_map_right_iff.mpr
    apply List.forall₂_same.mpr
    intro row member
    have shown := congrFun represents.downstream row.id
    have found := Table.find?_eq_some_iff.mpr
      ⟨clientRows.mem_iff.mp member, rfl⟩
    simp only [Database.downstreamView, found, Option.map_some] at shown
    obtain ⟨record, isRecord, same⟩ := Option.map_eq_some_iff.mp shown.symm
    have named : record.id = row.id := by simpa using List.find?_some isRecord
    obtain ⟨-, requests⟩ := decodedDownstream_restored named.symm same.symm
    exact dbDownstreamRecord_eq_ok requests
  · apply ((keyRows.map decodedKey)).trans
    exact perm_of_views database.upstreamKeys.nodup represents.keyIds
      (fun id => congrFun represents.keys id)
      (fun row record named same => (decodedKey_restored named same).1)
      fun record => rfl
  · apply (clientRows.map decodedDownstream).trans
    exact perm_of_views database.downstreamCredentials.nodup
      represents.downstreamIds (fun id => congrFun represents.downstream id)
      (fun row record named same => (decodedDownstream_restored named same).1)
      fun record => rfl

end Load

/-- A vault with the keys and clients of another one, in any order, and with
times as the database keeps them. -/
structure Restores (state loaded : VaultFile) : Prop where
  version : loaded.version = state.version
  keys : loaded.keys.Perm (state.keys.map restoredKey)
  downstream : loaded.downstream.Perm (state.downstream.map restoredDownstream)

section Restored

variable {state loaded : VaultFile}

private theorem activeCount_map_restored (keys : List StoredKey) :
    Vault.activeCount (keys.map restoredKey) = Vault.activeCount keys := by
  simp only [Vault.activeCount, List.filter_map, List.length_map]
  rfl

private theorem liveLabels_map_restored (keys : List StoredKey) :
    liveLabels (keys.map restoredKey) = liveLabels keys := by
  simp only [liveLabels, List.filter_map, List.map_map]
  rfl

theorem Restores.sound (restores : Restores state loaded)
    (sound : state.Sound) : loaded.Sound := by
  have fromKey : ∀ key ∈ loaded.keys, ∃ original ∈ state.keys,
      key = restoredKey original := by
    intro key member
    obtain ⟨original, found, rfl⟩ :=
      List.mem_map.mp (restores.keys.mem_iff.mp member)
    exact ⟨original, found, rfl⟩
  refine ⟨⟨restores.version.trans sound.version, ?_, ?_⟩, ?_, ?_, ?_, ?_⟩
  · have count := (restores.keys.filter fun key => !key.retired).length_eq
    have same := activeCount_map_restored state.keys
    unfold Vault.activeCount at same ⊢
    rw [count, same]
    exact sound.active
  · have perm := restores.keys.map StoredKey.fingerprint
    rw [List.map_map] at perm
    exact perm.nodup_iff.mpr sound.fingerprints
  · have perm := (restores.keys.filter fun key => !key.retired).map
      StoredKey.label
    have same := liveLabels_map_restored state.keys
    unfold liveLabels at same
    rw [same] at perm
    exact perm.nodup_iff.mpr sound.labels
  · intro key member
    obtain ⟨original, found, rfl⟩ := fromKey key member
    exact sound.enabled original found
  · intro key member
    obtain ⟨original, found, rfl⟩ := fromKey key member
    have formed := sound.formed original found
    exact ⟨formed.fingerprint, formed.nonce, formed.ciphertext⟩
  · intro item member
    obtain ⟨original, found, rfl⟩ :=
      List.mem_map.mp (restores.downstream.mem_iff.mp member)
    exact sound.digests original found

theorem Restores.credential (primitives : Primitives) (masterKey : MasterKey)
    (restores : Restores state loaded)
    (distinct : (state.keys.map StoredKey.id).Nodup) (id : Uuid) :
    Vault.credential primitives masterKey id loaded =
      Vault.credential primitives masterKey id state := by
  have ids : ((state.keys.map restoredKey).map StoredKey.id).Nodup := by
    rw [List.map_map]
    exact distinct
  unfold Vault.credential
  rw [find?_of_perm ids restores.keys.symm id, List.find?_map]
  cases found : state.keys.find? fun key => key.id = id with
  | none =>
      rw [show state.keys.find? ((fun key => decide (key.id = id)) ∘
        restoredKey) = none from found]
      rfl
  | some key =>
      rw [show state.keys.find? ((fun key => decide (key.id = id)) ∘
        restoredKey) = some key from found]
      rfl

private theorem keyRecord_restored {key : StoredKey} {record : VaultKeyRecord}
    (exported : Vault.keyRecord key = .ok record) :
    Vault.keyRecord (restoredKey key) = .ok (restoredKeyRecord record) := by
  unfold Vault.keyRecord at exported ⊢
  obtain ⟨fingerprint, fingerprintOk, exported⟩ := ok_of_bind exported
  obtain ⟨nonce, nonceOk, exported⟩ := ok_of_bind exported
  obtain ⟨ciphertext, ciphertextOk, exported⟩ := ok_of_bind exported
  cases exported
  simp only [restoredKey, fingerprintOk, nonceOk, ciphertextOk]
  rfl

private theorem downstreamRecord_restored {item : StoredDownstream}
    {record : VaultDownstreamRecord}
    (exported : Vault.downstreamRecord item = .ok record) :
    Vault.downstreamRecord (restoredDownstream item) =
      .ok (restoredDownstreamRecord record) := by
  unfold Vault.downstreamRecord at exported ⊢
  obtain ⟨digest, digestOk, exported⟩ := ok_of_bind exported
  cases exported
  simp only [restoredDownstream, digestOk]
  rfl

private theorem permuted_entries {entry record : Type}
    {encode : entry → Except VaultError record} {entries : List entry}
    {records permuted : List record} {restored : entry → entry}
    {rewritten : record → record}
    (exported : entries.mapM encode = .ok records)
    (restores : ∀ entry record, encode entry = .ok record →
      encode (restored entry) = .ok (rewritten record))
    (perm : permuted.Perm (records.map rewritten)) :
    ∃ loaded : List entry, loaded.Perm (entries.map restored) ∧
      loaded.mapM encode = .ok permuted := by
  have relations : List.Forall₂
      (fun record entry => encode entry = .ok record)
      (records.map rewritten) (entries.map restored) := by
    apply List.Forall₂.flip
    rw [List.forall₂_map_left_iff, List.forall₂_map_right_iff]
    exact (forall₂_of_mapM_ok exported).imp restores
  obtain ⟨loaded, isLoaded, isPerm⟩ := List.perm_comp_forall₂ perm relations
  exact ⟨loaded, isPerm, mapM_ok_of_forall₂ isLoaded.flip⟩

private theorem micros_restoredTime (time : Timestamp) :
    micros (restoredTime time) = micros time :=
  Int.mul_ediv_cancel _ (by decide)

private theorem micros_comp_restoredTime : micros ∘ restoredTime = micros :=
  funext micros_restoredTime

theorem Database.Represents.restored {database : Database}
    {keys loadedKeys : List VaultKeyRecord}
    {downstream loadedDownstream : List VaultDownstreamRecord}
    (represents : database.Represents keys downstream)
    (keysPerm : loadedKeys.Perm (keys.map restoredKeyRecord))
    (downstreamPerm :
      loadedDownstream.Perm (downstream.map restoredDownstreamRecord)) :
    database.Represents loadedKeys loadedDownstream := by
  have keyIds :
      ((keys.map restoredKeyRecord).map VaultKeyRecord.id).Nodup := by
    rw [List.map_map]
    exact represents.keyIds
  have downstreamIds : ((downstream.map restoredDownstreamRecord).map
      VaultDownstreamRecord.id).Nodup := by
    rw [List.map_map]
    exact represents.downstreamIds
  have keyImage : keyColumns ∘ restoredKeyRecord = keyColumns := by
    funext record
    simp only [Function.comp, keyColumns, restoredKeyRecord, Option.map_map,
      micros_comp_restoredTime]
  have downstreamImage :
      downstreamColumns ∘ restoredDownstreamRecord = downstreamColumns := by
    funext record
    simp only [Function.comp, downstreamColumns, restoredDownstreamRecord,
      Option.map_map, micros_comp_restoredTime, micros_restoredTime]
  refine ⟨(keysPerm.map _).nodup_iff.mpr keyIds,
    (downstreamPerm.map _).nodup_iff.mpr downstreamIds, ?_, ?_⟩
  · rw [represents.keys]
    funext id
    unfold snapshotView
    rw [find?_of_perm keyIds keysPerm.symm id, List.find?_map,
      Option.map_map, keyImage]
    rfl
  · rw [represents.downstream]
    funext id
    unfold snapshotView
    rw [find?_of_perm downstreamIds downstreamPerm.symm id, List.find?_map,
      Option.map_map, downstreamImage]
    rfl

/-- The records of the vault went to these rows. -/
def Stored (state : VaultFile) (database : Database) : Prop :=
  ∃ keys downstream, Vault.keyRecords state = .ok keys ∧
    Vault.downstreamRecords state = .ok downstream ∧
      database.Represents keys downstream

theorem loadRecords_eq_ok {database : Database} {loaded : VaultFile}
    (loads : database.loadRecords = .ok loaded) :
    ∃ keys downstream,
      (orderedByCreation UpstreamKeyRow.createdAt UpstreamKeyRow.id
        database.upstreamKeys.rows).mapM dbKeyRecord = .ok keys ∧
      (orderedByCreation DownstreamCredentialRow.createdAt DownstreamCredentialRow.id
        database.downstreamCredentials.rows).mapM dbDownstreamRecord = .ok downstream ∧
      keys.mapM Vault.storeKey = .ok loaded.keys ∧
      downstream.mapM Vault.storeDownstream = .ok loaded.downstream := by
  unfold Database.loadRecords at loads
  obtain ⟨keys, keysOut, loads⟩ := ok_of_bind loads
  obtain ⟨downstream, downstreamOut, loads⟩ := ok_of_bind loads
  refine ⟨keys, downstream, keysOut, downstreamOut, ?_⟩
  unfold Vault.fromRecordsWithCursors at loads
  split at loads
  · cases loads
  split at loads
  · cases loads
  cases storedKeys : keys.mapM Vault.storeKey with
  | error error =>
      rw [storedKeys] at loads
      cases loads
  | ok items =>
      cases storedClients : downstream.mapM Vault.storeDownstream with
      | error error =>
          rw [storedKeys, storedClients] at loads
          cases loads
      | ok clients =>
          rw [storedKeys, storedClients] at loads
          cases loads
          exact ⟨rfl, rfl⟩

/-- A start loads the vault that the rows represent. -/
theorem loadRecords_restores (sound : state.Sound) {database : Database}
    (stored : Stored state database) :
    ∃ loaded, database.loadRecords = .ok loaded ∧ Restores state loaded ∧
      loaded.routerCursors = database.cursors ∧ Stored loaded database := by
  obtain ⟨keys, downstream, keysOut, downstreamOut, represents⟩ := stored
  obtain ⟨loadedKeys, loadedDownstream, keysIn, downstreamIn, keysPerm,
    downstreamPerm⟩ := represents.decoded
  obtain ⟨newKeys, newKeysPerm, newKeysOut⟩ := permuted_entries keysOut
    (fun _ _ => keyRecord_restored) keysPerm
  obtain ⟨clients, clientsPerm, clientsOut⟩ := permuted_entries downstreamOut
    (fun _ _ => downstreamRecord_restored) downstreamPerm
  let loaded : VaultFile := {
    state with
    keys := newKeys
    downstream := clients
    routerCursor := (database.cursors.lookup Vault.legacyProfile).getD 0
    routerCursors := database.cursors }
  have restores : Restores state loaded := ⟨rfl, newKeysPerm, clientsPerm⟩
  obtain ⟨exportedKeys, exportedDownstream, isKeys, isDownstream, loads⟩ :=
    Vault.fromRecordsWithCursors_of_sound (restores.sound sound)
  cases newKeysOut.symm.trans isKeys
  cases clientsOut.symm.trans isDownstream
  refine ⟨loaded, ?_, restores, rfl, loadedKeys, loadedDownstream, newKeysOut,
    clientsOut, represents.restored keysPerm downstreamPerm⟩
  unfold Database.loadRecords
  rw [keysIn, downstreamIn]
  exact congrArg (Except.mapError StartError.vault) (loads database.cursors)

end Restored

section Reachable

variable (primitives : Primitives) (masterKey : MasterKey)

/-- What the closure of one call does to the vault it is lent, and the keys
with their credentials that it adds. -/
inductive Operated : VaultFile → List (Uuid × String) → VaultFile → Prop
  | refl (state : VaultFile) : Operated state [] state
  | step {before between : VaultFile} {added : List (Uuid × String)}
      (operation : VaultOperation) (earlier : Operated before added between)
      (fresh : operation.Fresh between) (forward : operation.Forward between) :
      Operated before (added ++ operation.adds primitives masterKey between)
        (operation.stage primitives masterKey between).state

inductive Reachable :
    List (Uuid × String) → VaultFile → Option Database → Prop
  /-- There is no vault file yet. -/
  | fresh : Reachable [] .empty none
  /-- Changes that have not gone to the database, if there is one. -/
  | operated {added more : List (Uuid × String)} {before after : VaultFile}
      {rows : Option Database} (reached : Reachable added before rows)
      (operates : Operated primitives masterKey before more after) :
      Reachable (added ++ more) after none
  | started {state : VaultFile} {database : Database}
      (noCredentials : database.hasCredentials = false)
      (loaded : database.loadRecords = .ok state) :
      Reachable [] state (some database)
  | migrated {added : List (Uuid × String)} {state : VaultFile}
      {snapshot : VaultSyncSnapshot} {slotHash : Uuid → Nat} {now : Micros}
      {refuses : Nat → Bool} {database rows : Database}
      (reached : Reachable added state none)
      (noCredentials : database.hasCredentials = false)
      (exported : snapshotOf state = .ok snapshot)
      (ran : syncDatabase slotHash now snapshot refuses database =
        (.ok (), rows)) : Reachable added state (some rows)
  | synced {added more : List (Uuid × String)} {before after : VaultFile}
      {previous current : VaultSyncSnapshot} {now : Micros} {auditId : Uuid}
      {audit : Option VaultAuditMutation} {refuses : Nat → Bool}
      {acknowledgement : Acknowledgement} {recorded : Option Uuid}
      {database rows : Database}
      (reached : Reachable added before (some database))
      (operates : Operated primitives masterKey before more after)
      (beforeOut : snapshotOf before = .ok previous)
      (afterOut : snapshotOf after = .ok current)
      (ran : syncDatabaseDelta now auditId previous current audit refuses
        acknowledgement database = (.ok recorded, rows)) :
      Reachable (added ++ more) after (some rows)
  | restarted {added : List (Uuid × String)} {state loaded : VaultFile}
      {database : Database} (reached : Reachable added state (some database))
      (loads : database.loadRecords = .ok loaded) :
      Reachable added loaded (some database)

variable {primitives : Primitives} {masterKey : MasterKey}
  {added : List (Uuid × String)}

theorem Operated.advances {before after : VaultFile}
    (operates : Operated primitives masterKey before added after) :
    Advances before after ∧
      Extends UseForward before.downstream after.downstream ∧
      (before.Sound → after.Sound) := by
  induction operates with
  | refl =>
      exact ⟨Advances.refl _, Extends.refl UseForward.refl _, id⟩
  | @step between added operation earlier fresh forward induction =>
      obtain ⟨advances, uses, sound⟩ := induction
      refine ⟨advances.trans (operation.advances primitives masterKey fresh),
        uses.trans UseForward.trans
          (operation.uses_forward primitives masterKey forward), ?_⟩
      intro isSound
      exact (sound isSound).evolve
        (operation.evolves primitives masterKey between)

private theorem hasCredentials_eq_false {database : Database}
    (noCredentials : database.hasCredentials = false) :
    database.upstreamKeys.rows = [] ∧
      database.downstreamCredentials.rows = [] := by
  simpa [Database.hasCredentials] using noCredentials

theorem views_of_noCredentials {database : Database}
    (noCredentials : database.hasCredentials = false) :
    (database.keyView = fun _ => none) ∧
      database.downstreamView = fun _ => none := by
  obtain ⟨noKeys, noClients⟩ := hasCredentials_eq_false noCredentials
  constructor
  · funext id
    simp [Database.keyView, Table.find?, noKeys]
  · funext id
    simp [Database.downstreamView, Table.find?, noClients]

/-- What holds of every vault a gateway can have. -/
structure Kept (state : VaultFile) (rows : Option Database) : Prop where
  sound : state.Sound
  keyIds : (state.keys.map StoredKey.id).Nodup
  downstreamIds : (state.downstream.map StoredDownstream.id).Nodup
  stored : ∀ database, rows = some database → Stored state database

theorem Operated.opens {before after : VaultFile}
    (operates : Operated primitives masterKey before added after)
    {earlier : List (Uuid × String)}
    (opens : Vault.Opens primitives masterKey earlier before) :
    Vault.Opens primitives masterKey (earlier ++ added) after := by
  induction operates with
  | refl => simpa using opens
  | step operation earlier fresh forward induction =>
      rw [← List.append_assoc]
      exact induction.operate operation

theorem Operated.kept {before after : VaultFile} {rows : Option Database}
    (operates : Operated primitives masterKey before added after)
    (kept : Kept before rows) : Kept after none := by
  obtain ⟨advances, -, sound⟩ := operates.advances
  refine ⟨sound kept.sound, advances.keyIds kept.keyIds,
    advances.downstreamIds kept.downstreamIds, ?_⟩
  intro database isRows
  cases isRows

theorem Kept.succeeds {before after : VaultFile} {database : Database}
    (kept : Kept before (some database))
    (operates : Operated primitives masterKey before added after)
    {previous current : VaultSyncSnapshot}
    (beforeOut : snapshotOf before = .ok previous)
    (afterOut : snapshotOf after = .ok current) :
    SnapshotSucceeds previous current ∧
      database.Represents previous.keys previous.downstream := by
  obtain ⟨advances, -, -⟩ := operates.advances
  obtain ⟨keysBefore, downstreamBefore⟩ := snapshotOf_eq_ok beforeOut
  obtain ⟨keysAfter, downstreamAfter⟩ := snapshotOf_eq_ok afterOut
  obtain ⟨keys, downstream, keysOut, downstreamOut, represents⟩ :=
    kept.stored database rfl
  cases keysOut.symm.trans keysBefore
  cases downstreamOut.symm.trans downstreamBefore
  exact ⟨advances_succeeds advances keysBefore keysAfter downstreamBefore
    downstreamAfter represents.keyIds represents.downstreamIds, represents⟩

theorem Kept.synced {before after : VaultFile} {database rows : Database}
    (kept : Kept before (some database))
    (operates : Operated primitives masterKey before added after)
    {previous current : VaultSyncSnapshot} {now : Micros} {auditId : Uuid}
    {audit : Option VaultAuditMutation} {refuses : Nat → Bool}
    {acknowledgement : Acknowledgement} {recorded : Option Uuid}
    (beforeOut : snapshotOf before = .ok previous)
    (afterOut : snapshotOf after = .ok current)
    (ran : syncDatabaseDelta now auditId previous current audit refuses
      acknowledgement database = (.ok recorded, rows)) :
    Kept after (some rows) := by
  have later := operates.kept kept
  refine ⟨later.sound, later.keyIds, later.downstreamIds, ?_⟩
  intro _ isRows
  cases isRows
  obtain ⟨-, uses, -⟩ := operates.advances
  obtain ⟨succeeds, represents⟩ := kept.succeeds operates beforeOut afterOut
  obtain ⟨-, downstreamBefore⟩ := snapshotOf_eq_ok beforeOut
  obtain ⟨keysAfter, downstreamAfter⟩ := snapshotOf_eq_ok afterOut
  have notBefore := uses_notBefore uses downstreamBefore downstreamAfter
    succeeds.downstream.after
  have spec := @syncDatabaseDelta_spec now _ _ _ _ _ _ succeeds
    (showsKeys_id succeeds) (showsDownstream_id succeeds notBefore)
    auditId audit refuses acknowledgement database
    (readsSnapshot_id_iff.mpr ⟨represents.keys, represents.downstream⟩)
  rw [ran] at spec
  obtain ⟨keysRead, downstreamRead⟩ := readsSnapshot_id_iff.mp spec
  exact ⟨_, _, keysAfter, downstreamAfter, succeeds.keys.after,
    succeeds.downstream.after, keysRead, downstreamRead⟩

theorem Restores.kept {state loaded : VaultFile} {database : Database}
    (restores : Restores state loaded) (kept : Kept state (some database))
    (stored : Stored loaded database) : Kept loaded (some database) := by
  refine ⟨restores.sound kept.sound, ?_, ?_, ?_⟩
  · have perm := restores.keys.map StoredKey.id
    rw [List.map_map] at perm
    exact perm.nodup_iff.mpr kept.keyIds
  · have perm := restores.downstream.map StoredDownstream.id
    rw [List.map_map] at perm
    exact perm.nodup_iff.mpr kept.downstreamIds
  · intro _ isRows
    cases isRows
    exact stored

private theorem started_kept {state : VaultFile} {database : Database}
    (noCredentials : database.hasCredentials = false)
    (loaded : database.loadRecords = .ok state) :
    Kept state (some database) := by
  obtain ⟨noKeys, noClients⟩ := hasCredentials_eq_false noCredentials
  obtain ⟨keysView, downstreamView⟩ := views_of_noCredentials noCredentials
  unfold Database.loadRecords at loaded
  rw [noKeys, noClients] at loaded
  cases loaded
  refine ⟨⟨⟨rfl, ?_, ?_⟩, ?_, ?_, ?_, ?_⟩, List.nodup_nil, List.nodup_nil,
    ?_⟩
  · exact Nat.zero_le _
  · exact List.nodup_nil
  · exact List.nodup_nil
  · exact fun _ member => by cases member
  · exact fun _ member => by cases member
  · exact fun _ member => by cases member
  · intro _ isRows
    cases isRows
    exact ⟨[], [], rfl, rfl, List.nodup_nil, List.nodup_nil, keysView,
      downstreamView⟩

theorem Reachable.kept {state : VaultFile} {rows : Option Database}
    (reachable : Reachable primitives masterKey added state rows) :
    Kept state rows := by
  induction reachable with
  | fresh =>
      refine ⟨VaultFile.empty_sound, List.nodup_nil, List.nodup_nil, ?_⟩
      intro database isRows
      cases isRows
  | operated reached operates induction => exact operates.kept induction
  | started noCredentials loaded => exact started_kept noCredentials loaded
  | @migrated added state snapshot slotHash now refuses database rows reached
      noCredentials exported ran induction =>
      obtain ⟨keysOut, downstreamOut⟩ := snapshotOf_eq_ok exported
      obtain ⟨keysView, downstreamView⟩ := views_of_noCredentials noCredentials
      refine ⟨induction.sound, induction.keyIds, induction.downstreamIds, ?_⟩
      intro _ isRows
      cases isRows
      refine ⟨_, _, keysOut, downstreamOut, syncDatabase_represents ?_ ?_
        keysView downstreamView ran⟩
      · rw [exported_keyIds (keyRecords_exported keysOut)]
        exact induction.keyIds
      · rw [exported_downstreamIds (downstreamRecords_exported downstreamOut)]
        exact induction.downstreamIds
  | synced reached operates beforeOut afterOut ran induction =>
      exact induction.synced operates beforeOut afterOut ran
  | @restarted added state loaded database reached loads induction =>
      obtain ⟨isLoaded, loadsIt, restores, -, stored⟩ :=
        loadRecords_restores induction.sound (induction.stored database rfl)
      cases loadsIt.symm.trans loads
      exact restores.kept induction stored

theorem Restores.opens {state loaded : VaultFile}
    (restores : Restores state loaded)
    (opens : Vault.Opens primitives masterKey added state) :
    Vault.Opens primitives masterKey added loaded := by
  refine ⟨?_, ?_⟩
  · have perm := restores.keys.map StoredKey.id
    rw [List.map_map] at perm
    exact perm.trans opens.ids
  · intro key member
    obtain ⟨original, isOriginal, rfl⟩ :=
      List.mem_map.mp (restores.keys.mem_iff.mp member)
    exact opens.opened original isOriginal

theorem Reachable.opens {state : VaultFile} {rows : Option Database}
    (reachable : Reachable primitives masterKey added state rows) :
    Vault.Opens primitives masterKey added state := by
  induction reachable with
  | fresh => exact .empty
  | operated reached operates induction => exact operates.opens induction
  | started noCredentials loaded =>
      obtain ⟨noKeys, noClients⟩ := hasCredentials_eq_false noCredentials
      unfold Database.loadRecords at loaded
      rw [noKeys, noClients] at loaded
      cases loaded
      refine ⟨List.Perm.refl _, ?_⟩
      intro key member
      cases member
  | migrated reached noCredentials exported ran induction => exact induction
  | synced reached operates beforeOut afterOut ran induction =>
      exact operates.opens induction
  | restarted reached loads induction =>
      obtain ⟨isLoaded, loadsIt, restores, -, -⟩ := loadRecords_restores
        reached.kept.sound (reached.kept.stored _ rfl)
      cases loadsIt.symm.trans loads
      exact restores.opens induction

theorem routerCursorFor_cursors {database : Database} {loaded : VaultFile}
    (cursors : loaded.routerCursors = database.cursors)
    {row : RoutingStateRow} (member : row ∈ database.routingState.rows) :
    Vault.routerCursorFor row.profileId loaded = row.nextSlot - 1 := by
  have lookups : ∀ rows : List RoutingStateRow,
      (rows.map RoutingStateRow.profileId).Nodup → row ∈ rows →
      (rows.map fun row => (row.profileId, row.nextSlot - 1)).lookup
        row.profileId = some (row.nextSlot - 1) := by
    intro rows distinct member
    induction rows with
    | nil => cases member
    | cons head tail induction =>
        rw [List.map_cons, List.nodup_cons] at distinct
        simp only [List.map_cons, List.lookup_cons]
        cases List.mem_cons.mp member with
        | inl same =>
            subst same
            simp
        | inr inTail =>
            have different : row.profileId ≠ head.profileId := by
              intro same
              exact distinct.1 (same ▸ List.mem_map_of_mem inTail)
            rw [beq_false_of_ne different]
            exact induction distinct.2 inTail
  unfold Vault.routerCursorFor
  rw [cursors, Database.cursors,
    lookups _ database.routingState.nodup member]
  rfl

/-- The keys are the ones that were added, and each decrypts to the credential
it was added with. -/
structure Decrypts (primitives : Primitives) (masterKey : MasterKey)
    (added : List (Uuid × String)) (state : VaultFile) : Prop where
  ids : (state.keys.map StoredKey.id).Perm (added.map Prod.fst)
  credentials : ∀ id credential, (id, credential) ∈ added →
    Vault.credential primitives masterKey id state = .ok credential

theorem export_import_round_trip {state : VaultFile} {rows : Option Database}
    (reachable : Reachable primitives masterKey added state rows) :
    (∃ keys downstream, Vault.keyRecords state = .ok keys ∧
      Vault.downstreamRecords state = .ok downstream ∧
      ∀ profiles, ∃ loaded,
        Vault.fromRecordsWithCursors keys downstream
            (Vault.cursorsFor profiles state) = .ok loaded ∧
          loaded.keys = state.keys ∧ loaded.downstream = state.downstream ∧
          (∀ profile ∈ profiles, Vault.routerCursorFor profile loaded =
            Vault.routerCursorFor profile state) ∧
          (∀ id, Vault.credential primitives masterKey id loaded =
            Vault.credential primitives masterKey id state) ∧
          Decrypts primitives masterKey added loaded) ∧
      ∀ database, rows = some database → ∃ loaded,
        database.loadRecords = .ok loaded ∧
          loaded.keys.Perm (state.keys.map restoredKey) ∧
          loaded.downstream.Perm (state.downstream.map restoredDownstream) ∧
          (∀ row ∈ database.routingState.rows,
            Vault.routerCursorFor row.profileId loaded = row.nextSlot - 1) ∧
          (∀ id, Vault.credential primitives masterKey id loaded =
            Vault.credential primitives masterKey id state) ∧
          Decrypts primitives masterKey added loaded := by
  have kept := reachable.kept
  have opens := reachable.opens
  obtain ⟨keys, downstream, keysOut, downstreamOut, loads⟩ :=
    Vault.fromRecordsWithCursors_exported primitives masterKey kept.sound
  refine ⟨⟨keys, downstream, keysOut, downstreamOut, ?_⟩, ?_⟩
  · intro profiles
    obtain ⟨loaded, isLoaded, sameKeys, sameClients, cursors, credentials⟩ :=
      loads profiles
    have decrypts : Decrypts primitives masterKey added loaded := by
      refine ⟨sameKeys ▸ opens.ids, ?_⟩
      intro id credential member
      exact (credentials id).trans (opens.credential kept.keyIds member)
    exact ⟨loaded, isLoaded, sameKeys, sameClients, cursors, credentials,
      decrypts⟩
  · intro database isRows
    obtain ⟨loaded, loads, restores, cursors, stored⟩ :=
      loadRecords_restores kept.sound (kept.stored database isRows)
    have loadedOpens := restores.opens opens
    have loadedKept := restores.kept (isRows ▸ kept) stored
    have decrypts : Decrypts primitives masterKey added loaded :=
      ⟨loadedOpens.ids, fun _ _ member =>
        loadedOpens.credential loadedKept.keyIds member⟩
    exact ⟨loaded, loads, restores.keys, restores.downstream,
      fun row member => routerCursorFor_cursors cursors member,
      fun id => restores.credential primitives masterKey kept.keyIds id,
      decrypts⟩

end Reachable

namespace TakenOver

def secret : String := "nvapi-0123456789abcdefghijklmnopqrstuvwxyz"

def adding : VaultOperation :=
  .add 1 (Vector.replicate 12 1) "primary" secret

def state : VaultFile :=
  (adding.stage (Primitives.tabulated []) (Vector.replicate 32 0)
    .empty).state

def snapshot : VaultSyncSnapshot where
  keys := [{
    id := 1
    label := "primary"
    fingerprint := List.replicate 32 0
    nonce := List.replicate 12 1
    ciphertext := utf8 secret ++ List.replicate 16 0
    enabled := false
    verified := false
    retired := false
    cooldownUntil := none
    requestCount := 0
    failureCount := 0 }]
  downstream := []
  cursors := Vault.cursorsFor profiles state

def synced : Except SyncError Unit × Database :=
  syncDatabase (fun _ => 1) 0 snapshot (fun _ => false)
    (Database.migrated .empty)

private theorem state_exported : snapshotOf state = .ok snapshot := by
  have records : Vault.keyRecords state = .ok snapshot.keys := by
    decide +kernel
  have clients : Vault.downstreamRecords state = .ok [] := by decide +kernel
  unfold snapshotOf
  rw [records, clients]
  rfl

theorem export_import_round_trip_migrated :
    ∃ loaded, synced.2.loadRecords = .ok loaded ∧
      loaded.keys.Perm (state.keys.map restoredKey) ∧
      loaded.downstream.Perm (state.downstream.map restoredDownstream) ∧
      (∀ row ∈ synced.2.routingState.rows,
        Vault.routerCursorFor row.profileId loaded = row.nextSlot - 1) ∧
      (∀ id, Vault.credential (Primitives.tabulated []) (Vector.replicate 32 0)
          id loaded =
        Vault.credential (Primitives.tabulated []) (Vector.replicate 32 0) id
          state) ∧
      Decrypts (Primitives.tabulated []) (Vector.replicate 32 0) [(1, secret)]
        loaded := by
  have adds : adding.adds (Primitives.tabulated []) (Vector.replicate 32 0)
      .empty = [(1, secret)] := by
    decide +kernel
  have added : Operated (Primitives.tabulated []) (Vector.replicate 32 0)
      .empty [(1, secret)] state := by
    have fresh : adding.Fresh .empty := List.not_mem_nil
    have forward : adding.Forward .empty := trivial
    exact adds ▸ Operated.step adding (.refl .empty) fresh forward
  have succeeded : synced.1 = .ok () := by decide +kernel
  have ran : synced = (.ok (), synced.2) := by
    generalize synced = answer at succeeded ⊢
    cases answer
    cases succeeded
    rfl
  have reachable : Reachable (Primitives.tabulated []) (Vector.replicate 32 0)
      [(1, secret)] state (some synced.2) :=
    .migrated (.operated .fresh added) (by decide) state_exported ran
  exact (export_import_round_trip reachable).2 _ rfl

end TakenOver

end NvidiaBuildLb.Gateway
