import NvidiaBuildLb.Gateway.DeltaRefinement
import NvidiaBuildLb.Core.Load
import NvidiaBuildLb.Foundation.Traverse

namespace NvidiaBuildLb.Gateway

open Foundation NvidiaBuildLb.Core
open Transaction (Acknowledgement)

/-! The snapshots a vault exports before and after operating on it. -/

theorem decodeField_eq_ok {field : String} {decoded : Option (List UInt8)}
    {bytes : List UInt8}
    (exported : Vault.decodeField field decoded = .ok bytes) :
    decoded = some bytes := by
  cases decoded with
  | none => cases exported
  | some found =>
      cases exported
      rfl

structure Exported (key : StoredKey) (record : VaultKeyRecord) : Prop where
  id : record.id = key.id
  label : record.label = key.label
  fingerprint : hexDecode key.fingerprint = some record.fingerprint
  nonce : base64UrlDecode key.nonce = some record.nonce
  ciphertext : base64UrlDecode key.ciphertext = some record.ciphertext

theorem keyRecord_exported {key : StoredKey} {record : VaultKeyRecord}
    (exported : Vault.keyRecord key = .ok record) : Exported key record := by
  unfold Vault.keyRecord at exported
  obtain ⟨fingerprint, fingerprintOk, exported⟩ := ok_of_bind exported
  obtain ⟨nonce, nonceOk, exported⟩ := ok_of_bind exported
  obtain ⟨ciphertext, ciphertextOk, exported⟩ := ok_of_bind exported
  cases exported
  exact ⟨rfl, rfl, decodeField_eq_ok fingerprintOk, decodeField_eq_ok nonceOk,
    decodeField_eq_ok ciphertextOk⟩

theorem Exported.sameKey {before after : StoredKey}
    {previous current : VaultKeyRecord} (edited : KeyEdited before after)
    (exportedBefore : Exported before previous)
    (exportedAfter : Exported after current) : SameKey previous current where
  id := by rw [exportedAfter.id, exportedBefore.id, edited.id]
  label := by rw [exportedAfter.label, exportedBefore.label, edited.label]
  fingerprint := by
    have same := exportedAfter.fingerprint
    rw [edited.fingerprint, exportedBefore.fingerprint] at same
    exact (Option.some.inj same).symm
  nonce := by
    have same := exportedAfter.nonce
    rw [edited.nonce, exportedBefore.nonce] at same
    exact (Option.some.inj same).symm
  ciphertext := by
    have same := exportedAfter.ciphertext
    rw [edited.ciphertext, exportedBefore.ciphertext] at same
    exact (Option.some.inj same).symm

structure ExportedDownstream (item : StoredDownstream)
    (record : VaultDownstreamRecord) : Prop where
  id : record.id = item.id
  label : record.label = item.label
  createdAt : record.createdAt = item.createdAt
  requestCount : record.requestCount = item.requestCount
  lastUsedAt : record.lastUsedAt = item.lastUsedAt

theorem downstreamRecord_exported {item : StoredDownstream}
    {record : VaultDownstreamRecord}
    (exported : Vault.downstreamRecord item = .ok record) :
    ExportedDownstream item record := by
  unfold Vault.downstreamRecord at exported
  obtain ⟨digest, -, exported⟩ := ok_of_bind exported
  cases exported
  exact ⟨rfl, rfl, rfl, rfl, rfl⟩

theorem keyRecords_exported {state : VaultFile} {records : List VaultKeyRecord}
    (exported : Vault.keyRecords state = .ok records) :
    List.Forall₂ Exported state.keys records :=
  (forall₂_of_mapM_ok exported).imp fun _ _ => keyRecord_exported

theorem downstreamRecords_exported {state : VaultFile}
    {records : List VaultDownstreamRecord}
    (exported : Vault.downstreamRecords state = .ok records) :
    List.Forall₂ ExportedDownstream state.downstream records :=
  (forall₂_of_mapM_ok exported).imp fun _ _ => downstreamRecord_exported

theorem exported_keyIds {keys : List StoredKey} {records : List VaultKeyRecord}
    (exported : List.Forall₂ Exported keys records) :
    records.map VaultKeyRecord.id = keys.map StoredKey.id := by
  apply map_eq_map_of_forall₂ _ exported
  exact fun _ _ isRecord => isRecord.id

theorem exported_downstreamIds {downstream : List StoredDownstream}
    {records : List VaultDownstreamRecord}
    (exported : List.Forall₂ ExportedDownstream downstream records) :
    records.map VaultDownstreamRecord.id =
      downstream.map StoredDownstream.id := by
  apply map_eq_map_of_forall₂ _ exported
  exact fun _ _ isRecord => isRecord.id

theorem eq_of_key {α β : Type} {key : α → β} {entries : List α}
    (distinct : (entries.map key).Nodup) {left right : α}
    (leftMember : left ∈ entries) (rightMember : right ∈ entries)
    (same : key left = key right) : left = right :=
  List.inj_on_of_nodup_map distinct leftMember rightMember same

private theorem ids_kept {entry : Type} {read : entry → Uuid}
    {related : entry → entry → Prop} {before after : List entry}
    (keepsId : ∀ left right, related left right → read right = read left)
    (extension : Extends related before after) :
    ∀ id ∈ before.map read, id ∈ after.map read := by
  intro id member
  obtain ⟨stored, found, rfl⟩ := List.mem_map.mp member
  obtain ⟨successor, inAfter, step⟩ := extension.exists_of_mem found
  exact keepsId _ _ step ▸ List.mem_map_of_mem inAfter

theorem advances_succeeds {before after : VaultFile}
    (advances : Advances before after) {previous current : VaultSyncSnapshot}
    (keysBefore : Vault.keyRecords before = .ok previous.keys)
    (keysAfter : Vault.keyRecords after = .ok current.keys)
    (downstreamBefore :
      Vault.downstreamRecords before = .ok previous.downstream)
    (downstreamAfter : Vault.downstreamRecords after = .ok current.downstream)
    (keyIds : (previous.keys.map VaultKeyRecord.id).Nodup)
    (downstreamIds :
      (previous.downstream.map VaultDownstreamRecord.id).Nodup) :
    SnapshotSucceeds previous current := by
  have keysOut := keyRecords_exported keysBefore
  have keysIn := keyRecords_exported keysAfter
  have downstreamOut := downstreamRecords_exported downstreamBefore
  have downstreamIn := downstreamRecords_exported downstreamAfter
  have afterKeyIds : (current.keys.map VaultKeyRecord.id).Nodup := by
    rw [exported_keyIds keysIn]
    apply advances.keyIds
    rwa [← exported_keyIds keysOut]
  have afterDownstreamIds :
      (current.downstream.map VaultDownstreamRecord.id).Nodup := by
    rw [exported_downstreamIds downstreamIn]
    apply advances.downstreamIds
    rwa [← exported_downstreamIds downstreamOut]
  refine {
    keys := ⟨keyIds, afterKeyIds, ?_⟩
    sameKey := ?_
    downstream := ⟨downstreamIds, afterDownstreamIds, ?_⟩
    sameDownstream := ?_ }
  · intro record member
    have kept := ids_kept (fun _ _ edited => edited.id) advances.keys
    rw [← exported_keyIds keysOut, ← exported_keyIds keysIn] at kept
    exact kept _ (List.mem_map_of_mem member)
  · intro old oldMember new newMember same
    obtain ⟨stored, found, isOld⟩ := exists_of_forall₂_right keysOut oldMember
    obtain ⟨successor, inAfter, edited⟩ := advances.keys.exists_of_mem found
    obtain ⟨record, inCurrent, isRecord⟩ := exists_of_forall₂ keysIn inAfter
    have step := Exported.sameKey edited isOld isRecord
    have isNew : new = record := eq_of_key afterKeyIds newMember inCurrent
      (same.trans step.id.symm)
    exact isNew ▸ step
  · intro record member
    have kept := ids_kept (fun _ _ edited => edited.id) advances.downstream
    rw [← exported_downstreamIds downstreamOut,
      ← exported_downstreamIds downstreamIn] at kept
    exact kept _ (List.mem_map_of_mem member)
  · intro old oldMember new newMember same
    obtain ⟨stored, found, isOld⟩ :=
      exists_of_forall₂_right downstreamOut oldMember
    obtain ⟨successor, inAfter, edited⟩ :=
      advances.downstream.exists_of_mem found
    obtain ⟨record, inCurrent, isRecord⟩ :=
      exists_of_forall₂ downstreamIn inAfter
    have isNew : new = record :=
      eq_of_key afterDownstreamIds newMember inCurrent (by
        rw [same, isOld.id, isRecord.id, edited.id])
    subst isNew
    refine ⟨same, ?_, ?_⟩
    · rw [isRecord.label, isOld.label, edited.label]
    · rw [isRecord.createdAt, isOld.createdAt, edited.createdAt]

theorem uses_notBefore {before after : VaultFile}
    (uses : Extends UseForward before.downstream after.downstream)
    {previous current : List VaultDownstreamRecord}
    (downstreamBefore : Vault.downstreamRecords before = .ok previous)
    (downstreamAfter : Vault.downstreamRecords after = .ok current)
    (ids : (current.map VaultDownstreamRecord.id).Nodup) :
    ∀ old ∈ previous, ∀ new ∈ current, new.id = old.id →
      NotBefore old.lastUsedAt new.lastUsedAt := by
  intro old oldMember new newMember same
  have downstreamIn := downstreamRecords_exported downstreamAfter
  obtain ⟨stored, found, isOld⟩ := exists_of_forall₂_right
    (downstreamRecords_exported downstreamBefore) oldMember
  obtain ⟨user, userMember, used⟩ := uses.exists_of_mem found
  obtain ⟨record, inCurrent, isRecord⟩ :=
    exists_of_forall₂ downstreamIn userMember
  have isNew : new = record := eq_of_key ids newMember inCurrent (by
    rw [same, isOld.id, isRecord.id, used.id])
  rw [isNew, isRecord.lastUsedAt, isOld.lastUsedAt]
  exact used.forward

theorem showsKeys_id {previous current : VaultSyncSnapshot}
    (succeeds : SnapshotSucceeds previous current) :
    ShowsKeys id previous current where
  guards := by
    intro before _ columns shown
    rw [show columns = keyColumns before from shown]
  follows := by
    intro before beforeMember after afterMember same columns shown
    rw [show columns = keyColumns before from shown]
    exact (succeeds.sameKey before beforeMember after afterMember same).synced

theorem showsDownstream_id {previous current : VaultSyncSnapshot}
    (succeeds : SnapshotSucceeds previous current)
    (forward : ∀ before ∈ previous.downstream, ∀ after ∈ current.downstream,
      after.id = before.id →
        NotBefore before.lastUsedAt after.lastUsedAt) :
    ShowsDownstream id previous current where
  guards := by
    intro before _ columns shown
    rw [show columns = downstreamColumns before from shown]
  follows := by
    intro before beforeMember after afterMember same columns shown
    rw [show columns = downstreamColumns before from shown]
    exact (succeeds.sameDownstream before beforeMember after afterMember
      same).synced (forward before beforeMember after afterMember same)

theorem through_id (view : Uuid → Option α) : through id view = view := by
  funext wanted
  exact congrFun Option.map_id (view wanted)

theorem readsSnapshot_id_iff {snapshot : VaultSyncSnapshot}
    {database : Database} :
    ReadsSnapshot id id snapshot database ↔
      database.keyView =
          snapshotView VaultKeyRecord.id keyColumns snapshot.keys ∧
        database.downstreamView = snapshotView VaultDownstreamRecord.id
          downstreamColumns snapshot.downstream := by
  unfold ReadsSnapshot
  rw [through_id, through_id, Function.id_comp, Function.id_comp]

def sampleRecord (verified : Bool) : VaultKeyRecord where
  id := 1
  label := "primary"
  fingerprint := List.replicate 32 7
  nonce := List.replicate 12 1
  ciphertext := List.replicate 54 2
  enabled := false
  verified
  retired := false
  cooldownUntil := none
  requestCount := 0
  failureCount := 0

def sampleVault (verified : Bool) : VaultFile :=
  { VaultFile.empty with
    keys := [{
      id := 1
      label := "primary"
      fingerprint := hexEncode (List.replicate 32 7)
      nonce := base64UrlEncode (List.replicate 12 1)
      ciphertext := base64UrlEncode (List.replicate 54 2)
      enabled := false
      verified
      retired := false
      cooldownUntil := none
      requestCount := 0
      failureCount := 0 }] }

def sampleDatabase : Database :=
  { Database.migrated .empty with
    upstreamKeys := {
      rows := [{
        id := 1
        label := "primary"
        fingerprint := List.replicate 32 7
        ciphertext := List.replicate 54 2
        nonce := List.replicate 12 1
        enabled := false
        verified := false
        retired := false
        cooldownUntil := none
        requestCount := 0
        failureCount := 0
        createdAt := 0
        slotNo := 1 }]
      nodup := by decide } }

theorem sampleVault_records (verified : Bool) :
    Vault.keyRecords (sampleVault verified) = .ok [sampleRecord verified] := by
  simp [Vault.keyRecords, sampleVault, Vault.keyRecord, Vault.decodeField,
    sampleRecord, Bind.bind, Except.bind, Pure.pure, Except.pure]

theorem sampleDatabase_represents :
    sampleDatabase.Represents [sampleRecord false] [] where
  keyIds := by decide
  downstreamIds := by decide
  keys := by
    funext id
    simp only [Database.keyView, sampleDatabase, Table.find?, snapshotView,
      List.find?_cons, List.find?_nil, sampleRecord]
    cases decide ((1 : Uuid) = id) <;> rfl
  downstream := rfl

def verifyingDelta (acknowledgement : Acknowledgement) :
    Except SyncError (Option Uuid) × Database :=
  syncDatabaseDelta 0 0 ⟨[sampleRecord false], [], []⟩
    ⟨[sampleRecord true], [], []⟩ none (fun _ => false) acknowledgement
    sampleDatabase

end NvidiaBuildLb.Gateway
