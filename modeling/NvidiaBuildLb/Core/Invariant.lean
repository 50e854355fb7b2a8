import NvidiaBuildLb.Core.Evolution
import NvidiaBuildLb.Core.Load
import NvidiaBuildLb.Foundation.Run
import NvidiaBuildLb.Foundation.Traverse

namespace NvidiaBuildLb.Core

open Foundation

/-! The vault and its files over whole runs of operations. -/

structure VaultWorld where
  memory : VaultFile
  disk : Disk

/-- A vault opened on a directory that has no vault file yet. -/
def VaultWorld.fresh (temporary : Option (Option VaultFile)) : VaultWorld where
  memory := .empty
  disk := { temporary, committed := none }

theorem VaultWorld.open_fresh (temporary : Option (Option VaultFile)) :
    Vault.open (VaultWorld.fresh temporary).disk =
      .ok (VaultWorld.fresh temporary).memory :=
  rfl

/-- One operation and the step of its write that the system refuses. -/
abbrev Attempt := VaultOperation × Option PersistStep

def VaultWorld.attempt (primitives : Primitives) (masterKey : MasterKey)
    (world : VaultWorld) (attempt : Attempt) : VaultWorld :=
  let staged := attempt.1.stage primitives masterKey world.memory
  { memory := staged.state, disk := (staged.run attempt.2 world.disk).2 }

def VaultWorld.replay (primitives : Primitives) (masterKey : MasterKey)
    (world : VaultWorld) (attempts : List Attempt) : VaultWorld :=
  attempts.foldl (VaultWorld.attempt primitives masterKey) world

def vaultStep (primitives : Primitives) (masterKey : MasterKey)
    (before : VaultWorld) (attempt : Attempt) (after : VaultWorld) : Prop :=
  after = before.attempt primitives masterKey attempt

theorem VaultWorld.run_replay (primitives : Primitives)
    (masterKey : MasterKey) (world : VaultWorld) (attempts : List Attempt) :
    Run (vaultStep primitives masterKey) world attempts
      (world.replay primitives masterKey attempts) := by
  induction attempts generalizing world with
  | nil => exact .nil world
  | cons attempt rest induction => exact .cons rfl (induction _)

def liveLabels (keys : List StoredKey) : List String :=
  (keys.filter fun key => !key.retired).map StoredKey.label

/-- What the loader of the vault file checks. -/
structure VaultFile.Loadable (state : VaultFile) : Prop where
  version : state.version = 1
  active : Vault.activeCount state.keys ≤ maxUpstreamKeys
  fingerprints : (state.keys.map StoredKey.fingerprint).Nodup

structure VaultFile.Sound (state : VaultFile) : Prop extends
    VaultFile.Loadable state where
  labels : (liveLabels state.keys).Nodup
  enabled : ∀ key ∈ state.keys, EnabledSound key
  formed : ∀ key ∈ state.keys, WellFormedKey key
  digests : ∀ item ∈ state.downstream, WellFormedDigest item.tokenDigest

theorem VaultFile.empty_sound : VaultFile.empty.Sound := by
  refine ⟨⟨rfl, ?_, ?_⟩, ?_, ?_, ?_, ?_⟩ <;>
    simp [VaultFile.empty, Vault.activeCount, liveLabels]

private theorem activeCount_le {before after : List StoredKey}
    (edits : List.Forall₂ KeyEdited before after) :
    Vault.activeCount after ≤ Vault.activeCount before := by
  simp only [Vault.activeCount, ← List.countP_eq_length_filter]
  apply countP_le_of_forall₂ _ _ edits
  intro left right edited live
  cases retired : left.retired with
  | false => rfl
  | true => simp [edited.retired retired] at live

private theorem liveLabels_sublist {before after : List StoredKey}
    (edits : List.Forall₂ KeyEdited before after) :
    (liveLabels after).Sublist (liveLabels before) := by
  induction edits with
  | nil => exact List.Sublist.slnil
  | @cons left right _ _ head _ induction =>
      simp only [liveLabels] at induction ⊢
      cases leftRetired : left.retired with
      | true => simpa [leftRetired, head.retired leftRetired] using induction
      | false =>
          cases rightRetired : right.retired with
          | true =>
              simpa [leftRetired, rightRetired] using induction.cons left.label
          | false =>
              simpa [leftRetired, rightRetired, head.label] using
                induction.cons_cons left.label

private theorem mem_liveLabels {keys : List StoredKey} {label : String} :
    label ∈ liveLabels keys ↔
      ∃ key ∈ keys, key.retired = false ∧ key.label = label := by
  simp [liveLabels, and_assoc]

private theorem activeCount_snoc (keys : List StoredKey) (entry : StoredKey) :
    Vault.activeCount (keys ++ [entry]) ≤ Vault.activeCount keys + 1 := by
  simp only [Vault.activeCount, List.filter_append, List.length_append]
  have bound := List.length_filter_le (fun key => !key.retired) [entry]
  simp only [List.length_singleton] at bound
  omega

private theorem fingerprints_kept {before kept : List StoredKey}
    (edits : List.Forall₂ KeyEdited before kept) :
    kept.map StoredKey.fingerprint = before.map StoredKey.fingerprint :=
  map_eq_of_forall₂ StoredKey.fingerprint (fun edited => edited.fingerprint)
    edits

private theorem active_evolve {before after : List StoredKey}
    (active : Vault.activeCount before ≤ maxUpstreamKeys)
    (evolve : KeysEvolve newId before after) :
    Vault.activeCount after ≤ maxUpstreamKeys := by
  cases evolve with
  | edited edits => exact (activeCount_le edits).trans active
  | @added kept entry edits new =>
      exact (activeCount_snoc kept entry).trans (new.room active)

private theorem fingerprints_evolve {before after : List StoredKey}
    (fingerprints : (before.map StoredKey.fingerprint).Nodup)
    (evolve : KeysEvolve newId before after) :
    (after.map StoredKey.fingerprint).Nodup := by
  cases evolve with
  | edited edits =>
      rw [fingerprints_kept edits]
      exact fingerprints
  | @added kept entry edits new =>
      rw [List.map_append, fingerprints_kept edits, List.nodup_append]
      refine ⟨fingerprints, by simp, ?_⟩
      intro left member right last same
      obtain ⟨key, found, rfl⟩ := List.mem_map.mp member
      exact new.fingerprint key found (by simpa [same] using last)

theorem VaultFile.Loadable.evolve {before after : VaultFile}
    (loadable : before.Loadable)
    (evolve : Evolves newKey newDownstream before after) :
    after.Loadable where
  version := evolve.version.trans loadable.version
  active := active_evolve loadable.active evolve.keys
  fingerprints := fingerprints_evolve loadable.fingerprints evolve.keys

private theorem labels_evolve {before after : List StoredKey}
    (labels : (liveLabels before).Nodup)
    (evolve : KeysEvolve newId before after) : (liveLabels after).Nodup := by
  cases evolve with
  | edited edits => exact (liveLabels_sublist edits).nodup labels
  | @added kept entry edits new =>
      have keptLabels := (liveLabels_sublist edits).nodup labels
      have fresh : entry.label ∉ liveLabels kept := by
        intro member
        obtain ⟨key, found, live, same⟩ :=
          mem_liveLabels.mp ((liveLabels_sublist edits).subset member)
        exact new.label key found live same
      cases retired : entry.retired with
      | true => simpa [liveLabels, retired] using keptLabels
      | false =>
          have appended :
              liveLabels (kept ++ [entry]) =
                liveLabels kept ++ [entry.label] := by
            simp [liveLabels, retired]
          rw [appended, List.nodup_append]
          refine ⟨keptLabels, by simp, ?_⟩
          intro left member right last same
          rw [List.mem_singleton] at last
          exact fresh (last ▸ same ▸ member)

private theorem entries_evolve {before after : List StoredKey}
    (enabled : ∀ key ∈ before, EnabledSound key)
    (formed : ∀ key ∈ before, WellFormedKey key)
    (evolve : KeysEvolve newId before after) :
    ∀ key ∈ after, EnabledSound key ∧ WellFormedKey key := by
  have survives : ∀ {kept : List StoredKey},
      List.Forall₂ KeyEdited before kept →
      ∀ key ∈ kept, EnabledSound key ∧ WellFormedKey key := by
    intro kept edits key member
    obtain ⟨original, found, edited⟩ := exists_of_forall₂_right edits member
    exact ⟨edited.sound (enabled original found),
      (formed original found).of_edited edited⟩
  cases evolve with
  | edited edits => exact survives edits
  | added edits new =>
      intro key member
      rcases List.mem_append.mp member with inKept | isNew
      · exact survives edits key inKept
      · rw [List.mem_singleton.mp isNew]
        exact ⟨new.sound, new.formed⟩

private theorem digests_evolve {before after : List StoredDownstream}
    (formed : ∀ item ∈ before, WellFormedDigest item.tokenDigest)
    (evolve : DownstreamEvolve newId before after) :
    ∀ item ∈ after, WellFormedDigest item.tokenDigest := by
  intro item member
  cases evolve with
  | edited edits =>
      obtain ⟨original, found, edited⟩ := exists_of_forall₂_right edits member
      exact edited.digest (formed original found)
  | added id new =>
      rcases List.mem_append.mp member with old | isNew
      · exact formed item old
      · rw [List.mem_singleton.mp isNew]
        exact new

theorem VaultFile.Sound.evolve {before after : VaultFile}
    (sound : before.Sound)
    (evolve : Evolves newKey newDownstream before after) : after.Sound := by
  have keys := entries_evolve sound.enabled sound.formed evolve.keys
  exact {
    toLoadable := sound.toLoadable.evolve evolve
    labels := labels_evolve sound.labels evolve.keys
    enabled := fun key member => (keys key member).1
    formed := fun key member => (keys key member).2
    digests := digests_evolve sound.digests evolve.downstream }

theorem Vault.open_eq_ok_iff {disk : Disk} {state : VaultFile} :
    Vault.open disk = .ok state ↔
      disk.committed.getD .empty = state ∧ state.Loadable := by
  unfold Vault.open
  constructor
  · intro opened
    simp only at opened
    split at opened
    · cases opened
    rename_i version
    split at opened
    · cases opened
    rename_i active
    split at opened
    · cases opened
    rename_i fingerprints
    cases opened
    exact ⟨rfl, not_not.mp version, Nat.not_lt.mp active,
      not_not.mp fingerprints⟩
  · intro ⟨committed, loadable⟩
    subst committed
    simp only [loadable.version, loadable.fingerprints,
      Nat.not_lt.mpr loadable.active, ne_eq, not_true_eq_false, if_false]

theorem Vault.open_of_sound {state : VaultFile} (sound : state.Sound)
    {disk : Disk} (committed : disk.committed.getD .empty = state) :
    Vault.open disk = .ok state :=
  Vault.open_eq_ok_iff.mpr ⟨committed, sound.toLoadable⟩

private theorem keyRecord_storeKey {key : StoredKey}
    (formed : WellFormedKey key) :
    ∃ record, Vault.keyRecord key = .ok record ∧
      Vault.storeKey record = .ok key ∧
      (record.retired = key.retired ∧ record.fingerprint.length = 32 ∧
        hexEncode record.fingerprint = key.fingerprint) := by
  obtain ⟨⟨digest, digestLength, digestEq⟩, ⟨nonce, nonceLength, nonceEq⟩,
    ⟨sealed, sealedLength, sealedEq⟩⟩ := formed
  obtain ⟨id, label, fingerprint, keyNonce, ciphertext, enabled, verified,
    retired, cooldownUntil, requestCount, failureCount⟩ := key
  subst digestEq nonceEq sealedEq
  have notShort : ¬ sealed.length ≤ 16 := by omega
  refine ⟨⟨id, label, digest, nonce, sealed, enabled, verified, retired,
    cooldownUntil, requestCount, failureCount⟩, ?_, ?_, rfl, digestLength, rfl⟩
  · simp [Vault.keyRecord, Vault.decodeField]
    rfl
  · simp [Vault.storeKey, digestLength, nonceLength, notShort]

private theorem downstreamRecord_storeDownstream {item : StoredDownstream}
    (formed : WellFormedDigest item.tokenDigest) :
    ∃ record, Vault.downstreamRecord item = .ok record ∧
      Vault.storeDownstream record = .ok item ∧ record.id = item.id := by
  obtain ⟨digest, digestLength, digestEq⟩ := formed
  obtain ⟨id, label, scopes, tokenDigest, active, requestCount, lastUsedAt,
    createdAt, revokedAt⟩ := item
  subst digestEq
  refine ⟨⟨id, label, scopes, digest, active, requestCount, lastUsedAt,
    createdAt, revokedAt⟩, ?_, ?_, rfl⟩
  · simp [Vault.downstreamRecord, Vault.decodeField]
    rfl
  · simp [Vault.storeDownstream, digestLength]

private theorem filter_length_of_forall₂ {keys : List StoredKey}
    {records : List VaultKeyRecord}
    (relations : List.Forall₂ (fun key record =>
      record.retired = key.retired ∧ record.fingerprint.length = 32 ∧
        hexEncode record.fingerprint = key.fingerprint) keys records) :
    (records.filter fun record => !record.retired).length =
        Vault.activeCount keys ∧
      (∀ record ∈ records, record.fingerprint.length = 32) ∧
      records.map (hexEncode ∘ VaultKeyRecord.fingerprint) =
        keys.map StoredKey.fingerprint := by
  induction relations with
  | nil => exact ⟨rfl, by simp, rfl⟩
  | @cons key record _ _ head _ induction =>
      obtain ⟨count, lengths, fingerprints⟩ := induction
      obtain ⟨sameRetired, length, sameFingerprint⟩ := head
      refine ⟨?_, ?_, ?_⟩
      · simp only [Vault.activeCount] at count ⊢
        cases retired : key.retired <;>
          simp [sameRetired, retired, count]
      · intro candidate member
        rcases List.mem_cons.mp member with rfl | inTail
        · exact length
        · exact lengths candidate inTail
      · simp only [List.map_cons, fingerprints, Function.comp,
          sameFingerprint]

/-- The exported rows load back into the same credentials, whatever the
cursors stored beside them. -/
theorem Vault.fromRecordsWithCursors_of_sound {state : VaultFile}
    (sound : state.Sound) :
    ∃ keys downstream, Vault.keyRecords state = .ok keys ∧
      Vault.downstreamRecords state = .ok downstream ∧
      ∀ cursors,
        Vault.fromRecordsWithCursors keys downstream cursors = .ok {
          state with
          routerCursor := (cursors.lookup Vault.legacyProfile).getD 0
          routerCursors := cursors } := by
  obtain ⟨keys, keysOut, keysBack, relations⟩ := exists_mapM_ok
    fun key member => keyRecord_storeKey (sound.formed key member)
  obtain ⟨downstream, downstreamOut, downstreamBack, -⟩ := exists_mapM_ok
    fun item member =>
      downstreamRecord_storeDownstream (sound.digests item member)
  obtain ⟨count, lengths, fingerprints⟩ := filter_length_of_forall₂ relations
  refine ⟨keys, downstream, keysOut, downstreamOut, ?_⟩
  intro cursors
  have distinct : (keys.map VaultKeyRecord.fingerprint).Nodup := by
    have encoded : ((keys.map VaultKeyRecord.fingerprint).map
        hexEncode).Nodup := by
      rw [List.map_map, fingerprints]
      exact sound.fingerprints
    exact encoded.of_map _
  have noneTooMany := Nat.not_lt.mpr (count.trans_le sound.active)
  unfold Vault.fromRecordsWithCursors
  rw [if_neg noneTooMany, if_neg (not_not.mpr ⟨lengths, distinct⟩), keysBack,
    downstreamBack]
  simp only [sound.version.symm]
  rfl

structure VaultWorld.Sound (world : VaultWorld) : Prop where
  memory : world.memory.Sound
  file : (world.disk.committed.getD .empty).Sound

theorem VaultWorld.Sound.attempt {world : VaultWorld} (sound : world.Sound)
    (primitives : Primitives) (masterKey : MasterKey) (attempt : Attempt) :
    (world.attempt primitives masterKey attempt).Sound := by
  have evolved := sound.memory.evolve
    (attempt.1.evolves primitives masterKey world.memory)
  refine ⟨evolved, ?_⟩
  simp only [VaultWorld.attempt, Staged.run_committed]
  cases published :
      (attempt.1.stage primitives masterKey world.memory).published
        attempt.2 with
  | none => exact sound.file
  | some state =>
      have same := Staged.published_eq published
      exact same ▸ evolved

theorem VaultWorld.replay_sound (primitives : Primitives)
    (masterKey : MasterKey) (temporary : Option (Option VaultFile))
    (attempts : List Attempt) :
    ((VaultWorld.fresh temporary).replay primitives masterKey
      attempts).Sound := by
  apply (VaultWorld.run_replay primitives masterKey _ attempts).invariant
    VaultWorld.Sound
  · rintro before attempt after sound rfl
    exact sound.attempt primitives masterKey attempt
  · exact ⟨VaultFile.empty_sound, VaultFile.empty_sound⟩

def VaultWorld.KeysExtended (before after : VaultWorld) : Prop :=
  Extends KeyEdited before.memory.keys after.memory.keys

theorem VaultWorld.replay_extends (primitives : Primitives)
    (masterKey : MasterKey) (world : VaultWorld) (attempts : List Attempt) :
    world.KeysExtended (world.replay primitives masterKey attempts) := by
  apply (VaultWorld.run_replay primitives masterKey world attempts).relates
  · intro state
    exact Extends.refl KeyEdited.refl state.memory.keys
  · rintro start before attempt after reached rfl
    exact reached.trans KeyEdited.trans
      (attempt.1.evolves primitives masterKey before.memory).keys.extends

theorem VaultWorld.replay_append (primitives : Primitives)
    (masterKey : MasterKey) (world : VaultWorld)
    (attempts more : List Attempt) :
    world.replay primitives masterKey (attempts ++ more) =
      (world.replay primitives masterKey attempts).replay primitives masterKey
        more := by
  simp [VaultWorld.replay]

private theorem eq_of_fingerprint {keys : List StoredKey}
    (distinct : (keys.map StoredKey.fingerprint).Nodup) {left right : StoredKey}
    (leftMember : left ∈ keys) (rightMember : right ∈ keys)
    (same : left.fingerprint = right.fingerprint) : left = right :=
  List.inj_on_of_nodup_map distinct leftMember rightMember same

/-- Whatever is attempted, and whichever writes the system refuses, both copies
of the vault stay within its rules and can be loaded again. -/
theorem VaultWorld.replay_invariant (primitives : Primitives)
    (masterKey : MasterKey) (temporary : Option (Option VaultFile))
    (attempts : List Attempt) :
    let world :=
      (VaultWorld.fresh temporary).replay primitives masterKey attempts
    let keys := world.memory.keys
    (keys.filter fun key => !key.retired).length ≤ 2 ∧
      (keys.map StoredKey.fingerprint).Nodup ∧
      ((keys.filter fun key => !key.retired).map StoredKey.label).Nodup ∧
      (∀ key ∈ keys, key.enabled = true →
        key.verified = true ∧ key.retired = false) ∧
      (∀ more, ∀ key ∈ keys, key.retired = true →
        let laterKeys := (world.replay primitives masterKey more).memory.keys
        (∃ later ∈ laterKeys, later.id = key.id ∧
          later.fingerprint = key.fingerprint) ∧
        ∀ later ∈ laterKeys, later.fingerprint = key.fingerprint →
          later.retired = true) ∧
      (∀ rest, Vault.open { temporary := rest, committed := some world.memory } =
        .ok world.memory) ∧
      (∃ state, Vault.open world.disk = .ok state) ∧
      ∃ keyRecords downstreamRecords,
        Vault.keyRecords world.memory = .ok keyRecords ∧
          Vault.downstreamRecords world.memory = .ok downstreamRecords ∧
          ∀ cursors, Vault.fromRecordsWithCursors keyRecords downstreamRecords
            cursors = .ok {
              world.memory with
              routerCursor := (cursors.lookup Vault.legacyProfile).getD 0
              routerCursors := cursors } := by
  intro world keys
  have sound : world.Sound :=
    VaultWorld.replay_sound primitives masterKey temporary attempts
  refine ⟨sound.memory.active, sound.memory.fingerprints, sound.memory.labels,
    sound.memory.enabled, ?_, fun rest => Vault.open_of_sound sound.memory rfl,
    ⟨_, Vault.open_of_sound sound.file rfl⟩,
    Vault.fromRecordsWithCursors_of_sound sound.memory⟩
  intro more key member retired laterKeys
  have laterSound : (world.replay primitives masterKey more).Sound := by
    have whole := VaultWorld.replay_sound primitives masterKey temporary
      (attempts ++ more)
    rwa [VaultWorld.replay_append] at whole
  obtain ⟨successor, found, edited⟩ :=
    (VaultWorld.replay_extends primitives masterKey world more).exists_of_mem
      member
  refine ⟨⟨successor, found, edited.id, edited.fingerprint⟩, ?_⟩
  intro later laterMember same
  have isSuccessor : later = successor :=
    eq_of_fingerprint laterSound.memory.fingerprints laterMember found
      (same.trans edited.fingerprint.symm)
  exact isSuccessor ▸ edited.retired retired

end NvidiaBuildLb.Core
