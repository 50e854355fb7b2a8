import NvidiaBuildLb.Gateway.Eligibility
import NvidiaBuildLb.Gateway.Retirement
import NvidiaBuildLb.Gateway.SlotNumbers
import NvidiaBuildLb.Gateway.TwoCopies

namespace NvidiaBuildLb.Gateway

open Foundation NvidiaBuildLb.Core

/-! The number of a key in the two views of the administration, over runs of
calls that add, replace and delete keys. -/

/-- The keys that are not retired, in the order in which they were added. -/
def shownKeys (memory : VaultFile) : List Uuid :=
  (Vault.list memory).map KeySummary.id

def Database.storedSlot (database : Database) (id : Uuid) : Option Nat :=
  (database.upstreamKeys.find? id).map UpstreamKeyRow.slotNo

namespace OperationsState

variable (state : OperationsState) (now : Timestamp)

def slotShown (id : Uuid) : Option Nat :=
  ((state.upstreamSlots now).find? fun slot => slot.keyId = id).map
    UpstreamSlot.slotNo

def slotListed (id : Uuid) : Option Nat :=
  ((state.upstreams now).find? fun upstream => upstream.id = id).map
    Upstream.slotNo

theorem slotShown_eq (id : Uuid) :
    state.slotShown now id = numbered (shownKeys state.memory) id :=
  @find?_mapIdx Uuid _ KeySummary UpstreamSlot KeySummary.id UpstreamSlot.keyId
    UpstreamSlot.slotNo (Vault.list state.memory) _ (fun _ _ => rfl)
    (fun _ _ => rfl) id

private theorem find?_perm {rows sorted : List UpstreamKeyRow}
    (same : sorted.Perm rows) (distinct : (rows.map UpstreamKeyRow.id).Nodup)
    (id : Uuid) :
    sorted.find? (fun row => row.id = id) = rows.find? fun row => row.id = id := by
  cases found : rows.find? fun row => row.id = id with
  | none =>
      rw [List.find?_eq_none] at found ⊢
      exact fun row member => found row (same.mem_iff.mp member)
  | some row =>
      have present := List.mem_of_find?_eq_some found
      have isId : row.id = id := by simpa using List.find?_some found
      cases inSorted : sorted.find? fun row => row.id = id with
      | none =>
          have missing := List.find?_eq_none.mp inSorted row
            (same.mem_iff.mpr present)
          simp [isId] at missing
      | some other =>
          have otherId : other.id = id := by simpa using List.find?_some inSorted
          congr 1
          exact List.inj_on_of_nodup_map distinct
            (same.mem_iff.mp (List.mem_of_find?_eq_some inSorted)) present
            (otherId.trans isId.symm)

theorem slotListed_eq (id : Uuid) :
    state.slotListed now id = state.database.storedSlot id := by
  unfold slotListed upstreams Database.storedSlot
  simp only [List.find?_map, Function.comp_def, Option.map_map]
  rw [@find?_perm _ (orderedUpstreams _) (List.perm_insertionSort ..)
    state.database.upstreamKeys.nodup]
  rfl

end OperationsState

inductive KeysMove (env : CallEnvironment) (operated : Option VaultFile)
    (store after : VaultStore) : Prop
  | rolledBack (memory : after.vault.memory = store.vault.memory)
      (rows : after.database = store.database)
  | unsynced (isOperated : operated = some after.vault.memory)
      (advances : Advances store.vault.memory after.vault.memory)
      (rows : after.database = store.database)
      (unobserved : ¬ env.Observed)
  | unheard {database rows : Database} {before current : VaultSyncSnapshot}
      {recorded : Option Uuid} {audit : Option VaultAuditMutation}
      {reached : VaultFile} (isOperated : operated = some reached)
      (advances : Advances store.vault.memory reached)
      (memory : after.vault.memory = store.vault.memory)
      (present : store.database = some database)
      (stored : after.database = some rows)
      (beforeOut : snapshotOf store.vault.memory = .ok before)
      (currentOut : snapshotOf reached = .ok current)
      (ran : syncDatabaseDelta env.now env.auditId before current audit
        env.refuses .received database = (.ok recorded, rows))
      (unobserved : ¬ env.Observed)
  | synced {database rows : Database} {before current : VaultSyncSnapshot}
      {recorded : Option Uuid} {audit : Option VaultAuditMutation}
      (advances : Advances store.vault.memory after.vault.memory)
      (present : store.database = some database)
      (stored : after.database = some rows)
      (beforeOut : snapshotOf store.vault.memory = .ok before)
      (currentOut : snapshotOf after.vault.memory = .ok current)
      (ran : syncDatabaseDelta env.now env.auditId before current audit
        env.refuses .received database = (.ok recorded, rows))

section Calls

variable {primitives : Primitives} {masterKey : MasterKey}
  {env : CallEnvironment} {store : VaultStore}

theorem operate_moves {closure : Closure ε α}
    {auditFor : α → Option VaultAuditMutation} {context : String}
    {settle : α → Option Uuid → Except (StoreError ε) β}
    (settles : ∀ result recorded error,
      settle result recorded = .error error →
        recorded = none ∧ auditFor result ≠ none)
    (fresh : closure.FreshFrom primitives masterKey store.vault)
    (present : store.database ≠ none) :
    KeysMove env (closure.memoryAfter primitives masterKey store.vault) store
      (store.operate primitives masterKey env closure auditFor context
        settle).store := by
  have advances := Closure.run_advances primitives masterKey fresh
  unfold VaultStore.operate Closure.memoryAfter
  cases ran : closure.run primitives masterKey store.vault with
  | mk result vault =>
      rw [ran] at advances
      cases result with
      | error error => exact .rolledBack rfl rfl
      | ok result =>
          simp only
          have ends := syncUnlocked_ends env store.vault.memory
            (auditFor result) { store with vault }
          generalize VaultStore.syncUnlockedWithAudit env store.vault.memory
            (auditFor result) { store with vault } = synced at ends ⊢
          cases ends with
          | absent missing => exact absurd missing present
          | unexported failure refused => exact .rolledBack rfl rfl
          | failed failure observed => exact .rolledBack rfl rfl
          | dropped currentOut beforeOut uncommitted =>
              exact .unsynced rfl advances rfl fun seen =>
                seen.1 uncommitted
          | unheard failure databaseIs currentOut beforeOut committed waited
              lost =>
              refine .unheard rfl advances rfl databaseIs rfl beforeOut
                currentOut committed fun seen => ?_
              rw [seen.2 waited] at lost
              cases lost
          | @committed database rows before current recorded returned
              databaseIs currentOut beforeOut committed kept observed =>
              have reached : KeysMove env (some vault.memory) store
                  { store with vault, database := some rows } :=
                .synced advances databaseIs rfl beforeOut currentOut committed
              cases observed with
              | inl unobserved =>
                  rw [unobserved]
                  exact reached
              | inr observed =>
                  rw [observed.1]
                  cases settled : settle result recorded with
                  | ok value =>
                      simp only [settled]
                      exact reached
                  | error unsettled =>
                      obtain ⟨rfl, audited⟩ := settles _ _ _ settled
                      obtain ⟨mutation, isAudited⟩ :=
                        Option.ne_none_iff_exists'.mp audited
                      rw [isAudited] at committed
                      exact absurd rfl (audited_delta committed)

theorem perform_moves {call : StoreCall}
    (fresh : call.Fresh primitives masterKey store)
    (present : store.database ≠ none) :
    KeysMove env (call.operated primitives masterKey store) store
      (store.perform primitives masterKey env call) := by
  cases call with
  | mutate closure =>
      exact operate_moves (fun _ _ _ unsettled => by cases unsettled) fresh
        present
  | mutateWithAudit closure auditFor =>
      apply operate_moves _ fresh present
      intro result recorded error unsettled
      cases recorded with
      | none => exact ⟨rfl, Option.some_ne_none _⟩
      | some auditId => cases unsettled
  | recordAcceptedDownstreamUse use =>
      simp only [VaultStore.perform, VaultStore.recordAcceptedDownstreamUse,
        StoreCall.operated]
      cases store.acceptedDownstreamPolicy use with
      | error error => exact .rolledBack rfl rfl
      | ok admitted =>
          exact operate_moves (fun _ _ _ unsettled => by cases unsettled)
            ⟨trivial, trivial⟩ present

end Calls

private theorem keyRecord_retired {key : StoredKey} {record : VaultKeyRecord}
    (exported : Vault.keyRecord key = .ok record) :
    record.id = key.id ∧ record.retired = key.retired := by
  unfold Vault.keyRecord at exported
  obtain ⟨fingerprint, -, exported⟩ := ok_of_bind exported
  obtain ⟨nonce, -, exported⟩ := ok_of_bind exported
  obtain ⟨ciphertext, -, exported⟩ := ok_of_bind exported
  cases exported
  exact ⟨rfl, rfl⟩

private theorem keyRecords_retired {memory : VaultFile}
    {snapshot : VaultSyncSnapshot} (exported : snapshotOf memory = .ok snapshot) :
    List.Forall₂ (fun key record => record.id = key.id ∧
      record.retired = key.retired) memory.keys snapshot.keys :=
  (forall₂_of_mapM_ok (snapshotOf_eq_ok exported).1).imp
    fun _ _ => keyRecord_retired

theorem liveIds_eq_shownKeys {memory : VaultFile} {snapshot : VaultSyncSnapshot}
    (exported : snapshotOf memory = .ok snapshot) :
    liveIds snapshot.keys = shownKeys memory := by
  have related := keyRecords_retired exported
  simp only [liveIds, shownKeys, Vault.list, List.map_map]
  generalize memory.keys = keys at related ⊢
  generalize snapshot.keys = records at related ⊢
  induction related with
  | nil => rfl
  | @cons key record keys records same _ induction =>
      simp only [List.filter_cons, same.2]
      split
      · rw [List.map_cons, List.map_cons, induction, same.1]
        rfl
      · exact induction

private theorem forall₂_both {related : StoredKey → StoredKey → Prop}
    {shown : StoredKey → VaultKeyRecord → Prop}
    {result : VaultKeyRecord → VaultKeyRecord → Prop}
    (combine : ∀ before after left right, shown before left →
      related before after → shown after right → result left right)
    {before after : List StoredKey} {left right : List VaultKeyRecord}
    (edits : List.Forall₂ related before after)
    (leftShown : List.Forall₂ shown before left)
    (rightShown : List.Forall₂ shown after right) :
    List.Forall₂ result left right := by
  induction edits generalizing left right with
  | nil =>
      cases leftShown
      cases rightShown
      exact .nil
  | cons edit _ induction =>
      cases leftShown with
      | cons first others =>
          cases rightShown with
          | cons second rest =>
              exact .cons (combine _ _ _ _ first edit second)
                (induction others rest)

theorem exists_keptKeys {before after : VaultFile}
    {previous current : VaultSyncSnapshot} (advances : Advances before after)
    (distinct : (before.keys.map StoredKey.id).Nodup)
    (beforeOut : snapshotOf before = .ok previous)
    (afterOut : snapshotOf after = .ok current) :
    ∃ kept added, current.keys = kept ++ added ∧
      KeptKeys previous.keys kept ∧
      (current.keys.map VaultKeyRecord.id).Nodup := by
  obtain ⟨keptKeys, addedKeys, isAfter, edits⟩ := advances.keys
  have wasShown := keyRecords_retired beforeOut
  have isShown := keyRecords_retired afterOut
  have beforeIds : previous.keys.map VaultKeyRecord.id =
      before.keys.map StoredKey.id :=
    map_eq_map_of_forall₂ (fun _ _ same => same.1) wasShown
  have afterIds : current.keys.map VaultKeyRecord.id =
      after.keys.map StoredKey.id :=
    map_eq_map_of_forall₂ (fun _ _ same => same.1) isShown
  refine ⟨current.keys.take keptKeys.length, current.keys.drop keptKeys.length,
    (List.take_append_drop _ _).symm, ⟨?_, ?_⟩, ?_⟩
  · rw [beforeIds]
    exact distinct
  · rw [isAfter] at isShown
    have front := List.forall₂_take keptKeys.length isShown
    rw [List.take_left] at front
    apply forall₂_both _ edits wasShown front
    intro stored edited old new isOld edit isNew
    refine ⟨by rw [isNew.1, isOld.1, edit.id], ?_⟩
    rw [isOld.2, isNew.2]
    exact edit.retired
  · rw [afterIds]
    exact advances.keyIds distinct

theorem mem_shownKeys {memory : VaultFile} {id : Uuid} :
    id ∈ shownKeys memory ↔
      ∃ key ∈ memory.keys, key.retired = false ∧ key.id = id := by
  simp [shownKeys, Vault.list, summary, and_assoc]

theorem shown_before {before after : VaultFile} (advances : Advances before after)
    (distinct : (before.keys.map StoredKey.id).Nodup) {id : Uuid}
    (known : id ∈ before.keys.map StoredKey.id) (shown : id ∈ shownKeys after) :
    id ∈ shownKeys before := by
  obtain ⟨key, present, isId⟩ := List.mem_map.mp known
  obtain ⟨successor, inAfter, edited⟩ := advances.keys.exists_of_mem present
  obtain ⟨other, otherAfter, live, otherId⟩ := mem_shownKeys.mp shown
  have same : successor = other := List.inj_on_of_nodup_map
    (advances.keyIds distinct) inAfter otherAfter
    (edited.id.trans (isId.trans otherId.symm))
  refine mem_shownKeys.mpr ⟨key, present, ?_, isId⟩
  cases retired : key.retired with
  | true =>
      have staysOut := edited.retired retired
      rw [same, live] at staysOut
      cases staysOut
  | false => rfl

theorem known_after {before after : VaultFile} (advances : Advances before after)
    {id : Uuid} (known : id ∈ before.keys.map StoredKey.id) :
    id ∈ after.keys.map StoredKey.id := by
  obtain ⟨key, present, isId⟩ := List.mem_map.mp known
  obtain ⟨successor, inAfter, edited⟩ := advances.keys.exists_of_mem present
  exact List.mem_map.mpr ⟨successor, inAfter, edited.id.trans isId⟩

/-! One call: the numbers of the rows are the places of the keys, unless the
first of two keys goes and the second stays. -/

/-- The first of two keys is gone and the second is still shown. -/
def RetiresFirst (before after : List Uuid) : Prop :=
  ∃ first second, before = [first, second] ∧ first ∉ after ∧ second ∈ after

instance (before after : List Uuid) : Decidable (RetiresFirst before after) :=
  match before with
  | [] => isFalse fun ⟨_, _, same, _⟩ => by cases same
  | [_] => isFalse fun ⟨_, _, same, _⟩ => by cases same
  | [first, second] =>
      decidable_of_iff (first ∉ after ∧ second ∈ after)
        ⟨fun both => ⟨first, second, rfl, both⟩, fun ⟨_, _, same, both⟩ => by
          cases same
          exact both⟩
  | _ :: _ :: _ :: _ => isFalse fun ⟨_, _, same, _⟩ => by cases same

structure VaultStore.Numbered (store : VaultStore) : Prop where
  distinct : (store.vault.memory.keys.map StoredKey.id).Nodup
  few : (shownKeys store.vault.memory).length ≤ maxUpstreamKeys
  numbers : ∃ database, store.database = some database ∧
    database.liveSlot = numbered (shownKeys store.vault.memory)

private theorem kept_sublist {previous kept : List VaultKeyRecord}
    (keys : KeptKeys previous kept) :
    (liveIds kept).Sublist (liveIds previous) := by
  have related := keys.related
  clear keys
  induction related with
  | nil => exact List.Sublist.refl _
  | @cons before after previous kept same _ induction =>
      simp only [liveIds, List.filter_cons] at induction ⊢
      cases gone : before.retired with
      | true =>
          rw [same.2 gone]
          exact induction
      | false =>
          cases after.retired with
          | true => exact induction.cons _
          | false =>
              simp only [Bool.not_false, if_true, List.map_cons, same.1]
              exact induction.cons_cons _

private theorem prefix_of_not_retiresFirst {kept shown after : List Uuid}
    (sublist : kept.Sublist shown) (few : shown.length ≤ maxUpstreamKeys)
    (stays : ∀ id ∈ kept, id ∈ after)
    (gone : ∀ id ∈ shown, id ∉ kept → id ∉ after)
    (distinct : shown.Nodup) (orderly : ¬ RetiresFirst shown after) :
    kept <+: shown := by
  match shown, few with
  | [], _ =>
      rw [List.sublist_nil.mp sublist]
  | [only], _ =>
      rcases List.sublist_singleton.mp sublist with none | one
      · rw [none]
        exact List.nil_prefix
      · rw [one]
  | [first, second], _ =>
      cases sublist with
      | cons _ rest =>
          rcases List.sublist_singleton.mp rest with none | one
          · rw [none]
            exact List.nil_prefix
          · subst one
            refine absurd ⟨first, second, rfl, ?_, stays second (by simp)⟩ orderly
            apply gone first (by simp)
            intro same
            rw [List.mem_singleton] at same
            simp [same] at distinct
      | cons_cons _ rest =>
          rcases List.sublist_singleton.mp rest with none | one
          · rw [none]
            exact ⟨[second], rfl⟩
          · rw [one]
  | _ :: _ :: _ :: _, few =>
      simp [maxUpstreamKeys] at few

private theorem synced_shown {before after : VaultFile}
    {previous current : VaultSyncSnapshot} (advances : Advances before after)
    (distinct : (before.keys.map StoredKey.id).Nodup)
    (beforeOut : snapshotOf before = .ok previous)
    (afterOut : snapshotOf after = .ok current) :
    ∃ kept added, current.keys = kept ++ added ∧
      KeptKeys previous.keys kept ∧
      (current.keys.map VaultKeyRecord.id).Nodup ∧
      (liveIds kept).Sublist (shownKeys before) ∧
      shownKeys after = liveIds kept ++ liveIds added ∧
      ∀ id ∈ shownKeys before, id ∈ shownKeys after → id ∈ liveIds kept := by
  obtain ⟨kept, added, isSplit, keys, nodup⟩ := exists_keptKeys advances distinct
    beforeOut afterOut
  have shown : shownKeys after = liveIds kept ++ liveIds added := by
    rw [← liveIds_eq_shownKeys afterOut, isSplit]
    simp [liveIds]
  refine ⟨kept, added, isSplit, keys, nodup, ?_, shown, ?_⟩
  · rw [← liveIds_eq_shownKeys beforeOut]
    exact kept_sublist keys
  · intro id wasShown isShown
    rw [shown, List.mem_append] at isShown
    rcases isShown with isKept | isAdded
    · exact isKept
    · -- A new key has a new identifier.
      rw [← liveIds_eq_shownKeys beforeOut] at wasShown
      obtain ⟨old, oldMember, -, oldId⟩ := mem_liveIds.mp wasShown
      obtain ⟨new, newMember, -, newId⟩ := mem_liveIds.mp isAdded
      rw [isSplit, List.map_append, List.nodup_append, keys.ids] at nodup
      exact absurd (oldId.trans newId.symm) (nodup.2.2 _
        (List.mem_map_of_mem oldMember) _ (List.mem_map_of_mem newMember))

/-- The rows a committed sync leaves number the keys that stay as before, and
all keys by their places when it does not take the first of two keys. -/
private theorem syncDatabaseDelta_shown {now : Micros} {auditId : Uuid}
    {before after : VaultFile} {previous current : VaultSyncSnapshot}
    {audit : Option VaultAuditMutation} {refuses : Nat → Bool}
    {database rows : Database} {recorded : Option Uuid}
    (advances : Advances before after)
    (distinct : (before.keys.map StoredKey.id).Nodup)
    (beforeOut : snapshotOf before = .ok previous)
    (currentOut : snapshotOf after = .ok current)
    (numbers : database.liveSlot = numbered (shownKeys before))
    (ran : syncDatabaseDelta now auditId previous current audit refuses
      .received database = (.ok recorded, rows)) :
    (∀ id ∈ shownKeys before, id ∈ shownKeys after →
      rows.liveSlot id = numbered (shownKeys before) id) ∧
    ((shownKeys before).length ≤ maxUpstreamKeys →
      ¬ RetiresFirst (shownKeys before) (shownKeys after) →
        rows.liveSlot = numbered (shownKeys after) ∧
          (shownKeys after).length ≤ maxUpstreamKeys) := by
  obtain ⟨kept, added, isSplit, keys, nodup, sublist, isShown, stays⟩ :=
    synced_shown advances distinct beforeOut currentOut
  have shown := liveIds_eq_shownKeys beforeOut
  obtain ⟨-, ran⟩ := syncDatabaseDelta_eq_ok.mp ran
  have result := congrArg Prod.fst ran
  have isRows : (Transaction.transact _ refuses database).2 = rows :=
    congrArg Prod.snd ran
  constructor
  · intro id shownBefore shownAfter
    have kept := (syncDatabaseDelta_keeps isSplit keys nodup).transact
      (shown ▸ numbers) result
    rw [isRows, shown] at kept
    exact kept id (stays id shownBefore shownAfter)
  · intro few orderly
    have first : liveIds kept <+: liveIds previous.keys := by
      rw [shown]
      apply prefix_of_not_retiresFirst sublist few _ _ _ orderly
      · intro id member
        rw [isShown]
        exact List.mem_append_left _ member
      · exact fun id wasShown gone isShown => gone (stays id wasShown isShown)
      · rw [← shown]
        exact keys.distinct.sublist (List.filter_sublist.map _)
    have reached := (syncDatabaseDelta_numbers isSplit keys nodup first
      (shown ▸ few)).transact (shown ▸ numbers) result
    rwa [isRows, liveIds_eq_shownKeys currentOut] at reached

namespace KeysMove

variable {env : CallEnvironment} {operated : Option VaultFile}
  {store after : VaultStore}

theorem advances (moves : KeysMove env operated store after) :
    Advances store.vault.memory after.vault.memory := by
  cases moves with
  | rolledBack memory _ =>
      rw [memory]
      exact Advances.refl _
  | unsynced _ advances => exact advances
  | unheard _ _ memory =>
      rw [memory]
      exact Advances.refl _
  | synced advances => exact advances

theorem keeps (moves : KeysMove env operated store after)
    (was : store.Numbered)
    (observed : env.Observed ∨ ∀ memory, operated = some memory →
      shownKeys memory = shownKeys store.vault.memory)
    {rows : Database} (stored : after.database = some rows) {id : Uuid}
    (shownBefore : id ∈ shownKeys store.vault.memory)
    (shownAfter : id ∈ shownKeys after.vault.memory) :
    rows.liveSlot id = numbered (shownKeys store.vault.memory) id := by
  obtain ⟨database, present, numbers⟩ := was.numbers
  have unchanged : after.database = store.database →
      rows.liveSlot id = numbered (shownKeys store.vault.memory) id := by
    intro same
    rw [← numbers, Option.some.inj (stored.symm.trans (same.trans present))]
  cases moves with
  | rolledBack _ same => exact unchanged same
  | unsynced _ _ same _ => exact unchanged same
  | @unheard isDatabase isRows before current recorded audit reached isOperated
      advances memory databaseIs rowsAre beforeOut currentOut ran unobserved =>
      cases databaseIs.symm.trans present
      cases rowsAre.symm.trans stored
      have shown := observed.resolve_left unobserved reached isOperated
      exact (syncDatabaseDelta_shown advances was.distinct beforeOut currentOut
        numbers ran).1 id shownBefore (shown ▸ shownBefore)
  | @synced isDatabase isRows before current recorded audit advances
      databaseIs rowsAre beforeOut currentOut ran =>
      cases databaseIs.symm.trans present
      cases rowsAre.symm.trans stored
      exact (syncDatabaseDelta_shown advances was.distinct beforeOut currentOut
        numbers ran).1 id shownBefore shownAfter

private theorem not_retiresFirst_self (ids : List Uuid) :
    ¬ RetiresFirst ids ids := by
  rintro ⟨first, second, rfl, gone, -⟩
  exact gone (List.mem_cons_self ..)

theorem numbered (moves : KeysMove env operated store after)
    (was : store.Numbered)
    (observed : env.Observed ∨ ∀ memory, operated = some memory →
      shownKeys memory = shownKeys store.vault.memory)
    (orderly : ¬ RetiresFirst (shownKeys store.vault.memory)
      (shownKeys after.vault.memory)) : after.Numbered := by
  obtain ⟨database, present, numbers⟩ := was.numbers
  have distinct := moves.advances.keyIds was.distinct
  cases moves with
  | rolledBack memory same =>
      rw [← memory] at numbers
      exact ⟨distinct, memory ▸ was.few, database, same.trans present, numbers⟩
  | unsynced isOperated advances same unobserved =>
      have shown := observed.resolve_left unobserved _ isOperated
      rw [← shown] at numbers
      exact ⟨distinct, shown ▸ was.few, database, same.trans present, numbers⟩
  | @unheard isDatabase rows before current recorded audit reached isOperated
      advances memory databaseIs stored beforeOut currentOut ran unobserved =>
      cases databaseIs.symm.trans present
      -- The rows number the keys the call reached, and these are the old ones.
      have shown := observed.resolve_left unobserved reached isOperated
      have reachedRows := (syncDatabaseDelta_shown advances was.distinct
        beforeOut currentOut numbers ran).2 was.few
        (shown ▸ not_retiresFirst_self _)
      rw [shown, ← memory] at reachedRows
      exact ⟨distinct, reachedRows.2, rows, stored, reachedRows.1⟩
  | @synced isDatabase rows before current recorded audit advances databaseIs
      stored beforeOut currentOut ran =>
      cases databaseIs.symm.trans present
      have reachedRows := (syncDatabaseDelta_shown advances was.distinct
        beforeOut currentOut numbers ran).2 was.few orderly
      exact ⟨distinct, reachedRows.2, rows, stored, reachedRows.1⟩

end KeysMove

namespace VaultStore

/-- The two views show every key under the number stored for it. -/
def SlotsAgree (store : VaultStore) : Prop :=
  ∀ state : OperationsState, store.database = some state.database →
    store.vault.memory = state.memory → ∀ now id number,
      state.slotShown now id = some number →
        state.database.storedSlot id = some number ∧
          state.slotListed now id = some number

/-- A key that both stores show has one number. -/
def KeepsSlots (earlier later : VaultStore) : Prop :=
  ∀ was is : OperationsState, earlier.vault.memory = was.memory →
    later.vault.memory = is.memory → ∀ before now id number,
      id ∈ shownKeys is.memory → was.slotShown before id = some number →
        is.slotShown now id = some number

structure HasNoKeys (store : VaultStore) : Prop where
  keys : store.vault.memory.keys = []
  rows : ∃ database, store.database = some database ∧
    database.upstreamKeys.rows = []

theorem HasNoKeys.numbered {store : VaultStore} (start : store.HasNoKeys) :
    store.Numbered := by
  obtain ⟨database, present, noRows⟩ := start.rows
  have shown : shownKeys store.vault.memory = [] := by
    simp [shownKeys, Vault.list, start.keys]
  refine ⟨by simp [start.keys], by simp [shown], database, present, ?_⟩
  funext id
  simp [Database.liveSlot, Table.find?, noRows, shown]

private theorem storedSlot_of_liveSlot {database : Database} {id : Uuid}
    {number : Nat} (live : database.liveSlot id = some number) :
    database.storedSlot id = some number := by
  obtain ⟨row, present, isId, -, isNumber⟩ := Database.liveSlot_eq_some.mp live
  have found := Table.find?_eq_some_iff.mpr ⟨present, isId⟩
  rw [Database.storedSlot, found, Option.map_some, isNumber]

theorem Numbered.slotsAgree {store : VaultStore} (numbers : store.Numbered) :
    store.SlotsAgree := by
  intro state present memory now id number shown
  obtain ⟨database, isDatabase, live⟩ := numbers.numbers
  rw [OperationsState.slotShown_eq, ← memory, ← live,
    Option.some.inj (isDatabase.symm.trans present)] at shown
  have stored := storedSlot_of_liveSlot shown
  exact ⟨stored, (state.slotListed_eq now id).trans stored⟩

/-- Once the first of two keys is gone, the second is shown as the first and
stored as the second. -/
theorem not_slotsAgree {env : CallEnvironment} {operated : Option VaultFile}
    {store after : VaultStore} (moves : KeysMove env operated store after)
    (was : store.Numbered)
    (observed : env.Observed ∨ ∀ memory, operated = some memory →
      shownKeys memory = shownKeys store.vault.memory)
    (retires : RetiresFirst (shownKeys store.vault.memory)
      (shownKeys after.vault.memory)) : ¬ after.SlotsAgree := by
  obtain ⟨first, second, isBefore, gone, stays⟩ := retires
  have moved : shownKeys after.vault.memory ≠ shownKeys store.vault.memory := by
    intro same
    rw [same, isBefore] at gone
    exact gone (List.mem_cons_self ..)
  obtain ⟨rows, stored, shown⟩ : ∃ rows, after.database = some rows ∧
      numbered (shownKeys after.vault.memory) second = some 1 := by
    obtain ⟨database, present, -⟩ := was.numbers
    cases moves with
    | rolledBack memory _ => exact absurd (congrArg shownKeys memory) moved
    | unsynced isOperated advances same unobserved =>
        exact absurd (observed.resolve_left unobserved _ isOperated) moved
    | unheard _ _ memory =>
        exact absurd (congrArg shownKeys memory) moved
    | @synced isDatabase rows before current recorded audit advances databaseIs
        stored beforeOut currentOut ran =>
        obtain ⟨kept, added, -, -, -, sublist, isShown, staysKept⟩ :=
          synced_shown advances was.distinct beforeOut currentOut
        refine ⟨rows, stored, ?_⟩
        have inKept := staysKept second (by simp [isBefore]) stays
        have firstGone : first ∉ liveIds kept := by
          intro member
          rw [isShown] at gone
          exact gone (List.mem_append_left _ member)
        rw [isBefore] at sublist
        rw [isShown, ← numbered_of_isPrefix (List.prefix_append ..) inKept]
        generalize liveIds kept = staying at sublist inKept firstGone ⊢
        cases sublist with
        | cons _ rest =>
            rcases List.sublist_singleton.mp rest with none | one
            · rw [none] at inKept
              cases inKept
            · rw [one]
              simp [Foundation.numbered]
        | cons_cons _ rest => exact absurd (List.mem_cons_self ..) firstGone
  intro agree
  have different : first ≠ second := by
    rintro rfl
    exact gone stays
  have live := moves.keeps was observed stored (by simp [isBefore]) stays
  rw [isBefore, numbered_of_mem (by simp),
    List.idxOf_cons_ne _ different, List.idxOf_cons_self] at live
  let state : OperationsState :=
    { database := rows, proofFreshnessSeconds := none, advertised := [],
      memory := after.vault.memory }
  have shownFirst : state.slotShown 0 second = some 1 :=
    (state.slotShown_eq 0 second).trans shown
  have number := (agree state stored rfl 0 second 1 shownFirst).1
  rw [storedSlot_of_liveSlot live] at number
  cases number

end VaultStore

section Runs

variable (primitives : Primitives) (masterKey : MasterKey)

theorem everyCall_cons
    {property : VaultStore → CallEnvironment → StoreCall → Prop}
    {store : VaultStore} {call : CallEnvironment × StoreCall}
    {calls : List (CallEnvironment × StoreCall)}
    (first : property store call.1 call.2)
    (others : EveryCall primitives masterKey property
      (store.perform primitives masterKey call.1 call.2) calls) :
    EveryCall primitives masterKey property store (call :: calls) := by
  intro made env madeCall rest split
  cases made with
  | nil =>
      cases split
      exact first
  | cons head made =>
      obtain ⟨rfl, remaining⟩ := List.cons.inj split
      exact others made env madeCall rest remaining

theorem everyCall_nil
    (property : VaultStore → CallEnvironment → StoreCall → Prop)
    (store : VaultStore) :
    EveryCall primitives masterKey property store [] := by
  intro made env call rest split
  simp at split

private theorem replay_snoc (store : VaultStore)
    (made : List (CallEnvironment × StoreCall)) (env : CallEnvironment)
    (call : StoreCall) :
    store.replay primitives masterKey (made ++ [(env, call)]) =
      (store.replay primitives masterKey made).perform primitives masterKey
        env call := by
  simp only [VaultStore.replay, List.foldl_append, List.foldl_cons,
    List.foldl_nil]

/-- A call that adds or retires a key is not dropped before its commit, and the
answer to its COMMIT arrives. -/
def KeysObserved (store : VaultStore) (env : CallEnvironment)
    (call : StoreCall) : Prop :=
  env.Observed ∨
    ∀ memory, call.operated primitives masterKey store = some memory →
      shownKeys memory = shownKeys store.vault.memory

/-- The call does not retire the first of two keys. -/
def Orderly (store : VaultStore) (env : CallEnvironment)
    (call : StoreCall) : Prop :=
  ¬ RetiresFirst (shownKeys store.vault.memory)
    (shownKeys (store.perform primitives masterKey env call).vault.memory)

instance (store : VaultStore) (env : CallEnvironment) (call : StoreCall) :
    Decidable (Orderly primitives masterKey store env call) :=
  inferInstanceAs (Decidable (¬ _))

variable {primitives masterKey} {store : VaultStore}
  {calls : List (CallEnvironment × StoreCall)}

private theorem replay_numbered (start : store.Numbered)
    (fresh : EveryCall primitives masterKey
      (fun store _ call => call.Fresh primitives masterKey store) store calls)
    (observed : EveryCall primitives masterKey
      (KeysObserved primitives masterKey) store calls)
    (orderly : ∀ made env call rest, calls = made ++ (env, call) :: rest →
      (store.replay primitives masterKey made).Numbered →
        Orderly primitives masterKey (store.replay primitives masterKey made)
          env call) :
    ∀ made rest, calls = made ++ rest →
      (store.replay primitives masterKey made).Numbered := by
  intro made
  induction made using List.reverseRecOn with
  | nil =>
      intro rest _
      exact start
  | append_singleton made last induction =>
      intro rest split
      obtain ⟨env, call⟩ := last
      have earlier : calls = made ++ (env, call) :: rest := by simp [split]
      have was := induction _ earlier
      have present : (store.replay primitives masterKey made).database ≠
          none := by
        obtain ⟨database, present, -⟩ := was.numbers
        simp [present]
      rw [replay_snoc]
      exact (perform_moves (fresh made env call rest earlier) present).numbered
        was (observed made env call rest earlier)
        (orderly made env call rest earlier was)

private theorem replay_keeps
    (fresh : EveryCall primitives masterKey
      (fun store _ call => call.Fresh primitives masterKey store) store calls)
    (observed : EveryCall primitives masterKey
      (KeysObserved primitives masterKey) store calls)
    (numbers : ∀ made rest, calls = made ++ rest →
      (store.replay primitives masterKey made).Numbered)
    (earlier between : List (CallEnvironment × StoreCall)) :
    ∀ rest, calls = earlier ++ between ++ rest → ∀ id,
      id ∈ (store.replay primitives masterKey earlier).vault.memory.keys.map
        StoredKey.id →
      id ∈ (store.replay primitives masterKey
        (earlier ++ between)).vault.memory.keys.map StoredKey.id ∧
      (id ∈ shownKeys (store.replay primitives masterKey
          (earlier ++ between)).vault.memory →
        numbered (shownKeys (store.replay primitives masterKey
            (earlier ++ between)).vault.memory) id =
          numbered (shownKeys (store.replay primitives masterKey
            earlier).vault.memory) id) := by
  induction between using List.reverseRecOn with
  | nil =>
      intro rest _ id known
      rw [List.append_nil]
      exact ⟨known, fun _ => rfl⟩
  | append_singleton between last induction =>
      intro rest split id known
      obtain ⟨env, call⟩ := last
      have cut : calls = (earlier ++ between) ++ (env, call) :: rest := by
        simp [split]
      obtain ⟨stillKnown, same⟩ := induction _ cut id known
      have was := numbers _ _ cut
      have is := numbers (earlier ++ (between ++ [(env, call)])) rest split
      rw [← List.append_assoc, replay_snoc] at is ⊢
      have present : (store.replay primitives masterKey
          (earlier ++ between)).database ≠ none := by
        obtain ⟨database, present, -⟩ := was.numbers
        simp [present]
      have moves := @perform_moves primitives masterKey env _ call
        (fresh _ env call rest cut) present
      refine ⟨known_after moves.advances stillKnown, ?_⟩
      intro shown
      have shownBefore := shown_before moves.advances was.distinct stillKnown
        shown
      obtain ⟨rows, stored, isNumbers⟩ := is.numbers
      rw [← isNumbers, moves.keeps was (observed _ env call rest cut) stored
        shownBefore shown]
      exact same shownBefore

/-- From a store without keys, the views agree after every call and no key
changes its number, exactly when no call retires the first of two keys. -/
theorem VaultStore.slots_agree_iff (start : store.HasNoKeys)
    (fresh : EveryCall primitives masterKey
      (fun store _ call => call.Fresh primitives masterKey store) store calls)
    (observed : EveryCall primitives masterKey
      (KeysObserved primitives masterKey) store calls) :
    (∀ made rest, calls = made ++ rest →
        (store.replay primitives masterKey made).SlotsAgree ∧
        ∀ earlier between, made = earlier ++ between →
          (store.replay primitives masterKey earlier).KeepsSlots
            (store.replay primitives masterKey made)) ↔
      EveryCall primitives masterKey (Orderly primitives masterKey) store
        calls := by
  constructor
  · intro agree
    have orderly : ∀ made env call rest, calls = made ++ (env, call) :: rest →
        (store.replay primitives masterKey made).Numbered →
          Orderly primitives masterKey
            (store.replay primitives masterKey made) env call := by
      intro made env call rest split was retires
      have present : (store.replay primitives masterKey made).database ≠
          none := by
        obtain ⟨database, present, -⟩ := was.numbers
        simp [present]
      have moves := @perform_moves primitives masterKey env _ call
        (fresh made env call rest split) present
      apply not_slotsAgree moves was (observed made env call rest split) retires
      have next := (agree (made ++ [(env, call)]) rest (by simp [split])).1
      rwa [replay_snoc] at next
    intro made env call rest split
    exact orderly made env call rest split
      (replay_numbered start.numbered fresh observed orderly made _ split)
  · intro orderly
    have numbers := replay_numbered start.numbered fresh observed
      fun made env call rest split _ => orderly made env call rest split
    rintro made rest split
    refine ⟨(numbers made rest split).slotsAgree, ?_⟩
    rintro earlier between rfl was is wasMemory isMemory before now id number
      shown isNumber
    rw [OperationsState.slotShown_eq, ← wasMemory] at isNumber
    rw [← isMemory] at shown
    rw [OperationsState.slotShown_eq, ← isMemory, ← isNumber]
    have known : id ∈ (store.replay primitives masterKey
        earlier).vault.memory.keys.map StoredKey.id := by
      obtain ⟨key, member, -, isId⟩ :=
        mem_shownKeys.mp (numbered_eq_some isNumber).1
      exact List.mem_map.mpr ⟨key, member, isId⟩
    exact (replay_keeps fresh observed numbers earlier between rest split id known).2 shown

end Runs

def emptyStore : VaultStore where
  vault := .fresh none
  database := some (Database.migrated .empty)

def addingKey (id : Uuid) (label : String) (letter : Char) :
    CallEnvironment × StoreCall :=
  (quietEnvironment, .mutate (.call (.add id (Vector.replicate 12 0) label
    (sampleCredential letter)) none .done : Closure VaultError VaultValue))

def deletingKey (id : Uuid) : CallEnvironment × StoreCall :=
  (quietEnvironment,
    .mutate (.call (.delete id) none .done : Closure VaultError VaultValue))

private theorem emptyStore_hasNoKeys : emptyStore.HasNoKeys :=
  ⟨rfl, _, rfl, rfl⟩

private theorem quiet_observed (store : VaultStore) (call : StoreCall) :
    KeysObserved retirementPrimitives zeroMasterKey store quietEnvironment
      call :=
  .inl quietEnvironment_observed

theorem VaultStore.slots_agree_iff_second :
    (emptyStore.replay retirementPrimitives zeroMasterKey
      [addingKey 1 "first" 'a', addingKey 2 "second" 'b',
        deletingKey 2]).SlotsAgree := by
  have new : (2 : Uuid) ∉ (emptyStore.perform retirementPrimitives zeroMasterKey
      (addingKey 1 "first" 'a').1
      (addingKey 1 "first" 'a').2).vault.memory.keys.map StoredKey.id := by
    decide +kernel
  have fresh : EveryCall retirementPrimitives zeroMasterKey
      (fun store _ call =>
        call.Fresh retirementPrimitives zeroMasterKey store) emptyStore
      [addingKey 1 "first" 'a', addingKey 2 "second" 'b', deletingKey 2] :=
    everyCall_cons _ _ ⟨List.not_mem_nil, trivial⟩ <|
      everyCall_cons _ _ ⟨new, trivial⟩ <|
        everyCall_cons _ _ ⟨trivial, trivial⟩ <| everyCall_nil _ _ _ _
  have observed : EveryCall retirementPrimitives zeroMasterKey
      (KeysObserved retirementPrimitives zeroMasterKey) emptyStore
      [addingKey 1 "first" 'a', addingKey 2 "second" 'b', deletingKey 2] :=
    everyCall_cons _ _ (quiet_observed _ _) <|
      everyCall_cons _ _ (quiet_observed _ _) <|
        everyCall_cons _ _ (quiet_observed _ _) <| everyCall_nil _ _ _ _
  have orderly : EveryCall retirementPrimitives zeroMasterKey
      (Orderly retirementPrimitives zeroMasterKey) emptyStore
      [addingKey 1 "first" 'a', addingKey 2 "second" 'b', deletingKey 2] :=
    everyCall_cons _ _ (by decide +kernel) <|
      everyCall_cons _ _ (by decide +kernel) <|
        everyCall_cons _ _ (by decide +kernel) <| everyCall_nil _ _ _ _
  exact ((VaultStore.slots_agree_iff emptyStore_hasNoKeys fresh
    observed).mpr orderly _ [] (List.append_nil _).symm).1

def firstDeleted : VaultStore :=
  emptyStore.replay retirementPrimitives zeroMasterKey
    [addingKey 1 "first" 'a', addingKey 2 "second" 'b', deletingKey 1]

/-- Two keys are added and the first is deleted: version 1 shows the second as
slot 1, its row and version 2 say slot 2. -/
theorem VaultStore.slots_disagree_after_delete :
    emptyStore.HasNoKeys ∧ ¬ firstDeleted.SlotsAgree ∧
    ∃ state : OperationsState, firstDeleted.database = some state.database ∧
      firstDeleted.vault.memory = state.memory ∧
      state.slotShown 0 2 = some 1 ∧ state.database.storedSlot 2 = some 2 ∧
        state.slotListed 0 2 = some 2 := by
  have evaluated : (firstDeleted.database.map fun rows => rows.storedSlot 2) =
      some (some 2) ∧
        numbered (shownKeys firstDeleted.vault.memory) 2 = some 1 := by
    decide +kernel
  obtain ⟨database, present, stored⟩ := Option.map_eq_some_iff.mp evaluated.1
  have shown := evaluated.2
  obtain ⟨memory, isMemory⟩ : ∃ memory, firstDeleted.vault.memory = memory :=
    ⟨_, rfl⟩
  rw [isMemory] at shown
  let state : OperationsState := {
    database, proofFreshnessSeconds := none, advertised := [], memory }
  have isShown : state.slotShown 0 2 = some 1 :=
    (state.slotShown_eq 0 2).trans shown
  refine ⟨emptyStore_hasNoKeys, ?_, state, present, isMemory, isShown, stored,
    (state.slotListed_eq 0 2).trans stored⟩
  intro agree
  have number := (agree state present isMemory 0 2 1 isShown).1
  rw [stored] at number
  cases number

end NvidiaBuildLb.Gateway
