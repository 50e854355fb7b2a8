import NvidiaBuildLb.Gateway.KeyRows

namespace NvidiaBuildLb.Gateway

open Foundation NvidiaBuildLb.Core
open Transaction (Acknowledgement)

/-! A key that routing leaves out, over any later calls of the store. -/

/-- Retired, not verified, or cooling up to a time at least. -/
def KeyLifecycle.Out (until_ : Micros) (row : KeyLifecycle) : Prop :=
  row.retired = true ∨ row.verified = false ∨
    ∃ old, row.cooldownUntil = some old ∧ until_ ≤ old

/-- The record that goes to the database shows the key as it is. -/
structure KeyShown (key : StoredKey) (record : VaultKeyRecord) : Prop where
  id : record.id = key.id
  enabled : record.enabled = key.enabled
  verified : record.verified = key.verified
  retired : record.retired = key.retired
  cooldown : record.cooldownUntil = key.cooldownUntil
  failures : record.failureCount = key.failureCount

theorem keyRecord_shows {key : StoredKey} {record : VaultKeyRecord}
    (exported : Vault.keyRecord key = .ok record) : KeyShown key record := by
  unfold Vault.keyRecord at exported
  obtain ⟨fingerprint, -, exported⟩ := ok_of_bind exported
  obtain ⟨nonce, -, exported⟩ := ok_of_bind exported
  obtain ⟨ciphertext, -, exported⟩ := ok_of_bind exported
  cases exported
  exact ⟨rfl, rfl, rfl, rfl, rfl, rfl⟩

/-- The columns that stand for a stored key. -/
def storedLifecycle (key : StoredKey) : KeyLifecycle where
  enabled := key.enabled
  verified := key.verified
  retired := key.retired
  cooldownUntil := key.cooldownUntil.map micros

theorem KeyShown.lifecycle {key : StoredKey} {record : VaultKeyRecord}
    (shows_ : KeyShown key record) : recordLifecycle record = storedLifecycle key := by
  obtain ⟨-, enabled, verified, retired, cooldown, -⟩ := shows_
  simp only [recordLifecycle, keyColumns, KeyColumns.lifecycle, storedLifecycle, enabled,
    verified, retired, cooldown]

/-- Memory has taken the key out no further than its row: a row that still counts
as verified has a cooldown that memory does not know of. -/
structure Backs (row : KeyLifecycle) (key : StoredKey) : Prop where
  retired : key.retired = true → row.retired = true
  verified : key.verified = false → key.retired = true ∨ row.verified = false ∨
    key.cooldownUntil = none ∧ row.cooldownUntil ≠ none

section Moves

variable {key after : StoredKey} {previous current : VaultKeyRecord}
  {row later : KeyLifecycle}

private theorem micros_mono {earlier time : Timestamp} (before : earlier ≤ time) :
    micros earlier ≤ micros time :=
  Int.ediv_le_ediv (by decide) before

/-- What a committed sync of a key that has not recovered does to its row. -/
structure Unrecovering (key after : StoredKey) (row later : KeyLifecycle) : Prop where
  kept : Backs later key
  now : Backs later after
  out : ∀ until_, row.Out until_ → later.Out until_

theorem Backs.moved (backs : Backs row key) (unrecovered : key.Unrecovered after)
    (before : KeyShown key previous) (is : KeyShown after current)
    (moved : LifecycleMoved previous current row later) :
    Unrecovering key after row later := by
  obtain ⟨verified, retired, cooldown, -⟩ := moved
  rw [before.verified, is.verified] at verified
  rw [before.retired, is.retired] at retired
  rw [before.cooldown, is.cooldown] at cooldown
  have staysRetired : row.retired = true → later.retired = true := by
    intro isRetired
    rcases retired with ⟨-, same⟩ | ⟨held, moved⟩
    · rw [same, isRetired]
    · rw [moved, unrecovered.retired (held.symm.trans isRetired)]
  have retires : after.retired = true → later.retired = true := by
    intro isRetired
    rcases retired with ⟨unchanged, same⟩ | ⟨-, moved⟩
    · rw [same, backs.retired (unchanged.symm.trans isRetired)]
    · rw [moved, isRetired]
  have staysUnverified : row.verified = false → later.verified = false := by
    intro isUnverified
    rcases verified with ⟨-, same⟩ | ⟨held, moved⟩
    · rw [same, isUnverified]
    · rw [moved, unrecovered.verified (held.symm.trans isUnverified)]
  -- A cooldown that only the row has is out of reach of the guard.
  have staysCooling : key.cooldownUntil = none → row.cooldownUntil ≠ none →
      after.cooldownUntil = none ∧ later.cooldownUntil ≠ none := by
    intro absent cooling
    rcases cooldown with ⟨unchanged, same⟩ | ⟨held, -⟩
    · exact ⟨unchanged.trans absent, same ▸ cooling⟩
    · rw [absent] at held
      exact absurd held cooling
  have unverifies : after.verified = false → after.retired = true ∨
      later.verified = false ∨ after.cooldownUntil = none ∧ later.cooldownUntil ≠ none := by
    intro isUnverified
    rcases verified with ⟨unchanged, same⟩ | ⟨-, moved⟩
    · rcases backs.verified (unchanged.symm.trans isUnverified) with
        isRetired | unverified | ⟨absent, cooling⟩
      · exact .inl (unrecovered.retired isRetired)
      · exact .inr (.inl (staysUnverified unverified))
      · exact .inr (.inr (staysCooling absent cooling))
    · exact .inr (.inl (moved.trans isUnverified))
  refine ⟨⟨fun isRetired => staysRetired (backs.retired isRetired), ?_⟩,
    ⟨retires, unverifies⟩, ?_⟩
  · intro isUnverified
    rcases backs.verified isUnverified with isRetired | unverified | ⟨absent, cooling⟩
    · exact .inl isRetired
    · exact .inr (.inl (staysUnverified unverified))
    · exact .inr (.inr ⟨absent, (staysCooling absent cooling).2⟩)
  · rintro until_ (isRetired | isUnverified | ⟨old, cooling, long⟩)
    · exact .inl (staysRetired isRetired)
    · exact .inr (.inl (staysUnverified isUnverified))
    rcases cooldown with ⟨-, same⟩ | ⟨held, moved⟩
    · exact .inr (.inr ⟨old, same.trans cooling, long⟩)
    -- Memory had the same cooldown, and what became of the key shows in the row.
    obtain ⟨time, isTime, rfl⟩ := Option.map_eq_some_iff.mp (held.symm.trans cooling)
    rcases unrecovered.out time (.inr (.inr ⟨time, isTime, le_refl time⟩)) with
      isRetired | isUnverified | ⟨next, isNext, later_⟩
    · exact .inl (retires isRetired)
    · rcases unverifies isUnverified with isRetired | unverified | ⟨absent, cooled⟩
      · exact .inl (retires isRetired)
      · exact .inr (.inl unverified)
      · rw [absent] at moved
        exact absurd moved cooled
    · rw [isNext] at moved
      exact .inr (.inr ⟨micros next, moved, long.trans (micros_mono later_)⟩)

end Moves

section Spares

variable (primitives : Primitives) (masterKey : MasterKey) (id : Uuid)

def Closure.Spares : Closure ε α → VaultWorld → Prop
  | .done _, _ => True
  | .inspect next, world => (next world.memory).Spares world
  | .call operation fault next, world =>
      let staged := operation.stage primitives masterKey world.memory
      operation.recovers ≠ some id ∧ (next (staged.run fault world.disk).1).Spares
        (world.attempt primitives masterKey (operation, fault))
  | .save fault next, world =>
      (next (persist world.memory fault world.disk).1).Spares
        { world with disk := (persist world.memory fault world.disk).2 }

def StoreCall.Spares (store : VaultStore) : StoreCall → Prop
  | .mutate closure => closure.Spares primitives masterKey id store.vault
  | .mutateWithAudit closure _ => closure.Spares primitives masterKey id store.vault
  | .recordAcceptedDownstreamUse _ => True

variable {primitives masterKey id}

theorem Closure.run_unrecovered {closure : Closure ε α} {world : VaultWorld}
    (spares : closure.Spares primitives masterKey id world) {key : StoredKey}
    (found : world.memory.keyOf id = some key) :
    ∃ after, (closure.run primitives masterKey world).2.memory.keyOf id = some after ∧
      key.Unrecovered after := by
  induction closure generalizing world key with
  | done result => exact ⟨key, found, .refl key⟩
  | inspect next induction => exact induction _ spares found
  | call operation fault next induction =>
      obtain ⟨middle, isMiddle, earlier⟩ :=
        VaultOperation.keyOf_unrecovered primitives masterKey spares.1 found
      obtain ⟨after, isAfter, later⟩ := induction _ spares.2 isMiddle
      exact ⟨after, isAfter, earlier.trans later⟩
  | save fault next induction => exact induction _ spares found

end Spares

theorem Kept.key {state : VaultFile} {database : Database} {row : UpstreamKeyRow} {id : Uuid}
    (kept : Kept state (some database)) (found : database.upstreamKeys.find? id = some row) :
    ∃ key, state.keyOf id = some key ∧ row.lifecycle = storedLifecycle key ∧
      row.failureCount = key.failureCount := by
  obtain ⟨keys, downstream, keysOut, -, represents⟩ := kept.stored database rfl
  have view := congrFun represents.keys id
  rw [Database.keyView, found, Option.map_some] at view
  obtain ⟨record, isRecord, same⟩ := Option.map_eq_some_iff.mp view.symm
  have named : record.id = id := by simpa using List.find?_some isRecord
  obtain ⟨key, isKey, exported⟩ := exists_of_forall₂_right (forall₂_of_mapM_ok keysOut)
    (List.mem_of_find?_eq_some isRecord)
  have shows_ := keyRecord_shows exported
  have entries := @Table.find?_eq_some_iff _ _ StoredKey.id _ ⟨state.keys, kept.keyIds⟩ id key
  refine ⟨key, entries.mpr ⟨isKey, shows_.id.symm.trans named⟩, ?_, ?_⟩
  · exact (congrArg KeyColumns.lifecycle same).symm.trans shows_.lifecycle
  · exact (congrArg KeyColumns.failureCount same).symm.trans (by rw [← shows_.failures]; rfl)

/-- The stored key and its row, wherever one of the two is ahead. -/
structure VaultStore.Backed (id : Uuid) (row : KeyLifecycle) (store : VaultStore) : Prop where
  ids : (store.vault.memory.keys.map StoredKey.id).Nodup
  memory : ∃ key, store.vault.memory.keyOf id = some key ∧ Backs row key
  stored : ∃ database, store.database = some database ∧ database.keyLifecycle id = some row

/-- The row of the key is there, and is no nearer to routing than it was. -/
def VaultStore.Withholds (id : Uuid) (row : KeyLifecycle) (after : VaultStore) : Prop :=
  ∃ later, after.Backed id later ∧ ∀ until_, row.Out until_ → later.Out until_

section Store

variable {primitives : Primitives} {masterKey : MasterKey} {env : CallEnvironment}
  {store : VaultStore} {id : Uuid} {row : KeyLifecycle}

theorem VaultStore.Backed.withholds (backed : store.Backed id row) :
    store.Withholds id row :=
  ⟨row, backed, fun _ out => out⟩

theorem keyRecord_of_keyOf {state : VaultFile} {key : StoredKey}
    {snapshot : VaultSyncSnapshot} (exported : snapshotOf state = .ok snapshot)
    (found : state.keyOf id = some key) :
    ∃ record ∈ snapshot.keys, record.id = id ∧ KeyShown key record := by
  obtain ⟨keysOut, -⟩ := snapshotOf_eq_ok exported
  obtain ⟨record, isRecord, out⟩ :=
    exists_of_forall₂ (forall₂_of_mapM_ok keysOut) (List.mem_of_find?_eq_some found)
  have shows_ := keyRecord_shows out
  exact ⟨record, isRecord, shows_.id.trans (VaultFile.id_of_keyOf found), shows_⟩

theorem snapshot_keyIds {state : VaultFile} {snapshot : VaultSyncSnapshot}
    (exported : snapshotOf state = .ok snapshot)
    (distinct : (state.keys.map StoredKey.id).Nodup) :
    (snapshot.keys.map VaultKeyRecord.id).Nodup := by
  rw [exported_keyIds (keyRecords_exported (snapshotOf_eq_ok exported).1)]
  exact distinct

theorem syncDatabaseDelta_keyMoved {previous state : VaultFile}
    {before current : VaultSyncSnapshot} {database rows : Database} {now : Micros}
    {auditId : Uuid} {audit : Option VaultAuditMutation} {refuses : Nat → Bool}
    {acknowledgement : Acknowledgement} {recorded : Option Uuid} {key after : StoredKey}
    (forward : Advances previous state)
    (distinct : (previous.keys.map StoredKey.id).Nodup)
    (beforeOut : snapshotOf previous = .ok before)
    (currentOut : snapshotOf state = .ok current)
    (found : previous.keyOf id = some key) (isAfter : state.keyOf id = some after)
    (held : database.keyLifecycle id = some row)
    (ran : syncDatabaseDelta now auditId before current audit refuses acknowledgement
      database = (.ok recorded, rows)) :
    ∃ was is later, KeyShown key was ∧ KeyShown after is ∧ rows.keyLifecycle id = some later ∧
      LifecycleMoved was is row later := by
  obtain ⟨was, isWas, wasNamed, wasShown⟩ := keyRecord_of_keyOf beforeOut found
  obtain ⟨is, isIs, isNamed, isShown⟩ := keyRecord_of_keyOf currentOut isAfter
  obtain ⟨later, isLater, moved⟩ := syncDatabaseDelta_moves
    (snapshot_keyIds beforeOut distinct)
    (snapshot_keyIds currentOut (forward.keyIds distinct)) isWas isIs
    (wasNamed.trans isNamed.symm) (isNamed.symm ▸ held) ran
  exact ⟨was, is, later, wasShown, isShown, isNamed ▸ isLater, moved⟩

private theorem VaultStore.Withholds.abandon {after : VaultStore}
    (backed : store.Backed id row) {database : Database} {later : KeyLifecycle}
    (present : after.database = some database)
    (isLater : database.keyLifecycle id = some later)
    (kept : ∀ key, store.vault.memory.keyOf id = some key → Backs later key)
    (out : ∀ until_, row.Out until_ → later.Out until_) (error : StoreError ε) :
    (after.abandon env store.vault.memory error :
      CallEnd (StoreError ε) α).store.Withholds id row := by
  obtain ⟨key, found, -⟩ := backed.memory
  exact ⟨later, ⟨backed.ids, ⟨key, found, kept key found⟩, database, present, isLater⟩, out⟩

theorem VaultStore.Backed.operate (backed : store.Backed id row) {closure : Closure ε α}
    {auditFor : α → Option VaultAuditMutation} {context : String}
    {settle : α → Option Uuid → Except (StoreError ε) β}
    (fresh : closure.FreshFrom primitives masterKey store.vault)
    (spares : closure.Spares primitives masterKey id store.vault)
    (awaited : env.dropped ≠ some .beforeCommit) :
    (store.operate primitives masterKey env closure auditFor context
      settle).store.Withholds id row := by
  have forward := Closure.run_advances primitives masterKey fresh
  obtain ⟨key, found, backs⟩ := backed.memory
  obtain ⟨database, present, held⟩ := backed.stored
  obtain ⟨after, isAfter, unrecovered⟩ := Closure.run_unrecovered spares found
  have keeps : ∀ other, store.vault.memory.keyOf id = some other → Backs row other := by
    intro other isOther
    cases found.symm.trans isOther
    exact backs
  unfold VaultStore.operate
  cases ran : closure.run primitives masterKey store.vault with
  | mk result vault =>
  rw [ran] at forward isAfter
  cases result with
  | error error =>
      exact ⟨row, ⟨backed.ids, ⟨key, found, backs⟩, database, present, held⟩,
        fun _ out => out⟩
  | ok result =>
      simp only
      have ends := syncUnlocked_ends env store.vault.memory (auditFor result)
        { store with vault }
      generalize VaultStore.syncUnlockedWithAudit env store.vault.memory (auditFor result)
        { store with vault } = synced at ends ⊢
      -- What a commit leaves, whatever becomes of memory.
      have committed : ∀ {isDatabase rows : Database} {before current : VaultSyncSnapshot}
          {recorded : Option Uuid}, store.database = some isDatabase →
          snapshotOf vault.memory = .ok current →
          snapshotOf store.vault.memory = .ok before →
          syncDatabaseDelta env.now env.auditId before current (auditFor result) env.refuses
            .received isDatabase = (.ok recorded, rows) →
          ∃ later, rows.keyLifecycle id = some later ∧ Unrecovering key after row later := by
        intro isDatabase rows before current recorded isPresent currentOut beforeOut synced
        cases present.symm.trans isPresent
        obtain ⟨was, is, later, wasShown, isShown, isLater, moved⟩ :=
          syncDatabaseDelta_keyMoved forward backed.ids beforeOut currentOut found isAfter
            held synced
        exact ⟨later, isLater, backs.moved unrecovered wasShown isShown moved⟩
      cases ends with
      | absent missing =>
          rw [present] at missing
          cases missing
      | unexported failure refused =>
          refine .abandon backed ?_ held keeps (fun _ out => out) _
          exact present
      | failed failure observed =>
          refine .abandon backed ?_ held keeps (fun _ out => out) _
          exact present
      | dropped currentOut beforeOut uncommitted => exact absurd uncommitted awaited
      | unheard failure isPresent currentOut beforeOut synced waited lost =>
          obtain ⟨later, isLater, moved⟩ := committed isPresent currentOut beforeOut synced
          refine .abandon backed rfl isLater ?_ moved.out _
          intro other isOther
          cases found.symm.trans isOther
          exact moved.kept
      | @committed isDatabase rows before current recorded returned isPresent currentOut
          beforeOut synced kept observed =>
          obtain ⟨later, isLater, moved⟩ := committed isPresent currentOut beforeOut synced
          have reached : ({ store with vault, database := some rows } :
              VaultStore).Withholds id row :=
            ⟨later, ⟨forward.keyIds backed.ids, ⟨after, isAfter, moved.now⟩, rows, rfl,
              isLater⟩, moved.out⟩
          rcases observed with unobserved | ⟨isReturned, -⟩
          · rw [unobserved]
            exact reached
          · rw [isReturned]
            simp only
            split
            · exact reached
            · refine .abandon backed rfl isLater ?_ moved.out _
              intro other isOther
              cases found.symm.trans isOther
              exact moved.kept

theorem VaultStore.Backed.perform (backed : store.Backed id row) {call : StoreCall}
    (fresh : call.Fresh primitives masterKey store)
    (spares : call.Spares primitives masterKey id store)
    (awaited : env.dropped ≠ some .beforeCommit) :
    (store.perform primitives masterKey env call).Withholds id row := by
  cases call with
  | mutate closure => exact backed.operate fresh spares awaited
  | mutateWithAudit closure auditFor => exact backed.operate fresh spares awaited
  | recordAcceptedDownstreamUse use =>
      simp only [VaultStore.perform, VaultStore.recordAcceptedDownstreamUse]
      split
      · exact backed.withholds
      · refine backed.operate ⟨trivial, trivial⟩ ⟨?_, trivial⟩ awaited
        simp [VaultOperation.recovers]

end Store

end NvidiaBuildLb.Gateway
