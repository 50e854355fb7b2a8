import NvidiaBuildLb.Foundation.Completion
import NvidiaBuildLb.Gateway.KeyStanding

namespace NvidiaBuildLb.Gateway

open Foundation NvidiaBuildLb.Core
open Transaction (Completes)

/-! How long routing leaves a key out, whatever the gateway does in the meantime. -/

section Later

variable (primitives : Primitives) (masterKey : MasterKey) (id : Uuid)

/-- The stores a gateway can get to without a success or a verification of the
key: calls that end in any way but one, and starts from what is stored.  A call
that its caller drops before its commit takes effect is the exception. -/
inductive Onward : VaultStore → VaultStore → Prop
  | now (store : VaultStore) : Onward store store
  | call {first store : VaultStore} (env : CallEnvironment) (call : StoreCall)
      (earlier : Onward first store) (fresh : call.Fresh primitives masterKey store)
      (spares : call.Spares primitives masterKey id store)
      (awaited : env.dropped ≠ some .beforeCommit) :
      Onward first (store.perform primitives masterKey env call)
  | restart {first store : VaultStore} {loaded : VaultFile} (earlier : Onward first store)
      (loads : store.reload = .ok loaded) :
      Onward first { store with vault := { store.vault with memory := loaded } }

/-- From one time up to another, as the database keeps times, no query of routing
finds the key eligible. -/
def VaultStore.StaysOut (store : VaultStore) (since until_ : Timestamp) : Prop :=
  ∀ later, Onward primitives masterKey id store later → ∀ time, since ≤ time →
    micros time < micros until_ → ∀ database row, later.database = some database →
      database.upstreamKeys.find? id = some row →
        OperationsState.baseEligible time row = false

end Later

theorem baseEligible_iff {time : Timestamp} {row : UpstreamKeyRow} :
    OperationsState.baseEligible time row = true ↔
      row.enabled = true ∧ ¬ row.lifecycle.Out (micros time + 1) := by
  obtain ⟨enabled, verified, retired, cooldown⟩ :
      row.lifecycle.enabled = row.enabled ∧ row.lifecycle.verified = row.verified ∧
        row.lifecycle.retired = row.retired ∧
        row.lifecycle.cooldownUntil = row.cooldownUntil := ⟨rfl, rfl, rfl, rfl⟩
  unfold KeyLifecycle.Out OperationsState.baseEligible
  rw [verified, retired, cooldown]
  cases row.cooldownUntil with
  | none => cases row.retired <;> cases row.enabled <;> cases row.verified <;> simp
  | some old =>
      have shift : micros time + 1 ≤ old ↔ ¬ old ≤ micros time :=
        Int.add_one_le_iff.trans not_le.symm
      cases row.retired <;> cases row.enabled <;> cases row.verified <;> simp [shift]

theorem KeyLifecycle.Out.sooner {row : KeyLifecycle} {sooner later : Micros}
    (out : row.Out later) (earlier : sooner ≤ later) : row.Out sooner := by
  rcases out with retired | unverified | ⟨old, cooling, long⟩
  · exact .inl retired
  · exact .inr (.inl unverified)
  · exact .inr (.inr ⟨old, cooling, earlier.trans long⟩)

section Restart

variable {store : VaultStore} {id : Uuid} {row : KeyLifecycle}

theorem loadRecords_backs {database : Database} {loaded : VaultFile}
    (held : database.keyLifecycle id = some row) (loads : database.loadRecords = .ok loaded) :
    (loaded.keys.map StoredKey.id).Nodup ∧
      ∃ key, loaded.keyOf id = some key ∧ Backs row key := by
  obtain ⟨keys, downstream, rowsOut, -, itemsOut, -⟩ := loadRecords_eq_ok loads
  have ordered := orderedByCreation_perm UpstreamKeyRow.createdAt UpstreamKeyRow.id
    database.upstreamKeys.rows
  have read : ∀ row record, dbKeyRecord row = .ok record → record.id = row.id ∧
      record.verified = row.verified ∧ record.retired = row.retired := by
    intro row record out
    obtain ⟨requests, -, out⟩ := ok_of_bind out
    obtain ⟨failures, -, out⟩ := ok_of_bind out
    cases out
    exact ⟨rfl, rfl, rfl⟩
  have kept : ∀ record key, Vault.storeKey record = .ok key → key.id = record.id ∧
      key.verified = record.verified ∧ key.retired = record.retired := by
    intro record key out
    unfold Vault.storeKey at out
    split at out
    · cases out
    · cases out
      exact ⟨rfl, rfl, rfl⟩
  have records := forall₂_of_mapM_ok rowsOut
  have stored := forall₂_of_mapM_ok itemsOut
  have names : loaded.keys.map StoredKey.id =
      (orderedByCreation UpstreamKeyRow.createdAt UpstreamKeyRow.id
        database.upstreamKeys.rows).map UpstreamKeyRow.id :=
    (map_eq_map_of_forall₂ (fun record key out => (kept record key out).1) stored).trans
      (map_eq_map_of_forall₂ (fun row record out => (read row record out).1) records)
  have distinct : (loaded.keys.map StoredKey.id).Nodup := by
    rw [names]
    exact (ordered.map _).nodup_iff.mpr database.upstreamKeys.nodup
  obtain ⟨entry, found, rfl⟩ := Option.map_eq_some_iff.mp held
  obtain ⟨isEntry, named⟩ := Table.find?_eq_some_iff.mp found
  obtain ⟨record, isRecord, out⟩ := exists_of_forall₂ records (ordered.mem_iff.mpr isEntry)
  obtain ⟨key, isKey, stores⟩ := exists_of_forall₂ stored isRecord
  obtain ⟨recordNamed, recordVerified, recordRetired⟩ := read _ _ out
  obtain ⟨keyNamed, keyVerified, keyRetired⟩ := kept _ _ stores
  have present := @Table.find?_eq_some_iff _ _ StoredKey.id _ ⟨loaded.keys, distinct⟩ id key
  refine ⟨distinct, key,
    present.mpr ⟨isKey, keyNamed.trans (recordNamed.trans named)⟩, ?_, ?_⟩
  · intro retired
    exact recordRetired.symm.trans (keyRetired.symm.trans retired)
  · intro unverified
    exact .inr (.inl (recordVerified.symm.trans (keyVerified.symm.trans unverified)))

theorem Database.hasCredentials_of_key {database : Database}
    (held : database.keyLifecycle id = some row) : database.hasCredentials = true := by
  obtain ⟨entry, found, -⟩ := Option.map_eq_some_iff.mp held
  have isRow := (Table.find?_eq_some_iff.mp found).1
  unfold Database.hasCredentials
  cases rows : database.upstreamKeys.rows with
  | nil =>
      rw [rows] at isRow
      cases isRow
  | cons head tail => simp

theorem VaultStore.reload_of_key {database : Database} (present : store.database = some database)
    (held : database.keyLifecycle id = some row) :
    store.reload = database.loadRecords := by
  unfold reload
  simp only [present, Database.hasCredentials_of_key held, if_true]

theorem VaultStore.Backed.restart {loaded : VaultFile} (backed : store.Backed id row)
    (loads : store.reload = .ok loaded) :
    ({ store with vault := { store.vault with memory := loaded } } :
      VaultStore).Backed id row := by
  obtain ⟨database, present, held⟩ := backed.stored
  rw [store.reload_of_key present held] at loads
  obtain ⟨ids, memory⟩ := loadRecords_backs held loads
  exact ⟨ids, memory, database, present, held⟩

theorem Onward.withholds {primitives : Primitives} {masterKey : MasterKey}
    {first later : VaultStore} (backed : first.Backed id row)
    (onward : Onward primitives masterKey id first later) : later.Withholds id row := by
  induction onward with
  | now => exact backed.withholds
  | call env call earlier fresh spares awaited induction =>
      obtain ⟨between, isBacked, out⟩ := induction
      obtain ⟨after, isBackedAfter, outAfter⟩ := isBacked.perform fresh spares awaited
      exact ⟨after, isBackedAfter, fun until_ => outAfter until_ ∘ out until_⟩
  | restart earlier loads induction =>
      obtain ⟨between, isBacked, out⟩ := induction
      exact ⟨between, isBacked.restart loads, out⟩

theorem VaultStore.Backed.staysOut {primitives : Primitives} {masterKey : MasterKey}
    {since until_ : Timestamp} (backed : store.Backed id row)
    (out : row.Out (micros until_)) :
    store.StaysOut primitives masterKey id since until_ := by
  intro later onward time _ before database entry present found
  obtain ⟨now, isBacked, keeps⟩ := onward.withholds backed
  obtain ⟨rows, isRows, isNow⟩ := isBacked.stored
  cases present.symm.trans isRows
  rw [Database.keyLifecycle, found, Option.map_some, Option.some.injEq] at isNow
  subst isNow
  cases eligible : OperationsState.baseEligible time entry with
  | false => rfl
  | true =>
      exact absurd ((keeps _ out).sooner before) (baseEligible_iff.mp eligible).2

end Restart

section Enabling

variable {id : Uuid} {now : Micros}

private theorem whenChanged_unchanged [DecidableEq α] (value : α) (update : Sync Unit) :
    whenChanged value value update = pure () := by
  unfold whenChanged
  exact if_neg fun different => different rfl

private theorem syncCounter_unchanged (overflow deltaOverflow : String) (count : Nat)
    (add : Int → Sync Unit) :
    syncCounter overflow deltaOverflow count count add = pure () :=
  whenChanged_unchanged count _

private theorem syncKey_unchanged {keys : List VaultKeyRecord} {record : VaultKeyRecord}
    (known : lastWith VaultKeyRecord.id keys record.id = some record) :
    syncKey now keys record = pure () := by
  unfold syncKey
  rw [known]
  have receipts : syncKeyReceipts now record record = pure () := by
    unfold syncKeyReceipts
    simp
  simp only [syncKeyEnabled, syncKeyVerified, syncKeyRetired, receipts, syncKeyCooldown,
    syncKeyRequestCount, syncKeyFailureCount, whenChanged_unchanged, syncCounter_unchanged,
    pure_bind]

private theorem syncDownstream_unchanged {downstream : List VaultDownstreamRecord}
    {record : VaultDownstreamRecord}
    (known : lastWith VaultDownstreamRecord.id downstream record.id = some record) :
    syncDownstream now downstream record = pure () := by
  unfold syncDownstream
  rw [known]
  simp only [syncDownstreamActive, syncDownstreamDigest, syncDownstreamScopes,
    syncDownstreamRevocation, syncDownstreamRequestCount, syncDownstreamLastUsed,
    whenChanged_unchanged, syncCounter_unchanged, pure_bind]

private theorem syncCursor_unchanged (cursors : RouterCursors) (profile : String) :
    syncCursor cursors cursors profile = pure () := by
  unfold syncCursor cursorMoved
  rw [← two_mul, Nat.mul_mod_right]
  rfl

theorem lastWith_of_mem {α : Type} {key : α → Uuid} {entries : List α}
    (distinct : (entries.map key).Nodup) {entry : α} (member : entry ∈ entries) :
    lastWith key entries (key entry) = some entry := by
  cases found : lastWith key entries (key entry) with
  | none => exact absurd (List.mem_map_of_mem member) (lastWith_eq_none found)
  | some other =>
      obtain ⟨isOther, named⟩ := lastWith_eq_some found
      exact congrArg some (List.inj_on_of_nodup_map distinct isOther member named)

def IsDisabled (id : Uuid) (rows : Database) : Prop :=
  ∃ row, rows.upstreamKeys.find? id = some row ∧ row.enabled = false

private theorem syncKeyEnabled_completes {previous current : VaultKeyRecord}
    (disabled : previous.enabled = false) (enabled : current.enabled = true) :
    Completes (IsDisabled current.id) (syncKeyEnabled previous current) fun _ _ => True := by
  unfold syncKeyEnabled whenChanged
  rw [disabled, enabled, if_pos (by simp)]
  refine Completes.bind (fun affected _ => affected = 1) ?_ fun affected => ?_
  · apply Completes.execute
    rintro rows ⟨row, found, isDisabled⟩
    refine ⟨_, _, rfl, ?_⟩
    have named : ∀ row : UpstreamKeyRow,
        (decide (row.id = current.id) && decide (row.enabled = false)) = true →
          row.id = current.id := by
      intro row selected
      simp only [Bool.and_eq_true, decide_eq_true_eq] at selected
      exact selected.1
    exact (Table.count_eq_one_iff named).mpr
      ⟨row, found, by simp [Table.key_of_find? found, isDisabled]⟩
  · apply Completes.refuseIf
    rintro rows rfl
    exact ⟨rfl, trivial⟩

private theorem syncKey_enables {keys : List VaultKeyRecord} {record : VaultKeyRecord}
    (known : lastWith VaultKeyRecord.id keys record.id = some record)
    (disabled : record.enabled = false) :
    Completes (IsDisabled record.id) (syncKey now keys { record with enabled := true })
      fun _ _ => True := by
  have receipts : syncKeyReceipts now record { record with enabled := true } = pure () := by
    unfold syncKeyReceipts
    simp
  unfold syncKey
  simp only [known, syncKeyVerified, syncKeyRetired, receipts, syncKeyCooldown,
    syncKeyRequestCount, syncKeyFailureCount, whenChanged_unchanged, syncCounter_unchanged,
    pure_bind]
  refine Completes.bind (fun _ _ => True) ?_ fun _ => Completes.pure fun _ holds => holds
  exact @syncKeyEnabled_completes record { record with enabled := true } disabled rfl

private theorem control_completes {pre : Database → Prop} (context : String) :
    Completes pre (control context) fun _ => pre :=
  Completes.execute fun rows holds => ⟨(), rows, rfl, holds⟩

private theorem syncDatabaseDelta_enables {before : VaultSyncSnapshot}
    {front back : List VaultKeyRecord} {record : VaultKeyRecord} {auditId : Uuid}
    {refuses : Nat → Bool} {database : Database}
    (split : before.keys = front ++ record :: back)
    (distinct : (before.keys.map VaultKeyRecord.id).Nodup)
    (clients : (before.downstream.map VaultDownstreamRecord.id).Nodup)
    (disabled : record.enabled = false) (waits : IsDisabled record.id database)
    (served : ∀ index, refuses index = false) :
    ∃ recorded rows, syncDatabaseDelta now auditId before
      { before with keys := front ++ { record with enabled := true } :: back } none refuses
      .received database = (.ok recorded, rows) := by
  have known : ∀ entry ∈ before.keys,
      lastWith VaultKeyRecord.id before.keys entry.id = some entry :=
    fun entry member => lastWith_of_mem distinct member
  have still : ∀ {pre : Database → Prop}, ∀ entry ∈ before.keys,
      Completes pre (syncKey now before.keys entry) fun _ => pre := by
    intro pre entry member
    rw [syncKey_unchanged (known entry member)]
    exact Completes.pure fun _ holds => holds
  have completes : Completes (IsDisabled record.id) (syncDatabaseDeltaBody now auditId before
      { before with keys := front ++ { record with enabled := true } :: back } none)
      fun _ _ => True := by
    refine Completes.bind _ (control_completes _) fun _ => ?_
    refine Completes.bind _ (control_completes _) fun _ => ?_
    refine Completes.bind (fun _ _ => True) ?_ fun _ => ?_
    · refine Completes.forM_through (fun entry member => still entry ?_)
        (syncKey_enables (known record ?_) disabled) fun entry member => still entry ?_
      · rw [split]
        exact List.mem_append_left _ member
      · rw [split]
        exact List.mem_append_right _ List.mem_cons_self
      · rw [split]
        exact List.mem_append_right _ (List.mem_cons_of_mem _ member)
    refine Completes.bind (fun _ _ => True) (Completes.forM fun entry member => ?_) fun _ => ?_
    · rw [syncDownstream_unchanged (lastWith_of_mem clients member)]
      exact Completes.pure fun _ holds => holds
    refine Completes.bind (fun _ _ => True) (Completes.forM fun profile _ => ?_) fun _ => ?_
    · rw [syncCursor_unchanged]
      exact Completes.pure fun _ holds => holds
    refine Completes.bind (fun _ _ => True) (Completes.pure fun _ holds => holds) fun _ => ?_
    refine Completes.bind _ (control_completes _) fun _ => ?_
    exact Completes.pure fun _ holds => holds
  obtain ⟨recorded, rows, ran⟩ := completes.transact served waits
  exact ⟨recorded, rows, syncDatabaseDelta_eq_ok.mpr ⟨rfl, ran⟩⟩

private theorem keyRecord_enabled {key : StoredKey} {record : VaultKeyRecord}
    (exported : Vault.keyRecord key = .ok record) :
    Vault.keyRecord { key with enabled := true } = .ok { record with enabled := true } := by
  unfold Vault.keyRecord at exported ⊢
  obtain ⟨fingerprint, fingerprintOk, exported⟩ := ok_of_bind exported
  obtain ⟨nonce, nonceOk, exported⟩ := ok_of_bind exported
  obtain ⟨ciphertext, ciphertextOk, exported⟩ := ok_of_bind exported
  cases exported
  simp only [fingerprintOk, nonceOk, ciphertextOk]
  rfl

private theorem keyRecords_split {state : VaultFile} {front back : List StoredKey}
    {key : StoredKey} {keys : List VaultKeyRecord} (isKeys : state.keys = front ++ key :: back)
    (keysOut : Vault.keyRecords state = .ok keys) :
    ∃ before record after, keys = before ++ record :: after ∧
      Vault.keyRecord key = .ok record ∧
      Vault.keyRecords { state with keys := front ++ { key with enabled := true } :: back } =
        .ok (before ++ { record with enabled := true } :: after) := by
  unfold Vault.keyRecords at keysOut ⊢
  rw [isKeys, List.mapM_append] at keysOut
  obtain ⟨before, beforeOut, keysOut⟩ := ok_of_bind keysOut
  obtain ⟨rest, restOut, keysOut⟩ := ok_of_bind keysOut
  rw [List.mapM_cons] at restOut
  obtain ⟨record, exported, restOut⟩ := ok_of_bind restOut
  obtain ⟨after, afterOut, restOut⟩ := ok_of_bind restOut
  cases restOut
  cases keysOut
  refine ⟨before, record, after, rfl, exported, ?_⟩
  simp only [List.mapM_append, List.mapM_cons, beforeOut, keyRecord_enabled exported, afterOut]
  rfl

def switchingOn (id : Uuid) (now : Timestamp) : StoreCall :=
  .mutate (.call (.setEnabled id true now) none .done : Closure VaultError VaultValue)

theorem perform_switchingOn {primitives : Primitives} {masterKey : MasterKey}
    {store : VaultStore} {database : Database} {row : UpstreamKeyRow} {time : Timestamp}
    (present : store.database = some database)
    (kept : Kept store.vault.memory (some database))
    (found : database.upstreamKeys.find? id = some row) (disabled : row.enabled = false)
    (ready : ¬ row.lifecycle.Out (micros time + 1))
    (whole : ∀ old, micros old ≤ micros time → old ≤ time) :
    ∃ rows entry, (store.perform primitives masterKey quietEnvironment
        (switchingOn id time)).database = some rows ∧
      rows.upstreamKeys.find? id = some entry ∧
      OperationsState.baseEligible time entry = true := by
  obtain ⟨keys, downstream, keysOut, downstreamOut, represents⟩ := kept.stored database rfl
  have held : database.keyLifecycle id = some row.lifecycle := by
    rw [Database.keyLifecycle, found, Option.map_some]
  obtain ⟨key, isFound, isStored, -⟩ := kept.key found
  have isOut := isStored ▸ ready
  simp only [KeyLifecycle.Out, storedLifecycle, not_or, Bool.not_eq_true, Bool.not_eq_false,
    not_exists, not_and, not_le] at isOut
  obtain ⟨live, verified, cooled⟩ := isOut
  obtain ⟨front, back, isKeys, staged⟩ := Vault.setEnabled_staged isFound live verified
    fun old isOld => whole old (Int.lt_add_one_iff.mp (cooled _ (congrArg _ isOld)))
  obtain ⟨before, record, after, isSplit, exported, enabledOut⟩ := keyRecords_split isKeys keysOut
  have isRecord : record ∈ keys := isSplit ▸ List.mem_append_right _ List.mem_cons_self
  have shows_ := keyRecord_shows exported
  have shown : record.id = id ∧ row.lifecycle = recordLifecycle record :=
    ⟨shows_.id.trans (VaultFile.id_of_keyOf isFound), isStored.trans shows_.lifecycle.symm⟩
  obtain ⟨value, vault, ran, memory⟩ : ∃ value vault,
      (Closure.call (.setEnabled id true time) none .done :
        Closure VaultError VaultValue).run primitives masterKey store.vault =
          (.ok value, vault) ∧
      vault.memory = { store.vault.memory with
        keys := front ++ { key with enabled := true } :: back } := by
    refine ⟨.key (summary { key with enabled := true }),
      store.vault.attempt primitives masterKey (.setEnabled id true time, none), ?_, ?_⟩
    · simp only [Closure.run, VaultOperation.stage, staged, Staged.map]
      rfl
    · simp only [VaultWorld.attempt, VaultOperation.stage, staged, Staged.map]
      rfl
  let previous : VaultSyncSnapshot := {
    keys
    downstream
    cursors := profiles.map fun profile =>
      (profile, Vault.routerCursorFor profile store.vault.memory) }
  have beforeOut : snapshotOf store.vault.memory = .ok previous := by
    unfold snapshotOf
    rw [keysOut, downstreamOut]
    rfl
  have currentOut : snapshotOf vault.memory = .ok { previous with
      keys := before ++ { record with enabled := true } :: after } := by
    rw [memory]
    unfold snapshotOf
    rw [enabledOut]
    have same : Vault.downstreamRecords { store.vault.memory with
        keys := front ++ { key with enabled := true } :: back } = .ok downstream :=
      downstreamOut
    rw [same]
    rfl
  have disabledRecord : record.enabled = false :=
    (congrArg KeyLifecycle.enabled shown.2).symm.trans disabled
  obtain ⟨recorded, rows, synced⟩ := @syncDatabaseDelta_enables quietEnvironment.now previous
    before after record quietEnvironment.auditId quietEnvironment.refuses database isSplit
    represents.keyIds represents.downstreamIds disabledRecord
    ⟨row, shown.1 ▸ found, disabled⟩ fun _ => rfl
  have ended : (store.perform primitives masterKey quietEnvironment
      (switchingOn id time)).database = some rows := by
    simp only [VaultStore.perform, switchingOn, VaultStore.mutate, VaultStore.operate, ran,
      VaultStore.syncUnlockedWithAudit, present, currentOut, beforeOut, VaultStore.observeSync]
    have quiet : quietEnvironment.dropped = none ∧
        quietEnvironment.acknowledgement = .received := ⟨rfl, rfl⟩
    simp only [quiet.1, quiet.2, synced]
    rfl
  -- The row follows its record, of which only the switch has moved.
  have lifecycles : rows.keyLifecycle id =
      some (recordLifecycle { record with enabled := true }) := by
    have ids : ((before ++ { record with enabled := true } :: after).map
        VaultKeyRecord.id).Nodup := by
      have distinct := represents.keyIds
      rw [isSplit] at distinct
      simpa using distinct
    obtain ⟨later, isLater, moved⟩ := @syncDatabaseDelta_moves quietEnvironment.now previous _
      _ _ _ _ _ _ _ record { record with enabled := true } (recordLifecycle record)
      represents.keyIds ids isRecord (List.mem_append_right _ List.mem_cons_self) rfl
      (by rw [shown.1, held, shown.2]) synced
    rw [← shown.1]
    exact isLater.trans (congrArg some moved.followed)
  obtain ⟨entry, isEntry, isLifecycle⟩ := Option.map_eq_some_iff.mp lifecycles
  refine ⟨rows, entry, ended, isEntry, baseEligible_iff.mpr ⟨?_, ?_⟩⟩
  · exact congrArg KeyLifecycle.enabled isLifecycle
  · rw [isLifecycle]
    intro out
    apply ready
    rw [shown.2]
    exact out

end Enabling

section Standing

variable {primitives : Primitives} {masterKey : MasterKey} {store : VaultStore} {id : Uuid}

/-- The last moment that the database keeps as the microsecond before another. -/
def lastBefore (until_ : Timestamp) : Timestamp :=
  micros until_ * 1000 - 1

private theorem whole_before {until_ : Int} :
    (until_ * 1000 - 1) / 1000 + 1 = until_ ∧
      ∀ old : Int, old / 1000 ≤ (until_ * 1000 - 1) / 1000 → old ≤ until_ * 1000 - 1 := by
  refine ⟨by omega, fun old earlier => by omega⟩

private theorem micros_lastBefore (until_ : Timestamp) :
    micros (lastBefore until_) + 1 = micros until_ :=
  whole_before.1

/-- While the rows are those of some vault, the key stays out exactly if its row
says so. -/
theorem VaultStore.staysOut_iff {database : Database} {row : UpstreamKeyRow} {state : VaultFile}
    {since until_ : Timestamp} (present : store.database = some database)
    (found : database.upstreamKeys.find? id = some row) (kept : Kept state (some database))
    (backed : row.lifecycle.Out (micros until_) → store.Backed id row.lifecycle)
    (later : since ≤ lastBefore until_) :
    store.StaysOut primitives masterKey id since until_ ↔
      row.lifecycle.Out (micros until_) := by
  constructor
  · intro staysOut
    by_contra isIn
    have ready : ¬ row.lifecycle.Out (micros (lastBefore until_) + 1) := by
      rw [micros_lastBefore]
      exact isIn
    have before : micros (lastBefore until_) < micros until_ :=
      lt_of_lt_of_eq (Int.lt_succ _) (micros_lastBefore until_)
    cases enabled : row.enabled with
    | true =>
        have never := staysOut store (.now store) (lastBefore until_) later before database row
          present found
        rw [baseEligible_iff.mpr ⟨enabled, ready⟩] at never
        cases never
    | false =>
        -- The gateway starts again and an operator enables the key.
        have held : database.keyLifecycle id = some row.lifecycle := by
          rw [Database.keyLifecycle, found, Option.map_some]
        obtain ⟨loaded, loads, restores, -, stored⟩ :=
          loadRecords_restores kept.sound (kept.stored database rfl)
        let started : VaultStore := { store with vault := { store.vault with memory := loaded } }
        have onward : Onward primitives masterKey id store started :=
          .restart (.now store) ((store.reload_of_key present held).trans loads)
        have fresh : (switchingOn id (lastBefore until_)).Fresh primitives masterKey started :=
          ⟨trivial, trivial⟩
        have spares : (switchingOn id (lastBefore until_)).Spares primitives masterKey id started :=
          ⟨by simp [VaultOperation.recovers], trivial⟩
        obtain ⟨rows, entry, isRows, isEntry, eligible⟩ := @perform_switchingOn id primitives
          masterKey started database row (lastBefore until_) present
          (restores.kept kept stored) found enabled ready whole_before.2
        have never := staysOut _ (.call quietEnvironment _ onward fresh spares (by decide))
          (lastBefore until_) later before rows entry isRows isEntry
        rw [eligible] at never
        cases never
  · intro out
    exact (backed out).staysOut out

end Standing

end NvidiaBuildLb.Gateway
