import NvidiaBuildLb.Gateway.Delta
import NvidiaBuildLb.Core.Evolution
import Mathlib.Logic.Function.Basic

namespace NvidiaBuildLb.Gateway

open Foundation NvidiaBuildLb.Core
open Transaction (Acknowledgement Ensures)

/-! A committed incremental sync moves the rows from representing the snapshot
before to representing the snapshot after. -/

def Reads (keys : Uuid → Option KeyColumns)
    (downstream : Uuid → Option DownstreamColumns) (rows : Database) : Prop :=
  rows.keyView = keys ∧ rows.downstreamView = downstream

private theorem update_columns {row columns : Type} {key : row → Uuid}
    (read : row → columns) {table : Table key} {select : row → Bool}
    {edit : row → row} (keeps : ∀ entry, key (edit entry) = key entry)
    {id : Uuid} {before after : columns} {view : Uuid → Option columns}
    (named : ∀ entry, select entry = true → key entry = id)
    (effect : ∀ entry, read entry = before → select entry = true →
      read (edit entry) = after)
    (seen : (fun wanted => (table.find? wanted).map read) =
      Function.update view id (some before))
    (once : table.count select = 1) :
    (fun wanted => ((table.update select edit keeps).find? wanted).map read) =
      Function.update view id (some after) := by
  obtain ⟨entry, found, selected⟩ := (Table.count_eq_one_iff named).mp once
  funext wanted
  rw [Table.find?_update]
  have here := congrFun seen wanted
  by_cases same : wanted = id
  · subst same
    rw [found] at here ⊢
    simp only [Option.map_some, Function.update_self, Option.some.injEq]
      at here ⊢
    rw [if_pos selected]
    exact effect entry here selected
  · rw [Function.update_of_ne same] at here ⊢
    rw [← here]
    cases other : table.find? wanted with
    | none => rfl
    | some candidate =>
        have unselected : select candidate = false := by
          cases chosen : select candidate with
          | false => rfl
          | true =>
              exact absurd ((Table.key_of_find? other).symm.trans
                (named candidate chosen)) same
        simp [unselected]

theorem insert_columns {row columns : Type} {key : row → Uuid}
    (read : row → columns) {table table' : Table key} {entry : row}
    {id : Uuid} {after : columns} {view : Uuid → Option columns}
    (seen : (fun wanted => (table.find? wanted).map read) = view)
    (inserted : table.insert? entry = some table')
    (named : key entry = id) (reading : read entry = after) :
    (fun wanted => (table'.find? wanted).map read) =
      Function.update view id (some after) := by
  subst named reading
  funext wanted
  rw [Table.find?_insert inserted]
  by_cases same : wanted = key entry
  · subst same
    simp
  · rw [Function.update_of_ne same, ← seen, if_neg (Ne.symm same)]

theorem affectOne_ensures {context conflict : String}
    {pre post : Database → Prop}
    {statement : Database → Option (Nat × Database)}
    (effect : ∀ rows rows', pre rows → statement rows = some (1, rows') →
      post rows') :
    Ensures pre (affectOne context conflict statement) fun _ => post := by
  unfold affectOne
  refine Ensures.bind (fun affected rows => affected = 1 → post rows) ?_
    fun affected => ?_
  · apply Ensures.execute
    rintro rows answer rows' holds answered rfl
    exact effect rows rows' holds answered
  · apply Ensures.refuseIf
    intro rows holds once
    exact holds (by simpa using once)

variable {id : Uuid} {keys : Uuid → Option KeyColumns}
  {downstream : Uuid → Option DownstreamColumns}

theorem updateKeys_ensures {context conflict : String}
    {select : UpstreamKeyRow → Bool} {edit : UpstreamKeyRow → UpstreamKeyRow}
    {keeps : ∀ row, (edit row).id = row.id} {before after : KeyColumns}
    (named : ∀ row, select row = true → row.id = id)
    (effect : ∀ row, row.columns = before → select row = true →
      (edit row).columns = after) :
    Ensures (Reads (Function.update keys id (some before)) downstream)
      (updateOne context conflict fun rows => rows.updateKeys select edit keeps)
      fun _ => Reads (Function.update keys id (some after)) downstream := by
  apply affectOne_ensures
  intro rows rows' seen answered
  obtain ⟨once, rfl⟩ := Prod.mk.inj (Option.some.inj answered)
  exact ⟨update_columns UpstreamKeyRow.columns keeps named effect seen.1 once,
    seen.2⟩

theorem updateDownstream_ensures {context conflict : String}
    {select : DownstreamCredentialRow → Bool}
    {edit : DownstreamCredentialRow → DownstreamCredentialRow}
    {keeps : ∀ row, (edit row).id = row.id} {before after : DownstreamColumns}
    (named : ∀ row, select row = true → row.id = id)
    (effect : ∀ row, row.columns = before → select row = true →
      (edit row).columns = after) :
    Ensures (Reads keys (Function.update downstream id (some before)))
      (updateOne context conflict fun rows =>
        rows.updateDownstream select edit keeps)
      fun _ => Reads keys (Function.update downstream id (some after)) := by
  apply affectOne_ensures
  intro rows rows' seen answered
  obtain ⟨once, rfl⟩ := Prod.mk.inj (Option.some.inj answered)
  exact ⟨seen.1, update_columns DownstreamCredentialRow.columns keeps named
    effect seen.2 once⟩

theorem whenChanged_ensures [DecidableEq α] {previous current : α}
    {update : Sync Unit} {pre post : Database → Prop}
    (unchanged : current = previous → ∀ rows, pre rows → post rows)
    (changed : current ≠ previous → Ensures pre update fun _ => post) :
    Ensures pre (whenChanged previous current update) fun _ => post := by
  unfold whenChanged
  split
  · rename_i different
    exact changed different
  · rename_i same
    exact Ensures.pure (unchanged (not_not.mp same))

theorem toI64_eq_ok {context : String} {count : Nat} {value : Int}
    (succeeded : toI64 context count = .ok value) : value = count := by
  unfold toI64 at succeeded
  split at succeeded
  · cases succeeded
    rfl
  · cases succeeded

theorem toI64_ensures {pre : Database → Prop} (context : String)
    (count : Nat) :
    Ensures pre (Transaction.lift (toI64 context count)) fun value rows =>
      value = (count : Int) ∧ pre rows :=
  Ensures.lift fun _ _ holds succeeded => ⟨toI64_eq_ok succeeded, holds⟩

/-- What a counter column holds after the difference was added to it. -/
def moved (previous current : Nat) (column : Int) : Int :=
  if current = previous then column
  else max 0 (column + ((current : Int) - previous))

@[simp] theorem moved_previous (previous current : Nat) :
    moved previous current previous = current := by
  unfold moved
  split
  · rename_i same
    rw [same]
  · omega

theorem syncCounter_ensures {overflow deltaOverflow : String}
    {previous current : Nat} {add : Int → Sync Unit}
    {pre post : Database → Prop}
    (unchanged : current = previous → ∀ rows, pre rows → post rows)
    (changed : current ≠ previous →
      Ensures pre (add ((current : Int) - previous)) fun _ => post) :
    Ensures pre (syncCounter overflow deltaOverflow previous current add)
      fun _ => post := by
  apply whenChanged_ensures unchanged
  intro different
  refine Ensures.bind _ (toI64_ensures overflow current) fun currentCount => ?_
  refine Ensures.bind (fun value rows =>
      (currentCount = current ∧ value = (previous : Int)) ∧ pre rows) ?_
    fun previousCount => ?_
  · apply Ensures.lift
    rintro value rows ⟨rfl, holds⟩ succeeded
    exact ⟨⟨rfl, toI64_eq_ok succeeded⟩, holds⟩
  refine Ensures.bind (fun delta rows =>
      delta = (current : Int) - previous ∧ pre rows) ?_ fun delta => ?_
  · apply Ensures.lift
    rintro value rows ⟨⟨rfl, rfl⟩, holds⟩ succeeded
    simp only [checkedSub] at succeeded
    split at succeeded
    · cases succeeded
      exact ⟨rfl, holds⟩
    · cases succeeded
  · rintro session value after ⟨rfl, holds⟩ ran
    exact changed different session value after holds ran

/-! One lemma a statement: the column it writes, in a row that holds the
previous value there. -/

variable {now : Micros}

section Keys

variable {previous current : VaultKeyRecord} {columns : KeyColumns}

def KeyReads (keys : Uuid → Option KeyColumns)
    (downstream : Uuid → Option DownstreamColumns) (id : Uuid)
    (columns : KeyColumns) : Database → Prop :=
  Reads (Function.update keys id (some columns)) downstream

/-- A guarded update of one column: where nothing changed, the column already
holds the current value. -/
theorem guardedKey_ensures [DecidableEq α] {before now : α}
    {context conflict : String} {guard : UpstreamKeyRow → Bool}
    {edit : UpstreamKeyRow → UpstreamKeyRow}
    {keeps : ∀ row, (edit row).id = row.id} {after : KeyColumns}
    (unchanged : now = before → after = columns)
    (effect : ∀ row, row.columns = columns → (edit row).columns = after) :
    Ensures (KeyReads keys downstream id columns)
      (whenChanged before now <| updateOne context conflict fun rows =>
        rows.updateKeys (fun row => row.id = id && guard row) edit keeps)
      fun _ => KeyReads keys downstream id after := by
  apply whenChanged_ensures
  · intro same rows reads
    rw [unchanged same]
    exact reads
  · intro _
    apply updateKeys_ensures
    · intro row selected
      simp only [Bool.and_eq_true, decide_eq_true_eq] at selected
      exact selected.1
    · exact fun row reading _ => effect row reading

theorem syncKeyEnabled_ensures (held : columns.enabled = previous.enabled) :
    Ensures (KeyReads keys downstream current.id columns)
      (syncKeyEnabled previous current) fun _ =>
      KeyReads keys downstream current.id
        { columns with enabled := current.enabled } := by
  apply guardedKey_ensures
  · exact fun same => by rw [same, ← held]
  · exact fun row reading => by rw [← reading]; rfl

theorem syncKeyVerified_ensures (held : columns.verified = previous.verified) :
    Ensures (KeyReads keys downstream current.id columns)
      (syncKeyVerified previous current) fun _ =>
      KeyReads keys downstream current.id
        { columns with verified := current.verified } := by
  apply guardedKey_ensures
  · exact fun same => by rw [same, ← held]
  · exact fun row reading => by rw [← reading]; rfl

theorem syncKeyRetired_ensures (held : columns.retired = previous.retired) :
    Ensures (KeyReads keys downstream current.id columns)
      (syncKeyRetired previous current) fun _ =>
      KeyReads keys downstream current.id
        { columns with retired := current.retired } := by
  apply guardedKey_ensures
  · exact fun same => by rw [same, ← held]
  · exact fun row reading => by rw [← reading]; rfl

theorem syncKeyReceipts_ensures {pre : Database → Prop}
    (ignores : ∀ rows probeReceipts, pre rows →
      pre { rows with probeReceipts }) :
    Ensures pre (syncKeyReceipts now previous current) fun _ => pre := by
  unfold syncKeyReceipts
  split
  · apply Ensures.execute
    intro rows answer rows' holds answered
    cases answered
    exact ignores rows _ holds
  · exact Ensures.pure fun rows holds => holds

theorem syncKeyCooldown_ensures
    (held : columns.cooldownUntil = previous.cooldownUntil.map micros) :
    Ensures (KeyReads keys downstream current.id columns)
      (syncKeyCooldown previous current) fun _ =>
      KeyReads keys downstream current.id
        { columns with cooldownUntil := current.cooldownUntil.map micros } := by
  apply guardedKey_ensures
  · exact fun same => by rw [same, ← held]
  · exact fun row reading => by rw [← reading]; rfl

theorem syncKeyRequestCount_ensures :
    Ensures (KeyReads keys downstream current.id columns)
      (syncKeyRequestCount previous current) fun _ =>
      KeyReads keys downstream current.id
        { columns with
          requestCount := moved previous.requestCount current.requestCount columns.requestCount } := by
  apply syncCounter_ensures
  · intro same rows reads
    simpa only [moved, if_pos same] using reads
  · intro different
    apply updateKeys_ensures
    · exact fun row selected => of_decide_eq_true selected
    · rintro row rfl _
      simp only [moved, if_neg different]
      rfl

theorem syncKeyFailureCount_ensures :
    Ensures (KeyReads keys downstream current.id columns)
      (syncKeyFailureCount previous current) fun _ =>
      KeyReads keys downstream current.id
        { columns with
          failureCount := moved previous.failureCount current.failureCount columns.failureCount } := by
  apply syncCounter_ensures
  · intro same rows reads
    simpa only [moved, if_pos same] using reads
  · intro different
    apply updateKeys_ensures
    · exact fun row selected => of_decide_eq_true selected
    · rintro row rfl _
      simp only [moved, if_neg different]
      rfl

/-- The state of a key that routing reads. -/
structure KeyLifecycle where
  enabled : Bool
  verified : Bool
  retired : Bool
  cooldownUntil : Option Micros
  deriving DecidableEq, Repr

def KeyColumns.lifecycle (columns : KeyColumns) : KeyLifecycle where
  enabled := columns.enabled
  verified := columns.verified
  retired := columns.retired
  cooldownUntil := columns.cooldownUntil

def syncedKey (previous current : VaultKeyRecord) (columns : KeyColumns) :
    KeyColumns :=
  { columns with
    enabled := current.enabled
    verified := current.verified
    retired := current.retired
    cooldownUntil := current.cooldownUntil.map micros
    requestCount :=
      moved previous.requestCount current.requestCount columns.requestCount
    failureCount :=
      moved previous.failureCount current.failureCount columns.failureCount }

theorem syncExistingKey_ensures {previousKeys : List VaultKeyRecord}
    (found : lastWith VaultKeyRecord.id previousKeys current.id = some previous)
    (held : columns.lifecycle = (keyColumns previous).lifecycle) :
    Ensures (KeyReads keys downstream current.id columns)
      (syncKey now previousKeys current) fun _ =>
      KeyReads keys downstream current.id
        (syncedKey previous current columns) := by
  unfold syncKey
  rw [found]
  have enabled := congrArg KeyLifecycle.enabled held
  have verified := congrArg KeyLifecycle.verified held
  have retired := congrArg KeyLifecycle.retired held
  have cooldownUntil := congrArg KeyLifecycle.cooldownUntil held
  refine Ensures.bind _ (syncKeyEnabled_ensures enabled) fun _ => ?_
  refine Ensures.bind _ (syncKeyVerified_ensures verified) fun _ => ?_
  refine Ensures.bind _ (syncKeyRetired_ensures retired) fun _ => ?_
  refine Ensures.bind _ (syncKeyReceipts_ensures ?_) fun _ => ?_
  · exact fun rows probeReceipts reads => reads
  refine Ensures.bind _ (syncKeyCooldown_ensures cooldownUntil) fun _ => ?_
  refine Ensures.bind _ syncKeyRequestCount_ensures fun _ => ?_
  exact syncKeyFailureCount_ensures

/-- The fields no mutation of a stored key touches. -/
structure SameKey (previous current : VaultKeyRecord) : Prop where
  id : current.id = previous.id
  label : current.label = previous.label
  fingerprint : current.fingerprint = previous.fingerprint
  nonce : current.nonce = previous.nonce
  ciphertext : current.ciphertext = previous.ciphertext

theorem SameKey.synced (same : SameKey previous current) :
    syncedKey previous current (keyColumns previous) = keyColumns current := by
  simp only [syncedKey, keyColumns, moved_previous, same.label,
    same.fingerprint, same.nonce, same.ciphertext]

theorem insertUpstreamKey_ensures :
    Ensures (Reads keys downstream) (insertUpstreamKey now current) fun _ =>
      KeyReads keys downstream current.id (keyColumns current) := by
  unfold insertUpstreamKey
  refine Ensures.bind (fun _ => Reads keys downstream) ?_ fun activeCount => ?_
  · apply Ensures.execute
    intro rows answer rows' reads answered
    cases answered
    exact reads
  refine Ensures.bind (fun _ => Reads keys downstream) ?_ fun _ => ?_
  · exact Ensures.refuseIf fun rows reads _ => reads
  refine Ensures.bind _ (toI64_ensures _ _) fun requestCount => ?_
  refine Ensures.bind (fun value rows =>
    (requestCount = (current.requestCount : Int) ∧
      value = (current.failureCount : Int)) ∧ Reads keys downstream rows) ?_
    fun failureCount => ?_
  · apply Ensures.lift
    rintro value rows ⟨rfl, reads⟩ succeeded
    exact ⟨⟨rfl, toI64_eq_ok succeeded⟩, reads⟩
  apply affectOne_ensures
  rintro rows rows' ⟨⟨rfl, rfl⟩, reads⟩ answered
  simp only [Option.map_eq_some_iff] at answered
  obtain ⟨slotNo, -, answered⟩ := answered
  split at answered
  · cases answered
  · rename_i upstreamKeys inserted
    cases answered
    exact ⟨insert_columns UpstreamKeyRow.columns reads.1 inserted rfl rfl,
      reads.2⟩

end Keys

section Downstream

variable {previous current : VaultDownstreamRecord}
  {columns : DownstreamColumns}

def DownstreamReads (keys : Uuid → Option KeyColumns)
    (downstream : Uuid → Option DownstreamColumns) (id : Uuid)
    (columns : DownstreamColumns) : Database → Prop :=
  Reads keys (Function.update downstream id (some columns))

theorem guardedDownstream_ensures [DecidableEq α] {before now : α}
    {context conflict : String} {guard : DownstreamCredentialRow → Bool}
    {edit : DownstreamCredentialRow → DownstreamCredentialRow}
    {keeps : ∀ row, (edit row).id = row.id} {after : DownstreamColumns}
    (unchanged : now = before → after = columns)
    (effect : ∀ row, row.columns = columns → (edit row).columns = after) :
    Ensures (DownstreamReads keys downstream id columns)
      (whenChanged before now <| updateOne context conflict fun rows =>
        rows.updateDownstream (fun row => row.id = id && guard row) edit keeps)
      fun _ => DownstreamReads keys downstream id after := by
  apply whenChanged_ensures
  · intro same rows reads
    rw [unchanged same]
    exact reads
  · intro _
    apply updateDownstream_ensures
    · intro row selected
      simp only [Bool.and_eq_true, decide_eq_true_eq] at selected
      exact selected.1
    · exact fun row reading _ => effect row reading

theorem syncDownstreamActive_ensures (held : columns.active = previous.active) :
    Ensures (DownstreamReads keys downstream current.id columns)
      (syncDownstreamActive previous current) fun _ =>
      DownstreamReads keys downstream current.id
        { columns with active := current.active } := by
  apply guardedDownstream_ensures
  · exact fun same => by rw [same, ← held]
  · exact fun row reading => by rw [← reading]; rfl

theorem syncDownstreamDigest_ensures
    (held : columns.digest = previous.tokenDigest) :
    Ensures (DownstreamReads keys downstream current.id columns)
      (syncDownstreamDigest now previous current) fun _ =>
      DownstreamReads keys downstream current.id
        { columns with digest := current.tokenDigest } := by
  apply guardedDownstream_ensures
  · exact fun same => by rw [same, ← held]
  · exact fun row reading => by rw [← reading]; rfl

theorem syncDownstreamScopes_ensures (held : columns.scopes = previous.scopes) :
    Ensures (DownstreamReads keys downstream current.id columns)
      (syncDownstreamScopes previous current) fun _ =>
      DownstreamReads keys downstream current.id
        { columns with scopes := current.scopes } := by
  apply guardedDownstream_ensures
  · exact fun same => by rw [same, ← held]
  · exact fun row reading => by rw [← reading]; rfl

theorem syncDownstreamRevocation_ensures
    (held : columns.revokedAt = previous.revokedAt.map micros) :
    Ensures (DownstreamReads keys downstream current.id columns)
      (syncDownstreamRevocation previous current) fun _ =>
      DownstreamReads keys downstream current.id
        { columns with revokedAt := current.revokedAt.map micros } := by
  apply guardedDownstream_ensures
  · exact fun same => by rw [same, ← held]
  · exact fun row reading => by rw [← reading]; rfl

theorem syncDownstreamRequestCount_ensures :
    Ensures (DownstreamReads keys downstream current.id columns)
      (syncDownstreamRequestCount previous current) fun _ =>
      DownstreamReads keys downstream current.id
        { columns with
          requestCount := moved previous.requestCount current.requestCount columns.requestCount } := by
  apply syncCounter_ensures
  · intro same rows reads
    simpa only [moved, if_pos same] using reads
  · intro different
    apply updateDownstream_ensures
    · exact fun row selected => of_decide_eq_true selected
    · rintro row rfl _
      simp only [moved, if_neg different]
      rfl

/-- What the last-used column holds after a later use was recorded. -/
def movedUse (previous current : Option Timestamp) (column : Option Micros) :
    Option Micros :=
  if current = previous then column
  else greatest (column.or (current.map micros)) (current.map micros)

theorem movedUse_previous {previous current : Option Timestamp}
    (forward : NotBefore previous current) :
    movedUse previous current (previous.map micros) = current.map micros := by
  unfold movedUse
  split
  · rename_i same
    rw [same]
  cases previous with
  | none => cases current <;> simp [greatest]
  | some earlier =>
      cases current with
      | none => cases forward
      | some later =>
          have ordered : earlier ≤ later := forward
          have coarse : micros earlier ≤ micros later :=
            Int.ediv_le_ediv (by decide) ordered
          simp [greatest, coarse]

theorem syncDownstreamLastUsed_ensures :
    Ensures (DownstreamReads keys downstream current.id columns)
      (syncDownstreamLastUsed previous current) fun _ =>
      DownstreamReads keys downstream current.id
        { columns with
          lastUsedAt := movedUse previous.lastUsedAt current.lastUsedAt columns.lastUsedAt } := by
  apply whenChanged_ensures
  · intro same rows reads
    simpa only [movedUse, if_pos same] using reads
  · intro different
    apply updateDownstream_ensures
    · exact fun row selected => of_decide_eq_true selected
    · rintro row rfl _
      simp only [movedUse, if_neg different]
      rfl

/-- The state of a credential that authentication reads. -/
structure DownstreamLifecycle where
  digest : List UInt8
  scopes : List String
  active : Bool
  revokedAt : Option Micros
  deriving DecidableEq, Repr

def DownstreamColumns.lifecycle (columns : DownstreamColumns) :
    DownstreamLifecycle where
  digest := columns.digest
  scopes := columns.scopes
  active := columns.active
  revokedAt := columns.revokedAt

def syncedDownstream (previous current : VaultDownstreamRecord)
    (columns : DownstreamColumns) : DownstreamColumns :=
  { columns with
    active := current.active
    digest := current.tokenDigest
    scopes := current.scopes
    revokedAt := current.revokedAt.map micros
    requestCount :=
      moved previous.requestCount current.requestCount columns.requestCount
    lastUsedAt :=
      movedUse previous.lastUsedAt current.lastUsedAt columns.lastUsedAt }

theorem syncExistingDownstream_ensures
    {previousDownstream : List VaultDownstreamRecord}
    (found : lastWith VaultDownstreamRecord.id previousDownstream current.id =
      some previous)
    (held : columns.lifecycle = (downstreamColumns previous).lifecycle) :
    Ensures (DownstreamReads keys downstream current.id columns)
      (syncDownstream now previousDownstream current) fun _ =>
      DownstreamReads keys downstream current.id
        (syncedDownstream previous current columns) := by
  unfold syncDownstream
  rw [found]
  have active := congrArg DownstreamLifecycle.active held
  have digest := congrArg DownstreamLifecycle.digest held
  have scopes := congrArg DownstreamLifecycle.scopes held
  have revokedAt := congrArg DownstreamLifecycle.revokedAt held
  refine Ensures.bind _ (syncDownstreamActive_ensures active) fun _ => ?_
  refine Ensures.bind _ (syncDownstreamDigest_ensures digest) fun _ => ?_
  refine Ensures.bind _ (syncDownstreamScopes_ensures scopes) fun _ => ?_
  refine Ensures.bind _ (syncDownstreamRevocation_ensures revokedAt)
    fun _ => ?_
  refine Ensures.bind _ syncDownstreamRequestCount_ensures fun _ => ?_
  exact syncDownstreamLastUsed_ensures

structure SameDownstream (previous current : VaultDownstreamRecord) :
    Prop where
  id : current.id = previous.id
  label : current.label = previous.label
  createdAt : current.createdAt = previous.createdAt

theorem SameDownstream.synced (same : SameDownstream previous current)
    (forward : NotBefore previous.lastUsedAt current.lastUsedAt) :
    syncedDownstream previous current (downstreamColumns previous) =
      downstreamColumns current := by
  simp only [syncedDownstream, downstreamColumns, moved_previous,
    movedUse_previous forward, same.label, same.createdAt]

theorem insertDownstreamCredential_ensures :
    Ensures (Reads keys downstream) (insertDownstreamCredential current)
      fun _ => DownstreamReads keys downstream current.id
        (downstreamColumns current) := by
  unfold insertDownstreamCredential
  refine Ensures.bind _ (toI64_ensures _ _) fun requestCount => ?_
  apply affectOne_ensures
  rintro rows rows' ⟨rfl, reads⟩ answered
  split at answered
  · cases answered
  · rename_i downstreamCredentials inserted
    cases answered
    exact ⟨reads.1, insert_columns DownstreamCredentialRow.columns reads.2
      inserted rfl rfl⟩

end Downstream

section Loops

variable {α β : Type}

theorem lastWith_eq_some {key : α → Uuid} {entries : List α} {id : Uuid}
    {entry : α} (found : lastWith key entries id = some entry) :
    entry ∈ entries ∧ key entry = id := by
  have member := List.mem_of_find?_eq_some found
  exact ⟨List.mem_reverse.mp member, by simpa using List.find?_some found⟩

theorem lastWith_eq_none {key : α → Uuid} {entries : List α} {id : Uuid}
    (missing : lastWith key entries id = none) : id ∉ entries.map key := by
  intro member
  obtain ⟨entry, found, same⟩ := List.mem_map.mp member
  have absent := List.find?_eq_none.mp missing entry (List.mem_reverse.mpr found)
  simp [same] at absent

theorem snapshotView_of_mem {key : α → Uuid} {image : α → β}
    {entries : List α} (distinct : (entries.map key).Nodup) {entry : α}
    (member : entry ∈ entries) :
    snapshotView key image entries (key entry) = some (image entry) := by
  cases found : entries.find? fun candidate => key candidate = key entry with
  | none =>
      have absent := List.find?_eq_none.mp found entry member
      simp at absent
  | some other =>
      have same : key other = key entry := by simpa using List.find?_some found
      have isEntry : other = entry := List.inj_on_of_nodup_map distinct
        (List.mem_of_find?_eq_some found) member same
      simp [snapshotView, found, isEntry]

theorem snapshotView_of_not_mem {key : α → Uuid} {image : α → β}
    {entries : List α} {id : Uuid} (absent : id ∉ entries.map key) :
    snapshotView key image entries id = none := by
  have missing : entries.find? (fun entry => key entry = id) = none := by
    apply List.find?_eq_none.mpr
    intro entry member same
    exact absent (List.mem_map.mpr ⟨entry, member, by simpa using same⟩)
  simp [snapshotView, missing]

/-- A snapshot that took the place of another: no id is lost or doubled. -/
structure Succeeds (key : α → Uuid) (previous current : List α) : Prop where
  before : (previous.map key).Nodup
  after : (current.map key).Nodup
  kept : ∀ entry ∈ previous, key entry ∈ current.map key

theorem syncAll_ensures {key : α → Uuid} {image : α → β}
    {read : Database → Uuid → Option β} {frame : Database → Prop}
    {sync : α → Sync Unit} {previous current : List α}
    (succeeds : Succeeds key previous current)
    (each : ∀ entry ∈ current, ∀ view : Uuid → Option β,
      view (key entry) = snapshotView key image previous (key entry) →
      Ensures (fun rows => read rows = view ∧ frame rows) (sync entry)
        fun _ rows => read rows =
          Function.update view (key entry) (some (image entry)) ∧ frame rows) :
    Ensures
      (fun rows => read rows = snapshotView key image previous ∧ frame rows)
      (current.forM sync) fun _ rows =>
        read rows = snapshotView key image current ∧ frame rows := by
  -- Done ids already read as in the new snapshot, the others as in the old one.
  let between (done : List α) (id : Uuid) : Option β :=
    if id ∈ done.map key then snapshotView key image current id
    else snapshotView key image previous id
  have loop : Ensures (fun rows => read rows = between [] ∧ frame rows)
      (current.forM sync)
      fun _ rows => read rows = between current ∧ frame rows := by
    apply Ensures.forM fun done rows => read rows = between done ∧ frame rows
    intro done entry rest split
    have member : entry ∈ current := by simp [split]
    have notDone : key entry ∉ done.map key := by
      intro again
      have distinct := succeeds.after
      rw [split, List.map_append, List.nodup_append] at distinct
      exact distinct.2.2 _ again _ (by simp) rfl
    have unread : between done (key entry) =
        snapshotView key image previous (key entry) := by
      simp only [between, if_neg notDone]
    refine (each entry member (between done) unread).weaken
      (fun _ holds => holds) ?_
    rintro _ rows ⟨seen, framed⟩
    refine ⟨seen.trans (funext fun id => ?_), framed⟩
    by_cases same : id = key entry
    · subst same
      simp [between, snapshotView_of_mem succeeds.after member]
    · rw [Function.update_of_ne same]
      simp [between, Ne.symm same]
  refine loop.weaken ?_ ?_
  · rintro rows ⟨seen, framed⟩
    exact ⟨seen.trans (funext fun id => by simp [between]), framed⟩
  · rintro _ rows ⟨seen, framed⟩
    refine ⟨seen.trans (funext fun id => ?_), framed⟩
    by_cases member : id ∈ current.map key
    · simp only [between, if_pos member]
    · have wasAbsent : id ∉ previous.map key := by
        intro old
        obtain ⟨entry, found, rfl⟩ := List.mem_map.mp old
        exact member (succeeds.kept entry found)
      simp only [between, if_neg member, snapshotView_of_not_mem member,
        snapshotView_of_not_mem wasAbsent]

end Loops

/-- The snapshots before and after a mutation of the vault. -/
structure SnapshotSucceeds (previous current : VaultSyncSnapshot) : Prop where
  keys : Succeeds VaultKeyRecord.id previous.keys current.keys
  sameKey : ∀ before ∈ previous.keys, ∀ after ∈ current.keys,
    after.id = before.id → SameKey before after
  downstream :
    Succeeds VaultDownstreamRecord.id previous.downstream current.downstream
  sameDownstream : ∀ before ∈ previous.downstream,
    ∀ after ∈ current.downstream, after.id = before.id →
      SameDownstream before after

/-- A view of the columns that shows at least what the updates guard. -/
structure ShowsKeys (project : KeyColumns → β)
    (previous current : VaultSyncSnapshot) : Prop where
  guards : ∀ before ∈ previous.keys, ∀ columns,
    project columns = project (keyColumns before) →
      columns.lifecycle = (keyColumns before).lifecycle
  follows : ∀ before ∈ previous.keys, ∀ after ∈ current.keys,
    after.id = before.id → ∀ columns,
      project columns = project (keyColumns before) →
        project (syncedKey before after columns) = project (keyColumns after)

structure ShowsDownstream (project : DownstreamColumns → β)
    (previous current : VaultSyncSnapshot) : Prop where
  guards : ∀ before ∈ previous.downstream, ∀ columns,
    project columns = project (downstreamColumns before) →
      columns.lifecycle = (downstreamColumns before).lifecycle
  follows : ∀ before ∈ previous.downstream, ∀ after ∈ current.downstream,
    after.id = before.id → ∀ columns,
      project columns = project (downstreamColumns before) →
        project (syncedDownstream before after columns) =
          project (downstreamColumns after)

/-- A view of the rows through a projection of their columns. -/
def through (project : α → β) (view : Uuid → Option α) (id : Uuid) :
    Option β :=
  (view id).map project

theorem through_update (project : α → β) (view : Uuid → Option α) (id : Uuid)
    (columns : α) :
    through project (Function.update view id (some columns)) =
      Function.update (through project view) id (some (project columns)) := by
  funext wanted
  by_cases same : wanted = id
  · subst same
    simp [through]
  · simp [through, Function.update_of_ne same]

section Projections

variable {β : Type} {previous current : VaultSyncSnapshot}

theorem syncKey_ensures {project : KeyColumns → β}
    (shows_ : ShowsKeys project previous current) {entry : VaultKeyRecord}
    (distinct : (previous.keys.map VaultKeyRecord.id).Nodup)
    (member : entry ∈ current.keys) {view : Uuid → Option β}
    (seen : view entry.id = snapshotView VaultKeyRecord.id
      (project ∘ keyColumns) previous.keys entry.id) :
    Ensures
      (fun rows => through project rows.keyView = view ∧
        rows.downstreamView = downstream)
      (syncKey now previous.keys entry) fun _ rows =>
      through project rows.keyView =
          Function.update view entry.id (some (project (keyColumns entry))) ∧
        rows.downstreamView = downstream := by
  rintro session value after ⟨reading, framed⟩ ran
  cases found : lastWith VaultKeyRecord.id previous.keys entry.id with
  | none =>
      have inserted := @insertUpstreamKey_ensures session.rows.keyView
        downstream now entry
      unfold syncKey at ran
      rw [found] at ran
      have reads := inserted session value after ⟨rfl, framed⟩ ran
      refine ⟨?_, reads.2⟩
      rw [reads.1, through_update, reading]
  | some before =>
      obtain ⟨beforeMember, sameId⟩ := lastWith_eq_some found
      have known : through project session.rows.keyView entry.id =
          some (project (keyColumns before)) := by
        rw [reading, seen, ← sameId]
        exact snapshotView_of_mem distinct beforeMember
      obtain ⟨columns, stored, shown⟩ := Option.map_eq_some_iff.mp known
      have synced := @syncExistingKey_ensures session.rows.keyView downstream
        now before entry columns previous.keys found
        (shows_.guards before beforeMember columns shown)
      have reads := synced session value after
        ⟨(Function.update_eq_self_iff.mpr stored.symm).symm, framed⟩ ran
      refine ⟨?_, reads.2⟩
      rw [reads.1, through_update, reading, shows_.follows before beforeMember
        entry member sameId.symm columns shown]

theorem syncDownstream_ensures {project : DownstreamColumns → β}
    (shows_ : ShowsDownstream project previous current)
    {entry : VaultDownstreamRecord}
    (distinct : (previous.downstream.map VaultDownstreamRecord.id).Nodup)
    (member : entry ∈ current.downstream) {view : Uuid → Option β}
    (seen : view entry.id = snapshotView VaultDownstreamRecord.id
      (project ∘ downstreamColumns) previous.downstream entry.id) :
    Ensures
      (fun rows => through project rows.downstreamView = view ∧
        rows.keyView = keys)
      (syncDownstream now previous.downstream entry) fun _ rows =>
      through project rows.downstreamView = Function.update view entry.id
          (some (project (downstreamColumns entry))) ∧
        rows.keyView = keys := by
  rintro session value after ⟨reading, framed⟩ ran
  cases found :
      lastWith VaultDownstreamRecord.id previous.downstream entry.id with
  | none =>
      have inserted := @insertDownstreamCredential_ensures keys
        session.rows.downstreamView entry
      unfold syncDownstream at ran
      rw [found] at ran
      have reads := inserted session value after ⟨framed, rfl⟩ ran
      refine ⟨?_, reads.1⟩
      rw [reads.2, through_update, reading]
  | some before =>
      obtain ⟨beforeMember, sameId⟩ := lastWith_eq_some found
      have known : through project session.rows.downstreamView entry.id =
          some (project (downstreamColumns before)) := by
        rw [reading, seen, ← sameId]
        exact snapshotView_of_mem distinct beforeMember
      obtain ⟨columns, stored, shown⟩ := Option.map_eq_some_iff.mp known
      have synced := @syncExistingDownstream_ensures keys
        session.rows.downstreamView now before entry columns
        previous.downstream found
        (shows_.guards before beforeMember columns shown)
      have reads := synced session value after
        ⟨framed, (Function.update_eq_self_iff.mpr stored.symm).symm⟩ ran
      refine ⟨?_, reads.1⟩
      rw [reads.2, through_update, reading, shows_.follows before beforeMember
        entry member sameId.symm columns shown]

end Projections

theorem control_ensures {pre : Database → Prop} (context : String) :
    Ensures pre (control context) fun _ => pre := by
  apply Ensures.execute
  intro rows answer rows' holds answered
  cases answered
  exact holds

theorem syncCursor_ensures {previous current : RouterCursors}
    (profile : String) :
    Ensures (Reads keys downstream) (syncCursor previous current profile)
      fun _ => Reads keys downstream := by
  unfold syncCursor
  split
  · apply affectOne_ensures
    intro rows rows' reads answered
    obtain ⟨-, rfl⟩ := Prod.mk.inj (Option.some.inj answered)
    exact reads
  · exact Ensures.pure fun rows reads => reads

theorem applyClientPolicy_ensures (policy : ClientPolicyMutation) :
    Ensures (Reads keys downstream) (applyClientPolicy policy)
      fun _ => Reads keys downstream := by
  apply affectOne_ensures
  intro rows rows' reads answered
  obtain ⟨-, rfl⟩ := Prod.mk.inj (Option.some.inj answered)
  refine ⟨reads.1, ?_⟩
  rw [← reads.2]
  funext wanted
  simp only [Database.downstreamView, Table.find?_update, Option.map_map]
  congr 1
  funext row
  simp only [Function.comp]
  split <;> rfl

theorem recordProbe_ensures (probe : ProbeAuditMutation) :
    Ensures (Reads keys downstream) (recordProbe now probe)
      fun _ => Reads keys downstream := by
  unfold recordProbe
  refine Ensures.bind (fun _ => Reads keys downstream) ?_ fun _ => ?_
  · apply Ensures.execute
    intro rows answer rows' reads answered
    simp only [Option.map_eq_some_iff] at answered
    obtain ⟨probeRuns, -, stored⟩ := answered
    cases stored
    exact reads
  split
  · split
    · exact Ensures.pure fun rows reads => reads
    · apply Ensures.execute
      intro rows answer rows' reads answered
      cases answered
      unfold Database.storeReceipt
      split <;> exact reads
  split
  · apply Ensures.execute
    intro rows answer rows' reads answered
    cases answered
    exact reads
  · exact Ensures.pure fun rows reads => reads

theorem optional_ensures {pre : Database → Prop} {body : α → Sync PUnit}
    (valid : ∀ value, Ensures pre (body value) fun _ => pre)
    (value : Option α) : Ensures pre (value.forM body) fun _ => pre := by
  cases value with
  | none => exact Ensures.pure fun rows holds => holds
  | some value => exact valid value

theorem recordAudit_ensures (auditId : Uuid) (audit : VaultAuditMutation) :
    Ensures (Reads keys downstream) (recordAudit now auditId audit)
      fun _ => Reads keys downstream := by
  unfold recordAudit
  refine Ensures.bind _ (optional_ensures applyClientPolicy_ensures _)
    fun _ => ?_
  refine Ensures.bind _ (optional_ensures recordProbe_ensures _) fun _ => ?_
  apply Ensures.execute
  intro rows answer rows' reads answered
  simp only [Option.map_eq_some_iff] at answered
  obtain ⟨auditEvents, -, stored⟩ := answered
  cases stored
  exact reads

section Projections

variable {β γ : Type} {previous current : VaultSyncSnapshot}
  {projectKey : KeyColumns → β} {projectDownstream : DownstreamColumns → γ}

def ReadsSnapshot (projectKey : KeyColumns → β)
    (projectDownstream : DownstreamColumns → γ) (snapshot : VaultSyncSnapshot)
    (rows : Database) : Prop :=
  through projectKey rows.keyView = snapshotView VaultKeyRecord.id
      (projectKey ∘ keyColumns) snapshot.keys ∧
    through projectDownstream rows.downstreamView =
      snapshotView VaultDownstreamRecord.id
        (projectDownstream ∘ downstreamColumns) snapshot.downstream

theorem ReadsSnapshot.keep {body : Sync α} {snapshot : VaultSyncSnapshot}
    (valid : ∀ keys downstream,
      Ensures (Reads keys downstream) body fun _ => Reads keys downstream) :
    Ensures (ReadsSnapshot projectKey projectDownstream snapshot) body fun _ =>
      ReadsSnapshot projectKey projectDownstream snapshot := by
  intro session value after before ran
  have reads := valid _ _ session value after ⟨rfl, rfl⟩ ran
  unfold ReadsSnapshot
  rw [reads.1, reads.2]
  exact before

theorem syncDatabaseDelta_reads
    (succeeds : SnapshotSucceeds previous current)
    (showsKeys : ShowsKeys projectKey previous current)
    (showsDownstream : ShowsDownstream projectDownstream previous current)
    (auditId : Uuid) (audit : Option VaultAuditMutation) :
    Ensures (ReadsSnapshot projectKey projectDownstream previous)
      (syncDatabaseDeltaBody now auditId previous current audit) fun _ =>
      ReadsSnapshot projectKey projectDownstream current := by
  unfold syncDatabaseDeltaBody
  refine Ensures.bind _ (control_ensures _) fun _ => ?_
  refine Ensures.bind _ (control_ensures _) fun _ => ?_
  refine Ensures.bind (fun _ => ReadsSnapshot projectKey projectDownstream
    { previous with keys := current.keys }) ?_ fun _ => ?_
  · rintro session value after ⟨keysRead, downstreamRead⟩ ran
    have loop := @syncAll_ensures _ _ VaultKeyRecord.id
      (projectKey ∘ keyColumns) (fun rows => through projectKey rows.keyView)
      (fun rows => rows.downstreamView = session.rows.downstreamView)
      (syncKey now previous.keys) _ _ succeeds.keys
      fun entry member view seen =>
        syncKey_ensures showsKeys succeeds.keys.before member seen
    obtain ⟨keysAfter, framed⟩ :=
      loop session value after ⟨keysRead, rfl⟩ ran
    exact ⟨keysAfter, framed ▸ downstreamRead⟩
  refine Ensures.bind (fun _ => ReadsSnapshot projectKey projectDownstream
    current) ?_ fun _ => ?_
  · rintro session value after ⟨keysRead, downstreamRead⟩ ran
    have loop := @syncAll_ensures _ _ VaultDownstreamRecord.id
      (projectDownstream ∘ downstreamColumns)
      (fun rows => through projectDownstream rows.downstreamView)
      (fun rows => rows.keyView = session.rows.keyView)
      (syncDownstream now previous.downstream) _ _ succeeds.downstream
      fun entry member view seen =>
        syncDownstream_ensures showsDownstream succeeds.downstream.before
          member seen
    obtain ⟨downstreamAfter, framed⟩ :=
      loop session value after ⟨downstreamRead, rfl⟩ ran
    exact ⟨framed ▸ keysRead, downstreamAfter⟩
  refine Ensures.bind (fun _ => ReadsSnapshot projectKey projectDownstream
    current) ?_ fun _ => ?_
  · apply Ensures.forM (fun _ => ReadsSnapshot projectKey projectDownstream
      current) profiles
    intro _ profile _ _
    exact ReadsSnapshot.keep fun _ _ => syncCursor_ensures profile
  refine Ensures.bind (fun _ => ReadsSnapshot projectKey projectDownstream
    current) ?_ fun recorded => ?_
  · cases audit with
    | none => exact Ensures.pure fun rows reads => reads
    | some audit =>
        refine Ensures.bind (fun _ => ReadsSnapshot projectKey
          projectDownstream current) ?_ fun _ => ?_
        · exact ReadsSnapshot.keep fun _ _ => recordAudit_ensures auditId audit
        · exact Ensures.pure fun rows reads => reads
  refine Ensures.bind _ (control_ensures _) fun _ => ?_
  exact Ensures.pure fun rows reads => reads

/-- A sync that commits reads as the new snapshot, whether its caller hears of
it or not, and one that does not leaves the rows alone. -/
theorem syncDatabaseDelta_spec
    (succeeds : SnapshotSucceeds previous current)
    (showsKeys : ShowsKeys projectKey previous current)
    (showsDownstream : ShowsDownstream projectDownstream previous current)
    (auditId : Uuid) (audit : Option VaultAuditMutation)
    (refuses : Nat → Bool) (acknowledgement : Acknowledgement)
    {database : Database}
    (reads : ReadsSnapshot projectKey projectDownstream previous database) :
    match syncDatabaseDelta now auditId previous current audit refuses
      acknowledgement database with
    | (.ok _, after) => ReadsSnapshot projectKey projectDownstream current after
    | (.error _, after) => after = database ∨ acknowledgement = .lost ∧
        ReadsSnapshot projectKey projectDownstream current after := by
  have committed : ∀ {acknowledgement : Acknowledgement} {after : Database}
      {recorded : Option Uuid}, syncDatabaseDelta now auditId previous current
        audit refuses acknowledgement database = (.ok recorded, after) →
      ReadsSnapshot projectKey projectDownstream current after := by
    intro acknowledgement after recorded ran
    obtain ⟨-, ran⟩ := syncDatabaseDelta_eq_ok.mp ran
    have ended := (syncDatabaseDelta_reads succeeds showsKeys showsDownstream
      auditId audit).transact reads (congrArg Prod.fst ran)
    rwa [ran] at ended
  split
  · rename_i recorded after ran
    exact committed ran
  · rename_i error after ran
    rcases syncDatabaseDelta_error ran with unchanged | ⟨lost, -, _, unheard⟩
    · exact .inl unchanged
    · exact .inr ⟨lost, committed unheard⟩

end Projections

end NvidiaBuildLb.Gateway
