import NvidiaBuildLb.Core.OutOfRouting
import NvidiaBuildLb.Gateway.Eligibility
import NvidiaBuildLb.Gateway.RoundTrip
import NvidiaBuildLb.Gateway.SyncFrames

namespace NvidiaBuildLb.Gateway

open Foundation NvidiaBuildLb.Core
open Transaction (Ensures Untouched)

/-! The row of one key, as routing reads it, over syncs of a vault that need not
agree with it. -/

def UpstreamKeyRow.lifecycle (row : UpstreamKeyRow) : KeyLifecycle :=
  row.columns.lifecycle

def recordLifecycle (record : VaultKeyRecord) : KeyLifecycle :=
  (keyColumns record).lifecycle

def Database.keyLifecycle (id : Uuid) (rows : Database) : Option KeyLifecycle :=
  (rows.upstreamKeys.find? id).map UpstreamKeyRow.lifecycle

/-- A column that one sync writes: left alone where memory has not changed, and
otherwise moved from the value memory had to the one it has. -/
def Moved (unchanged : Prop) (held now before after : α) : Prop :=
  unchanged ∧ after = before ∨ before = held ∧ after = now

/-- What a sync of one key that commits makes of the columns of its row. -/
structure LifecycleMoved (previous current : VaultKeyRecord)
    (before after : KeyLifecycle) : Prop where
  verified : Moved (current.verified = previous.verified) previous.verified current.verified
    before.verified after.verified
  retired : Moved (current.retired = previous.retired) previous.retired current.retired
    before.retired after.retired
  cooldown : Moved (current.cooldownUntil = previous.cooldownUntil)
    (previous.cooldownUntil.map micros) (current.cooldownUntil.map micros)
    before.cooldownUntil after.cooldownUntil
  enabled : Moved (current.enabled = previous.enabled) previous.enabled current.enabled
    before.enabled after.enabled

theorem Moved.of_held {unchanged : Prop} {held now after : α} (same : unchanged → now = held)
    (moved : Moved unchanged held now held after) : after = now := by
  rcases moved with ⟨kept, isKept⟩ | ⟨-, isNow⟩
  · exact isKept.trans (same kept).symm
  · exact isNow

theorem LifecycleMoved.followed {previous current : VaultKeyRecord} {after : KeyLifecycle}
    (moved : LifecycleMoved previous current (recordLifecycle previous) after) :
    after = recordLifecycle current := by
  have verified := moved.verified.of_held fun same => same
  have retired := moved.retired.of_held fun same => same
  have cooldown := moved.cooldown.of_held fun same => by rw [same]
  have enabled := moved.enabled.of_held fun same => same
  cases after
  simp only at verified retired cooldown enabled
  subst verified retired cooldown enabled
  rfl

section Sync

variable {id : Uuid} {now : Micros}

/-- The row of the key is there and its columns satisfy a property. -/
def HasKey (id : Uuid) (property : KeyLifecycle → Prop) (rows : Database) : Prop :=
  ∃ lifecycle, rows.keyLifecycle id = some lifecycle ∧ property lifecycle

theorem HasKey.untouched {property : KeyLifecycle → Prop} {body : Sync α}
    (leaves : Untouched (Database.keyLifecycle id) body) :
    Ensures (HasKey id property) body fun _ => HasKey id property := by
  rintro session value after ⟨lifecycle, isLifecycle, holds⟩ ran
  exact ⟨lifecycle, leaves _ session value after isLifecycle ran, holds⟩

theorem guardedColumn_ensures [DecidableEq α] {before current : α}
    {context conflict : String} {guard : UpstreamKeyRow → Bool}
    {edit : UpstreamKeyRow → UpstreamKeyRow} {keeps : ∀ row, (edit row).id = row.id}
    {property later : KeyLifecycle → Prop}
    (unchanged : current = before → ∀ lifecycle, property lifecycle → later lifecycle)
    (changed : ∀ row, guard row = true → property row.lifecycle →
      later (edit row).lifecycle) :
    Ensures (HasKey id property)
      (whenChanged before current <| updateOne context conflict fun rows =>
        rows.updateKeys (fun row => row.id = id && guard row) edit keeps)
      fun _ => HasKey id later := by
  apply whenChanged_ensures
  · rintro same rows ⟨lifecycle, isLifecycle, holds⟩
    exact ⟨lifecycle, isLifecycle, unchanged same lifecycle holds⟩
  · intro _
    apply affectOne_ensures
    rintro rows rows' ⟨lifecycle, isLifecycle, holds⟩ answered
    obtain ⟨once, rfl⟩ := Prod.mk.inj (Option.some.inj answered)
    have named : ∀ row : UpstreamKeyRow,
        (decide (row.id = id) && guard row) = true → row.id = id := by
      intro row selected
      simp only [Bool.and_eq_true, decide_eq_true_eq] at selected
      exact selected.1
    -- Exactly one row was written, so the key's row passed the guard.
    obtain ⟨row, found, selected⟩ := (Table.count_eq_one_iff named).mp once
    rw [Database.keyLifecycle, found, Option.map_some, Option.some.injEq] at isLifecycle
    subst isLifecycle
    refine ⟨(edit row).lifecycle, ?_, changed row ?_ holds⟩
    · simp only [Database.keyLifecycle, Table.find?_update, found, Option.map_some, selected,
        if_true]
    · simp only [Bool.and_eq_true] at selected
      exact selected.2

private theorem updateKeys_leaves {context conflict : String} {select : UpstreamKeyRow → Bool}
    {edit : UpstreamKeyRow → UpstreamKeyRow} {keeps : ∀ row, (edit row).id = row.id}
    (blind : ∀ row, select row = true → row.id = id → (edit row).lifecycle = row.lifecycle) :
    Untouched (Database.keyLifecycle id) (updateOne context conflict fun rows =>
      rows.updateKeys select edit keeps) := by
  apply updateOne_leaves
  intro rows
  unfold Database.keyLifecycle Database.updateKeys
  rw [Table.find?_update]
  cases found : rows.upstreamKeys.find? id with
  | none => rfl
  | some row =>
      simp only [Option.map_some, Option.some.injEq]
      split
      · rename_i selected
        exact blind row selected (Table.key_of_find? found)
      · rfl

private theorem counters_leave (previous current : VaultKeyRecord) :
    Untouched (Database.keyLifecycle id) (do
      syncKeyRequestCount previous current
      syncKeyFailureCount previous current) := by
  refine Untouched.bind ?_ fun _ => ?_
  · exact syncCounter_leaves fun _ => updateKeys_leaves fun _ _ _ => rfl
  · exact syncCounter_leaves fun _ => updateKeys_leaves fun _ _ _ => rfl

theorem syncStoredKey_moves {previousKeys : List VaultKeyRecord}
    {previous current : VaultKeyRecord} {before : KeyLifecycle}
    (known : lastWith VaultKeyRecord.id previousKeys current.id = some previous) :
    Ensures (HasKey current.id (· = before)) (syncKey now previousKeys current)
      fun _ => HasKey current.id (LifecycleMoved previous current before) := by
  unfold syncKey
  rw [known]
  -- Each statement settles one column and leaves the others as they were.
  refine Ensures.bind (fun _ => HasKey current.id fun row =>
    Moved (current.enabled = previous.enabled) previous.enabled current.enabled
      before.enabled row.enabled ∧
    row.verified = before.verified ∧ row.retired = before.retired ∧
    row.cooldownUntil = before.cooldownUntil) (guardedColumn_ensures ?_ ?_) fun _ => ?_
  · rintro same row rfl
    exact ⟨.inl ⟨same, rfl⟩, rfl, rfl, rfl⟩
  · rintro row held rfl
    exact ⟨.inr ⟨of_decide_eq_true held, rfl⟩, rfl, rfl, rfl⟩
  refine Ensures.bind (fun _ => HasKey current.id fun row =>
    Moved (current.enabled = previous.enabled) previous.enabled current.enabled
      before.enabled row.enabled ∧
    Moved (current.verified = previous.verified) previous.verified current.verified
      before.verified row.verified ∧
    row.retired = before.retired ∧ row.cooldownUntil = before.cooldownUntil)
    (guardedColumn_ensures ?_ ?_) fun _ => ?_
  · rintro same row ⟨enabled, verified, rest⟩
    exact ⟨enabled, .inl ⟨same, verified⟩, rest⟩
  · rintro row held ⟨enabled, verified, rest⟩
    exact ⟨enabled, .inr ⟨verified.symm.trans (of_decide_eq_true held), rfl⟩, rest⟩
  refine Ensures.bind (fun _ => HasKey current.id fun row =>
    Moved (current.enabled = previous.enabled) previous.enabled current.enabled
      before.enabled row.enabled ∧
    Moved (current.verified = previous.verified) previous.verified current.verified
      before.verified row.verified ∧
    Moved (current.retired = previous.retired) previous.retired current.retired
      before.retired row.retired ∧
    row.cooldownUntil = before.cooldownUntil) (guardedColumn_ensures ?_ ?_) fun _ => ?_
  · rintro same row ⟨enabled, verified, retired, cooldown⟩
    exact ⟨enabled, verified, .inl ⟨same, retired⟩, cooldown⟩
  · rintro row held ⟨enabled, verified, retired, cooldown⟩
    exact ⟨enabled, verified, .inr ⟨retired.symm.trans (of_decide_eq_true held), rfl⟩,
      cooldown⟩
  refine Ensures.bind _ (HasKey.untouched
    (syncKeyReceipts_leaves (fun _ _ => rfl) now previous current)) fun _ => ?_
  refine Ensures.bind (fun _ => HasKey current.id (LifecycleMoved previous current before))
    (guardedColumn_ensures ?_ ?_) fun _ => ?_
  · rintro same row ⟨enabled, verified, retired, cooldown⟩
    exact ⟨verified, retired, .inl ⟨same, cooldown⟩, enabled⟩
  · rintro row held ⟨enabled, verified, retired, cooldown⟩
    exact ⟨verified, retired, .inr ⟨cooldown.symm.trans (of_decide_eq_true held), rfl⟩,
      enabled⟩
  exact HasKey.untouched (counters_leave previous current)

/-- The row of the key is there, so a new one is another's. -/
private theorem insertUpstreamKey_keeps {property : KeyLifecycle → Prop}
    (current : VaultKeyRecord) :
    Ensures (HasKey id property) (insertUpstreamKey now current) fun _ => HasKey id property := by
  unfold insertUpstreamKey
  refine Ensures.bind (fun _ => HasKey id property) (Ensures.execute ?_) fun _ => ?_
  · intro rows answer rows' holds answered
    cases answered
    exact holds
  refine Ensures.bind (fun _ => HasKey id property)
    (Ensures.refuseIf fun _ holds _ => holds) fun _ => ?_
  refine Ensures.bind (fun _ => HasKey id property) (Ensures.lift fun _ _ holds _ => holds)
    fun requestCount => ?_
  refine Ensures.bind (fun _ => HasKey id property) (Ensures.lift fun _ _ holds _ => holds)
    fun failureCount => ?_
  apply affectOne_ensures
  rintro rows rows' ⟨lifecycle, isLifecycle, holds⟩ answered
  obtain ⟨slotNo, -, answered⟩ := Option.map_eq_some_iff.mp answered
  split at answered
  · cases answered
  rename_i upstreamKeys inserted
  cases answered
  refine ⟨lifecycle, ?_, holds⟩
  unfold Database.keyLifecycle at isLifecycle ⊢
  rw [Table.find?_insert inserted]
  split
  · rename_i named
    have absent := (Table.insert?_eq_some inserted).1
    rw [named] at absent
    rw [absent] at isLifecycle
    cases isLifecycle
  · exact isLifecycle

private theorem syncOtherKey_keeps {property : KeyLifecycle → Prop}
    (previousKeys : List VaultKeyRecord) {current : VaultKeyRecord} (other : current.id ≠ id) :
    Ensures (HasKey id property) (syncKey now previousKeys current)
      fun _ => HasKey id property := by
  have blind : ∀ {guard : UpstreamKeyRow → Bool} {edit : UpstreamKeyRow → UpstreamKeyRow}
      (row : UpstreamKeyRow), (decide (row.id = current.id) && guard row) = true →
      row.id = id → (edit row).lifecycle = row.lifecycle := by
    intro guard edit row selected named
    simp only [Bool.and_eq_true, decide_eq_true_eq] at selected
    exact absurd (selected.1.symm.trans named) other
  unfold syncKey
  split
  · exact insertUpstreamKey_keeps current
  rename_i previous known
  apply HasKey.untouched
  refine Untouched.bind (whenChanged_leaves (updateKeys_leaves blind)) fun _ => ?_
  refine Untouched.bind (whenChanged_leaves (updateKeys_leaves blind)) fun _ => ?_
  refine Untouched.bind (whenChanged_leaves (updateKeys_leaves blind)) fun _ => ?_
  refine Untouched.bind (syncKeyReceipts_leaves (fun _ _ => rfl) now previous current)
    fun _ => ?_
  refine Untouched.bind (whenChanged_leaves (updateKeys_leaves blind)) fun _ => ?_
  exact counters_leave previous current

/-- A sync that commits moves the row of a key that is in both snapshots,
whatever the row holds. -/
theorem syncDatabaseDelta_moves {before current : VaultSyncSnapshot} {auditId : Uuid}
    {audit : Option VaultAuditMutation} {refuses : Nat → Bool}
    {acknowledgement : Transaction.Acknowledgement} {database rows : Database}
    {recorded : Option Uuid} {previous later : VaultKeyRecord} {row : KeyLifecycle}
    (beforeIds : (before.keys.map VaultKeyRecord.id).Nodup)
    (currentIds : (current.keys.map VaultKeyRecord.id).Nodup)
    (isPrevious : previous ∈ before.keys) (isLater : later ∈ current.keys)
    (named : previous.id = later.id)
    (held : database.keyLifecycle later.id = some row)
    (ran : syncDatabaseDelta now auditId before current audit refuses acknowledgement
      database = (.ok recorded, rows)) :
    ∃ after, rows.keyLifecycle later.id = some after ∧
      LifecycleMoved previous later row after := by
  have known : lastWith VaultKeyRecord.id before.keys later.id = some previous := by
    cases found : lastWith VaultKeyRecord.id before.keys later.id with
    | none => exact absurd (named ▸ List.mem_map_of_mem isPrevious) (lastWith_eq_none found)
    | some other =>
        obtain ⟨isOther, isNamed⟩ := lastWith_eq_some found
        exact congrArg some (List.inj_on_of_nodup_map beforeIds isOther isPrevious
          (isNamed.trans named.symm))
  -- The key's own entry moves its row, the entries before and after it do not.
  have loop : Ensures (HasKey later.id (· = row))
      (current.keys.forM (syncKey now before.keys))
      fun _ => HasKey later.id (LifecycleMoved previous later row) := by
    apply Ensures.forM_once currentIds.of_map isLater
    · intro other member apart
      have named : other.id ≠ later.id := fun same =>
        apart (List.inj_on_of_nodup_map currentIds member isLater same)
      exact ⟨syncOtherKey_keeps before.keys named, syncOtherKey_keeps before.keys named⟩
    · exact syncStoredKey_moves known
  have ensured : Ensures (HasKey later.id (· = row))
      (syncDatabaseDeltaBody now auditId before current audit)
      fun _ => HasKey later.id (LifecycleMoved previous later row) := by
    refine Ensures.bind _ (HasKey.untouched (control_leaves _)) fun _ => ?_
    refine Ensures.bind _ (HasKey.untouched (control_leaves _)) fun _ => ?_
    refine Ensures.bind _ loop fun _ => ?_
    refine Ensures.bind _ (HasKey.untouched (Untouched.forM
      (syncDownstream_leaves (fun _ _ => rfl) now _))) fun _ => ?_
    refine Ensures.bind _ (HasKey.untouched (Untouched.forM
      (syncCursor_leaves (fun _ _ => rfl) _ _))) fun _ => ?_
    refine Ensures.bind _ (HasKey.untouched (recordIfAudited_leaves
      (applyClientPolicy_leaves fun _ _ => rfl) (fun _ _ => rfl) (fun _ _ => rfl)
      (fun _ _ => rfl) now auditId audit)) fun recorded => ?_
    exact HasKey.untouched (Untouched.bind (control_leaves _) fun _ => Untouched.pure _)
  obtain ⟨-, ran⟩ := syncDatabaseDelta_eq_ok.mp ran
  have ended := ensured.transact ⟨row, held, rfl⟩ (congrArg Prod.fst ran)
  rwa [ran] at ended

end Sync

end NvidiaBuildLb.Gateway
