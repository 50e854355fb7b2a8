import NvidiaBuildLb.Foundation.Numbering
import NvidiaBuildLb.Gateway.SnapshotRefinement

namespace NvidiaBuildLb.Gateway

open Foundation NvidiaBuildLb.Core
open Transaction (Ensures)

/-! The slot numbers that an incremental sync gives to new keys, and what it
leaves of the numbers that keys have. -/

/-- The number stored for a key that is not retired. -/
def Database.liveSlot (database : Database) (id : Uuid) : Option Nat :=
  (database.upstreamKeys.find? id).bind fun row =>
    if row.retired then none else some row.slotNo

def liveIds (records : List VaultKeyRecord) : List Uuid :=
  (records.filter fun record => !record.retired).map VaultKeyRecord.id

def retiredIds (records : List VaultKeyRecord) : List Uuid :=
  (records.filter fun record => record.retired).map VaultKeyRecord.id

theorem mem_liveIds {records : List VaultKeyRecord} {id : Uuid} :
    id ∈ liveIds records ↔
      ∃ record ∈ records, record.retired = false ∧ record.id = id := by
  simp [liveIds, and_assoc]

theorem mem_retiredIds {records : List VaultKeyRecord} {id : Uuid} :
    id ∈ retiredIds records ↔
      ∃ record ∈ records, record.retired = true ∧ record.id = id := by
  simp [retiredIds, and_assoc]

theorem Database.liveSlot_eq_some {database : Database} {id : Uuid}
    {slotNo : Nat} :
    database.liveSlot id = some slotNo ↔
      ∃ row ∈ database.upstreamKeys.rows, row.id = id ∧ row.retired = false ∧
        row.slotNo = slotNo := by
  simp only [Database.liveSlot, Option.bind_eq_some_iff,
    Table.find?_eq_some_iff]
  constructor
  · rintro ⟨row, ⟨present, isId⟩, live⟩
    cases retired : row.retired with
    | true => simp [retired] at live
    | false => exact ⟨row, present, isId, retired, by simpa [retired] using live⟩
  · rintro ⟨row, present, isId, live, isSlot⟩
    exact ⟨row, ⟨present, isId⟩, by simp [live, isSlot]⟩

section Statements

variable {view : Uuid → Option Nat} {now : Micros}
  {previous current : VaultKeyRecord}

theorem liveSlot_updateKeys {rows : Database}
    {select : UpstreamKeyRow → Bool} {edit : UpstreamKeyRow → UpstreamKeyRow}
    {keeps : ∀ row, (edit row).id = row.id}
    (retired : ∀ row, (edit row).retired = row.retired)
    (slotNo : ∀ row, (edit row).slotNo = row.slotNo) :
    (rows.updateKeys select edit keeps).2.liveSlot = rows.liveSlot := by
  funext id
  simp only [Database.liveSlot, Database.updateKeys, Table.find?_update,
    Option.bind_map]
  congr 1
  funext row
  simp only [Function.comp]
  split <;> simp only [retired, slotNo]

theorem updateKeys_liveSlot {context conflict : String}
    {select : UpstreamKeyRow → Bool} {edit : UpstreamKeyRow → UpstreamKeyRow}
    {keeps : ∀ row, (edit row).id = row.id}
    (retired : ∀ row, (edit row).retired = row.retired)
    (slotNo : ∀ row, (edit row).slotNo = row.slotNo) :
    Ensures (fun rows => rows.liveSlot = view)
      (updateOne context conflict fun rows => rows.updateKeys select edit keeps)
      fun _ rows => rows.liveSlot = view := by
  apply affectOne_ensures
  intro rows rows' seen answered
  obtain ⟨-, rfl⟩ := Prod.mk.inj (Option.some.inj answered)
  exact (liveSlot_updateKeys retired slotNo).trans seen

theorem syncKeyRetired_liveSlot
    (stays : previous.retired = true → current.retired = true)
    (was : previous.retired = true → view current.id = none) :
    Ensures (fun rows => rows.liveSlot = view) (syncKeyRetired previous current)
      fun _ rows => rows.liveSlot = Function.update view current.id
        (if current.retired then none else view current.id) := by
  apply whenChanged_ensures
  · intro same rows seen
    rw [seen, eq_comm, Function.update_eq_self_iff]
    split
    · rename_i retired
      exact (was (same ▸ retired)).symm
    · rfl
  · intro different
    obtain ⟨before, after⟩ : previous.retired = false ∧ current.retired = true := by
      cases was : previous.retired with
      | true => exact absurd (stays was) (was ▸ different)
      | false => exact ⟨rfl, by simpa [was] using different⟩
    apply affectOne_ensures
    intro rows rows' seen answered
    obtain ⟨-, rfl⟩ := Prod.mk.inj (Option.some.inj answered)
    subst seen
    funext wanted
    simp only [Database.liveSlot, Table.find?_update, Option.bind_map, before,
      after, if_true]
    by_cases same : wanted = current.id
    · subst same
      rw [Function.update_self, Option.bind_eq_none_iff]
      intro row found
      have isId := Table.key_of_find? found
      cases retired : row.retired <;> simp [isId, retired]
    · rw [Function.update_of_ne same]
      apply Option.bind_congr
      intro row found
      have isId := Table.key_of_find? found
      simp [isId, same]

theorem syncExistingKey_liveSlot {previousKeys : List VaultKeyRecord}
    (found : lastWith VaultKeyRecord.id previousKeys current.id = some previous)
    (stays : previous.retired = true → current.retired = true)
    (was : previous.retired = true → view current.id = none) :
    Ensures (fun rows => rows.liveSlot = view) (syncKey now previousKeys current)
      fun _ rows => rows.liveSlot = Function.update view current.id
        (if current.retired then none else view current.id) := by
  unfold syncKey
  rw [found]
  refine Ensures.bind (fun _ rows => rows.liveSlot = view) ?_ fun _ => ?_
  · exact whenChanged_ensures (fun _ _ seen => seen) fun _ =>
      updateKeys_liveSlot (fun _ => rfl) fun _ => rfl
  refine Ensures.bind (fun _ rows => rows.liveSlot = view) ?_ fun _ => ?_
  · exact whenChanged_ensures (fun _ _ seen => seen) fun _ =>
      updateKeys_liveSlot (fun _ => rfl) fun _ => rfl
  refine Ensures.bind _ (syncKeyRetired_liveSlot stays was) fun _ => ?_
  refine Ensures.bind _ (syncKeyReceipts_ensures ?_) fun _ => ?_
  · exact fun rows probeReceipts seen => seen
  refine Ensures.bind (fun _ rows => rows.liveSlot =
    Function.update view current.id
      (if current.retired then none else view current.id)) ?_ fun _ => ?_
  · exact whenChanged_ensures (fun _ _ seen => seen) fun _ =>
      updateKeys_liveSlot (fun _ => rfl) fun _ => rfl
  refine Ensures.bind (fun _ rows => rows.liveSlot =
    Function.update view current.id
      (if current.retired then none else view current.id)) ?_ fun _ => ?_
  · exact syncCounter_ensures (fun _ _ seen => seen) fun _ =>
      updateKeys_liveSlot (fun _ => rfl) fun _ => rfl
  · exact syncCounter_ensures (fun _ _ seen => seen) fun _ =>
      updateKeys_liveSlot (fun _ => rfl) fun _ => rfl

theorem insertUpstreamKey_liveSlot (before : Database) :
    Ensures (fun rows => rows = before) (insertUpstreamKey now current)
      fun _ rows =>
        before.upstreamKeys.count (fun row => !row.retired) < maxUpstreamKeys ∧
        before.liveSlot current.id = none ∧
        ∃ slotNo, freeSlot before.upstreamKeys = some slotNo ∧
          rows.liveSlot = Function.update before.liveSlot current.id
            (if current.retired then none else some slotNo) := by
  unfold insertUpstreamKey
  refine Ensures.bind (fun activeCount rows => rows = before ∧
      activeCount = before.upstreamKeys.count fun row => !row.retired) ?_
    fun activeCount => ?_
  · apply Ensures.execute
    rintro rows answer rows' rfl answered
    cases answered
    exact ⟨rfl, rfl⟩
  refine Ensures.bind (fun _ rows => rows = before ∧
      before.upstreamKeys.count (fun row => !row.retired) < maxUpstreamKeys) ?_
    fun _ => ?_
  · apply Ensures.refuseIf
    rintro rows ⟨isBefore, rfl⟩ room
    exact ⟨isBefore, by simpa using room⟩
  refine Ensures.bind _ (toI64_ensures _ _) fun requestCount => ?_
  refine Ensures.bind (fun _ rows => rows = before ∧
      before.upstreamKeys.count (fun row => !row.retired) < maxUpstreamKeys) ?_
    fun failureCount => ?_
  · apply Ensures.lift
    rintro value rows ⟨-, holds⟩ _
    exact holds
  apply affectOne_ensures
  rintro rows rows' ⟨rfl, room⟩ answered
  simp only [Option.map_eq_some_iff] at answered
  obtain ⟨slotNo, isFree, answered⟩ := answered
  split at answered
  · cases answered
  · rename_i upstreamKeys inserted
    cases answered
    have absent := (Table.insert?_eq_some inserted).1
    refine ⟨room, by simp only [Database.liveSlot, absent]; rfl, slotNo, isFree, ?_⟩
    funext wanted
    simp only [Database.liveSlot, Table.find?_insert inserted]
    by_cases same : wanted = current.id
    · subst same
      rw [Function.update_self, if_pos rfl]
      rfl
    · rw [Function.update_of_ne same, if_neg (Ne.symm same)]
      rfl

end Statements

private theorem slotFree_iff {database : Database} {slotNo : Nat} :
    (database.upstreamKeys.count fun row =>
        row.slotNo == slotNo && !row.retired) = 0 ↔
      ∀ id, database.liveSlot id ≠ some slotNo := by
  simp only [Table.count, List.countP_eq_zero, ne_eq,
    Database.liveSlot_eq_some]
  constructor
  · rintro free id ⟨row, present, -, live, isSlot⟩
    exact free row present (by simp [live, isSlot])
  · intro free row present taken
    simp only [Bool.and_eq_true, beq_iff_eq, Bool.not_eq_true'] at taken
    exact free row.id ⟨row, present, rfl, taken.2, taken.1⟩

private theorem numbered_taken {ids : List Uuid} (distinct : ids.Nodup)
    {slotNo : Nat} :
    (∀ id, numbered ids id ≠ some slotNo) ↔
      ¬ (1 ≤ slotNo ∧ slotNo ≤ ids.length) := by
  constructor
  · rintro free ⟨least, most⟩
    obtain ⟨id, -, isNumber⟩ := exists_numbered distinct least most
    exact free id isNumber
  · intro outside id isNumber
    exact outside (numbered_eq_some isNumber).2

theorem freeSlot_eq {database : Database} {ids : List Uuid}
    (distinct : ids.Nodup) (numbers : database.liveSlot = numbered ids)
    (room : ids.length < maxUpstreamKeys) :
    freeSlot database.upstreamKeys = some (ids.length + 1) := by
  have free : ∀ slotNo,
      ((database.upstreamKeys.count fun row =>
        row.slotNo == slotNo && !row.retired) == 0) =
        !decide (1 ≤ slotNo ∧ slotNo ≤ ids.length) := by
    intro slotNo
    rw [Bool.eq_iff_iff, beq_iff_eq, slotFree_iff, numbers,
      numbered_taken distinct]
    simp only [Bool.not_eq_true', decide_eq_false_iff_not]
  unfold freeSlot
  simp only [free]
  have small : ids.length = 0 ∨ ids.length = 1 := by
    unfold maxUpstreamKeys at room
    omega
  rcases small with none | one
  · rw [none]
    rfl
  · rw [one]
    rfl

theorem length_le_count {database : Database} {ids : List Uuid}
    (distinct : ids.Nodup) (numbers : database.liveSlot = numbered ids) :
    ids.length ≤ database.upstreamKeys.count fun row => !row.retired := by
  have subset : ids ⊆ (database.upstreamKeys.rows.filter fun row =>
      !row.retired).map UpstreamKeyRow.id := by
    intro id member
    have live : database.liveSlot id = some (ids.idxOf id + 1) := by
      rw [numbers, numbered_of_mem member]
    obtain ⟨row, present, isId, isLive, -⟩ := Database.liveSlot_eq_some.mp live
    exact List.mem_map.mpr ⟨row, List.mem_filter.mpr ⟨present, by simp [isLive]⟩,
      isId⟩
  have shorter := (distinct.subperm subset).length_le
  rwa [List.length_map, ← List.countP_eq_length_filter] at shorter

/-- The keys of the snapshot before, each with what the call made of it. -/
structure KeptKeys (previous kept : List VaultKeyRecord) : Prop where
  distinct : (previous.map VaultKeyRecord.id).Nodup
  related : List.Forall₂ (fun before after => after.id = before.id ∧
    (before.retired = true → after.retired = true)) previous kept

namespace KeptKeys

variable {previous kept : List VaultKeyRecord}

theorem ids (keys : KeptKeys previous kept) :
    kept.map VaultKeyRecord.id = previous.map VaultKeyRecord.id :=
  map_eq_map_of_forall₂ (fun _ _ same => same.1) keys.related

theorem exists_before (keys : KeptKeys previous kept) {after : VaultKeyRecord}
    (member : after ∈ kept) :
    ∃ before, lastWith VaultKeyRecord.id previous after.id = some before ∧
      before ∈ previous ∧ before.id = after.id ∧
      (before.retired = true → after.retired = true) := by
  obtain ⟨before, present, isSame, stays⟩ :=
    exists_of_forall₂_right keys.related member
  cases found : lastWith VaultKeyRecord.id previous after.id with
  | none =>
      exact absurd (List.mem_map.mpr ⟨before, present, isSame.symm⟩)
        (lastWith_eq_none found)
  | some other =>
      obtain ⟨otherPresent, otherId⟩ := lastWith_eq_some found
      have same : other = before := List.inj_on_of_nodup_map keys.distinct
        otherPresent present (otherId.trans isSame)
      exact ⟨before, congrArg some same, present, isSame.symm, stays⟩

theorem retired_iff (keys : KeptKeys previous kept) {id : Uuid}
    (live : id ∈ liveIds previous) : id ∈ retiredIds kept ↔ id ∉ liveIds kept := by
  have distinct : (kept.map VaultKeyRecord.id).Nodup := keys.ids ▸ keys.distinct
  constructor
  · intro retired isLive
    obtain ⟨first, firstMember, isRetired, firstId⟩ := mem_retiredIds.mp retired
    obtain ⟨second, secondMember, staysLive, secondId⟩ := mem_liveIds.mp isLive
    have same : first = second := List.inj_on_of_nodup_map distinct firstMember
      secondMember (firstId.trans secondId.symm)
    rw [same, staysLive] at isRetired
    cases isRetired
  · intro gone
    obtain ⟨before, present, -, isId⟩ := mem_liveIds.mp live
    have member : id ∈ kept.map VaultKeyRecord.id := by
      rw [keys.ids]
      exact List.mem_map.mpr ⟨before, present, isId⟩
    obtain ⟨after, afterMember, afterId⟩ := List.mem_map.mp member
    cases retired : after.retired with
    | true => exact mem_retiredIds.mpr ⟨after, afterMember, retired, afterId⟩
    | false =>
        exact absurd (mem_liveIds.mpr ⟨after, afterMember, retired, afterId⟩) gone

end KeptKeys

section Loop

variable {previous kept added : List VaultKeyRecord} {now : Micros}

private theorem syncKept_retires (keys : KeptKeys previous kept) :
    Ensures (fun rows => rows.liveSlot = numbered (liveIds previous))
      (kept.forM (syncKey now previous)) fun _ rows =>
      rows.liveSlot = fun id =>
        if id ∈ retiredIds kept then none
        else numbered (liveIds previous) id := by
  let view (done : List VaultKeyRecord) (id : Uuid) : Option Nat :=
    if id ∈ retiredIds done then none else numbered (liveIds previous) id
  have loop : Ensures (fun rows => rows.liveSlot = view [])
      (kept.forM (syncKey now previous)) fun _ rows =>
      rows.liveSlot = view kept := by
    apply Ensures.forM fun done (rows : Database) => rows.liveSlot = view done
    intro done entry rest split
    obtain ⟨before, found, present, isSame, stays⟩ :=
      keys.exists_before (show entry ∈ kept by simp [split])
    have was : before.retired = true → view done entry.id = none := by
      intro retired
      have notLive : entry.id ∉ liveIds previous := by
        intro live
        obtain ⟨other, otherPresent, isLive, otherId⟩ := mem_liveIds.mp live
        have same : other = before := List.inj_on_of_nodup_map keys.distinct
          otherPresent present (otherId.trans isSame.symm)
        rw [same, retired] at isLive
        cases isLive
      simp only [view, numbered_of_not_mem notLive, ite_self]
    refine (syncExistingKey_liveSlot found stays was).weaken
      (fun _ seen => seen) ?_
    rintro _ rows seen
    refine seen.trans (funext fun id => ?_)
    have member : id ∈ retiredIds (done ++ [entry]) ↔
        id ∈ retiredIds done ∨ entry.retired = true ∧ entry.id = id := by
      simp [retiredIds]
    simp only [view, member]
    by_cases same : id = entry.id
    · subst same
      rw [Function.update_self]
      cases entry.retired <;> simp
    · rw [Function.update_of_ne same]
      simp [Ne.symm same]
  exact loop.weaken (fun rows seen => seen) fun _ rows seen => seen

theorem syncKept_liveSlot (keys : KeptKeys previous kept) :
    Ensures (fun rows => rows.liveSlot = numbered (liveIds previous))
      (kept.forM (syncKey now previous)) fun _ rows =>
      rows.liveSlot = fun id =>
        if id ∈ liveIds kept then numbered (liveIds previous) id else none := by
  refine (syncKept_retires keys).weaken (fun _ seen => seen) ?_
  rintro _ rows seen
  refine seen.trans (funext fun id => ?_)
  by_cases live : id ∈ liveIds previous
  · by_cases stays : id ∈ liveIds kept
    · rw [if_neg fun retired => (keys.retired_iff live).mp retired stays,
        if_pos stays]
    · rw [if_pos ((keys.retired_iff live).mpr stays), if_neg stays]
  · rw [numbered_of_not_mem live, ite_self, ite_self]

private theorem syncKey_new {entry : VaultKeyRecord}
    (new : entry.id ∉ previous.map VaultKeyRecord.id) :
    syncKey now previous entry = insertUpstreamKey now entry := by
  unfold syncKey
  cases found : lastWith VaultKeyRecord.id previous entry.id with
  | none => rfl
  | some other =>
      obtain ⟨present, isId⟩ := lastWith_eq_some found
      exact absurd (List.mem_map.mpr ⟨other, present, isId⟩) new

theorem syncAdded_keeps {view : Uuid → Option Nat}
    (new : ∀ entry ∈ added, entry.id ∉ previous.map VaultKeyRecord.id) :
    Ensures (fun rows => ∀ id ∉ added.map VaultKeyRecord.id,
        rows.liveSlot id = view id)
      (added.forM (syncKey now previous)) fun _ rows =>
      ∀ id ∉ added.map VaultKeyRecord.id, rows.liveSlot id = view id := by
  apply Ensures.forM fun _ (rows : Database) =>
    ∀ id ∉ added.map VaultKeyRecord.id, rows.liveSlot id = view id
  intro done entry rest split
  have member : entry ∈ added := by simp [split]
  rw [syncKey_new (new entry member)]
  intro session value after seen ran id other
  obtain ⟨-, -, slotNo, -, numbers⟩ := insertUpstreamKey_liveSlot session.rows
    session value after rfl ran
  have different : id ≠ entry.id := by
    intro same
    exact other (same ▸ List.mem_map_of_mem member)
  rw [numbers, Function.update_of_ne different]
  exact seen id other

theorem syncAdded_numbers {ids : List Uuid} (distinct : ids.Nodup)
    (few : ids.length ≤ maxUpstreamKeys)
    (new : ∀ entry ∈ added, entry.id ∉ previous.map VaultKeyRecord.id) :
    Ensures (fun rows => rows.liveSlot = numbered ids)
      (added.forM (syncKey now previous)) fun _ rows =>
      rows.liveSlot = numbered (ids ++ liveIds added) ∧
        (ids ++ liveIds added).length ≤ maxUpstreamKeys := by
  have loop : Ensures (fun rows =>
        rows.liveSlot = numbered (ids ++ liveIds []) ∧
          (ids ++ liveIds []).Nodup ∧
          (ids ++ liveIds []).length ≤ maxUpstreamKeys)
      (added.forM (syncKey now previous)) fun _ rows =>
      rows.liveSlot = numbered (ids ++ liveIds added) ∧
        (ids ++ liveIds added).Nodup ∧
        (ids ++ liveIds added).length ≤ maxUpstreamKeys := by
    apply Ensures.forM fun done (rows : Database) =>
      rows.liveSlot = numbered (ids ++ liveIds done) ∧
        (ids ++ liveIds done).Nodup ∧
        (ids ++ liveIds done).length ≤ maxUpstreamKeys
    intro done entry rest split
    rw [syncKey_new (new entry (by simp [split]))]
    rintro session value after ⟨seen, nodup, few⟩ ran
    obtain ⟨room, absent, slotNo, isFree, numbers⟩ :=
      insertUpstreamKey_liveSlot session.rows session value after rfl ran
    have fewer := (length_le_count nodup seen).trans_lt room
    rw [freeSlot_eq nodup seen fewer, Option.some.injEq] at isFree
    rw [seen] at numbers absent
    rw [numbered_eq_none] at absent
    cases retired : entry.retired with
    | true =>
        have same : liveIds (done ++ [entry]) = liveIds done := by
          simp [liveIds, retired]
        rw [same]
        refine ⟨?_, nodup, few⟩
        rw [numbers, if_pos retired, Function.update_eq_self_iff]
        exact (numbered_of_not_mem absent).symm
    | false =>
        have longer : ids ++ liveIds (done ++ [entry]) =
            (ids ++ liveIds done) ++ [entry.id] := by
          simp [liveIds, retired]
        rw [longer]
        refine ⟨?_, ?_, ?_⟩
        · rw [numbers, numbered_snoc absent, isFree]
          simp [retired]
        · rw [List.nodup_append]
          refine ⟨nodup, List.nodup_singleton _, ?_⟩
          rintro left member right isLast rfl
          exact absent (List.mem_singleton.mp isLast ▸ member)
        · rw [List.length_append]
          exact fewer
  refine loop.weaken ?_ fun _ rows seen => ⟨seen.1, seen.2.2⟩
  intro rows seen
  have same : ids ++ liveIds [] = ids := List.append_nil ids
  rw [same]
  exact ⟨seen, distinct, few⟩

end Loop

def LeavesKeys (body : Sync α) : Prop :=
  ∀ upstreamKeys, Ensures (fun rows => rows.upstreamKeys = upstreamKeys) body
    fun _ rows => rows.upstreamKeys = upstreamKeys

namespace LeavesKeys

theorem pure (value : α) : LeavesKeys (Pure.pure value : Sync α) :=
  fun _ => Ensures.pure fun _ same => same

theorem bind {first : Sync α} {next : α → Sync β} (begins : LeavesKeys first)
    (continues : ∀ value, LeavesKeys (next value)) :
    LeavesKeys (first >>= next) :=
  fun upstreamKeys => Ensures.bind _ (begins upstreamKeys) fun value =>
    continues value upstreamKeys

theorem forM {ι : Type} {items : List ι} {body : ι → Sync PUnit}
    (each : ∀ item, LeavesKeys (body item)) : LeavesKeys (items.forM body) :=
  fun upstreamKeys => Ensures.forM
    (fun _ (rows : Database) => rows.upstreamKeys = upstreamKeys) items
    fun _ item _ _ => each item upstreamKeys

theorem execute {refused : SyncError}
    {statement : Database → Option (α × Database)}
    (leaves : ∀ rows answer rows', statement rows = some (answer, rows') →
      rows'.upstreamKeys = rows.upstreamKeys) :
    LeavesKeys (Transaction.execute refused statement) := by
  intro upstreamKeys
  apply Ensures.execute
  intro rows answer rows' same answered
  exact (leaves rows answer rows' answered).trans same

theorem affectOne {context conflict : String}
    {statement : Database → Option (Nat × Database)}
    (leaves : ∀ rows affected rows', statement rows = some (affected, rows') →
      rows'.upstreamKeys = rows.upstreamKeys) :
    LeavesKeys (affectOne context conflict statement) := by
  intro upstreamKeys
  apply affectOne_ensures
  intro rows rows' same answered
  exact (leaves rows 1 rows' answered).trans same

theorem updateOne {context conflict : String}
    {update : Database → Nat × Database}
    (leaves : ∀ rows, (update rows).2.upstreamKeys = rows.upstreamKeys) :
    LeavesKeys (updateOne context conflict update) := by
  apply affectOne
  intro rows affected rows' answered
  rw [← leaves rows, Option.some.inj answered]

theorem whenChanged [DecidableEq α] {previous current : α} {update : Sync Unit}
    (leaves : LeavesKeys update) :
    LeavesKeys (whenChanged previous current update) :=
  fun upstreamKeys => whenChanged_ensures (fun _ _ same => same) fun _ =>
    leaves upstreamKeys

theorem syncCounter {overflow deltaOverflow : String} {previous current : Nat}
    {add : Int → Sync Unit} (leaves : ∀ delta, LeavesKeys (add delta)) :
    LeavesKeys (syncCounter overflow deltaOverflow previous current add) :=
  fun upstreamKeys => syncCounter_ensures (fun _ _ same => same) fun _ =>
    leaves _ upstreamKeys

theorem control (context : String) : LeavesKeys (control context) :=
  fun _ => control_ensures context

theorem optional {body : α → Sync PUnit} (each : ∀ value, LeavesKeys (body value))
    (value : Option α) : LeavesKeys (value.forM body) :=
  fun upstreamKeys => optional_ensures (fun value => each value upstreamKeys) value

theorem insertDownstreamCredential (current : VaultDownstreamRecord) :
    LeavesKeys (insertDownstreamCredential current) := by
  apply bind
  · exact fun _ => Ensures.lift fun _ _ same _ => same
  intro requestCount
  apply affectOne
  intro rows affected rows' answered
  split at answered
  · cases answered
    rfl
  · cases answered
    rfl

theorem syncDownstream (now : Micros) (previous : List VaultDownstreamRecord)
    (current : VaultDownstreamRecord) :
    LeavesKeys (syncDownstream now previous current) := by
  unfold Gateway.syncDownstream
  split
  · exact insertDownstreamCredential current
  · apply bind (whenChanged (updateOne fun _ => rfl))
    intro _
    apply bind (whenChanged (updateOne fun _ => rfl))
    intro _
    apply bind (whenChanged (updateOne fun _ => rfl))
    intro _
    apply bind (whenChanged (updateOne fun _ => rfl))
    intro _
    apply bind (syncCounter fun _ => updateOne fun _ => rfl)
    intro _
    exact whenChanged (updateOne fun _ => rfl)

theorem syncCursor (previous current : RouterCursors) (profile : String) :
    LeavesKeys (syncCursor previous current profile) := by
  unfold Gateway.syncCursor
  split
  · exact updateOne fun _ => rfl
  · exact pure ()

theorem recordProbe (now : Micros) (probe : ProbeAuditMutation) :
    LeavesKeys (recordProbe now probe) := by
  apply bind
  · apply execute
    intro rows answer rows' answered
    obtain ⟨probeRuns, -, stored⟩ := Option.map_eq_some_iff.mp answered
    cases stored
    rfl
  intro _
  split
  · split
    · exact pure _
    · apply execute
      intro rows answer rows' answered
      cases answered
      unfold Database.storeReceipt
      split <;> rfl
  split
  · apply execute
    intro rows answer rows' answered
    cases answered
    rfl
  · exact pure _

theorem recordIfAudited (now : Micros) (auditId : Uuid)
    (audit : Option VaultAuditMutation) :
    LeavesKeys (recordIfAudited now auditId audit) := by
  cases audit with
  | none => exact pure _
  | some audit =>
      apply bind
      · apply bind (optional (fun _ => updateOne fun _ => rfl) _)
        intro _
        apply bind (optional (recordProbe now) _)
        intro _
        apply execute
        intro rows answer rows' answered
        obtain ⟨auditEvents, -, stored⟩ := Option.map_eq_some_iff.mp answered
        cases stored
        rfl
      · exact fun recorded => pure _

end LeavesKeys

section Delta

variable {previous current : VaultSyncSnapshot} {kept added : List VaultKeyRecord}
  {now : Micros} {auditId : Uuid} {audit : Option VaultAuditMutation}

private theorem forM_append_ensures {ι : Type} {first second : List ι}
    {body : ι → Sync PUnit} {pre middle post : Database → Prop}
    (begins : Ensures pre (first.forM body) fun _ => middle)
    (continues : Ensures middle (second.forM body) fun _ => post) :
    Ensures pre ((first ++ second).forM body) fun _ => post := by
  have apart : (first ++ second).forM body =
      first.forM body >>= fun _ => second.forM body := List.forM_append
  rw [apart]
  exact Ensures.bind _ begins fun _ => continues

private theorem syncDatabaseDelta_of_keys
    {pre post : (Uuid → Option Nat) → Prop}
    (keys : Ensures (fun rows => pre rows.liveSlot)
      (current.keys.forM (syncKey now previous.keys)) fun _ rows =>
      post rows.liveSlot) :
    Ensures (fun rows => pre rows.liveSlot)
      (syncDatabaseDeltaBody now auditId previous current audit) fun _ rows =>
      post rows.liveSlot := by
  have rest : LeavesKeys (do
      current.downstream.forM (syncDownstream now previous.downstream)
      profiles.forM (syncCursor previous.cursors current.cursors)
      let recorded ← recordIfAudited now auditId audit
      control "commit incremental vault sync"
      pure recorded) := by
    apply LeavesKeys.bind (LeavesKeys.forM (LeavesKeys.syncDownstream _ _))
    intro _
    apply LeavesKeys.bind (LeavesKeys.forM (LeavesKeys.syncCursor _ _))
    intro _
    apply LeavesKeys.bind (LeavesKeys.recordIfAudited _ _ _)
    intro recorded
    apply LeavesKeys.bind (LeavesKeys.control _)
    exact fun _ => LeavesKeys.pure _
  refine Ensures.bind _ (control_ensures _) fun _ => ?_
  refine Ensures.bind _ (control_ensures _) fun _ => ?_
  refine Ensures.bind _ keys fun _ => ?_
  intro session value after reached ran
  have same := rest _ session value after rfl ran
  have numbers : after.rows.liveSlot = session.rows.liveSlot := by
    unfold Database.liveSlot
    rw [same]
  rw [numbers]
  exact reached

private theorem new_of_distinct {kept added : List VaultKeyRecord}
    (keys : KeptKeys previous.keys kept)
    (distinct : ((kept ++ added).map VaultKeyRecord.id).Nodup) :
    ∀ entry ∈ added, entry.id ∉ previous.keys.map VaultKeyRecord.id := by
  intro entry member stored
  rw [List.map_append, List.nodup_append] at distinct
  exact distinct.2.2 _ (keys.ids ▸ stored) _ (List.mem_map_of_mem member) rfl

/-- A committed sync leaves every key that stays live its number. -/
theorem syncDatabaseDelta_keeps (isSplit : current.keys = kept ++ added)
    (keys : KeptKeys previous.keys kept)
    (distinct : (current.keys.map VaultKeyRecord.id).Nodup) :
    Ensures (fun rows => rows.liveSlot = numbered (liveIds previous.keys))
      (syncDatabaseDeltaBody now auditId previous current audit) fun _ rows =>
      ∀ id ∈ liveIds kept,
        rows.liveSlot id = numbered (liveIds previous.keys) id := by
  rw [isSplit] at distinct
  have new := new_of_distinct keys distinct
  apply @syncDatabaseDelta_of_keys previous current now auditId audit
    (fun numbers => numbers = numbered (liveIds previous.keys))
    (fun numbers => ∀ id ∈ liveIds kept,
      numbers id = numbered (liveIds previous.keys) id)
  rw [isSplit]
  apply forM_append_ensures (syncKept_liveSlot keys)
  refine (syncAdded_keeps new).weaken
    (fun rows seen id _ => congrFun seen id) ?_
  intro _ rows seen id live
  have old : id ∉ added.map VaultKeyRecord.id := by
    intro isNew
    obtain ⟨entry, member, isLive, rfl⟩ := mem_liveIds.mp live
    rw [List.map_append, List.nodup_append] at distinct
    exact distinct.2.2 _ (List.mem_map_of_mem member) _ isNew rfl
  rw [seen id old, if_pos live]

/-- Where the live keys that stay live are the first ones, a committed sync
numbers the live keys in their order. -/
theorem syncDatabaseDelta_numbers (isSplit : current.keys = kept ++ added)
    (keys : KeptKeys previous.keys kept)
    (distinct : (current.keys.map VaultKeyRecord.id).Nodup)
    (first : liveIds kept <+: liveIds previous.keys)
    (few : (liveIds previous.keys).length ≤ maxUpstreamKeys) :
    Ensures (fun rows => rows.liveSlot = numbered (liveIds previous.keys))
      (syncDatabaseDeltaBody now auditId previous current audit) fun _ rows =>
      rows.liveSlot = numbered (liveIds current.keys) ∧
        (liveIds current.keys).length ≤ maxUpstreamKeys := by
  have appended : liveIds current.keys = liveIds kept ++ liveIds added := by
    rw [isSplit]
    simp [liveIds]
  rw [isSplit] at distinct
  have new := new_of_distinct keys distinct
  have nodup : (liveIds kept).Nodup := by
    rw [List.map_append] at distinct
    exact distinct.of_append_left.sublist (List.filter_sublist.map _)
  rw [appended]
  apply @syncDatabaseDelta_of_keys previous current now auditId audit
    (fun numbers => numbers = numbered (liveIds previous.keys))
    (fun numbers => numbers = numbered (liveIds kept ++ liveIds added) ∧
      (liveIds kept ++ liveIds added).length ≤ maxUpstreamKeys)
  rw [isSplit]
  apply forM_append_ensures (syncKept_liveSlot keys)
  refine (syncAdded_numbers nodup (first.length_le.trans few) new).weaken ?_
    fun _ _ seen => seen
  intro rows seen
  refine seen.trans (funext fun id => ?_)
  by_cases live : id ∈ liveIds kept
  · rw [if_pos live, numbered_of_isPrefix first live]
  · rw [if_neg live, numbered_of_not_mem live]

end Delta

end NvidiaBuildLb.Gateway
