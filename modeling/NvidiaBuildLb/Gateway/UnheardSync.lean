import NvidiaBuildLb.Gateway.RoundTrip
import NvidiaBuildLb.Gateway.SyncFrames

namespace NvidiaBuildLb.Gateway

open Foundation NvidiaBuildLb.Core
open Transaction (Acknowledgement Ensures Untouched)

/-! What a sync that commits changes for the next start. -/

section Operations

variable {primitives : Primitives} {masterKey : MasterKey}

/-- No use is recorded with a clock that is behind the last one. -/
def Closure.ForwardFrom (primitives : Primitives) (masterKey : MasterKey) :
    Closure ε α → VaultWorld → Prop
  | .done _, _ => True
  | .inspect next, world =>
      (next world.memory).ForwardFrom primitives masterKey world
  | .call operation fault next, world =>
      let staged := operation.stage primitives masterKey world.memory
      operation.Forward world.memory ∧
        (next (staged.run fault world.disk).1).ForwardFrom primitives masterKey
          (world.attempt primitives masterKey (operation, fault))
  | .save fault next, world =>
      (next (persist world.memory fault world.disk).1).ForwardFrom primitives
        masterKey { world with disk := (persist world.memory fault world.disk).2 }

theorem Operated.after {before between after : VaultFile}
    {first second : List (Uuid × String)}
    (earlier : Operated primitives masterKey before first between)
    (later : Operated primitives masterKey between second after) :
    Operated primitives masterKey before (first ++ second) after := by
  induction later with
  | refl => simpa using earlier
  | step operation _ fresh forward induction =>
      rw [← List.append_assoc]
      exact .step operation induction fresh forward

theorem Closure.run_operated {closure : Closure ε α} {world : VaultWorld}
    (fresh : closure.FreshFrom primitives masterKey world)
    (forward : closure.ForwardFrom primitives masterKey world) :
    ∃ added, Operated primitives masterKey world.memory added
      (closure.run primitives masterKey world).2.memory := by
  induction closure generalizing world with
  | done result => exact ⟨[], .refl _⟩
  | inspect next induction => exact induction _ fresh forward
  | call operation fault next induction =>
      obtain ⟨added, later⟩ := induction _ fresh.2 forward.2
      have first : Operated primitives masterKey world.memory
          ([] ++ operation.adds primitives masterKey world.memory)
          (operation.stage primitives masterKey world.memory).state :=
        .step operation (.refl _) fresh.1 forward.1
      exact ⟨_, first.after later⟩
  | save fault next induction => exact induction _ fresh forward

end Operations

/-- Two snapshots that are stored in the same columns and turn no cursor. -/
structure SameRecords (previous current : VaultSyncSnapshot) : Prop where
  keys : snapshotView VaultKeyRecord.id keyColumns current.keys =
    snapshotView VaultKeyRecord.id keyColumns previous.keys
  downstream :
    snapshotView VaultDownstreamRecord.id downstreamColumns current.downstream =
      snapshotView VaultDownstreamRecord.id downstreamColumns previous.downstream
  cursors : ∀ profile ∈ profiles,
    cursorMoved ((previous.cursors.lookup profile).getD 0)
      ((current.cursors.lookup profile).getD 0) = false

/-- The two values that the schema allows for a cursor. -/
def Database.TwoSlots (rows : Database) : Prop :=
  ∀ row ∈ rows.routingState.rows, row.nextSlot = 1 ∨ row.nextSlot = 2

def Database.keyOrder (rows : Database) : List (Uuid × Micros) :=
  rows.upstreamKeys.rows.map fun row => (row.id, row.createdAt)

def Database.clientOrder (rows : Database) : List Uuid :=
  rows.downstreamCredentials.rows.map DownstreamCredentialRow.id

section Frames

variable {previous current : VaultSyncSnapshot} {now : Micros}

private theorem updateKeys_order {context conflict : String}
    {select : UpstreamKeyRow → Bool} {edit : UpstreamKeyRow → UpstreamKeyRow}
    {keeps : ∀ row, (edit row).id = row.id}
    (kept : ∀ row, (edit row).createdAt = row.createdAt) :
    Untouched Database.keyOrder (updateOne context conflict fun rows =>
      rows.updateKeys select edit keeps) := by
  apply updateOne_leaves
  intro rows
  apply Table.map_update _ select edit keeps
  intro row
  rw [keeps, kept]

private theorem updateDownstream_order {context conflict : String}
    {select : DownstreamCredentialRow → Bool}
    {edit : DownstreamCredentialRow → DownstreamCredentialRow}
    {keeps : ∀ row, (edit row).id = row.id} :
    Untouched Database.clientOrder (updateOne context conflict fun rows =>
      rows.updateDownstream select edit keeps) := by
  apply updateOne_leaves
  intro rows
  exact Table.map_update _ select edit keeps keeps

private theorem syncKey_order {keys : List VaultKeyRecord} {record : VaultKeyRecord}
    (known : record.id ∈ keys.map VaultKeyRecord.id) :
    Untouched Database.keyOrder (syncKey now keys record) := by
  unfold syncKey
  cases found : lastWith VaultKeyRecord.id keys record.id with
  | none => exact absurd known (lastWith_eq_none found)
  | some earlier =>
      refine Untouched.bind (whenChanged_leaves
        (updateKeys_order fun _ => rfl)) fun _ => ?_
      refine Untouched.bind (whenChanged_leaves
        (updateKeys_order fun _ => rfl)) fun _ => ?_
      refine Untouched.bind (whenChanged_leaves
        (updateKeys_order fun _ => rfl)) fun _ => ?_
      refine Untouched.bind (syncKeyReceipts_leaves (fun _ _ => rfl) now _
        record) fun _ => ?_
      refine Untouched.bind (whenChanged_leaves
        (updateKeys_order fun _ => rfl)) fun _ => ?_
      refine Untouched.bind (syncCounter_leaves fun _ =>
        updateKeys_order fun _ => rfl) fun _ => ?_
      exact syncCounter_leaves fun _ => updateKeys_order fun _ => rfl

private theorem syncDownstream_order {items : List VaultDownstreamRecord}
    {record : VaultDownstreamRecord}
    (known : record.id ∈ items.map VaultDownstreamRecord.id) :
    Untouched Database.clientOrder (syncDownstream now items record) := by
  unfold syncDownstream
  cases found : lastWith VaultDownstreamRecord.id items record.id with
  | none => exact absurd known (lastWith_eq_none found)
  | some earlier =>
      refine Untouched.bind (whenChanged_leaves updateDownstream_order)
        fun _ => ?_
      refine Untouched.bind (whenChanged_leaves updateDownstream_order)
        fun _ => ?_
      refine Untouched.bind (whenChanged_leaves updateDownstream_order)
        fun _ => ?_
      refine Untouched.bind (whenChanged_leaves updateDownstream_order)
        fun _ => ?_
      refine Untouched.bind (syncCounter_leaves fun _ =>
        updateDownstream_order) fun _ => ?_
      exact whenChanged_leaves updateDownstream_order

private theorem known_of_view {α β : Type} {key : α → Uuid} {image : α → β}
    {before after : List α} (distinct : (after.map key).Nodup)
    (same : snapshotView key image after = snapshotView key image before)
    {entry : α} (member : entry ∈ after) : key entry ∈ before.map key := by
  have shown : snapshotView key image after (key entry) = some (image entry) :=
    snapshotView_of_mem distinct member
  rw [same] at shown
  by_contra absent
  rw [snapshotView_of_not_mem absent] at shown
  cases shown

/-- Without new records, a start reads the rows in the same order. -/
theorem syncDatabaseDelta_order (succeeds : SnapshotSucceeds previous current)
    (same : SameRecords previous current) {auditId : Uuid}
    {audit : Option VaultAuditMutation} {refuses : Nat → Bool}
    {acknowledgement : Acknowledgement} {recorded : Option Uuid}
    {database rows : Database}
    (ran : syncDatabaseDelta now auditId previous current audit refuses
      acknowledgement database = (.ok recorded, rows)) :
    rows.keyOrder = database.keyOrder ∧
      rows.clientOrder = database.clientOrder ∧
      rows.cursors = database.cursors := by
  refine ⟨?_, ?_, ?_⟩
  · refine syncDatabaseDelta_leaves (fun record member => syncKey_order ?_)
      (fun record _ => syncDownstream_leaves (fun _ _ => rfl) now _ record)
      (fun profile _ => syncCursor_leaves (fun _ _ => rfl) _ _ profile)
      (recordIfAudited_leaves (applyClientPolicy_leaves fun _ _ => rfl)
        (fun _ _ => rfl) (fun _ _ => rfl) (fun _ _ => rfl) now auditId audit) ran
    exact known_of_view succeeds.keys.after same.keys member
  · refine syncDatabaseDelta_leaves
      (fun record _ => syncKey_leaves (fun _ _ => rfl) (fun _ _ => rfl) now _ record)
      (fun record member => syncDownstream_order ?_)
      (fun profile _ => syncCursor_leaves (fun _ _ => rfl) _ _ profile)
      (recordIfAudited_leaves (fun _ => updateDownstream_order)
        (fun _ _ => rfl) (fun _ _ => rfl) (fun _ _ => rfl) now auditId audit) ran
    exact known_of_view succeeds.downstream.after same.downstream member
  · refine syncDatabaseDelta_leaves
      (fun record _ => syncKey_leaves (fun _ _ => rfl) (fun _ _ => rfl) now _ record)
      (fun record _ => syncDownstream_leaves (fun _ _ => rfl) now _ record)
      (fun profile member => ?_)
      (recordIfAudited_leaves (applyClientPolicy_leaves fun _ _ => rfl)
        (fun _ _ => rfl) (fun _ _ => rfl) (fun _ _ => rfl) now auditId audit) ran
    unfold syncCursor
    rw [same.cursors profile member]
    exact Untouched.pure _

/-- The other of the two slots. -/
def turned (row : RoutingStateRow) : RoutingStateRow :=
  { row with
    nextSlot := if row.nextSlot = 1 then 2 else 1
    generation := row.generation + 1 }

private theorem syncCursor_turns {before after : RouterCursors} {profile : String}
    (moved : cursorMoved ((before.lookup profile).getD 0)
      ((after.lookup profile).getD 0) = true) (held : Option RoutingStateRow) :
    Ensures (fun rows => rows.routingState.find? profile = held)
      (syncCursor before after profile) fun _ rows =>
        ∃ row, held = some row ∧
          rows.routingState.find? profile = some (turned row) := by
  unfold syncCursor
  rw [moved, if_pos rfl]
  apply affectOne_ensures
  rintro rows rows' isHeld answered
  obtain ⟨once, rfl⟩ := Prod.mk.inj (Option.some.inj answered)
  have named : ∀ row : RoutingStateRow,
      decide (row.profileId = profile) = true → row.profileId = profile :=
    fun _ => of_decide_eq_true
  obtain ⟨row, found, selected⟩ := (Table.count_eq_one_iff named).mp once
  refine ⟨row, isHeld.symm.trans found, ?_⟩
  simp only [Table.find?_update, found, Option.map_some, selected, if_true]
  rfl

private theorem syncCursor_leavesOther {before after : RouterCursors}
    {profile other : String} (apart : other ≠ profile) :
    Untouched (fun rows : Database => rows.routingState.find? profile)
      (syncCursor before after other) := by
  unfold syncCursor
  split
  · apply updateOne_leaves
    intro rows
    dsimp only
    rw [Table.find?_update]
    cases found : rows.routingState.find? profile with
    | none => rfl
    | some row =>
        have named := Table.key_of_find? found
        simp [named, apart.symm]
  · exact Untouched.pure _

theorem syncDatabaseDelta_turns {auditId : Uuid}
    {audit : Option VaultAuditMutation} {refuses : Nat → Bool}
    {acknowledgement : Acknowledgement} {recorded : Option Uuid}
    {database rows : Database} {profile : String} (member : profile ∈ profiles)
    (moved : cursorMoved ((previous.cursors.lookup profile).getD 0)
      ((current.cursors.lookup profile).getD 0) = true)
    (ran : syncDatabaseDelta now auditId previous current audit refuses
      acknowledgement database = (.ok recorded, rows)) :
    ∃ row, database.routingState.find? profile = some row ∧
      rows.routingState.find? profile = some (turned row) := by
  have distinct : profiles.Nodup := by decide +kernel
  let part := fun rows : Database => rows.routingState.find? profile
  let property := fun shown => ∃ row, part database = some row ∧
    shown = some (turned row)
  have turns : Ensures (fun rows => part rows = part database)
      (syncCursor previous.cursors current.cursors profile)
      fun _ rows => property (part rows) :=
    syncCursor_turns moved (part database)
  have others : ∀ other ∈ profiles, other ≠ profile →
      Ensures (fun rows => part rows = part database)
          (syncCursor previous.cursors current.cursors other)
          (fun _ rows => part rows = part database) ∧
        Ensures (fun rows => property (part rows))
          (syncCursor previous.cursors current.cursors other)
          fun _ rows => property (part rows) := by
    intro other _ apart
    exact ⟨syncCursor_leavesOther apart _,
      (syncCursor_leavesOther apart).keeps property⟩
  have ensured : Ensures (fun rows => part rows = part database)
      (syncDatabaseDeltaBody now auditId previous current audit)
      fun _ rows => property (part rows) := by
    refine Ensures.bind _ (control_leaves _ _) fun _ => ?_
    refine Ensures.bind _ (control_leaves _ _) fun _ => ?_
    refine Ensures.bind _ (Untouched.forM (fun record =>
      syncKey_leaves (fun _ _ => rfl) (fun _ _ => rfl) now _ record) _)
        fun _ => ?_
    refine Ensures.bind _ (Untouched.forM (fun record =>
      syncDownstream_leaves (fun _ _ => rfl) now _ record) _) fun _ => ?_
    refine Ensures.bind _ (Ensures.forM_once distinct member others turns)
      fun _ => ?_
    refine Ensures.bind _ ((recordIfAudited_leaves
      (applyClientPolicy_leaves fun _ _ => rfl) (fun _ _ => rfl)
      (fun _ _ => rfl) (fun _ _ => rfl) now auditId audit).keeps property)
      fun _ => ?_
    exact (Untouched.bind (control_leaves _) fun _ =>
      Untouched.pure _).keeps property
  have ran := (syncDatabaseDelta_eq_ok.mp ran).2
  have ended := ensured.transact rfl (congrArg Prod.fst ran)
  rwa [ran] at ended

end Frames

section Load

variable {database rows : Database}

private theorem Table.map_shown {κ ρ γ δ : Type} {key : ρ → κ} [DecidableEq κ]
    (table : Table key) {order : ρ → γ} {named : γ → κ} (read : ρ → δ)
    (sameName : ∀ row, named (order row) = key row) :
    (table.rows.map fun row => (order row, some (read row))) =
      (table.rows.map order).map fun shown =>
        (shown, (table.find? (named shown)).map read) := by
  rw [List.map_map]
  apply List.map_congr_left
  intro row member
  have found := Table.find?_eq_some_iff.mpr ⟨member, (sameName row).symm⟩
  simp only [Function.comp, found, Option.map_some]

private theorem orderedByCreation_map {ρ γ : Type} {createdAt : ρ → Micros}
    {id : ρ → Uuid} (shown : ρ → γ) {created : γ → Micros} {named : γ → Uuid}
    (sameCreation : ∀ row, created (shown row) = createdAt row)
    (sameName : ∀ row, named (shown row) = id row) (rows : List ρ) :
    (orderedByCreation createdAt id rows).map shown =
      orderedByCreation created named (rows.map shown) := by
  apply List.map_insertionSort
  intro left _ right _
  rw [sameCreation, sameCreation, sameName, sameName]

private theorem mapM_ordered_congr {ρ γ δ σ : Type} {key : ρ → Uuid}
    {rows database : Table key} {createdAt : ρ → Micros} {order : ρ → γ}
    {read : ρ → δ} {decode : ρ → Except StartError σ} {named : γ → Uuid}
    {created : γ × Option δ → Micros}
    {decoded : γ × Option δ → Except StartError σ}
    (sameName : ∀ row, named (order row) = key row)
    (sameCreation : ∀ row, created (order row, some (read row)) = createdAt row)
    (decodes : ∀ row, decoded (order row, some (read row)) = decode row)
    (sameOrder : rows.rows.map order = database.rows.map order)
    (sameRead : ∀ id, (rows.find? id).map read = (database.find? id).map read) :
    (orderedByCreation createdAt key rows.rows).mapM decode =
      (orderedByCreation createdAt key database.rows).mapM decode := by
  let shown := fun row => (order row, some (read row))
  have through : ∀ table : Table key,
      (orderedByCreation createdAt key table.rows).mapM decode =
        (orderedByCreation created (fun shown => named shown.1)
          (table.rows.map shown)).mapM decoded := by
    intro table
    rw [← orderedByCreation_map shown sameCreation sameName, List.mapM_map]
    have same : decoded ∘ shown = decode := by
      funext row
      exact decodes row
    rw [same]
  rw [through, through, Table.map_shown rows read sameName,
    Table.map_shown database read sameName, sameOrder]
  simp only [sameRead]

/-- A row of which a start reads no more than these columns. -/
private def keyRowOf (shown : (Uuid × Micros) × KeyColumns) :
    UpstreamKeyRow where
  id := shown.1.1
  label := shown.2.label
  fingerprint := shown.2.fingerprint
  ciphertext := shown.2.ciphertext
  nonce := shown.2.nonce
  enabled := shown.2.enabled
  verified := shown.2.verified
  retired := shown.2.retired
  cooldownUntil := shown.2.cooldownUntil
  requestCount := shown.2.requestCount
  failureCount := shown.2.failureCount
  createdAt := shown.1.2
  slotNo := 0

private def clientRecordOf (id : Uuid) (columns : DownstreamColumns) :
    Except StartError VaultDownstreamRecord := do
  let requestCount ←
    toU64 "invalid downstream request count" columns.requestCount
  .ok {
    id
    label := columns.label
    scopes := columns.scopes
    tokenDigest := columns.digest
    active := columns.active
    requestCount
    lastUsedAt := columns.lastUsedAt.map fromMicros
    createdAt := fromMicros columns.createdAt
    revokedAt := columns.revokedAt.map fromMicros }

/-- A start makes the same of rows that show the same in the same order. -/
theorem loadRecords_congr (keyOrder : rows.keyOrder = database.keyOrder)
    (keys : rows.keyView = database.keyView)
    (clientOrder : rows.clientOrder = database.clientOrder)
    (clients : rows.downstreamView = database.downstreamView)
    (cursors : rows.cursors = database.cursors) :
    rows.loadRecords = database.loadRecords := by
  have keyRecords := @mapM_ordered_congr _ _ _ _ _ rows.upstreamKeys
    database.upstreamKeys UpstreamKeyRow.createdAt
    (fun row => (row.id, row.createdAt)) UpstreamKeyRow.columns dbKeyRecord
    Prod.fst (fun shown => shown.1.2)
    (fun shown => shown.2.elim (.error (.conversion "")) fun columns =>
      dbKeyRecord (keyRowOf (shown.1, columns)))
    (fun _ => rfl) (fun _ => rfl) (fun _ => rfl) keyOrder
    (fun id => congrFun keys id)
  have clientRecords := @mapM_ordered_congr _ _ _ _ _
    rows.downstreamCredentials database.downstreamCredentials
    DownstreamCredentialRow.createdAt DownstreamCredentialRow.id
    DownstreamCredentialRow.columns dbDownstreamRecord id
    (fun shown => (shown.2.map DownstreamColumns.createdAt).getD 0)
    (fun shown => shown.2.elim (.error (.conversion "")) fun columns =>
      clientRecordOf shown.1 columns)
    (fun _ => rfl) (fun _ => rfl) (fun _ => rfl) clientOrder
    (fun id => congrFun clients id)
  unfold Database.loadRecords
  rw [keyRecords, clientRecords, cursors]

theorem hasCredentials_congr (keyOrder : rows.keyOrder = database.keyOrder)
    (clientOrder : rows.clientOrder = database.clientOrder) :
    rows.hasCredentials = database.hasCredentials := by
  have emptied : ∀ database : Database, database.hasCredentials =
      !(database.keyOrder.isEmpty && database.clientOrder.isEmpty) := by
    intro database
    unfold Database.hasCredentials Database.keyOrder Database.clientOrder
    rw [List.isEmpty_map, List.isEmpty_map]
  rw [emptied, emptied, keyOrder, clientOrder]

theorem views_of_loadRecords {before after : VaultFile}
    (held : Kept before (some database)) (holds : Kept after (some rows))
    (same : rows.loadRecords = database.loadRecords) :
    rows.keyView = database.keyView ∧
      rows.downstreamView = database.downstreamView ∧
      rows.cursors = database.cursors := by
  obtain ⟨loaded, loads, -, cursors, stored⟩ :=
    loadRecords_restores held.sound (held.stored _ rfl)
  obtain ⟨other, loadsOther, -, otherCursors, otherStored⟩ :=
    loadRecords_restores holds.sound (holds.stored _ rfl)
  cases loadsOther.symm.trans (same.trans loads)
  obtain ⟨keys, clients, keysOut, clientsOut, represents⟩ := stored
  obtain ⟨_, _, otherKeys, otherClients, otherwise⟩ := otherStored
  cases otherKeys.symm.trans keysOut
  cases otherClients.symm.trans clientsOut
  refine ⟨?_, ?_, ?_⟩
  · rw [otherwise.keys, represents.keys]
  · rw [otherwise.downstream, represents.downstream]
  · rw [← otherCursors, cursors]

private theorem lookup_cursors (database : Database) (profile : String) :
    database.cursors.lookup profile =
      (database.routingState.find? profile).map fun row => row.nextSlot - 1 := by
  unfold Database.cursors Table.find?
  induction database.routingState.rows with
  | nil => rfl
  | cons row rest induction =>
      simp only [List.map_cons, List.lookup_cons, List.find?_cons]
      by_cases named : row.profileId = profile
      · subst named
        simp
      · have apart : (profile == row.profileId) = false :=
          beq_false_of_ne fun same => named same.symm
        simp only [apart, named, decide_false]
        exact induction

theorem hasCredentials_iff : database.hasCredentials = true ↔
    (∃ id, database.keyView id ≠ none) ∨
      ∃ id, database.downstreamView id ≠ none := by
  constructor
  · intro full
    by_contra absent
    push Not at absent
    have keys : database.upstreamKeys.rows = [] := by
      apply List.eq_nil_iff_forall_not_mem.mpr
      intro row member
      have found := Table.find?_eq_some_iff.mpr ⟨member, rfl⟩
      have shown := absent.1 row.id
      rw [Database.keyView, found] at shown
      cases shown
    have clients : database.downstreamCredentials.rows = [] := by
      apply List.eq_nil_iff_forall_not_mem.mpr
      intro row member
      have found := Table.find?_eq_some_iff.mpr ⟨member, rfl⟩
      have shown := absent.2 row.id
      rw [Database.downstreamView, found] at shown
      cases shown
    rw [Database.hasCredentials, keys, clients] at full
    cases full
  · intro shown
    by_contra empty
    obtain ⟨keys, clients⟩ :=
      views_of_noCredentials (Bool.not_eq_true _ ▸ empty)
    rcases shown with ⟨id, shown⟩ | ⟨id, shown⟩
    · exact shown (congrFun keys id)
    · exact shown (congrFun clients id)

end Load

section Synced

variable {primitives : Primitives} {masterKey : MasterKey}
  {added : List (Uuid × String)} {before after : VaultFile}
  {database rows : Database} {previous current : VaultSyncSnapshot}
  {now : Micros} {auditId : Uuid} {audit : Option VaultAuditMutation}
  {refuses : Nat → Bool} {acknowledgement : Acknowledgement}
  {recorded : Option Uuid}

private theorem snapshotView_kept {α β : Type} {key : α → Uuid}
    {image : α → β} {earlier later : List α}
    (succeeds : Succeeds key earlier later) {id : Uuid}
    (shown : snapshotView key image earlier id ≠ none) :
    snapshotView key image later id ≠ none := by
  intro absent
  have member : id ∈ earlier.map key := by
    by_contra out
    exact shown (snapshotView_of_not_mem out)
  obtain ⟨entry, isEntry, rfl⟩ := List.mem_map.mp member
  obtain ⟨successor, inLater, same⟩ :=
    List.mem_map.mp (succeeds.kept entry isEntry)
  rw [← same, snapshotView_of_mem succeeds.after inLater] at absent
  cases absent

/-- A sync removes no credential. -/
theorem hasCredentials_synced (kept : Kept before (some database))
    (operates : Operated primitives masterKey before added after)
    (beforeOut : snapshotOf before = .ok previous)
    (afterOut : snapshotOf after = .ok current)
    (ran : syncDatabaseDelta now auditId previous current audit refuses
      acknowledgement database = (.ok recorded, rows))
    (full : database.hasCredentials = true) : rows.hasCredentials = true := by
  obtain ⟨succeeds, represents⟩ := kept.succeeds operates beforeOut afterOut
  obtain ⟨keys, clients, keysOut, clientsOut, follows⟩ :=
    (kept.synced operates beforeOut afterOut ran).stored rows rfl
  obtain ⟨keysAfter, clientsAfter⟩ := snapshotOf_eq_ok afterOut
  cases keysOut.symm.trans keysAfter
  cases clientsOut.symm.trans clientsAfter
  apply hasCredentials_iff.mpr
  rcases hasCredentials_iff.mp full with ⟨id, shown⟩ | ⟨id, shown⟩
  · left
    rw [represents.keys] at shown
    refine ⟨id, ?_⟩
    rw [follows.keys]
    exact snapshotView_kept succeeds.keys shown
  · right
    rw [represents.downstream] at shown
    refine ⟨id, ?_⟩
    rw [follows.downstream]
    exact snapshotView_kept succeeds.downstream shown

/-- A start finds the rows as they were exactly if no record was changed. -/
theorem loadRecords_synced_iff (kept : Kept before (some database))
    (slots : database.TwoSlots)
    (operates : Operated primitives masterKey before added after)
    (beforeOut : snapshotOf before = .ok previous)
    (afterOut : snapshotOf after = .ok current)
    (ran : syncDatabaseDelta now auditId previous current audit refuses
      acknowledgement database = (.ok recorded, rows)) :
    rows.loadRecords = database.loadRecords ↔ SameRecords previous current := by
  have keeps := kept.synced operates beforeOut afterOut ran
  obtain ⟨succeeds, represents⟩ := kept.succeeds operates beforeOut afterOut
  obtain ⟨keys, clients, keysOut, clientsOut, follows⟩ := keeps.stored rows rfl
  obtain ⟨keysAfter, clientsAfter⟩ := snapshotOf_eq_ok afterOut
  cases keysOut.symm.trans keysAfter
  cases clientsOut.symm.trans clientsAfter
  constructor
  · intro loads
    obtain ⟨keyViews, clientViews, cursors⟩ :=
      views_of_loadRecords kept keeps loads
    refine ⟨?_, ?_, ?_⟩
    · rw [← follows.keys, keyViews, represents.keys]
    · rw [← follows.downstream, clientViews, represents.downstream]
    · intro profile member
      by_contra stays
      obtain ⟨row, held, isTurned⟩ := syncDatabaseDelta_turns member
        ((Bool.not_eq_false _).mp stays) ran
      have shown := lookup_cursors rows profile
      rw [cursors, lookup_cursors, held, isTurned] at shown
      have same : row.nextSlot - 1 = (turned row).nextSlot - 1 :=
        Option.some.inj shown
      unfold turned at same
      rcases slots row (Table.mem_of_find? held) with first | second
      · simp [first] at same
      · simp [second] at same
  · intro same
    obtain ⟨keyOrder, clientOrder, cursors⟩ :=
      syncDatabaseDelta_order succeeds same ran
    refine loadRecords_congr keyOrder ?_ clientOrder ?_ cursors
    · rw [follows.keys, same.keys, represents.keys]
    · rw [follows.downstream, same.downstream, represents.downstream]

end Synced

end NvidiaBuildLb.Gateway
