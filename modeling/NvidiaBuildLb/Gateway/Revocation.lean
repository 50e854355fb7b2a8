import NvidiaBuildLb.Core.Authentication
import NvidiaBuildLb.Gateway.AuditTrail
import NvidiaBuildLb.Gateway.RoundTrip

namespace NvidiaBuildLb.Gateway

open Foundation NvidiaBuildLb.Core
open Transaction (Acknowledgement Untouched)

/-! A revoked client stays out: whatever calls come later, however they end, and
however often the gateway starts again. -/

def VaultStore.authorizeDownstream (primitives : Primitives) (token scope : String)
    (policyRefused : Bool) (policyClock : Timestamp) (store : VaultStore) :
    Except DownstreamAuthenticationError Uuid :=
  match Vault.identifyDownstream primitives token store.vault.memory with
  | .error _ => .error .invalidCredential
  | .ok identity =>
      if !identity.active then
        .error .invalidCredential
      else
        -- The policy query is the one a use is recorded under.
        match store.acceptedDownstreamPolicy
            { id := identity.id, policyRefused, policyClock, usedAt := 0, fault := none } with
        | .error error => .error error
        | .ok () =>
            match Vault.requireDownstreamScope identity.id scope store.vault.memory with
            | .error .invalidCredential => .error .invalidCredential
            | .error .insufficientScope => .error .insufficientScope
            | .ok () => .ok identity.id

/-- How often a client has been used, and when for the last time. -/
def usesInMemory (item : StoredDownstream) : Nat × Option Timestamp :=
  (item.requestCount, item.lastUsedAt)

/-- The vault has the client, and only as a revoked one. -/
structure HoldsRevoked (id : Uuid) (state : VaultFile) : Prop where
  ids : (state.downstream.map StoredDownstream.id).Nodup
  held : ∃ item ∈ state.downstream, item.id = id ∧ item.active = false

namespace HoldsRevoked

variable {id : Uuid} {before after : VaultFile}

theorem inactive (holds : HoldsRevoked id before) {item : StoredDownstream}
    (member : item ∈ before.downstream) (named : item.id = id) : item.active = false := by
  obtain ⟨revoked, isHeld, isNamed, isInactive⟩ := holds.held
  have same := List.inj_on_of_nodup_map holds.ids member isHeld (named.trans isNamed.symm)
  rw [same, isInactive]

theorem advances (holds : HoldsRevoked id before) (forward : Advances before after) :
    HoldsRevoked id after := by
  obtain ⟨item, member, named, isInactive⟩ := holds.held
  obtain ⟨later, isLater, edited⟩ := forward.downstream.exists_of_mem member
  exact ⟨forward.downstreamIds holds.ids, later, isLater, edited.id.trans named,
    edited.revoked isInactive⟩

theorem records (holds : HoldsRevoked id before) {snapshot : VaultSyncSnapshot}
    (exported : snapshotOf before = .ok snapshot) {record : VaultDownstreamRecord}
    (member : record ∈ snapshot.downstream) (named : record.id = id) :
    record.active = false := by
  obtain ⟨-, downstreamOut⟩ := snapshotOf_eq_ok exported
  obtain ⟨item, isItem, encoded⟩ :=
    exists_of_forall₂_right (forall₂_of_mapM_ok downstreamOut) member
  obtain ⟨digest, -, encoded⟩ := ok_of_bind encoded
  cases encoded
  exact holds.inactive isItem named

theorem uses (holds : HoldsRevoked id before) (forward : Advances before after)
    {was is : StoredDownstream} (isWas : was ∈ before.downstream) (wasNamed : was.id = id)
    (isIs : is ∈ after.downstream) (named : is.id = id) : usesInMemory is = usesInMemory was := by
  obtain ⟨later, isLater, edited⟩ := forward.downstream.exists_of_mem isWas
  have same := List.inj_on_of_nodup_map (forward.downstreamIds holds.ids) isIs isLater
    (named.trans (edited.id.trans wasNamed).symm)
  have unused := edited.unused (holds.inactive isWas wasNamed)
  rw [same]
  exact Prod.ext unused.1 unused.2

theorem recordUses (holds : HoldsRevoked id before) (forward : Advances before after)
    {previous current : VaultSyncSnapshot} (beforeOut : snapshotOf before = .ok previous)
    (currentOut : snapshotOf after = .ok current) {record : VaultDownstreamRecord}
    (member : record ∈ current.downstream) (named : record.id = id)
    {known : VaultDownstreamRecord}
    (isKnown : lastWith VaultDownstreamRecord.id previous.downstream record.id = some known) :
    known.requestCount = record.requestCount ∧ known.lastUsedAt = record.lastUsedAt := by
  have wasOut := downstreamRecords_exported (snapshotOf_eq_ok beforeOut).2
  have isOut := downstreamRecords_exported (snapshotOf_eq_ok currentOut).2
  obtain ⟨oldMember, sameId⟩ := lastWith_eq_some isKnown
  obtain ⟨was, isWas, old⟩ := exists_of_forall₂_right wasOut oldMember
  obtain ⟨is, isIs, new⟩ := exists_of_forall₂_right isOut member
  have same := holds.uses forward isWas (old.id.symm.trans (sameId.trans named)) isIs
    (new.id.symm.trans named)
  rw [old.requestCount, old.lastUsedAt, new.requestCount, new.lastUsedAt]
  exact ⟨(congrArg Prod.fst same).symm, (congrArg Prod.snd same).symm⟩

end HoldsRevoked

section Sync

variable {β : Type}

def Database.readClient (read : DownstreamCredentialRow → β) (id : Uuid) (rows : Database) :
    Option β :=
  (rows.downstreamCredentials.find? id).map read

def Database.activityOf (id : Uuid) : Database → Option Bool :=
  Database.readClient DownstreamCredentialRow.active id

theorem Database.readClient_update (read : DownstreamCredentialRow → β) (id : Uuid)
    (rows : Database) {select : DownstreamCredentialRow → Bool}
    {edit : DownstreamCredentialRow → DownstreamCredentialRow}
    (keeps : ∀ row, (edit row).id = row.id) (blind : ∀ row, read (edit row) = read row) :
    (rows.updateDownstream select edit keeps).2.readClient read id =
      rows.readClient read id := by
  unfold readClient updateDownstream
  rw [Table.find?_update]
  cases found : rows.downstreamCredentials.find? id with
  | none => rfl
  | some row =>
      by_cases selected : select row = true
      · simp only [Option.map_some, selected, if_true, blind row]
      · simp only [Option.map_some, selected]
        rfl

/-- What reads of a row do not see: the columns that a policy writes. -/
structure OverlooksPolicy (read : DownstreamCredentialRow → β) : Prop where
  policy : ∀ row expiresAt modelAllowlist rpmLimit maxConcurrency requestLimitDay,
    read { row with
      expiresAt := expiresAt
      modelAllowlist := modelAllowlist
      rpmLimit := rpmLimit
      maxConcurrency := maxConcurrency
      requestLimitDay := requestLimitDay } = read row

/-- Nor the ones that a sync writes, its activity apart. -/
structure Overlooks (read : DownstreamCredentialRow → β) : Prop
    extends OverlooksPolicy read where
  digest : ∀ row digest rotatedAt,
    read { row with digest := digest, rotatedAt := rotatedAt } = read row
  scopes : ∀ row scopes, read { row with scopes := scopes } = read row
  revokedAt : ∀ row revokedAt, read { row with revokedAt := revokedAt } = read row
  requestCount : ∀ row requestCount,
    read { row with requestCount := requestCount } = read row
  lastUsedAt : ∀ row lastUsedAt, read { row with lastUsedAt := lastUsedAt } = read row

variable {read : DownstreamCredentialRow → β} {value : β} {id : Uuid} {now : Micros}

/-- A part of a sync that keeps what the row of a client reads as. -/
abbrev KeepsClient (read : DownstreamCredentialRow → β) (id : Uuid) (value : β)
    (body : Sync α) : Prop :=
  Transaction.Ensures (fun rows => rows.readClient read id = some value) body
    fun _ rows => rows.readClient read id = some value

private theorem update_leaves {context conflict : String}
    {select : DownstreamCredentialRow → Bool}
    {edit : DownstreamCredentialRow → DownstreamCredentialRow}
    {keeps : ∀ row, (edit row).id = row.id} (blind : ∀ row, read (edit row) = read row) :
    Untouched (Database.readClient read id) (updateOne context conflict fun rows =>
      rows.updateDownstream select edit keeps) :=
  updateOne_leaves fun rows => rows.readClient_update read id keeps blind

theorem insertDownstreamCredential_keeps (current : VaultDownstreamRecord) :
    KeepsClient read id value (insertDownstreamCredential current) := by
  refine Transaction.Ensures.bind (fun _ rows => rows.readClient read id = some value)
    (Transaction.Ensures.lift fun _ _ holds _ => holds) fun requestCount => ?_
  apply affectOne_ensures
  intro rows rows' holds answered
  split at answered
  · cases answered
  · rename_i downstreamCredentials inserted
    cases answered
    unfold Database.readClient at holds ⊢
    rw [Table.find?_insert inserted]
    split
    · rename_i named
      have absent := (Table.insert?_eq_some inserted).1
      rw [named] at absent
      rw [absent] at holds
      cases holds
    · exact holds

theorem syncDownstreamActive_inactive {previous current : VaultDownstreamRecord}
    (inactive : current.id = id → current.active = false) :
    KeepsClient DownstreamCredentialRow.active id false
      (syncDownstreamActive previous current) := by
  apply whenChanged_ensures
  · intro _ rows holds
    exact holds
  · intro _
    apply affectOne_ensures
    intro rows rows' holds answered
    obtain ⟨-, rfl⟩ := Prod.mk.inj (Option.some.inj answered)
    unfold Database.readClient at holds ⊢
    obtain ⟨row, found, isInactive⟩ := Option.map_eq_some_iff.mp holds
    simp only [Table.find?_update, found, Option.map_some, Option.some.injEq]
    split
    · rename_i selected
      simp only [Bool.and_eq_true, decide_eq_true_eq] at selected
      exact inactive (selected.1.symm.trans (Table.key_of_find? found))
    · exact isInactive

theorem syncDownstream_keeps (overlooks : Overlooks read)
    (previous : List VaultDownstreamRecord) {current : VaultDownstreamRecord}
    (activity : ∀ previous, KeepsClient read id value
      (syncDownstreamActive previous current)) :
    KeepsClient read id value (syncDownstream now previous current) := by
  unfold syncDownstream
  split
  · exact insertDownstreamCredential_keeps current
  · refine Transaction.Ensures.bind _ (activity _) fun _ => ?_
    refine @Untouched.bind _ _ _ _ _ (Database.readClient read id) _ _ ?_ (fun _ => ?_) _
    · exact whenChanged_leaves (update_leaves fun row => overlooks.digest row _ _)
    refine Untouched.bind ?_ fun _ => Untouched.bind ?_ fun _ => Untouched.bind ?_ fun _ => ?_
    · exact whenChanged_leaves (update_leaves fun row => overlooks.scopes row _)
    · exact whenChanged_leaves (update_leaves fun row => overlooks.revokedAt row _)
    · exact syncCounter_leaves fun _ => update_leaves fun row => overlooks.requestCount row _
    · exact whenChanged_leaves (update_leaves fun row => overlooks.lastUsedAt row _)

theorem recordIfAudited_leavesClient (overlooks : OverlooksPolicy read) (auditId : Uuid)
    (audit : Option VaultAuditMutation) :
    Untouched (Database.readClient read id) (recordIfAudited now auditId audit) := by
  cases audit with
  | none => exact Untouched.pure _
  | some mutation =>
      refine Untouched.bind (Untouched.bind (Untouched.optional (fun policy => ?_) _) fun _ =>
        Untouched.bind (Untouched.optional ?_ _) fun _ => ?_) fun _ => Untouched.pure _
      · exact update_leaves fun row => overlooks.policy row _ _ _ _ _
      · exact recordProbe_leaves (fun _ _ => rfl) (fun _ _ => rfl) now
      · apply Untouched.execute
        intro rows recorded rows' answered
        obtain ⟨auditEvents, -, stored⟩ := Option.map_eq_some_iff.mp answered
        cases stored
        rfl

theorem syncDatabaseDelta_keepsClient {previous current : VaultSyncSnapshot}
    {auditId : Uuid} {audit : Option VaultAuditMutation} {refuses : Nat → Bool}
    {acknowledgement : Acknowledgement} {database rows : Database} {recorded : Option Uuid}
    (policy : OverlooksPolicy read)
    (clients : ∀ record ∈ current.downstream, KeepsClient read id value
      (syncDownstream now previous.downstream record))
    (held : database.readClient read id = some value)
    (ran : syncDatabaseDelta now auditId previous current audit refuses acknowledgement
      database = (.ok recorded, rows)) : rows.readClient read id = some value := by
  have ensured : KeepsClient read id value
      (syncDatabaseDeltaBody now auditId previous current audit) := by
    refine Transaction.Ensures.bind _ (control_leaves _ _) fun _ => ?_
    refine Transaction.Ensures.bind _ (control_leaves _ _) fun _ => ?_
    refine Transaction.Ensures.bind _ (Untouched.forM
      (syncKey_leaves (fun _ _ => rfl) (fun _ _ => rfl) now _) _) fun _ => ?_
    refine Transaction.Ensures.bind (fun _ rows => rows.readClient read id = some value) ?_
      fun _ => ?_
    · apply Transaction.Ensures.forM fun _ rows =>
        Database.readClient read id rows = some value
      intro done record rest split
      exact clients record (split ▸ List.mem_append_right _ List.mem_cons_self)
    refine Transaction.Ensures.bind _ (Untouched.forM
      (syncCursor_leaves (fun _ _ => rfl) _ _) _) fun _ => ?_
    refine Untouched.bind (recordIfAudited_leavesClient policy auditId audit)
      (fun recorded => ?_) _
    exact Untouched.bind (control_leaves _) fun _ => Untouched.pure _
  obtain ⟨-, ran⟩ := syncDatabaseDelta_eq_ok.mp ran
  have ended := ensured.transact held (congrArg Prod.fst ran)
  rwa [ran] at ended

/-- A sync of a vault that holds the client as revoked does not bring its row
back. -/
theorem syncDatabaseDelta_inactive {previous current : VaultSyncSnapshot} {auditId : Uuid}
    {audit : Option VaultAuditMutation} {refuses : Nat → Bool}
    {acknowledgement : Acknowledgement} {database rows : Database} {recorded : Option Uuid}
    (inactive : ∀ record ∈ current.downstream, record.id = id → record.active = false)
    (held : database.activityOf id = some false)
    (ran : syncDatabaseDelta now auditId previous current audit refuses acknowledgement
      database = (.ok recorded, rows)) : rows.activityOf id = some false := by
  have overlooks : Overlooks DownstreamCredentialRow.active := by
    refine ⟨⟨?_⟩, ?_, ?_, ?_, ?_, ?_⟩
    all_goals
      intros
      rfl
  refine syncDatabaseDelta_keepsClient overlooks.toOverlooksPolicy ?_ held ran
  intro record member
  exact syncDownstream_keeps overlooks _ fun previous =>
    syncDownstreamActive_inactive (inactive record member)

def DownstreamCredentialRow.uses (row : DownstreamCredentialRow) : Int × Option Micros :=
  (row.requestCount, row.lastUsedAt)

private theorem updateOther_keeps {context conflict : String}
    {select : DownstreamCredentialRow → Bool}
    {edit : DownstreamCredentialRow → DownstreamCredentialRow}
    {keeps : ∀ row, (edit row).id = row.id}
    (other : ∀ row, select row = true → row.id ≠ id) :
    Untouched (Database.readClient read id) (updateOne context conflict fun rows =>
      rows.updateDownstream select edit keeps) := by
  refine updateOne_leaves fun rows => ?_
  unfold Database.readClient Database.updateDownstream
  rw [Table.find?_update]
  cases found : rows.downstreamCredentials.find? id with
  | none => rfl
  | some row =>
      have unselected : select row ≠ true :=
        fun selected => other row selected (Table.key_of_find? found)
      simp [unselected]

theorem syncDownstream_keepsUses {value : Int × Option Micros}
    {previous : List VaultDownstreamRecord} {current : VaultDownstreamRecord}
    (unused : current.id = id → ∀ before,
      lastWith VaultDownstreamRecord.id previous current.id = some before →
        before.requestCount = current.requestCount ∧
          before.lastUsedAt = current.lastUsedAt) :
    KeepsClient DownstreamCredentialRow.uses id value
      (syncDownstream now previous current) := by
  unfold syncDownstream
  split
  · exact insertDownstreamCredential_keeps current
  rename_i before known
  have activity : Untouched (Database.readClient DownstreamCredentialRow.uses id)
      (syncDownstreamActive before current) := whenChanged_leaves (update_leaves fun _ => rfl)
  refine activity.bind (fun _ => ?_) value
  refine Untouched.bind (whenChanged_leaves (update_leaves fun _ => rfl)) fun _ => ?_
  refine Untouched.bind (whenChanged_leaves (update_leaves fun _ => rfl)) fun _ => ?_
  refine Untouched.bind (whenChanged_leaves (update_leaves fun _ => rfl)) fun _ => ?_
  by_cases named : current.id = id
  · obtain ⟨count, last⟩ := unused named before known
    have counts : Untouched (Database.readClient DownstreamCredentialRow.uses id)
        (syncDownstreamRequestCount before current) := whenChanged_same count
    have moves : Untouched (Database.readClient DownstreamCredentialRow.uses id)
        (syncDownstreamLastUsed before current) := whenChanged_same last
    exact Untouched.bind counts fun _ => moves
  · have other : ∀ row : DownstreamCredentialRow,
        decide (row.id = current.id) = true → row.id ≠ id := by
      intro row selected isClient
      exact named ((of_decide_eq_true selected).symm.trans isClient)
    exact Untouched.bind (syncCounter_leaves fun _ => updateOther_keeps other)
      fun _ => whenChanged_leaves (updateOther_keeps other)

end Sync

structure VaultStore.Revoked (id : Uuid) (store : VaultStore) : Prop where
  memory : HoldsRevoked id store.vault.memory
  stored : ∃ database, store.database = some database ∧ database.activityOf id = some false

def VaultStore.readClient (read : DownstreamCredentialRow → β) (id : Uuid)
    (store : VaultStore) : Option β :=
  store.database.bind fun database => database.readClient read id

def VaultStore.usesOf (id : Uuid) (store : VaultStore) :
    Option (Nat × Option Timestamp) × Option (Int × Option Micros) :=
  ((store.memoryClient id).map usesInMemory,
    store.readClient DownstreamCredentialRow.uses id)

/-- No bearer is let in as the client, none of its uses is admitted, and no call
counts one, however it ends. -/
structure VaultStore.ShutOut (primitives : Primitives) (masterKey : MasterKey) (id : Uuid)
    (store : VaultStore) : Prop where
  unauthorized : ∀ token scope policyRefused policyClock,
    store.authorizeDownstream primitives token scope policyRefused policyClock ≠ .ok id
  unused : ∀ use env, use.id = id →
    (store.recordAcceptedDownstreamUse primitives masterKey env use).returned ≠
      some (.ok ())
  uncounted : ∀ env call, call.Fresh primitives masterKey store →
    (store.perform primitives masterKey env call).usesOf id = store.usesOf id

/-- The client stays revoked and unused. -/
structure VaultStore.KeepsOut (id : Uuid) (store after : VaultStore) : Prop where
  revoked : after.Revoked id
  uses : after.usesOf id = store.usesOf id

section Store

variable {primitives : Primitives} {masterKey : MasterKey} {env : CallEnvironment}
  {store : VaultStore} {id : Uuid}

private theorem VaultStore.KeepsOut.abandon {after : VaultStore}
    (kept : store.KeepsOut id after) (revoked : store.Revoked id) (error : StoreError ε) :
    store.KeepsOut id (after.abandon env store.vault.memory error :
      CallEnd (StoreError ε) α).store :=
  ⟨⟨revoked.memory, kept.revoked.stored⟩,
    Prod.ext rfl (Prod.mk.inj kept.uses).2⟩

namespace VaultStore.Revoked

theorem unauthorized (revoked : store.Revoked id) (token scope : String)
    (policyRefused : Bool) (policyClock : Timestamp) :
    store.authorizeDownstream primitives token scope policyRefused policyClock ≠ .ok id := by
  intro authorized
  unfold authorizeDownstream at authorized
  split at authorized
  · cases authorized
  rename_i identity identified
  obtain ⟨item, member, -, rfl⟩ := Vault.identifyDownstream_eq_ok identified
  split at authorized
  · cases authorized
  rename_i active
  split at authorized
  · cases authorized
  split at authorized
  · cases authorized
  · cases authorized
  · cases authorized
    rw [revoked.memory.inactive member rfl] at active
    exact active rfl

theorem unused (revoked : store.Revoked id) {use : AcceptedUse} (named : use.id = id) :
    store.acceptedDownstreamPolicy use ≠ .ok () := by
  obtain ⟨database, present, isInactive⟩ := revoked.stored
  obtain ⟨row, found, inactive⟩ := Option.map_eq_some_iff.mp isInactive
  unfold acceptedDownstreamPolicy
  rw [present, named]
  simp only [found]
  split
  · intro admitted
    cases admitted
  · simp [inactive]

theorem keepsOut (revoked : store.Revoked id) : store.KeepsOut id store :=
  ⟨revoked, rfl⟩

theorem operated (revoked : store.Revoked id) {vault : VaultWorld}
    (forward : Advances store.vault.memory vault.memory) :
    store.KeepsOut id { store with vault } := by
  have later := revoked.memory.advances forward
  refine ⟨⟨later, revoked.stored⟩, Prod.ext ?_ rfl⟩
  obtain ⟨was, isWas, wasNamed, -⟩ := revoked.memory.held
  obtain ⟨is, isIs, named, -⟩ := later.held
  have found : ∀ (holder : VaultStore) (item : StoredDownstream),
      HoldsRevoked id holder.vault.memory → item ∈ holder.vault.memory.downstream →
        item.id = id → holder.memoryClient id = some item := by
    intro holder item holds member isNamed
    have present := @Table.find?_eq_some_iff _ _ StoredDownstream.id _
      ⟨holder.vault.memory.downstream, holds.ids⟩ id item
    exact present.mpr ⟨member, isNamed⟩
  simp only [VaultStore.usesOf]
  rw [found { store with vault } is later isIs named, found store was revoked.memory isWas
    wasNamed, Option.map_some, Option.map_some,
    revoked.memory.uses forward isWas wasNamed isIs named]

theorem stored_synced {previous : VaultFile} {before current : VaultSyncSnapshot}
    {database rows : Database} {audit : Option VaultAuditMutation} {recorded : Option Uuid}
    (revoked : store.Revoked id) (was : HoldsRevoked id previous)
    (forward : Advances previous store.vault.memory)
    (present : store.database = some database)
    (currentOut : snapshotOf store.vault.memory = .ok current)
    (beforeOut : snapshotOf previous = .ok before)
    (ran : syncDatabaseDelta env.now env.auditId before current audit env.refuses .received
      database = (.ok recorded, rows)) :
    store.KeepsOut id { store with database := some rows } := by
  obtain ⟨stored, isDatabase, isInactive⟩ := revoked.stored
  cases present.symm.trans isDatabase
  refine ⟨⟨revoked.memory, rows, rfl, syncDatabaseDelta_inactive ?_ isInactive ran⟩,
    Prod.ext rfl ?_⟩
  · intro record member named
    exact revoked.memory.records currentOut member named
  · obtain ⟨row, found, -⟩ := Option.map_eq_some_iff.mp isInactive
    have held : database.readClient DownstreamCredentialRow.uses id = some row.uses := by
      rw [Database.readClient, found, Option.map_some]
    have kept : rows.readClient DownstreamCredentialRow.uses id = some row.uses := by
      refine syncDatabaseDelta_keepsClient ⟨fun _ _ _ _ _ _ => rfl⟩ ?_ held ran
      intro record member
      apply syncDownstream_keepsUses
      intro named old known
      exact was.recordUses forward beforeOut currentOut member named known
    simp only [VaultStore.usesOf, VaultStore.readClient, present, Option.bind_some]
    exact kept.trans held.symm

theorem sync (revoked : store.Revoked id) {previous : VaultFile}
    (was : HoldsRevoked id previous) (forward : Advances previous store.vault.memory)
    (audit : Option VaultAuditMutation) :
    store.KeepsOut id (store.syncUnlockedWithAudit env previous audit).store := by
  have ends := syncUnlocked_ends env previous audit store
  generalize store.syncUnlockedWithAudit env previous audit = synced at ends
  cases ends with
  | absent database => exact revoked.keepsOut
  | unexported failure refused => exact revoked.keepsOut
  | failed failure observed => exact revoked.keepsOut
  | dropped currentOut beforeOut uncommitted => exact revoked.keepsOut
  | unheard failure present currentOut beforeOut ran waited lost =>
      exact revoked.stored_synced was forward present currentOut beforeOut ran
  | committed present currentOut beforeOut ran kept observed =>
      exact revoked.stored_synced was forward present currentOut beforeOut ran

theorem operate (revoked : store.Revoked id) {closure : Closure ε α}
    {auditFor : α → Option VaultAuditMutation} {context : String}
    {settle : α → Option Uuid → Except (StoreError ε) β}
    (fresh : closure.FreshFrom primitives masterKey store.vault) :
    store.KeepsOut id (store.operate primitives masterKey env closure auditFor context
      settle).store := by
  have forward := Closure.run_advances primitives masterKey fresh
  unfold VaultStore.operate
  cases ran : closure.run primitives masterKey store.vault with
  | mk result vault =>
  rw [ran] at forward
  cases result with
  | error error => exact ⟨⟨revoked.memory, revoked.stored⟩, rfl⟩
  | ok result =>
      have advanced := revoked.operated forward
      have synced : ({ store with vault } : VaultStore).KeepsOut id
          (VaultStore.syncUnlockedWithAudit env store.vault.memory (auditFor result)
            { store with vault }).store :=
        advanced.revoked.sync revoked.memory forward (auditFor result)
      have kept : store.KeepsOut id (VaultStore.syncUnlockedWithAudit env
          store.vault.memory (auditFor result) { store with vault }).store :=
        ⟨synced.revoked, synced.uses.trans advanced.uses⟩
      simp only
      split
      · exact kept
      · exact kept.abandon revoked _
      · split
        · exact kept
        · exact kept.abandon revoked _

theorem perform (revoked : store.Revoked id) {call : StoreCall}
    (fresh : call.Fresh primitives masterKey store) :
    store.KeepsOut id (store.perform primitives masterKey env call) := by
  cases call with
  | mutate closure => exact revoked.operate fresh
  | mutateWithAudit closure auditFor => exact revoked.operate fresh
  | recordAcceptedDownstreamUse use =>
      simp only [VaultStore.perform, VaultStore.recordAcceptedDownstreamUse]
      split
      · exact revoked.keepsOut
      · exact revoked.operate ⟨trivial, trivial⟩

theorem shutOut (revoked : store.Revoked id) : store.ShutOut primitives masterKey id := by
  refine ⟨revoked.unauthorized, ?_, fun env call fresh => (revoked.perform fresh).uses⟩
  intro use env named admitted
  unfold recordAcceptedDownstreamUse at admitted
  split at admitted
  · cases admitted
  · rename_i isAdmitted
    exact revoked.unused named isAdmitted

end VaultStore.Revoked

theorem loadRecords_holdsRevoked {database : Database} {loaded : VaultFile}
    (inactive : database.activityOf id = some false)
    (loads : database.loadRecords = .ok loaded) : HoldsRevoked id loaded := by
  obtain ⟨keys, downstream, -, rowsOut, -, itemsOut⟩ := loadRecords_eq_ok loads
  have ordered := orderedByCreation_perm DownstreamCredentialRow.createdAt
    DownstreamCredentialRow.id database.downstreamCredentials.rows
  have read : ∀ row record, dbDownstreamRecord row = .ok record →
      record.id = row.id ∧ record.active = row.active := by
    intro row record out
    obtain ⟨count, -, out⟩ := ok_of_bind out
    cases out
    exact ⟨rfl, rfl⟩
  have kept : ∀ record item, Vault.storeDownstream record = .ok item →
      item.id = record.id ∧ item.active = record.active := by
    intro record item out
    unfold Vault.storeDownstream at out
    split at out
    · cases out
    · cases out
      exact ⟨rfl, rfl⟩
  have records := forall₂_of_mapM_ok rowsOut
  have clients := forall₂_of_mapM_ok itemsOut
  have names : loaded.downstream.map StoredDownstream.id =
      (orderedByCreation DownstreamCredentialRow.createdAt DownstreamCredentialRow.id
        database.downstreamCredentials.rows).map DownstreamCredentialRow.id :=
    (map_eq_map_of_forall₂ (fun record item out => (kept record item out).1) clients).trans
      (map_eq_map_of_forall₂ (fun row record out => (read row record out).1) records)
  obtain ⟨row, found, isInactive⟩ := Option.map_eq_some_iff.mp inactive
  obtain ⟨isRow, named⟩ := Table.find?_eq_some_iff.mp found
  obtain ⟨record, isRecord, out⟩ := exists_of_forall₂ records (ordered.mem_iff.mpr isRow)
  obtain ⟨item, isItem, stored⟩ := exists_of_forall₂ clients isRecord
  refine ⟨?_, item, isItem, ?_, ?_⟩
  · rw [names]
    exact (ordered.map _).nodup_iff.mpr database.downstreamCredentials.nodup
  · rw [(kept _ _ stored).1, (read _ _ out).1, named]
  · rw [(kept _ _ stored).2, (read _ _ out).2, isInactive]

theorem VaultStore.Revoked.restart (revoked : store.Revoked id) {loaded : VaultFile}
    (loads : store.reload = .ok loaded) :
    ({ store with vault := { store.vault with memory := loaded } } : VaultStore).Revoked
      id := by
  obtain ⟨database, present, inactive⟩ := revoked.stored
  have credentials : database.hasCredentials = true := by
    obtain ⟨row, found, -⟩ := Option.map_eq_some_iff.mp inactive
    have isRow := (Table.find?_eq_some_iff.mp found).1
    unfold Database.hasCredentials
    cases rows : database.downstreamCredentials.rows with
    | nil =>
        rw [rows] at isRow
        cases isRow
    | cons head tail => simp
  unfold reload at loads
  rw [present] at loads
  simp only [credentials, if_true] at loads
  exact ⟨loadRecords_holdsRevoked inactive loads, database, present, inactive⟩

private theorem revoke_run {world : VaultWorld} {now : Timestamp}
    {fault : Option PersistStep} {value : VaultValue}
    (succeeded : ((Closure.call (.revokeDownstream id now) fault .done :
      Closure VaultError VaultValue).run primitives masterKey world).1 = .ok value) :
    ∃ item ∈ ((Closure.call (.revokeDownstream id now) fault .done :
        Closure VaultError VaultValue).run primitives masterKey world).2.memory.downstream,
      item.id = id ∧ item.active = false := by
  have staged : ∀ staged : Staged DownstreamSummary,
      staged = Vault.revokeDownstream id now world.memory →
      ((staged.map VaultValue.downstream).run fault world.disk).1 = .ok value →
      ∃ item ∈ (staged.map VaultValue.downstream).state.downstream,
        item.id = id ∧ item.active = false := by
    intro staged isStaged ran
    unfold Vault.revokeDownstream at isStaged
    split at isStaged
    · cases isStaged
      cases ran
    rename_i item found
    have named : item.id = id := by simpa using List.find?_some found
    split at isStaged
    · unfold Vault.editDownstream at isStaged
      split at isStaged
      · cases isStaged
        cases ran
      · rename_i downstream edited modified
        cases isStaged
        obtain ⟨original, isOriginal, rfl⟩ := find?_of_modifyFirst? modified
        cases found.symm.trans isOriginal
        exact ⟨_, modifyFirst?_entry_mem modified, named, rfl⟩
    · rename_i inactive
      cases isStaged
      exact ⟨item, List.mem_of_find?_eq_some found, named, by simpa using inactive⟩
  exact staged _ rfl succeeded

theorem VaultStore.Agree.revoked (agree : store.Agree)
    (held : ∃ item ∈ store.vault.memory.downstream, item.id = id ∧ item.active = false) :
    store.Revoked id := by
  obtain ⟨database, snapshot, present, exported, same⟩ := agree
  have ids : (store.vault.memory.downstream.map StoredDownstream.id).Nodup := by
    have records := forall₂_of_mapM_ok (snapshotOf_eq_ok exported).2
    have names : snapshot.downstream.map VaultDownstreamRecord.id =
        store.vault.memory.downstream.map StoredDownstream.id :=
      map_eq_map_of_forall₂
        (fun item record out => (downstreamRecord_exported out).id) records
    rw [← names]
    exact same.downstreamIds
  refine ⟨⟨ids, held⟩, database, present, ?_⟩
  obtain ⟨item, isItem, named, inactive⟩ := held
  have found : store.memoryClient id = some item := by
    have held := @Table.find?_eq_some_iff _ _ StoredDownstream.id _
      ⟨store.vault.memory.downstream, ids⟩ id item
    exact held.mpr ⟨isItem, named⟩
  have shows := VaultStore.Agree.shows_ ⟨database, snapshot, present, exported, same⟩ id
  rw [found] at shows
  cases shown : store.lifecycle id with
  | none =>
      rw [shown] at shows
      cases shows
  | some lifecycle =>
      rw [shown] at shows
      cases shows with
      | some shows =>
          rw [VaultStore.lifecycle, present] at shown
          obtain ⟨columns, view, isLifecycle⟩ := Option.map_eq_some_iff.mp shown
          obtain ⟨row, isRow, isColumns⟩ := Option.map_eq_some_iff.mp view
          refine Option.map_eq_some_iff.mpr ⟨row, isRow, ?_⟩
          rw [← inactive, ← shows.active, ← isLifecycle, ← isColumns]
          rfl

end Store

section Later

variable (primitives : Primitives) (masterKey : MasterKey)

/-- The stores a gateway can get to: calls that end in any way, and starts from
what is stored. -/
inductive Later : VaultStore → VaultStore → Prop
  | now (store : VaultStore) : Later store store
  | call {first store : VaultStore} (env : CallEnvironment) (call : StoreCall)
      (earlier : Later first store) (fresh : call.Fresh primitives masterKey store) :
      Later first (store.perform primitives masterKey env call)
  | restart {first store : VaultStore} {loaded : VaultFile} (earlier : Later first store)
      (loads : store.reload = .ok loaded) :
      Later first { store with vault := { store.vault with memory := loaded } }

variable {primitives masterKey}

theorem Later.revoked {first later : VaultStore} {id : Uuid} (revoked : first.Revoked id)
    (reached : Later primitives masterKey first later) : later.Revoked id := by
  induction reached with
  | now => exact revoked
  | call env call earlier fresh induction => exact (induction.perform fresh).revoked
  | restart earlier loads induction => exact induction.restart loads

def revoking (id : Uuid) (now : Timestamp) (fault : Option PersistStep)
    (audit : VaultValue → VaultAuditMutation) : StoreCall :=
  .mutateWithAudit (.call (.revokeDownstream id now) fault .done :
    Closure VaultError VaultValue) audit

theorem revoking_fresh {store : VaultStore} {id : Uuid} {now : Timestamp}
    {fault : Option PersistStep} {audit : VaultValue → VaultAuditMutation} :
    (revoking id now fault audit).Fresh primitives masterKey store :=
  ⟨trivial, trivial⟩

theorem revoked_of_answer {env : CallEnvironment} {store : VaultStore} {id : Uuid}
    {auditEventId : Option Uuid} {now : Timestamp} {fault : Option PersistStep}
    {audit : VaultValue → VaultAuditMutation} (agree : store.Agree)
    (answered : store.answer primitives masterKey env (revoking id now fault audit) =
      .succeeded auditEventId) :
    (store.perform primitives masterKey env (revoking id now fault audit)).Revoked id := by
  obtain ⟨value, returned⟩ := CallEnd.answer_succeeded answered
  obtain ⟨succeeded, vault, -, observed⟩ := mutateWithAudit_ok returned
  -- The call was answered, so it was not dropped and both copies still agree.
  have kept : (store.perform primitives masterKey env
      (revoking id now fault audit)).Agree := by
    refine VaultStore.perform_agree primitives masterKey env agree revoking_fresh ?_
    intro unobserved
    exact absurd observed unobserved
  apply kept.revoked
  obtain ⟨item, isItem, isRevoked⟩ := revoke_run succeeded
  exact ⟨item, vault ▸ isItem, isRevoked⟩

/-- Once a revocation has been reported as done, no bearer is let in as the client
and none of its uses is admitted or counted, in any later state. -/
theorem revoked_never_admitted {env : CallEnvironment} {store later : VaultStore}
    {id auditEventId : Uuid} {now : Timestamp} {fault : Option PersistStep}
    {audit : VaultValue → VaultAuditMutation} (agree : store.Agree)
    (answered : store.answer primitives masterKey env (revoking id now fault audit) =
      .succeeded (some auditEventId))
    (reached : Later primitives masterKey
      (store.perform primitives masterKey env (revoking id now fault audit)) later) :
    later.ShutOut primitives masterKey id :=
  (reached.revoked (revoked_of_answer agree answered)).shutOut

end Later

section Rows

variable {primitives : Primitives} {masterKey : MasterKey} {env : CallEnvironment}
  {store : VaultStore} {β : Type} {read : DownstreamCredentialRow → β} {value : β} {id : Uuid}

/-- What reads of a row see only when it is inserted. -/
structure Constant (read : DownstreamCredentialRow → β) : Prop extends Overlooks read where
  active : ∀ row active, read { row with active := active } = read row

private theorem sync_keepsClient (constant : Constant read) (previous : VaultFile)
    (audit : Option VaultAuditMutation) (held : store.readClient read id = some value) :
    (store.syncUnlockedWithAudit env previous audit).store.readClient read id = some value := by
  have written : ∀ {database rows : Database} {before current : VaultSyncSnapshot}
      {recorded : Option Uuid}, store.database = some database →
      syncDatabaseDelta env.now env.auditId before current audit env.refuses .received
        database = (.ok recorded, rows) →
      ({ store with database := some rows } : VaultStore).readClient read id =
        some value := by
    intro database rows before current recorded present ran
    unfold VaultStore.readClient at held ⊢
    rw [present] at held
    refine syncDatabaseDelta_keepsClient constant.toOverlooksPolicy ?_ held ran
    intro record _
    apply syncDownstream_keeps constant.toOverlooks
    intro known
    exact whenChanged_leaves (update_leaves fun row => constant.active row _) (some value)
  have ends := syncUnlocked_ends env previous audit store
  generalize store.syncUnlockedWithAudit env previous audit = synced at ends
  cases ends with
  | absent database => exact held
  | unexported failure refused => exact held
  | failed failure observed => exact held
  | dropped currentOut beforeOut uncommitted => exact held
  | unheard failure present currentOut beforeOut ran waited lost => exact written present ran
  | committed present currentOut beforeOut ran kept observed => exact written present ran

private theorem operate_keepsClient (constant : Constant read) {closure : Closure ε α}
    {auditFor : α → Option VaultAuditMutation} {context : String}
    {settle : α → Option Uuid → Except (StoreError ε) γ}
    (held : store.readClient read id = some value) :
    (store.operate primitives masterKey env closure auditFor context
      settle).store.readClient read id = some value := by
  unfold VaultStore.operate
  cases closure.run primitives masterKey store.vault with
  | mk result vault =>
  cases result with
  | error error => exact held
  | ok result =>
      have synced : (VaultStore.syncUnlockedWithAudit env store.vault.memory
          (auditFor result) { store with vault }).store.readClient read id = some value :=
        sync_keepsClient constant store.vault.memory (auditFor result) held
      simp only
      split
      · exact synced
      · exact synced
      · split
        · exact synced
        · exact synced

theorem Later.keepsClient {first later : VaultStore} (constant : Constant read)
    (reached : Later primitives masterKey first later)
    (held : first.readClient read id = some value) :
    later.readClient read id = some value := by
  induction reached with
  | now => exact held
  | call env call earlier fresh induction =>
      cases call with
      | mutate closure => exact operate_keepsClient constant induction
      | mutateWithAudit closure auditFor => exact operate_keepsClient constant induction
      | recordAcceptedDownstreamUse use =>
          simp only [VaultStore.perform, VaultStore.recordAcceptedDownstreamUse]
          split
          · exact induction
          · exact operate_keepsClient constant induction
  | restart earlier loads induction => exact induction

theorem Later.trans {first second third : VaultStore}
    (earlier : Later primitives masterKey first second)
    (later : Later primitives masterKey second third) :
    Later primitives masterKey first third := by
  induction later with
  | now => exact earlier
  | call env call _ fresh induction => exact induction.call env call fresh
  | restart _ loads induction => exact induction.restart loads

theorem VaultStore.Agree.revoked_of_row (agree : store.Agree)
    (inactive : store.readClient DownstreamCredentialRow.active id = some false) :
    store.Revoked id := by
  apply agree.revoked
  obtain ⟨database, present, read⟩ := Option.bind_eq_some_iff.mp inactive
  obtain ⟨row, found, isInactive⟩ := Option.map_eq_some_iff.mp read
  have shows := agree.shows_ id
  have shown : store.lifecycle id = some row.columns.lifecycle := by
    rw [VaultStore.lifecycle, present, Option.bind_some, Database.downstreamView, found]
    rfl
  rw [shown] at shows
  cases held : store.memoryClient id with
  | none =>
      rw [held] at shows
      cases shows
  | some item =>
      rw [held] at shows
      cases shows with
      | some shows =>
          have named : item.id = id := by simpa using List.find?_some held
          refine ⟨item, List.mem_of_find?_eq_some held, named, ?_⟩
          rw [← shows.active, ← isInactive]
          rfl

end Rows

namespace RevocationSample

open ClientWorld.Sample (store store_agree quietly)

def token : String := Core.Vault.tokenPrefix ++ "0"

def primitives : Primitives :=
  Primitives.tabulated [(utf8 token, Vector.replicate 32 9)]

def audit (_ : VaultValue) : VaultAuditMutation where
  action := "client.revoke"
  resourceKind := "client"
  resourceId := some 5
  requestId := 100
  detail := "\x7b\"changed\":true\x7d"
  clientPolicy := none
  probeResult := none

def revoked : VaultStore :=
  store.perform primitives (Vector.replicate 32 0) (quietly 1) (revoking 5 7 none audit)

/-- A second revocation is dropped, and the gateway starts again. -/
def dropped : VaultStore :=
  revoked.perform primitives (Vector.replicate 32 0)
    { quietly 2 with dropped := some .beforeCommit } (revoking 5 8 none audit)

private theorem starts : ∃ loaded, dropped.reload = .ok loaded := by
  have succeeds : dropped.reload.isOk = true := by decide +kernel
  generalize dropped.reload = started at succeeds ⊢
  cases started with
  | error error => cases succeeds
  | ok loaded => exact ⟨loaded, rfl⟩

private theorem dropped_later :
    Later primitives (Vector.replicate 32 0) revoked dropped :=
  .call _ _ (.now revoked) revoking_fresh

def use : AcceptedUse where
  id := 5
  policyRefused := false
  policyClock := 9
  usedAt := 9
  fault := none

def restarted (loaded : VaultFile) : VaultStore :=
  { dropped with vault := { dropped.vault with memory := loaded } }

theorem revoked_never_admitted_restarted :
    store.authorizeDownstream primitives token "models:read" false 0 = .ok 5 ∧
      ∃ loaded, dropped.reload = .ok loaded ∧
        (restarted loaded).authorizeDownstream primitives token "models:read" false 0 ≠
          .ok 5 ∧
        ((restarted loaded).perform primitives (Vector.replicate 32 0) (quietly 3)
          (.recordAcceptedDownstreamUse use)).usesOf 5 = (restarted loaded).usesOf 5 := by
  obtain ⟨loaded, loads⟩ := starts
  refine ⟨by decide +kernel, loaded, loads, ?_⟩
  have answered : store.answer primitives (Vector.replicate 32 0) (quietly 1)
      (revoking 5 7 none audit) = .succeeded (some 1) := by decide +kernel
  have out := revoked_never_admitted store_agree answered (.restart dropped_later loads)
  exact ⟨out.unauthorized _ _ _ _, out.uncounted _ _ trivial⟩

end RevocationSample

end NvidiaBuildLb.Gateway
