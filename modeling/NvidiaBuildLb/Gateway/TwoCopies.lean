import NvidiaBuildLb.Gateway.SnapshotRefinement
import NvidiaBuildLb.Gateway.VaultStore

namespace NvidiaBuildLb.Gateway

open Foundation NvidiaBuildLb.Core
open Transaction (Acknowledgement)

/-! The credentials in memory and the ones in PostgreSQL, over runs of calls
that succeed, fail or are dropped. -/

/-- The snapshot and the rows hold the same keys with the same enabled,
verified, retired and cooldown state, and the same clients with the same
digest, scopes and revocation. -/
structure SameCredentials (snapshot : VaultSyncSnapshot)
    (database : Database) : Prop where
  keyIds : (snapshot.keys.map VaultKeyRecord.id).Nodup
  downstreamIds : (snapshot.downstream.map VaultDownstreamRecord.id).Nodup
  reads : ReadsSnapshot KeyColumns.lifecycle DownstreamColumns.lifecycle
    snapshot database

def VaultStore.Agree (store : VaultStore) : Prop :=
  ∃ database snapshot, store.database = some database ∧
    snapshotOf store.vault.memory = .ok snapshot ∧
      SameCredentials snapshot database

/-- Two snapshots that could be stored in the same rows. -/
def SameLifecycles (before current : VaultSyncSnapshot) : Prop :=
  snapshotView VaultKeyRecord.id (KeyColumns.lifecycle ∘ keyColumns)
      current.keys =
    snapshotView VaultKeyRecord.id (KeyColumns.lifecycle ∘ keyColumns)
      before.keys ∧
  snapshotView VaultDownstreamRecord.id
      (DownstreamColumns.lifecycle ∘ downstreamColumns) current.downstream =
    snapshotView VaultDownstreamRecord.id
      (DownstreamColumns.lifecycle ∘ downstreamColumns) before.downstream

/-- What a closure that succeeds leaves in memory. -/
def Closure.memoryAfter (primitives : Primitives) (masterKey : MasterKey)
    (closure : Closure ε α) (world : VaultWorld) : Option VaultFile :=
  match closure.run primitives masterKey world with
  | (.ok _, after) => some after.memory
  | (.error _, _) => none

/-- A caller that goes away before the commit took effect had changed no
credential in memory. -/
def LeavesNothingBehind (env : CallEnvironment) (memory : VaultFile)
    (operated : Option VaultFile) : Prop :=
  env.dropped = some .beforeCommit → ∀ after, operated = some after →
    ∀ before current, snapshotOf memory = .ok before →
      snapshotOf after = .ok current → SameLifecycles before current

/-- Nor had a call whose COMMIT answer is lost. -/
def LeavesNothingUnobserved (env : CallEnvironment) (memory : VaultFile)
    (operated : Option VaultFile) : Prop :=
  ¬ env.Observed → ∀ after, operated = some after →
    ∀ before current, snapshotOf memory = .ok before →
      snapshotOf after = .ok current → SameLifecycles before current

theorem LeavesNothingUnobserved.behind {env : CallEnvironment}
    {memory : VaultFile} {operated : Option VaultFile}
    (leaves : LeavesNothingUnobserved env memory operated) :
    LeavesNothingBehind env memory operated :=
  fun uncommitted => leaves fun observed => observed.1 uncommitted

theorem snapshotOf_eq_ok {state : VaultFile} {snapshot : VaultSyncSnapshot}
    (exported : snapshotOf state = .ok snapshot) :
    Vault.keyRecords state = .ok snapshot.keys ∧
      Vault.downstreamRecords state = .ok snapshot.downstream := by
  unfold snapshotOf at exported
  obtain ⟨keys, keysOut, exported⟩ := ok_of_bind exported
  obtain ⟨downstream, downstreamOut, exported⟩ := ok_of_bind exported
  cases exported
  exact ⟨keysOut, downstreamOut⟩

theorem SameCredentials.succeeds {before after : VaultFile}
    {previous current : VaultSyncSnapshot} {database : Database}
    (same : SameCredentials previous database)
    (advances : Advances before after)
    (beforeOut : snapshotOf before = .ok previous)
    (afterOut : snapshotOf after = .ok current) :
    SnapshotSucceeds previous current := by
  obtain ⟨keysBefore, downstreamBefore⟩ := snapshotOf_eq_ok beforeOut
  obtain ⟨keysAfter, downstreamAfter⟩ := snapshotOf_eq_ok afterOut
  exact advances_succeeds advances keysBefore keysAfter downstreamBefore
    downstreamAfter same.keyIds same.downstreamIds

theorem SameCredentials.synced {previous current : VaultSyncSnapshot}
    {database rows : Database} {recorded : Option Uuid} {now : Micros}
    {auditId : Uuid} {audit : Option VaultAuditMutation}
    {refuses : Nat → Bool} {acknowledgement : Acknowledgement}
    (same : SameCredentials previous database)
    (succeeds : SnapshotSucceeds previous current)
    (ran : syncDatabaseDelta now auditId previous current audit refuses
      acknowledgement database = (.ok recorded, rows)) :
    SameCredentials current rows where
  keyIds := succeeds.keys.after
  downstreamIds := succeeds.downstream.after
  reads := by
    have showsKeys : ShowsKeys KeyColumns.lifecycle previous current :=
      ⟨fun _ _ _ shown => shown, fun _ _ _ _ _ _ _ => rfl⟩
    have showsDownstream :
        ShowsDownstream DownstreamColumns.lifecycle previous current :=
      ⟨fun _ _ _ shown => shown, fun _ _ _ _ _ _ _ => rfl⟩
    have spec := @syncDatabaseDelta_spec now _ _ _ _ _ _ succeeds showsKeys
      showsDownstream auditId audit refuses acknowledgement database same.reads
    rwa [ran] at spec

theorem SameCredentials.iff_sameLifecycles
    {previous current : VaultSyncSnapshot} {database : Database}
    (same : SameCredentials previous database)
    (succeeds : SnapshotSucceeds previous current) :
    SameCredentials current database ↔ SameLifecycles previous current := by
  obtain ⟨keysRead, downstreamRead⟩ := same.reads
  constructor
  · intro now
    exact ⟨now.reads.1.symm.trans keysRead,
      now.reads.2.symm.trans downstreamRead⟩
  · intro ⟨keys, downstream⟩
    exact ⟨succeeds.keys.after, succeeds.downstream.after,
      keysRead.trans keys.symm, downstreamRead.trans downstream.symm⟩

theorem SameCredentials.of_sameLifecycles
    {previous current : VaultSyncSnapshot} {database rows : Database}
    (same : SameCredentials previous database)
    (now : SameCredentials current rows)
    (lifecycles : SameLifecycles previous current) :
    SameCredentials previous rows :=
  ⟨same.keyIds, same.downstreamIds, now.reads.1.trans lifecycles.1,
    now.reads.2.trans lifecycles.2⟩

section Operate

variable {primitives : Primitives} {masterKey : MasterKey}
  {env : CallEnvironment} {store : VaultStore} {closure : Closure ε α}

theorem operate_agree_iff {auditFor : α → Option VaultAuditMutation}
    {context : String} {settle : α → Option Uuid → Except (StoreError ε) β}
    (settles : ∀ result recorded error,
      settle result recorded = .error error →
        recorded = none ∧ auditFor result ≠ none)
    (heard : env.dropped = none → env.acknowledgement = .lost →
      LeavesNothingUnobserved env store.vault.memory
        (closure.memoryAfter primitives masterKey store.vault))
    (agree : store.Agree)
    (fresh : closure.FreshFrom primitives masterKey store.vault) :
    (store.operate primitives masterKey env closure auditFor context
        settle).store.Agree ↔
      LeavesNothingBehind env store.vault.memory
        (closure.memoryAfter primitives masterKey store.vault) := by
  obtain ⟨database, previous, present, beforeOut, same⟩ := agree
  have unchanged : ∀ {after : VaultStore}, after.database = some database →
      after.vault.memory = store.vault.memory → after.Agree := by
    intro after rows memory
    exact ⟨database, previous, rows, memory ▸ beforeOut, same⟩
  have advances := Closure.run_advances primitives masterKey fresh
  unfold VaultStore.operate
  unfold Closure.memoryAfter at heard ⊢
  cases ran : closure.run primitives masterKey store.vault with
  | mk result vault =>
      rw [ran] at advances heard
      cases result with
      | error error =>
          refine iff_of_true (unchanged present rfl) ?_
          intro _ after operated
          cases operated
      | ok result =>
          simp only
          have ends := syncUnlocked_ends env store.vault.memory
            (auditFor result) { store with vault }
          generalize VaultStore.syncUnlockedWithAudit env store.vault.memory
            (auditFor result) { store with vault } = synced at ends ⊢
          cases ends with
          | absent missing =>
              rw [present] at missing
              cases missing
          | unexported failure refused =>
              refine iff_of_true (unchanged present rfl) ?_
              intro _ after operated before current out exported
              cases operated
              exact absurd exported (refused before current out)
          | failed failure observed =>
              refine iff_of_true (unchanged present rfl) ?_
              intro uncommitted
              exact absurd uncommitted observed
          | @unheard isDatabase rows before current recorded failure databaseIs
              currentOut out synced waited lost =>
              cases databaseIs.symm.trans present
              cases out.symm.trans beforeOut
              have now := same.synced
                (same.succeeds advances beforeOut currentOut) synced
              have unobserved : ¬ env.Observed := by
                intro observed
                rw [observed.2 waited] at lost
                cases lost
              have lifecycles := heard waited lost unobserved _ rfl _ _
                beforeOut currentOut
              refine iff_of_true ⟨rows, _, rfl, beforeOut,
                same.of_sameLifecycles now lifecycles⟩ ?_
              intro uncommitted
              rw [waited] at uncommitted
              cases uncommitted
          | dropped currentOut _ uncommitted =>
              have succeeds := same.succeeds advances beforeOut currentOut
              have transfers := same.iff_sameLifecycles succeeds
              constructor
              · intro ⟨rows, snapshot, isRows, isSnapshot, now⟩ _ after operated
                  before later out exported
                cases operated
                cases present.symm.trans isRows
                cases isSnapshot.symm.trans currentOut
                cases exported.symm.trans currentOut
                cases out.symm.trans beforeOut
                exact transfers.mp now
              · intro keeps
                have lifecycles := keeps uncommitted _ rfl _ _ beforeOut
                  currentOut
                exact ⟨database, _, present, currentOut,
                  transfers.mpr lifecycles⟩
          | @committed isDatabase rows before current recorded returned
              databaseIs currentOut out synced kept observed =>
              cases databaseIs.symm.trans present
              cases out.symm.trans beforeOut
              have now := same.synced
                (same.succeeds advances beforeOut currentOut) synced
              refine iff_of_true ?_ fun uncommitted => absurd uncommitted kept
              have reached : ({ store with vault, database := some rows } :
                  VaultStore).Agree := ⟨rows, current, rfl, currentOut, now⟩
              cases observed with
              | inl unobserved =>
                  rw [unobserved]
                  exact reached
              | inr observed =>
                  rw [observed.1]
                  cases settled : settle result recorded with
                  | ok value =>
                      simp only [settled]
                      exact reached
                  | error unsettled =>
                      obtain ⟨rfl, audited⟩ := settles _ _ _ settled
                      obtain ⟨mutation, isAudited⟩ :=
                        Option.ne_none_iff_exists'.mp audited
                      rw [isAudited] at synced
                      exact absurd rfl (audited_delta synced)

end Operate

namespace StoreCall

variable (primitives : Primitives) (masterKey : MasterKey)

/-- What the call's operation leaves in memory, when it gets that far. -/
def operated (store : VaultStore) : StoreCall → Option VaultFile
  | .mutate closure => closure.memoryAfter primitives masterKey store.vault
  | .mutateWithAudit closure _ =>
      closure.memoryAfter primitives masterKey store.vault
  | .recordAcceptedDownstreamUse use =>
      match store.acceptedDownstreamPolicy use with
      | .error _ => none
      | .ok () => use.closure.memoryAfter primitives masterKey store.vault

def Fresh (store : VaultStore) : StoreCall → Prop
  | .mutate closure => closure.FreshFrom primitives masterKey store.vault
  | .mutateWithAudit closure _ =>
      closure.FreshFrom primitives masterKey store.vault
  | .recordAcceptedDownstreamUse _ => True

end StoreCall

section Calls

variable (primitives : Primitives) (masterKey : MasterKey)

private theorem VaultStore.perform_agree_of_heard (env : CallEnvironment)
    {store : VaultStore} {call : StoreCall}
    (heard : env.dropped = none → env.acknowledgement = .lost →
      LeavesNothingUnobserved env store.vault.memory
        (call.operated primitives masterKey store))
    (agree : store.Agree) (fresh : call.Fresh primitives masterKey store) :
    (store.perform primitives masterKey env call).Agree ↔
      LeavesNothingBehind env store.vault.memory
        (call.operated primitives masterKey store) := by
  cases call with
  | mutate closure =>
      exact operate_agree_iff (fun _ _ _ unsettled => by cases unsettled)
        heard agree fresh
  | mutateWithAudit closure auditFor =>
      apply operate_agree_iff _ heard agree fresh
      intro result recorded error unsettled
      cases recorded with
      | none => exact ⟨rfl, Option.some_ne_none _⟩
      | some auditId => cases unsettled
  | recordAcceptedDownstreamUse use =>
      simp only [VaultStore.perform, VaultStore.recordAcceptedDownstreamUse,
        StoreCall.operated] at heard ⊢
      cases admits : store.acceptedDownstreamPolicy use with
      | error error =>
          refine iff_of_true agree ?_
          intro _ after operated
          cases operated
      | ok admitted =>
          rw [admits] at heard
          exact operate_agree_iff (fun _ _ _ unsettled => by cases unsettled)
            heard agree ⟨trivial, trivial⟩

theorem VaultStore.perform_agree_iff (env : CallEnvironment)
    {store : VaultStore} (heard : env.acknowledgement = .received)
    (agree : store.Agree) {call : StoreCall}
    (fresh : call.Fresh primitives masterKey store) :
    (store.perform primitives masterKey env call).Agree ↔
      LeavesNothingBehind env store.vault.memory
        (call.operated primitives masterKey store) := by
  refine perform_agree_of_heard primitives masterKey env ?_ agree fresh
  intro _ lost
  rw [heard] at lost
  cases lost

/-- Both copies agree after a call that changed a credential in memory if its
store observes the commit. -/
theorem VaultStore.perform_agree (env : CallEnvironment) {store : VaultStore}
    (agree : store.Agree) {call : StoreCall}
    (fresh : call.Fresh primitives masterKey store)
    (leaves : LeavesNothingUnobserved env store.vault.memory
      (call.operated primitives masterKey store)) :
    (store.perform primitives masterKey env call).Agree :=
  (perform_agree_of_heard primitives masterKey env (fun _ _ => leaves) agree
    fresh).mpr leaves.behind

def VaultStore.replay (store : VaultStore)
    (calls : List (CallEnvironment × StoreCall)) : VaultStore :=
  calls.foldl (fun store call =>
    store.perform primitives masterKey call.1 call.2) store

/-- What holds of every call of a list, in the store it is made on. -/
def EveryCall (property : VaultStore → CallEnvironment → StoreCall → Prop)
    (store : VaultStore) (calls : List (CallEnvironment × StoreCall)) : Prop :=
  ∀ made env call rest, calls = made ++ (env, call) :: rest →
    property (store.replay primitives masterKey made) env call

/-- While every COMMIT is answered, both copies agree after every call of a run
exactly when no call that changed a credential in memory is dropped before its
commit took effect. -/
theorem VaultStore.replay_agree_iff {store : VaultStore}
    (agree : store.Agree) {calls : List (CallEnvironment × StoreCall)}
    (heard : ∀ call ∈ calls, call.1.acknowledgement = .received)
    (fresh : EveryCall primitives masterKey
      (fun store _ call => call.Fresh primitives masterKey store) store calls) :
    (∀ made rest, calls = made ++ rest →
        (store.replay primitives masterKey made).Agree) ↔
      EveryCall primitives masterKey
        (fun store env call => LeavesNothingBehind env store.vault.memory
          (call.operated primitives masterKey store)) store calls := by
  have answered : ∀ {made env call rest}, calls = made ++ (env, call) :: rest →
      env.acknowledgement = .received := by
    intro made env call rest split
    exact heard (env, call) (split ▸ List.mem_append_right _ List.mem_cons_self)
  have snoc : ∀ made env call,
      store.replay primitives masterKey (made ++ [(env, call)]) =
        (store.replay primitives masterKey made).perform primitives masterKey
          env call := by
    intro made env call
    simp only [replay, List.foldl_append, List.foldl_cons, List.foldl_nil]
  constructor
  · intro agrees made env call rest split
    have before := agrees made ((env, call) :: rest) split
    have after := agrees (made ++ [(env, call)]) rest (by simp [split])
    rw [snoc] at after
    exact (perform_agree_iff primitives masterKey env (answered split) before
      (fresh made env call rest split)).mp after
  · intro keeps made
    -- Each call is judged in the store the calls before it have left.
    induction made using List.reverseRecOn with
    | nil =>
        intro rest _
        exact agree
    | append_singleton made last induction =>
        intro rest split
        obtain ⟨env, call⟩ := last
        have earlier : calls = made ++ (env, call) :: rest := by simp [split]
        rw [snoc]
        exact (perform_agree_iff primitives masterKey env (answered earlier)
          (induction _ earlier) (fresh made env call rest earlier)).mpr
          (keeps made env call rest earlier)

end Calls

def sampleStore : VaultStore where
  vault := {
    memory := sampleVault false
    disk := { temporary := none, committed := some (sampleVault false) } }
  database := some sampleDatabase

def verifying : StoreCall :=
  .mutate (.call (.markVerified 1) none .done : Closure VaultError VaultValue)

def sampleSnapshot (verified : Bool) : VaultSyncSnapshot where
  keys := [sampleRecord verified]
  downstream := []
  cursors := profiles.map fun profile =>
    (profile, Vault.routerCursorFor profile (sampleVault verified))

theorem sampleVault_exported (verified : Bool) :
    snapshotOf (sampleVault verified) = .ok (sampleSnapshot verified) := by
  unfold snapshotOf
  rw [sampleVault_records]
  rfl

private theorem sampleStore_agree : sampleStore.Agree := by
  refine ⟨sampleDatabase, sampleSnapshot false, rfl,
    sampleVault_exported false, sampleDatabase_represents.keyIds,
    sampleDatabase_represents.downstreamIds, ?_, rfl⟩
  funext id
  unfold through
  rw [sampleDatabase_represents.keys]
  exact Option.map_map _ _ _

private theorem verifying_operated :
    verifying.operated (Primitives.tabulated []) (Vector.replicate 32 0)
      sampleStore = some (sampleVault true) :=
  rfl

theorem VaultStore.replay_agree_iff_verified :
    (sampleStore.replay (Primitives.tabulated []) (Vector.replicate 32 0)
      [(quietEnvironment, verifying)]).Agree := by
  have everyCall : ∀ (property : VaultStore → CallEnvironment → StoreCall →
      Prop), (∀ store, property store quietEnvironment verifying) →
      EveryCall (Primitives.tabulated []) (Vector.replicate 32 0) property
        sampleStore [(quietEnvironment, verifying)] := by
    intro property holds made env call rest split
    have member : (env, call) ∈ [(quietEnvironment, verifying)] :=
      split ▸ List.mem_append_right made List.mem_cons_self
    cases List.mem_singleton.mp member
    exact holds _
  have agrees := (VaultStore.replay_agree_iff (Primitives.tabulated [])
    (Vector.replicate 32 0) sampleStore_agree
    (fun call member => by cases List.mem_singleton.mp member; rfl)
    (everyCall _ fun _ => ⟨trivial, trivial⟩)).mpr
    (everyCall _ fun _ dropped => by cases dropped)
  exact agrees _ [] (List.append_nil _).symm

/-- The caller goes away while the sync waits for the database: the key stays
verified in memory and unverified in its row. -/
theorem VaultStore.disagree_after_dropped_sync :
    sampleStore.Agree ∧
      ¬ (sampleStore.perform (Primitives.tabulated []) (Vector.replicate 32 0)
        { quietEnvironment with dropped := some .beforeCommit }
        verifying).Agree := by
  refine ⟨sampleStore_agree, fun agree => ?_⟩
  have fresh : verifying.Fresh (Primitives.tabulated [])
      (Vector.replicate 32 0) sampleStore := ⟨trivial, trivial⟩
  have unchanged := (VaultStore.perform_agree_iff _ _
    { quietEnvironment with dropped := some .beforeCommit } rfl
    sampleStore_agree fresh).mp agree rfl _ verifying_operated
  have keys := (unchanged _ _ (sampleVault_exported false)
    (sampleVault_exported true)).1
  exact absurd (congrFun keys 1) (by decide)

end NvidiaBuildLb.Gateway
