import NvidiaBuildLb.Gateway.UnheardSync

namespace NvidiaBuildLb.Gateway

open Foundation NvidiaBuildLb.Core

/-! What a mutating call that returns an error leaves in memory and for the
next start. -/

def Closure.Succeeds (primitives : Primitives) (masterKey : MasterKey)
    (closure : Closure ε α) (world : VaultWorld) : Prop :=
  ∃ value, (closure.run primitives masterKey world).1 = .ok value

section Failed

variable {primitives : Primitives} {masterKey : MasterKey}
  {env : CallEnvironment} {store : VaultStore} {closure : Closure ε α}
  {auditFor : α → Option VaultAuditMutation}

/-- What a store holds after a call that failed. -/
structure Abandoned (primitives : Primitives) (masterKey : MasterKey)
    (env : CallEnvironment) (closure : Closure ε α)
    (store after : VaultStore) : Prop where
  memory : after.vault.memory = store.vault.memory
  rewritten : closure.Succeeds primitives masterKey store.vault →
    publishes env.rollbackFault = true →
    after.vault.disk.committed = some store.vault.memory
  left : ¬ (closure.Succeeds primitives masterKey store.vault ∧
      publishes env.rollbackFault = true) →
    after.vault.disk.committed =
      (closure.published primitives masterKey store.vault).or
        store.vault.disk.committed

/-- Its rows: the ones from before, unless the COMMIT took effect and its
answer was lost. -/
inductive RowsLeft (primitives : Primitives) (masterKey : MasterKey)
    (env : CallEnvironment) (closure : Closure ε α)
    (auditFor : α → Option VaultAuditMutation) (store : VaultStore) :
    Option Database → Prop
  | unchanged (uncommitted : env.acknowledgement = .lost →
      store.commits primitives masterKey env closure auditFor = false) :
      RowsLeft primitives masterKey env closure auditFor store store.database
  | unheard {database rows : Database} {previous current : VaultSyncSnapshot}
      {audit : Option VaultAuditMutation} {recorded : Option Uuid}
      (lost : env.acknowledgement = .lost)
      (committed :
        store.commits primitives masterKey env closure auditFor = true)
      (present : store.database = some database)
      (beforeOut : snapshotOf store.vault.memory = .ok previous)
      (afterOut : snapshotOf
        (closure.run primitives masterKey store.vault).2.memory = .ok current)
      (ran : syncDatabaseDelta env.now env.auditId previous current audit
        env.refuses .received database = (.ok recorded, rows)) :
      RowsLeft primitives masterKey env closure auditFor store (some rows)

private theorem abandon_abandoned {value : α} {vault : VaultWorld}
    {database : Option Database} {error : StoreError ε}
    (ran : closure.run primitives masterKey store.vault = (.ok value, vault)) :
    Abandoned primitives masterKey env closure store
      (({ vault, database } : VaultStore).abandon env store.vault.memory
        error : CallEnd (StoreError ε) β).store := by
  have written := persist_committed store.vault.memory env.rollbackFault
    vault.disk
  have committed := Closure.run_committed primitives masterKey closure
    store.vault
  rw [ran] at committed
  refine ⟨rfl, ?_, ?_⟩
  · intro _ publishing
    exact written.trans (if_pos publishing)
  · intro stays
    have notPublished : ¬ publishes env.rollbackFault = true :=
      fun publishing => stays ⟨⟨value, congrArg Prod.fst ran⟩, publishing⟩
    exact (written.trans (if_neg notPublished)).trans committed

private theorem uncommitted_of_exports {result : α} {vault : VaultWorld}
    (ran : closure.run primitives masterKey store.vault = (.ok result, vault))
    (refused : ∀ database before current, store.database = some database →
      snapshotOf store.vault.memory = .ok before →
      snapshotOf vault.memory = .ok current →
        (syncDatabaseDelta env.now env.auditId before current (auditFor result)
          env.refuses .received database).1.isOk = false) :
    store.commits primitives masterKey env closure auditFor = false := by
  cases present : store.database with
  | none => simp [VaultStore.commits, ran, present]
  | some database =>
      cases afterOut : snapshotOf vault.memory with
      | error error => simp [VaultStore.commits, ran, present, afterOut]
      | ok current =>
          cases beforeOut : snapshotOf store.vault.memory with
          | error error =>
              simp [VaultStore.commits, ran, present, afterOut, beforeOut]
          | ok before =>
              simp [VaultStore.commits, ran, present, afterOut, beforeOut,
                refused database before current present beforeOut afterOut]

theorem operate_failed
    {context : String} {settle : α → Option Uuid → Except (StoreError ε) β}
    (settles : ∀ result recorded error,
      settle result recorded = .error error →
        recorded = none ∧ auditFor result ≠ none)
    {error : StoreError ε}
    (failed : (store.operate primitives masterKey env closure auditFor context
      settle).returned = some (.error error)) :
    Abandoned primitives masterKey env closure store
        (store.operate primitives masterKey env closure auditFor context
          settle).store ∧
      RowsLeft primitives masterKey env closure auditFor store
        (store.operate primitives masterKey env closure auditFor context
          settle).store.database := by
  unfold VaultStore.operate at failed ⊢
  cases ran : closure.run primitives masterKey store.vault with
  | mk result vault =>
      cases result with
      | error refused =>
          have committed := Closure.run_committed primitives masterKey closure
            store.vault
          have fails : ¬ closure.Succeeds primitives masterKey store.vault := by
            intro ⟨value, succeeded⟩
            rw [ran] at succeeded
            cases succeeded
          rw [ran] at committed
          refine ⟨⟨rfl, fun succeeds _ => absurd succeeds fails,
            fun _ => committed⟩, .unchanged fun _ => ?_⟩
          unfold VaultStore.commits
          rw [ran]
      | ok result =>
          simp only [ran] at failed ⊢
          have ends := syncUnlocked_ends env store.vault.memory
            (auditFor result) { store with vault }
          revert failed
          generalize VaultStore.syncUnlockedWithAudit env store.vault.memory
            (auditFor result) { store with vault } = synced at ends ⊢
          intro failed
          cases ends with
          | absent absent =>
              simp only at failed ⊢
              cases settled : settle result none with
              | ok value => simp [settled] at failed
              | error error =>
                  refine ⟨abandon_abandoned ran, .unchanged fun _ => ?_⟩
                  apply uncommitted_of_exports ran
                  intro database _ _ present
                  cases absent.symm.trans present
          | unexported failure refused =>
              refine ⟨abandon_abandoned ran, .unchanged fun _ => ?_⟩
              apply uncommitted_of_exports ran
              intro _ before current _ beforeOut afterOut
              exact absurd afterOut (refused before current beforeOut)
          | failed failure observed present currentOut beforeOut aborted =>
              refine ⟨abandon_abandoned ran, .unchanged fun _ => ?_⟩
              apply uncommitted_of_exports ran
              intro database before current isDatabase isBefore isCurrent
              cases present.symm.trans isDatabase
              cases currentOut.symm.trans isCurrent
              cases beforeOut.symm.trans isBefore
              exact aborted
          | dropped currentOut beforeOut uncommitted => cases failed
          | unheard failure present currentOut beforeOut synced waited lost =>
              refine ⟨abandon_abandoned ran, .unheard lost ?_ present beforeOut
                (by rw [ran]; exact currentOut) synced⟩
              simp [VaultStore.commits, ran, show store.database = _ from present,
                currentOut, beforeOut, waited, synced, Except.isOk, Except.toBool]
          | committed present currentOut beforeOut synced kept observed =>
              cases observed with
              | inl unobserved => simp [unobserved] at failed
              | inr observed =>
                  rename_i rows _ _ recorded _
                  simp only [observed.1] at failed
                  cases settled : settle result recorded with
                  | ok value => simp [settled] at failed
                  | error unsettled =>
                      -- The audit event is there once the rows are committed.
                      obtain ⟨rfl, audited⟩ := settles _ _ _ settled
                      obtain ⟨mutation, isAudited⟩ :=
                        Option.ne_none_iff_exists'.mp audited
                      rw [isAudited] at synced
                      exact absurd rfl (audited_delta synced)

end Failed

/-- Memory holds what a restart would load: in file mode the file's state,
and with empty credential tables nothing a start would take over. -/
structure VaultStore.Coherent (store : VaultStore) : Prop where
  file : store.database = none →
    Vault.open store.vault.disk = .ok store.vault.memory
  tables : ∀ database, store.database = some database →
    database.hasCredentials = false →
      store.vault.memory.Loadable ∧
        migratable store.vault.memory = false ∧
        ∃ file, Vault.open store.vault.disk = .ok file ∧
          migratable file = false

section Reload

variable {store : VaultStore} {database : Database}

theorem reload_file (absent : store.database = none) :
    store.reload = (Vault.open store.vault.disk).mapError .vault := by
  unfold VaultStore.reload
  rw [absent]

theorem reload_rows (present : store.database = some database)
    (full : database.hasCredentials = true) :
    store.reload = database.loadRecords := by
  unfold VaultStore.reload
  rw [present]
  exact if_pos full

theorem reload_tables (present : store.database = some database)
    (empty : database.hasCredentials = false) {file : VaultFile}
    (opened : Vault.open store.vault.disk = .ok file) :
    store.reload =
      if migratable file then .ok file else database.loadRecords := by
  unfold VaultStore.reload
  rw [present, opened]
  simp only [empty]
  rfl

end Reload

private theorem loadRecords_empty {database : Database}
    (empty : database.hasCredentials = false) :
    database.loadRecords = .ok {
      version := 1
      keys := []
      downstream := []
      routerCursor := (database.cursors.lookup Vault.legacyProfile).getD 0
      routerCursors := database.cursors } := by
  simp only [Database.hasCredentials, Bool.not_eq_false', Bool.and_eq_true,
    List.isEmpty_iff] at empty
  unfold Database.loadRecords
  rw [empty.1, empty.2]
  rfl

/-- A store that has just started is coherent, unless it took its file over,
in which case the tables are not empty any more. -/
theorem VaultStore.coherent_of_reload {store : VaultStore}
    (loaded : store.reload = .ok store.vault.memory)
    (taken : ∀ database, store.database = some database →
      migratable store.vault.memory = true →
        database.hasCredentials = true) :
    store.Coherent where
  file := by
    intro absent
    rw [reload_file absent] at loaded
    cases opened : Vault.open store.vault.disk with
    | error error =>
        rw [opened] at loaded
        cases loaded
    | ok state =>
        rw [opened] at loaded
        cases loaded
        rfl
  tables := by
    intro database present empty
    have kept : migratable store.vault.memory = false := by
      cases takes : migratable store.vault.memory with
      | false => rfl
      | true =>
          rw [taken database present takes] at empty
          cases empty
    cases opened : Vault.open store.vault.disk with
    | error error =>
        unfold reload at loaded
        rw [present, opened] at loaded
        simp only [empty] at loaded
        cases loaded
    | ok file =>
        rw [reload_tables present empty opened] at loaded
        cases takes : migratable file with
        | true =>
            rw [takes, if_pos rfl] at loaded
            cases loaded
            rw [takes] at kept
            cases kept
        | false =>
            rw [takes, if_neg Bool.false_ne_true, loadRecords_empty empty]
              at loaded
            refine ⟨?_, kept, file, rfl, takes⟩
            rw [← Except.ok.inj loaded]
            exact ⟨rfl, Nat.zero_le _, List.nodup_nil⟩

theorem VaultStore.Coherent.reload {store : VaultStore} {database : Database}
    (coherent : store.Coherent) (present : store.database = some database) :
    store.reload = database.loadRecords := by
  cases full : database.hasCredentials with
  | true => exact reload_rows present full
  | false =>
      obtain ⟨-, -, file, opened, kept⟩ :=
        coherent.tables database present full
      rw [reload_tables present full opened, kept, if_neg Bool.false_ne_true]

/-- A file that makes no difference to the next start. -/
def VaultStore.Disregards (store : VaultStore) (file : VaultFile) : Prop :=
  match store.database with
  | none => file = store.vault.memory
  | some database =>
      database.hasCredentials = true ∨ migratable file = false

section Reload

variable {store after : VaultStore} {file : VaultFile}

theorem reload_of_same_file (database : after.database = store.database)
    (committed :
      after.vault.disk.committed = store.vault.disk.committed) :
    after.reload = store.reload := by
  have opened : Vault.open after.vault.disk = Vault.open store.vault.disk := by
    unfold Vault.open
    rw [committed]
  unfold VaultStore.reload
  rw [database, opened]

theorem reload_iff_disregards (coherent : store.Coherent)
    (loadable : file.Loadable) (database : after.database = store.database)
    (committed : after.vault.disk.committed = some file) :
    after.reload = store.reload ↔ store.Disregards file := by
  have opened : Vault.open after.vault.disk = .ok file :=
    Vault.open_eq_ok_iff.mpr ⟨by rw [committed]; rfl, loadable⟩
  unfold VaultStore.Disregards
  cases present : store.database with
  | none =>
      rw [reload_file (database.trans present), reload_file present, opened,
        coherent.file present]
      simp only [Except.mapError, Except.ok.injEq]
  | some rows =>
      cases full : rows.hasCredentials with
      | true =>
          rw [reload_rows (database.trans present) full,
            reload_rows present full]
          simp only [full, true_or]
      | false =>
          obtain ⟨-, -, before, openedBefore, kept⟩ :=
            coherent.tables rows present full
          rw [reload_tables (database.trans present) full opened,
            reload_tables present full openedBefore, kept,
            loadRecords_empty full]
          cases takes : migratable file with
          | false => simp only [Bool.false_eq_true, if_false, or_true]
          | true =>
              simp only [if_true, Bool.false_eq_true, if_false, full,
                Except.ok.injEq, Bool.true_eq_false, or_self, iff_false]
              intro same
              rw [same] at takes
              cases takes

theorem reload_of_memory_file (coherent : store.Coherent)
    (database : after.database = store.database)
    (committed : after.vault.disk.committed = some store.vault.memory) :
    after.reload = store.reload := by
  cases present : store.database with
  | none =>
      have loadable :=
        (Vault.open_eq_ok_iff.mp (coherent.file present)).2
      apply (reload_iff_disregards coherent loadable database committed).mpr
      unfold VaultStore.Disregards
      rw [present]
  | some rows =>
      cases full : rows.hasCredentials with
      | true =>
          rw [reload_rows (database.trans present) full,
            reload_rows present full]
      | false =>
          obtain ⟨loadable, kept, -⟩ := coherent.tables rows present full
          apply (reload_iff_disregards coherent loadable database
            committed).mpr
          unfold VaultStore.Disregards
          rw [present]
          exact .inr kept

end Reload

theorem Closure.published_loadable {primitives : Primitives}
    {masterKey : MasterKey} {closure : Closure ε α} {world : VaultWorld}
    {file : VaultFile} (loadable : world.memory.Loadable)
    (published : closure.published primitives masterKey world = some file) :
    file.Loadable := by
  induction closure generalizing world with
  | done result => cases published
  | inspect next induction => exact induction _ loadable published
  | call operation fault next induction =>
      have evolved := loadable.evolve
        (operation.evolves primitives masterKey world.memory)
      cases Option.or_eq_some_iff.mp published with
      | inl later => exact induction _ evolved later
      | inr last => exact Staged.published_eq last.2 ▸ evolved
  | save fault next induction =>
      cases Option.or_eq_some_iff.mp published with
      | inl later =>
          refine induction _ ?_ later
          exact loadable
      | inr last =>
          simp only [Option.ite_none_right_eq_some, Option.some.injEq] at last
          exact last.2.2 ▸ loadable

/-- When the file that a failed call leaves is the one from before to the next
start: the rollback's rewrite reaches its rename, or what the operation itself
wrote over the file is nothing a start would read. -/
def VaultStore.FileRecovers (primitives : Primitives) (masterKey : MasterKey)
    (env : CallEnvironment) (closure : Closure ε α) (store : VaultStore) :
    Prop :=
  (closure.Succeeds primitives masterKey store.vault ∧
      publishes env.rollbackFault = true) ∨
    ∀ file, closure.published primitives masterKey store.vault = some file →
      store.Disregards file

/-- The operation leaves every column that is stored as it was. -/
def Closure.Restates (primitives : Primitives) (masterKey : MasterKey)
    (closure : Closure ε α) (world : VaultWorld) : Prop :=
  ∀ previous current, snapshotOf world.memory = .ok previous →
    snapshotOf (closure.run primitives masterKey world).2.memory = .ok current →
      SameRecords previous current

/-- When a call that fails gives back the state a restart would have loaded:
the file is the one from before, and so are the rows if the call commits and
does not hear of it. -/
structure VaultStore.Recovers (primitives : Primitives) (masterKey : MasterKey)
    (env : CallEnvironment) (closure : Closure ε α)
    (auditFor : α → Option VaultAuditMutation) (store : VaultStore) :
    Prop where
  file : store.FileRecovers primitives masterKey env closure
  rows : env.acknowledgement = .lost →
    store.commits primitives masterKey env closure auditFor = true →
      closure.Restates primitives masterKey store.vault

theorem reload_abandoned_iff {primitives : Primitives} {masterKey : MasterKey}
    {env : CallEnvironment} {closure : Closure ε α} {store after : VaultStore}
    (coherent : store.Coherent)
    (abandoned : Abandoned primitives masterKey env closure store after)
    (database : after.database = store.database) :
    after.reload = store.reload ↔
      store.FileRecovers primitives masterKey env closure := by
  unfold VaultStore.FileRecovers
  by_cases rewrites : closure.Succeeds primitives masterKey store.vault ∧
      publishes env.rollbackFault = true
  · have same := reload_of_memory_file coherent database
      (abandoned.rewritten rewrites.1 rewrites.2)
    exact ⟨fun _ => .inl rewrites, fun _ => same⟩
  have left := abandoned.left rewrites
  cases published : closure.published primitives masterKey store.vault with
  | none =>
      rw [published, Option.none_or] at left
      have same := reload_of_same_file database left
      refine ⟨fun _ => .inr ?_, fun _ => same⟩
      intro file found
      cases found
  | some file =>
      rw [published, Option.some_or] at left
      simp only [rewrites, false_or, Option.some.injEq, forall_eq']
      cases present : store.database with
      | none =>
          have loadable := Closure.published_loadable
            (Vault.open_eq_ok_iff.mp (coherent.file present)).2 published
          exact reload_iff_disregards coherent loadable database left
      | some rows =>
          cases full : rows.hasCredentials with
          | true =>
              unfold VaultStore.Disregards
              rw [reload_rows (database.trans present) full,
                reload_rows present full, present]
              simp [full]
          | false =>
              have loadable := Closure.published_loadable
                (coherent.tables rows present full).1 published
              exact reload_iff_disregards coherent loadable database left

/-- What is asked of a call whose COMMIT may go unheard: memory is what the
rows represent, the identifiers are new and the clock does not run back. -/
structure Mirrored (primitives : Primitives) (masterKey : MasterKey)
    (closure : Closure ε α) (store : VaultStore) : Prop where
  rows : ∀ database, store.database = some database →
    Kept store.vault.memory (some database) ∧ database.TwoSlots
  fresh : closure.FreshFrom primitives masterKey store.vault
  forward : closure.ForwardFrom primitives masterKey store.vault

theorem loadRecords_of_reload {store : VaultStore} {rows : Database}
    {loaded : VaultFile} (present : store.database = some rows)
    (reloads : store.reload = .ok loaded)
    (untaken : rows.hasCredentials = true ∨ migratable loaded = false) :
    rows.loadRecords = .ok loaded := by
  cases full : rows.hasCredentials with
  | true => rwa [reload_rows present full] at reloads
  | false =>
      cases opened : Vault.open store.vault.disk with
      | error error =>
          unfold VaultStore.reload at reloads
          rw [present, opened] at reloads
          simp only [full] at reloads
          cases reloads
      | ok file =>
          rw [reload_tables present full opened] at reloads
          cases takes : migratable file with
          | false => rwa [takes, if_neg Bool.false_ne_true] at reloads
          | true =>
              rw [takes, if_pos rfl] at reloads
              cases reloads
              rw [full, takes] at untaken
              simp at untaken

section Unheard

variable {primitives : Primitives} {masterKey : MasterKey}
  {env : CallEnvironment} {store after : VaultStore} {closure : Closure ε α}

theorem reload_unheard_iff (coherent : store.Coherent)
    (mirrored : Mirrored primitives masterKey closure store)
    (abandoned : Abandoned primitives masterKey env closure store after)
    {database rows : Database} {previous current : VaultSyncSnapshot}
    {audit : Option VaultAuditMutation} {recorded : Option Uuid}
    (present : store.database = some database)
    (beforeOut : snapshotOf store.vault.memory = .ok previous)
    (afterOut : snapshotOf
      (closure.run primitives masterKey store.vault).2.memory = .ok current)
    (ran : syncDatabaseDelta env.now env.auditId previous current audit
      env.refuses .received database = (.ok recorded, rows))
    (isRows : after.database = some rows) :
    after.reload = store.reload ↔
      store.FileRecovers primitives masterKey env closure ∧
        SameRecords previous current := by
  obtain ⟨kept, slots⟩ := mirrored.rows database present
  obtain ⟨added, operates⟩ :=
    closure.run_operated mirrored.fresh mirrored.forward
  have loads := loadRecords_synced_iff kept slots operates beforeOut afterOut ran
  -- The store that would be left if the rows were still the ones from before.
  let former : VaultStore := { after with database := store.database }
  have file : former.reload = store.reload ↔
      store.FileRecovers primitives masterKey env closure :=
    reload_abandoned_iff coherent
      ⟨abandoned.memory, abandoned.rewritten, abandoned.left⟩ rfl
  have unmoved : SameRecords previous current →
      after.reload = former.reload := by
    intro same
    obtain ⟨succeeds, -⟩ := kept.succeeds operates beforeOut afterOut
    obtain ⟨keyOrder, clientOrder, -⟩ := syncDatabaseDelta_order succeeds same ran
    have isFormer : former.database = some database := present
    unfold VaultStore.reload
    rw [isRows, isFormer]
    simp only [hasCredentials_congr keyOrder clientOrder, loads.mpr same]
    rfl
  constructor
  · intro reloads
    obtain ⟨loaded, isLoaded, -, -, -⟩ :=
      loadRecords_restores kept.sound (kept.stored _ rfl)
    have untaken : rows.hasCredentials = true ∨ migratable loaded = false := by
      cases full : database.hasCredentials with
      | true =>
          exact .inl
            (hasCredentials_synced kept operates beforeOut afterOut ran full)
      | false =>
          rw [loadRecords_empty full] at isLoaded
          cases isLoaded
          exact .inr rfl
    have same := loads.mp <| (loadRecords_of_reload isRows
      (reloads.trans ((coherent.reload present).trans isLoaded)) untaken).trans
        isLoaded.symm
    exact ⟨file.mp ((unmoved same).symm.trans reloads), same⟩
  · intro ⟨recovers, same⟩
    exact (unmoved same).trans (file.mpr recovers)

end Unheard

/-- Memory and the state a restart would load are the ones from before. -/
def VaultStore.Restored (store after : VaultStore) : Prop :=
  after.vault.memory = store.vault.memory ∧ after.reload = store.reload

private theorem restored_iff_recovers {primitives : Primitives}
    {masterKey : MasterKey} {env : CallEnvironment} {closure : Closure ε α}
    {auditFor : α → Option VaultAuditMutation} {store after : VaultStore}
    (coherent : store.Coherent)
    (mirrored : env.acknowledgement = .lost →
      Mirrored primitives masterKey closure store)
    (abandoned : Abandoned primitives masterKey env closure store after)
    (rowsLeft : RowsLeft primitives masterKey env closure auditFor store
      after.database) :
    store.Restored after ↔
      store.Recovers primitives masterKey env closure auditFor := by
  refine (and_iff_right abandoned.memory).trans ?_
  generalize isLeft : after.database = left at rowsLeft
  cases rowsLeft with
  | unchanged uncommitted =>
      refine (reload_abandoned_iff coherent abandoned isLeft).trans ?_
      refine ⟨fun file => ⟨file, fun lost committed => ?_⟩, fun recovers =>
        recovers.file⟩
      cases (uncommitted lost).symm.trans committed
  | unheard lost committed present beforeOut afterOut ran =>
      refine (reload_unheard_iff coherent (mirrored lost) abandoned present
        beforeOut afterOut ran isLeft).trans ?_
      constructor
      · intro ⟨file, same⟩
        refine ⟨file, fun _ _ before after isBefore isAfter => ?_⟩
        cases beforeOut.symm.trans isBefore
        cases afterOut.symm.trans isAfter
        exact same
      · intro recovers
        exact ⟨recovers.file,
          recovers.rows lost committed _ _ beforeOut afterOut⟩

theorem VaultStore.failed_restored_iff (primitives : Primitives)
    (masterKey : MasterKey) (env : CallEnvironment) {store : VaultStore}
    (coherent : store.Coherent) (closure : Closure ε α)
    (mirrored : env.acknowledgement = .lost →
      Mirrored primitives masterKey closure store) :
    (∀ error,
      (store.mutate primitives masterKey env closure).returned =
          some (.error error) →
        (store.Restored
            (store.mutate primitives masterKey env closure).store ↔
          store.Recovers primitives masterKey env closure fun _ => none)) ∧
      ∀ auditFor error,
        (store.mutateWithAudit primitives masterKey env closure
            auditFor).returned = some (.error error) →
          (store.Restored (store.mutateWithAudit primitives masterKey env
              closure auditFor).store ↔
            store.Recovers primitives masterKey env closure fun result =>
              some (auditFor result)) := by
  constructor
  · intro error failed
    obtain ⟨abandoned, rowsLeft⟩ := operate_failed
      (fun _ _ _ unsettled => by cases unsettled) failed
    exact restored_iff_recovers coherent mirrored abandoned rowsLeft
  · intro auditFor error failed
    obtain ⟨abandoned, rowsLeft⟩ := operate_failed (by
      intro result recorded settleError unsettled
      cases recorded with
      | none => exact ⟨rfl, Option.some_ne_none _⟩
      | some auditId => cases unsettled) failed
    exact restored_iff_recovers coherent mirrored abandoned rowsLeft

def verifiedVault : VaultFile :=
  { VaultFile.empty with
    keys := [{
      id := 1
      label := "primary"
      fingerprint := hexEncode (List.replicate 32 7)
      nonce := base64UrlEncode (List.replicate 12 1)
      ciphertext := base64UrlEncode (List.replicate 54 2)
      enabled := false
      verified := true
      retired := false
      cooldownUntil := none
      requestCount := 0
      failureCount := 0 }] }

/-- A gateway without a database, right after it has saved a verified key. -/
def fileStore : VaultStore where
  vault := {
    memory := verifiedVault
    disk := { temporary := none, committed := some verifiedVault } }
  database := none

def enabling (fault : Option PersistStep) : Closure VaultError VaultValue :=
  .call (.setEnabled 1 true 0) fault .done

private theorem fileStore_coherent : fileStore.Coherent where
  file := fun _ => Vault.open_eq_ok_iff.mpr
    ⟨rfl, rfl, by decide, by decide⟩
  tables := fun _ present => by cases present

/-- A gateway whose rows hold its one key, and a call that is not told that its
COMMIT took effect. -/
def marking : Closure VaultError VaultValue :=
  .call (.markVerified 1) none .done

def unheardEnvironment : CallEnvironment :=
  { quietEnvironment with acknowledgement := .lost }

private theorem sampleVault_kept :
    Kept (sampleVault false) (some sampleDatabase) where
  sound := by
    have formed : ∀ key ∈ (sampleVault false).keys,
        EnabledSound key ∧ WellFormedKey key := by
      intro key member
      rw [List.mem_singleton.mp member]
      refine ⟨?_, ⟨_, rfl, rfl⟩, ⟨_, rfl, rfl⟩, ⟨_, by decide, rfl⟩⟩
      intro enabled
      cases enabled
    exact ⟨⟨rfl, by decide, by decide⟩, by decide,
      fun key member => (formed key member).1,
      fun key member => (formed key member).2, fun _ member => by cases member⟩
  keyIds := by decide
  downstreamIds := List.nodup_nil
  stored := by
    intro database present
    cases present
    exact ⟨_, _, sampleVault_records false, rfl, sampleDatabase_represents⟩

private theorem sampleStore_coherent : sampleStore.Coherent where
  file := fun absent => by cases absent
  tables := by
    intro database present empty
    cases present
    cases empty

private theorem marking_mirrored : Mirrored (Primitives.tabulated [])
    (Vector.replicate 32 0) marking sampleStore where
  rows := by
    intro database present
    cases present
    exact ⟨sampleVault_kept, fun row member => by cases member⟩
  fresh := ⟨trivial, trivial⟩
  forward := ⟨trivial, trivial⟩

private theorem marking_failed :
    (sampleStore.mutate (Primitives.tabulated []) (Vector.replicate 32 0)
      unheardEnvironment marking).returned = some (.error (.synced
        "rollback vault mutation after database sync failure"
        (.database (.database "commit incremental vault sync")))) := by
  decide +kernel

private theorem marking_commits :
    sampleStore.commits (Primitives.tabulated []) (Vector.replicate 32 0)
      unheardEnvironment marking (fun _ => none) = true := by
  decide +kernel

/-- A write that fails before its rename loses nothing.  An answer that is lost
leaves the key verified for the next start. -/
theorem VaultStore.failed_restored_iff_refused_and_unheard :
    fileStore.Restored (fileStore.mutate (Primitives.tabulated [])
        (Vector.replicate 32 0) quietEnvironment
        (enabling (some .openTemporary))).store ∧
      ¬ sampleStore.Restored (sampleStore.mutate (Primitives.tabulated [])
        (Vector.replicate 32 0) unheardEnvironment marking).store := by
  constructor
  · have restored := (VaultStore.failed_restored_iff (Primitives.tabulated [])
      (Vector.replicate 32 0) quietEnvironment fileStore_coherent
      (enabling (some .openTemporary)) fun lost => by cases lost).1
      (.operation (.persist "open vault temp")) rfl
    apply restored.mpr
    refine ⟨.inr ?_, fun lost => by cases lost⟩
    intro file published
    cases published
  · have restored := (VaultStore.failed_restored_iff (Primitives.tabulated [])
      (Vector.replicate 32 0) unheardEnvironment sampleStore_coherent marking
      fun _ => marking_mirrored).1 _ marking_failed
    intro unchanged
    have same := (restored.mp unchanged).rows rfl marking_commits _ _
      (sampleVault_exported false) (sampleVault_exported true)
    exact absurd (congrFun same.keys 1) (by decide)

/-- Enabling the key fails after its write was renamed: the caller sees an
error, and a restart loads the key as enabled. -/
theorem VaultStore.not_restored_after_directory_sync_refused :
    let failed := fileStore.mutate (Primitives.tabulated [])
      (Vector.replicate 32 0) quietEnvironment
      (enabling (some .syncDirectory))
    fileStore.Coherent ∧
      failed.returned =
        some (.error (.operation (.persist "sync vault directory"))) ∧
      ¬ fileStore.Restored failed.store := by
  intro failed
  refine ⟨fileStore_coherent, rfl, ?_⟩
  intro restored
  exact absurd restored.2 (by decide)

end NvidiaBuildLb.Gateway
