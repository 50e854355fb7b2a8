import NvidiaBuildLb.Gateway.ClientUpdates

namespace NvidiaBuildLb.Gateway

open Foundation NvidiaBuildLb.Core

/-! Which operations leave the scopes of one client alone. -/

structure KeepsScopes (client : Uuid) (before after : StoredDownstream) :
    Prop where
  id : after.id = before.id
  scopes : before.id = client → after.scopes = before.scopes

theorem KeepsScopes.refl (client : Uuid) (item : StoredDownstream) :
    KeepsScopes client item item :=
  ⟨rfl, fun _ => rfl⟩

theorem KeepsScopes.trans (client : Uuid) (first second third : StoredDownstream)
    (earlier : KeepsScopes client first second)
    (later : KeepsScopes client second third) : KeepsScopes client first third where
  id := later.id.trans earlier.id
  scopes := fun named =>
    (later.scopes (earlier.id.trans named)).trans (earlier.scopes named)

def Rescopes (client : Uuid) : VaultOperation → Prop
  | .updateDownstreamScopes target _ => target = client
  | _ => False

private theorem editDownstream_keeps {client : Uuid}
    {select : StoredDownstream → Bool}
    {edit : StoredDownstream → StoredDownstream} (state : VaultFile)
    (missing : VaultError)
    (keeps : ∀ item, state.downstream.find? select = some item →
      KeepsScopes client item (edit item)) :
    Extends (KeepsScopes client) state.downstream
      (Vault.editDownstream state missing select edit).state.downstream := by
  unfold Vault.editDownstream
  split
  · exact Extends.refl (KeepsScopes.refl client) _
  · rename_i downstream item found
    exact .of_forall₂ (modifyFirst?_forall₂ (KeepsScopes.refl client) keeps found)

open Vault in
theorem stage_keepsScopes (primitives : Primitives) (masterKey : MasterKey)
    {client : Uuid} {operation : VaultOperation} (state : VaultFile)
    (avoids : ¬ Rescopes client operation) :
    Extends (KeepsScopes client) state.downstream
      (operation.stage primitives masterKey state).state.downstream := by
  have kept : ∀ {after : List StoredDownstream}, after = state.downstream →
      Extends (KeepsScopes client) state.downstream after := by
    intro after same
    subst same
    exact Extends.refl (KeepsScopes.refl client) _
  cases operation with
  | add => exact kept (by simp [VaultOperation.stage, add_downstream])
  | setEnabled =>
      exact kept (by simp [VaultOperation.stage, setEnabled_downstream])
  | markVerified =>
      exact kept (by
        simp [VaultOperation.stage, Vault.markVerified, editKey_downstream])
  | delete =>
      exact kept (by
        simp [VaultOperation.stage, Vault.delete, editKey_downstream])
  | quarantine =>
      exact kept (by
        simp [VaultOperation.stage, Vault.quarantine, editKey_downstream])
  | recordRequest =>
      exact kept (by
        simp [VaultOperation.stage, Vault.recordRequest, editKey_downstream])
  | recordFailure =>
      exact kept (by
        simp [VaultOperation.stage, Vault.recordFailure, editKey_downstream])
  | setRouterCursor => exact kept rfl
  | setRouterCursorFor => exact kept rfl
  | issueDownstream issued bytes now label scopes =>
      simp only [VaultOperation.stage, Staged.state_map, Vault.issueDownstream]
      split
      · exact kept rfl
      split
      · exact kept rfl
      split
      · exact kept rfl
      exact ⟨_, _, rfl,
        List.forall₂_same.mpr fun item _ => KeepsScopes.refl client item⟩
  | revokeDownstream revoked now =>
      simp only [VaultOperation.stage, Staged.state_map, Vault.revokeDownstream]
      split
      · exact kept rfl
      split
      · exact editDownstream_keeps state _ fun item _ => ⟨rfl, fun _ => rfl⟩
      · exact kept rfl
  | rotateDownstream rotated bytes =>
      simp only [VaultOperation.stage, Staged.state_map, Vault.rotateDownstream]
      exact editDownstream_keeps state _ fun item _ => ⟨rfl, fun _ => rfl⟩
  | updateDownstreamScopes target scopes =>
      simp only [VaultOperation.stage, Staged.state_map,
        Vault.updateDownstreamScopes]
      split
      · exact kept rfl
      · apply editDownstream_keeps state
        intro item found
        have selected := List.find?_some found
        simp only [isActiveDownstream, Bool.and_eq_true, decide_eq_true_eq]
          at selected
        refine ⟨rfl, fun named => ?_⟩
        exact absurd (selected.1.symm.trans named) avoids
  | recordDownstreamUse used usedAt =>
      simp only [VaultOperation.stage, Staged.state_map]
      exact editDownstream_keeps state _ fun item _ => ⟨rfl, fun _ => rfl⟩

/-- Nothing the closure may go on to do rescopes the client. -/
def Closure.Avoids (client : Uuid) : Closure ε α → Prop
  | .done _ => True
  | .inspect next => ∀ state, (next state).Avoids client
  | .call operation _ next =>
      ¬ Rescopes client operation ∧
        ∀ answer, (next answer).Avoids client
  | .save _ next => ∀ answer, (next answer).Avoids client

theorem Closure.Avoids.keepsScopes (primitives : Primitives)
    (masterKey : MasterKey) {client : Uuid} {closure : Closure ε α}
    (avoids : closure.Avoids client) (world : VaultWorld) :
    Extends (KeepsScopes client) world.memory.downstream
      (closure.run primitives masterKey world).2.memory.downstream := by
  induction closure generalizing world with
  | done result => exact Extends.refl (KeepsScopes.refl client) _
  | inspect next induction => exact induction _ (avoids _) world
  | call operation fault next induction =>
      have earlier := stage_keepsScopes primitives masterKey world.memory
        avoids.1
      exact earlier.trans (KeepsScopes.trans client)
        (induction _ (avoids.2 _) _)
  | save fault next induction => exact induction _ (avoids _) _

def StoreCall.Avoids (client : Uuid) : StoreCall → Prop
  | .mutate closure => closure.Avoids client
  | .mutateWithAudit closure _ => closure.Avoids client
  | .recordAcceptedDownstreamUse _ => True

section Agreement

variable {store after : VaultStore} {id : Uuid}

/-- The stored state that a record of a client is written as. -/
structure Shows (item : StoredDownstream) (lifecycle : DownstreamLifecycle) :
    Prop where
  digest : hexDecode item.tokenDigest = some lifecycle.digest
  scopes : lifecycle.scopes = item.scopes
  active : lifecycle.active = item.active
  revokedAt : lifecycle.revokedAt = item.revokedAt.map micros

private theorem downstreamRecord_shows {item : StoredDownstream}
    {record : VaultDownstreamRecord}
    (exported : Vault.downstreamRecord item = .ok record) :
    Shows item (downstreamColumns record).lifecycle := by
  unfold Vault.downstreamRecord at exported
  obtain ⟨digest, decoded, exported⟩ := ok_of_bind exported
  cases exported
  refine ⟨?_, rfl, rfl, rfl⟩
  cases isDigest : hexDecode item.tokenDigest with
  | none =>
      rw [isDigest] at decoded
      cases decoded
  | some bytes =>
      rw [isDigest] at decoded
      cases decoded
      rfl

def VaultStore.memoryClient (store : VaultStore) (id : Uuid) :
    Option StoredDownstream :=
  store.vault.memory.downstream.find? fun item => item.id = id

theorem VaultStore.Agree.shows_ (agree : store.Agree) (id : Uuid) :
    Option.Rel Shows (store.memoryClient id) (store.lifecycle id) := by
  obtain ⟨database, snapshot, present, exported, same⟩ := agree
  have records := forall₂_of_mapM_ok (snapshotOf_eq_ok exported).2
  have finds := @find?_rel_of_forall₂ _ _ _
    (fun item : StoredDownstream => decide (item.id = id))
    (fun record : VaultDownstreamRecord => decide (record.id = id)) _ _
    (fun _ _ out => by rw [(downstreamRecord_exported out).id]) records
  have rows := congrFun same.reads.2 id
  unfold through snapshotView at rows
  have reads : store.lifecycle id =
      (snapshot.downstream.find? fun record => record.id = id).map
        (DownstreamColumns.lifecycle ∘ downstreamColumns) := by
    rw [VaultStore.lifecycle, present]
    exact rows
  rw [VaultStore.memoryClient, reads]
  generalize store.vault.memory.downstream.find? _ = item at finds ⊢
  generalize snapshot.downstream.find? _ = record at finds ⊢
  cases finds with
  | some out => exact .some (downstreamRecord_shows out)
  | none => exact .none

theorem VaultStore.Agree.keeps_scopes (agree : store.Agree)
    (agreeAfter : after.Agree)
    (keeps : Extends (KeepsScopes id) store.vault.memory.downstream
      after.vault.memory.downstream)
    {held : DownstreamLifecycle} (isHeld : store.lifecycle id = some held) :
    ∃ now, after.lifecycle id = some now ∧ now.scopes = held.scopes := by
  have shown := agree.shows_ id
  rw [isHeld] at shown
  cases found : store.memoryClient id with
  | none =>
      rw [found] at shown
      cases shown
  | some item =>
      rw [found] at shown
      cases shown with
      | some shows_ =>
          have named : item.id = id := by simpa using List.find?_some found
          obtain ⟨successor, isSuccessor, kept⟩ := keeps.exists_of_find?
            (fun _ _ kept => by rw [kept.id]) found
          have shownAfter := agreeAfter.shows_ id
          rw [VaultStore.memoryClient, isSuccessor] at shownAfter
          cases isNow : after.lifecycle id with
          | none =>
              rw [isNow] at shownAfter
              cases shownAfter
          | some now =>
              rw [isNow] at shownAfter
              cases shownAfter with
              | some showsAfter =>
                  refine ⟨now, rfl, ?_⟩
                  rw [showsAfter.scopes, kept.scopes named, shows_.scopes]

end Agreement

/-- The call with the answer to its COMMIT, if it gets that far. -/
def CallEnvironment.heard (env : CallEnvironment) : CallEnvironment :=
  { env with acknowledgement := .received }

section Operate

variable {primitives : Primitives} {masterKey : MasterKey}
  {env : CallEnvironment} {store : VaultStore}

private theorem syncUnlocked_database_heard (previous : VaultFile)
    (audit : Option VaultAuditMutation) (store : VaultStore) :
    (store.syncUnlockedWithAudit env.heard previous audit).store.database =
      (store.syncUnlockedWithAudit env previous audit).store.database := by
  unfold VaultStore.syncUnlockedWithAudit
  cases store.database with
  | none => rfl
  | some database =>
  simp only
  cases snapshotOf store.vault.memory with
  | error error => rfl
  | ok current =>
  cases snapshotOf previous with
  | error error => rfl
  | ok before =>
  simp only [VaultStore.observeSync, CallEnvironment.heard]
  cases env.dropped with
  | some moment => cases moment <;> rfl
  | none =>
      exact congrArg some syncDatabaseDelta_rows.symm

private theorem operate_database {closure : Closure ε α}
    {auditFor : α → Option VaultAuditMutation} {context : String}
    {settle : α → Option Uuid → Except (StoreError ε) β} :
    (store.operate primitives masterKey env closure auditFor context
      settle).store.database =
      match closure.run primitives masterKey store.vault with
      | (.error _, _) => store.database
      | (.ok result, vault) =>
          (VaultStore.syncUnlockedWithAudit env store.vault.memory
            (auditFor result) { store with vault }).store.database := by
  unfold VaultStore.operate
  cases closure.run primitives masterKey store.vault with
  | mk answer vault =>
  cases answer with
  | error error => rfl
  | ok result =>
  simp only
  generalize VaultStore.syncUnlockedWithAudit env store.vault.memory
    (auditFor result) { store with vault } = synced
  cases synced.returned with
  | none => rfl
  | some returned =>
  cases returned with
  | error failure => rfl
  | ok recorded =>
      simp only
      cases settle result recorded <;> rfl

private theorem operate_database_heard {closure : Closure ε α}
    {auditFor : α → Option VaultAuditMutation} {context : String}
    {settle : α → Option Uuid → Except (StoreError ε) β} :
    (store.operate primitives masterKey env.heard closure auditFor context
      settle).store.database =
      (store.operate primitives masterKey env closure auditFor context
        settle).store.database := by
  rw [operate_database, operate_database]
  cases closure.run primitives masterKey store.vault with
  | mk answer vault =>
  cases answer with
  | error error => rfl
  | ok result => exact syncUnlocked_database_heard ..

theorem perform_database_heard (call : StoreCall) :
    (store.perform primitives masterKey env.heard call).database =
      (store.perform primitives masterKey env call).database := by
  cases call with
  | mutate closure => exact operate_database_heard
  | mutateWithAudit closure auditFor => exact operate_database_heard
  | recordAcceptedDownstreamUse use =>
      simp only [VaultStore.perform, VaultStore.recordAcceptedDownstreamUse]
      cases store.acceptedDownstreamPolicy use with
      | error error => rfl
      | ok admitted => exact operate_database_heard

private theorem lifecycle_of_database {after : VaultStore}
    (same : after.database = store.database) (id : Uuid) :
    after.lifecycle id = store.lifecycle id :=
  congrArg (fun rows : Option Database => rows.bind fun database =>
    (database.downstreamView id).map DownstreamColumns.lifecycle) same

/-- A call whose COMMIT is answered either commits and leaves in memory what
its closure left there, or does not touch the rows. -/
theorem operate_commits {closure : Closure ε α}
    {auditFor : α → Option VaultAuditMutation} {context : String}
    {settle : α → Option Uuid → Except (StoreError ε) β}
    (heard : env.acknowledgement = .received)
    (settles : ∀ result recorded error,
      settle result recorded = .error error →
        recorded = none ∧ auditFor result ≠ none) :
    (store.commits primitives masterKey env closure auditFor = true ∧
        (∃ result, (closure.run primitives masterKey store.vault).1 =
          .ok result) ∧
        (store.operate primitives masterKey env closure auditFor context
          settle).store.vault.memory =
            (closure.run primitives masterKey store.vault).2.memory) ∨
      (store.commits primitives masterKey env closure auditFor = false ∧
        (store.operate primitives masterKey env closure auditFor context
          settle).store.database = store.database) := by
  unfold VaultStore.operate VaultStore.commits
  cases ran : closure.run primitives masterKey store.vault with
  | mk answer vault =>
  cases answer with
  | error error => exact .inr ⟨rfl, rfl⟩
  | ok result =>
  simp only [VaultStore.syncUnlockedWithAudit]
  cases present : store.database with
  | none =>
      refine .inr ⟨rfl, ?_⟩
      simp only
      cases settle result none <;> rfl
  | some database =>
  simp only
  cases isCurrent : snapshotOf vault.memory with
  | error error =>
      refine .inr ⟨?_, rfl⟩
      cases snapshotOf store.vault.memory <;> rfl
  | ok current =>
  cases isBefore : snapshotOf store.vault.memory with
  | error error => exact .inr ⟨rfl, rfl⟩
  | ok before =>
  simp only [VaultStore.observeSync, heard]
  cases synced : syncDatabaseDelta env.now env.auditId before current
      (auditFor result) env.refuses .received database with
  | mk outcome rows =>
  cases outcome with
  | error error =>
      have unchanged : rows = database := by
        rcases syncDatabaseDelta_error synced with same | ⟨lost, -⟩
        · exact same
        · cases lost
      refine .inr ⟨Bool.and_false _, ?_⟩
      subst unchanged
      cases env.dropped with
      | none => rfl
      | some moment => cases moment <;> rfl
  | ok recorded =>
      simp only
      cases drops : env.dropped with
      | some moment =>
          cases moment with
          | beforeCommit => exact .inr ⟨rfl, rfl⟩
          | afterCommit => exact .inl ⟨rfl, ⟨result, rfl⟩, rfl⟩
      | none =>
          refine .inl ⟨rfl, ⟨result, rfl⟩, ?_⟩
          simp only
          cases settled : settle result recorded with
          | ok value => simp only [Except.mapError, settled]
          | error error =>
              obtain ⟨rfl, audited⟩ := settles _ _ _ settled
              obtain ⟨mutation, isAudited⟩ :=
                Option.ne_none_iff_exists'.mp audited
              rw [isAudited] at synced
              exact absurd rfl (audited_delta synced)

theorem audited_settles {auditFor : α → VaultAuditMutation} (result : α)
    (recorded : Option Uuid) (error : StoreError ε)
    (unsettled : (match recorded with
      | some auditId => .ok (result, auditId)
      | none => .error (.bail "audited mutation requires PostgreSQL") :
        Except (StoreError ε) (α × Uuid)) = .error error) :
    recorded = none ∧ some (auditFor result) ≠ none := by
  cases recorded with
  | none => exact ⟨rfl, Option.some_ne_none _⟩
  | some auditId => cases unsettled

theorem operate_ok {env : CallEnvironment} {store : VaultStore}
    {closure : Closure ε α} {auditFor : α → Option VaultAuditMutation}
    {context : String} {settle : α → Option Uuid → Except (StoreError ε) β}
    {value : β}
    (returned : (store.operate primitives masterKey env closure auditFor
      context settle).returned = some (.ok value)) :
    ∃ result recorded,
      (closure.run primitives masterKey store.vault).1 = .ok result ∧
        settle result recorded = .ok value ∧
        (store.operate primitives masterKey env closure auditFor context
          settle).store.vault =
            (closure.run primitives masterKey store.vault).2 ∧
        (recorded ≠ none → (store.operate primitives masterKey env closure
          auditFor context settle).store.database.isSome ∧ env.Observed) := by
  unfold VaultStore.operate at returned ⊢
  cases ran : closure.run primitives masterKey store.vault with
  | mk answer vault =>
      cases answer with
      | error error =>
          rw [ran] at returned
          cases returned
      | ok result =>
          rw [ran] at returned
          simp only at returned ⊢
          have ends := syncUnlocked_ends env store.vault.memory
            (auditFor result) { store with vault }
          generalize VaultStore.syncUnlockedWithAudit env store.vault.memory
            (auditFor result) { store with vault } = synced at ends returned ⊢
          cases ends with
          | absent missing =>
              cases settled : settle result none with
              | error error =>
                  simp only [settled] at returned
                  cases returned
              | ok settledValue =>
                  simp only [settled] at returned ⊢
                  cases returned
                  exact ⟨result, none, rfl, settled, trivial, fun absurd_ =>
                    absurd rfl absurd_⟩
          | unexported failure refused => cases returned
          | failed failure observed => cases returned
          | dropped => cases returned
          | unheard => cases returned
          | @committed _ _ _ _ recorded _ _ _ _ _ kept observed =>
              cases observed with
              | inl unobserved =>
                  rw [unobserved] at returned
                  cases returned
              | inr observed =>
                  rw [observed.1] at returned ⊢
                  cases settled : settle result recorded with
                  | error error =>
                      simp only [settled] at returned
                      cases returned
                  | ok settledValue =>
                      simp only [settled] at returned ⊢
                      cases returned
                      exact ⟨result, recorded, rfl, settled, trivial, fun _ =>
                        ⟨rfl, kept, fun _ => observed.2⟩⟩

theorem mutateWithAudit_ok {env : CallEnvironment} {store : VaultStore}
    {closure : Closure ε α} {auditFor : α → VaultAuditMutation}
    {value : α} {auditId : Uuid}
    (returned : (store.mutateWithAudit primitives masterKey env closure
      auditFor).returned = some (.ok (value, auditId))) :
    (closure.run primitives masterKey store.vault).1 = .ok value ∧
      (store.mutateWithAudit primitives masterKey env closure
        auditFor).store.vault =
          (closure.run primitives masterKey store.vault).2 ∧
      (store.mutateWithAudit primitives masterKey env closure
        auditFor).store.database.isSome ∧ env.Observed := by
  obtain ⟨result, recorded, ran, settled, vault, present⟩ := operate_ok returned
  cases recorded with
  | none => cases settled
  | some recordedId =>
      cases settled
      exact ⟨ran, vault, present (Option.some_ne_none _)⟩

private theorem perform_keeps_scopes_heard {call : StoreCall} {id : Uuid}
    (heard : env.acknowledgement = .received) (avoids : call.Avoids id)
    (agree : store.Agree)
    (agreeAfter : (store.perform primitives masterKey env call).Agree)
    {held : DownstreamLifecycle} (isHeld : store.lifecycle id = some held) :
    ∃ now, (store.perform primitives masterKey env call).lifecycle id =
      some now ∧ now.scopes = held.scopes := by
  have unchanged : ∀ {after : VaultStore}, after.database = store.database →
      ∃ now, after.lifecycle id = some now ∧ now.scopes = held.scopes := by
    intro after rows
    refine ⟨held, ?_, rfl⟩
    rw [VaultStore.lifecycle, rows]
    exact isHeld
  have kept : ∀ {ε α β : Type} {closure : Closure ε α}
      {auditFor : α → Option VaultAuditMutation} {context : String}
      {settle : α → Option Uuid → Except (StoreError ε) β},
      (∀ result recorded error, settle result recorded = .error error →
        recorded = none ∧ auditFor result ≠ none) →
      closure.Avoids id →
      (store.operate primitives masterKey env closure auditFor context
        settle).store.Agree →
      ∃ now, (store.operate primitives masterKey env closure auditFor context
        settle).store.lifecycle id = some now ∧ now.scopes = held.scopes := by
    intro ε α β closure auditFor context settle settles avoids agreeAfter
    rcases operate_commits heard settles with ⟨-, -, memory⟩ | ⟨-, rows⟩
    · refine agree.keeps_scopes agreeAfter ?_ isHeld
      rw [memory]
      exact avoids.keepsScopes primitives masterKey store.vault
    · exact unchanged rows
  cases call with
  | mutate closure =>
      exact kept (fun _ _ _ unsettled => by cases unsettled) avoids agreeAfter
  | mutateWithAudit closure auditFor =>
      exact kept audited_settles avoids agreeAfter
  | recordAcceptedDownstreamUse use =>
      simp only [VaultStore.perform, VaultStore.recordAcceptedDownstreamUse]
        at agreeAfter ⊢
      cases accepted : store.acceptedDownstreamPolicy use with
      | error error => exact unchanged rfl
      | ok admitted =>
          rw [accepted] at agreeAfter
          exact kept (fun _ _ _ unsettled => by cases unsettled)
            ⟨fun rescopes => rescopes, fun _ => trivial⟩ agreeAfter

theorem perform_keeps_scopes {call : StoreCall} {id : Uuid}
    (avoids : call.Avoids id) (agree : store.Agree)
    (fresh : call.Fresh primitives masterKey store)
    (leaves : LeavesNothingBehind env store.vault.memory
      (call.operated primitives masterKey store))
    {held : DownstreamLifecycle} (isHeld : store.lifecycle id = some held) :
    ∃ now, (store.perform primitives masterKey env call).lifecycle id =
      some now ∧ now.scopes = held.scopes := by
  rw [← lifecycle_of_database (perform_database_heard call)]
  exact perform_keeps_scopes_heard rfl avoids agree
    ((VaultStore.perform_agree_iff primitives masterKey env.heard rfl agree
      fresh).mpr leaves) isHeld

private theorem updated_scopes {id : Uuid} {scopes : List String}
    {fault : Option PersistStep} {disk : Disk} {state : VaultFile}
    {value : VaultValue}
    (succeeded : (((VaultOperation.updateDownstreamScopes id scopes).stage
      primitives masterKey state).run fault disk).1 = .ok value) :
    ∃ wanted downstream item, canonicalScopes scopes = .ok wanted ∧
      modifyFirst? (Vault.isActiveDownstream id)
        (fun item => { item with scopes := wanted }) state.downstream =
          some (downstream, item) ∧
      ((VaultOperation.updateDownstreamScopes id scopes).stage primitives
        masterKey state).state = { state with downstream } := by
  simp only [VaultOperation.stage, Staged.state_map] at succeeded ⊢
  unfold Vault.updateDownstreamScopes at succeeded ⊢
  cases canonical : canonicalScopes scopes with
  | error error =>
      rw [canonical] at succeeded
      cases succeeded
  | ok wanted =>
      rw [canonical] at succeeded
      simp only [Vault.editDownstream] at succeeded ⊢
      cases found : modifyFirst? (Vault.isActiveDownstream id)
          (fun item => { item with scopes := wanted }) state.downstream with
      | none =>
          rw [found] at succeeded
          cases succeeded
      | some edited => exact ⟨wanted, edited.1, edited.2, rfl, found, rfl⟩

private theorem find?_updated {id : Uuid} {wanted : List String}
    {before after : List StoredDownstream} {item : StoredDownstream}
    (distinct : (before.map StoredDownstream.id).Nodup)
    (found : modifyFirst? (Vault.isActiveDownstream id)
      (fun item => { item with scopes := wanted }) before =
        some (after, item)) :
    ∃ original, before.find? (fun item => item.id = id) = some original ∧
      after.find? (fun item => item.id = id) =
        some { original with scopes := wanted } := by
  obtain ⟨front, original, rest, rfl, -, selected, -, rfl⟩ :=
    modifyFirst?_eq_some found
  simp only [Vault.isActiveDownstream, Bool.and_eq_true, decide_eq_true_eq]
    at selected
  have others : front.find? (fun item => item.id = id) = none := by
    apply List.find?_eq_none.mpr
    intro other member same
    rw [List.map_append, List.nodup_append] at distinct
    refine distinct.2.2 _ (List.mem_map_of_mem member) _
      (List.mem_map_of_mem List.mem_cons_self) ?_
    exact (of_decide_eq_true same).trans selected.1.symm
  refine ⟨original, ?_, ?_⟩ <;>
    simp [List.find?_append, others, selected.1]

private theorem Shows.rescoped {item : StoredDownstream}
    {held now : DownstreamLifecycle} {wanted : List String}
    (shows_ : Shows item held)
    (showsNow : Shows { item with scopes := wanted } now) :
    now = { held with scopes := wanted } := by
  have digest : some now.digest = some held.digest :=
    showsNow.digest.symm.trans shows_.digest
  cases now
  cases held
  simp only [DownstreamLifecycle.mk.injEq]
  exact ⟨Option.some.inj digest, showsNow.scopes,
    showsNow.active.trans shows_.active.symm,
    showsNow.revokedAt.trans shows_.revokedAt.symm⟩

private theorem VaultStore.Agree.distinct (agree : store.Agree) :
    (store.vault.memory.downstream.map StoredDownstream.id).Nodup := by
  obtain ⟨database, snapshot, -, exported, same⟩ := agree
  have ids := exported_downstreamIds
    (downstreamRecords_exported (snapshotOf_eq_ok exported).2)
  exact ids ▸ same.downstreamIds

private theorem mutateWithAudit_rescopes_heard {pending : PendingUpdate}
    {fault : Option PersistStep} (heard : env.acknowledgement = .received)
    (agree : store.Agree)
    (agreeAfter : (store.perform primitives masterKey env
      (pending.call fault)).Agree)
    (commits : store.commits primitives masterKey env (pending.closure fault)
      (fun _ => some pending.audit) = true) :
    ∃ wanted, canonicalScopes pending.scopes = .ok wanted ∧
      (store.perform primitives masterKey env
        (pending.call fault)).lifecycle pending.id =
        (store.lifecycle pending.id).map fun held =>
          { held with scopes := wanted } := by
  rcases @operate_commits primitives masterKey env store _ _ _
      (pending.closure fault) (fun _ => some pending.audit)
      "rollback audited vault mutation" _
      heard (@audited_settles _ _ fun _ => pending.audit) with
    ⟨-, ⟨value, succeeded⟩, memory⟩ | ⟨aborts, -⟩
  · obtain ⟨wanted, downstream, item, canonical, found, edited⟩ :=
      updated_scopes succeeded
    refine ⟨wanted, canonical, ?_⟩
    obtain ⟨original, isOriginal, isNow⟩ := find?_updated agree.distinct found
    have shown := agree.shows_ pending.id
    have shownAfter := agreeAfter.shows_ pending.id
    have isAfter : (store.perform primitives masterKey env
        (pending.call fault)).memoryClient pending.id =
          some { original with scopes := wanted } := by
      refine (congrArg (fun memory : VaultFile =>
        memory.downstream.find? fun item => item.id = pending.id)
          (memory.trans edited)).trans ?_
      exact isNow
    rw [VaultStore.memoryClient, isOriginal] at shown
    rw [isAfter] at shownAfter
    generalize store.lifecycle pending.id = held at shown ⊢
    generalize (store.perform primitives masterKey env
      (pending.call fault)).lifecycle pending.id = now at shownAfter ⊢
    cases shown with
    | some shows_ =>
        cases shownAfter with
        | some showsNow =>
            rw [shows_.rescoped showsNow]
            rfl
  · rw [aborts] at commits
    cases commits

theorem mutateWithAudit_rescopes {pending : PendingUpdate}
    {fault : Option PersistStep} (agree : store.Agree)
    (leaves : LeavesNothingBehind env store.vault.memory
      ((pending.call fault).operated primitives masterKey store))
    (commits : store.commits primitives masterKey env (pending.closure fault)
      (fun _ => some pending.audit) = true) :
    ∃ wanted, canonicalScopes pending.scopes = .ok wanted ∧
      (store.perform primitives masterKey env
        (pending.call fault)).lifecycle pending.id =
        (store.lifecycle pending.id).map fun held =>
          { held with scopes := wanted } := by
  rw [← lifecycle_of_database (perform_database_heard (pending.call fault))]
  have fresh : (pending.call fault).Fresh primitives masterKey store :=
    ⟨trivial, trivial⟩
  exact mutateWithAudit_rescopes_heard rfl agree
    ((VaultStore.perform_agree_iff primitives masterKey env.heard rfl agree
      fresh).mpr leaves) commits

theorem mutateWithAudit_keeps {pending : PendingUpdate}
    {fault : Option PersistStep}
    (aborts : store.commits primitives masterKey env (pending.closure fault)
      (fun _ => some pending.audit) = false) (id : Uuid) :
    (store.perform primitives masterKey env (pending.call fault)).lifecycle
      id = store.lifecycle id := by
  rw [← lifecycle_of_database (perform_database_heard (pending.call fault))]
  rcases @operate_commits primitives masterKey env.heard store _ _ _
      (pending.closure fault) (fun _ => some pending.audit)
      "rollback audited vault mutation" _ rfl
      (@audited_settles _ _ fun _ => pending.audit) with
    ⟨commits, -, -⟩ | ⟨-, rows⟩
  · exact absurd (aborts.symm.trans commits) Bool.false_ne_true
  · exact lifecycle_of_database rows id

end Operate

namespace ClientWorld

variable (primitives : Primitives) (masterKey : MasterKey)

/-- What holds of every event of a run, in the world it happens in. -/
def EveryEvent (property : ClientWorld → ClientEvent → Prop)
    (world : ClientWorld) (events : List ClientEvent) : Prop :=
  ∀ made event rest, events = made ++ event :: rest →
    property (world.replay primitives masterKey made) event

/-- Identifiers are new, a call that changes a credential is neither dropped
before its commit nor left without the answer to it, and only PATCH requests
write the scopes of the client. -/
def Behaved (id : Uuid) (world : ClientWorld) : ClientEvent → Prop
  | .writes tag env fault =>
      ∀ pending, world.requests tag = some (.waiting pending) →
        LeavesNothingUnobserved env world.store.vault.memory
          ((pending.call fault).operated primitives masterKey world.store)
  | .calls env call =>
      call.Avoids id ∧ call.Fresh primitives masterKey world.store ∧
        LeavesNothingUnobserved env world.store.vault.memory
          (call.operated primitives masterKey world.store)
  | _ => True

/-- A PATCH request without scopes gets to write. -/
def Unscoped (id : Uuid) (world : ClientWorld) (event : ClientEvent) : Prop :=
  ∃ tag env fault pending, event = .writes tag env fault ∧
    world.requests tag = some (.waiting pending) ∧ pending.id = id ∧
      pending.patch.scopes = none

/-- A PATCH request without scopes commits only while the client still has the
scopes it has read. -/
def ReadsCurrent (id : Uuid) (world : ClientWorld) (event : ClientEvent) :
    Prop :=
  ∀ pending held, world.committing primitives masterKey id event =
      some pending → pending.patch.scopes = none →
    world.store.lifecycle id = some held →
      canonicalScopes pending.read.scopes = .ok held.scopes

variable {primitives : Primitives} {masterKey : MasterKey}

theorem everyEvent_nil {property : ClientWorld → ClientEvent → Prop}
    {world : ClientWorld} :
    EveryEvent primitives masterKey property world [] ↔ True := by
  refine iff_of_true (fun made event rest split => ?_) trivial
  simp at split

theorem everyEvent_cons {property : ClientWorld → ClientEvent → Prop}
    {world : ClientWorld} {event : ClientEvent} {rest : List ClientEvent} :
    EveryEvent primitives masterKey property world (event :: rest) ↔
      property world event ∧ EveryEvent primitives masterKey property
        (world.handle primitives masterKey event) rest := by
  constructor
  · intro every
    refine ⟨every [] event rest rfl, fun made later others split => ?_⟩
    exact every (event :: made) later others (by rw [split]; rfl)
  · intro ⟨first, others⟩ made later remaining split
    cases made with
    | nil =>
        cases split
        exact first
    | cons head made =>
        cases split
        exact others made later remaining rfl

/-- What one event does to the row of the client. -/
inductive Effect (primitives : Primitives) (masterKey : MasterKey) (id : Uuid)
    (world : ClientWorld) (event : ClientEvent) : Prop
  | commits (pending : PendingUpdate) (wanted : List String)
      (isCommitting : world.committing primitives masterKey id event =
        some pending)
      (canonical : canonicalScopes pending.scopes = .ok wanted)
      (written : (world.handle primitives masterKey event).store.lifecycle id =
        (world.store.lifecycle id).map fun held =>
          { held with scopes := wanted })
  | keeps (nothing : world.committing primitives masterKey id event = none)
      (scopes : ∀ held, world.store.lifecycle id = some held →
        ∃ now, (world.handle primitives masterKey event).store.lifecycle id =
          some now ∧ now.scopes = held.scopes)
      (unscoped : Unscoped id world event →
        (world.handle primitives masterKey event).store.lifecycle id =
          world.store.lifecycle id)

private theorem Effect.of_store {id : Uuid} {world : ClientWorld}
    {event : ClientEvent}
    (nothing : world.committing primitives masterKey id event = none)
    (same : (world.handle primitives masterKey event).store = world.store) :
    Effect primitives masterKey id world event := by
  refine .keeps nothing (fun held isHeld => ⟨held, ?_, rfl⟩) fun _ => ?_
  · rw [same]
    exact isHeld
  · rw [same]

theorem handle_arrives_store (world : ClientWorld) (tag : Nat)
    (id requestId : Uuid) (patch : ClientPatch) (readRefused : Bool)
    (now : Timestamp) :
    (world.handle primitives masterKey
      (.arrives tag id requestId patch readRefused now)).store =
        world.store := by
  unfold handle
  simp only
  split
  · rfl
  · split <;> rfl

theorem handle_reloads_store (world : ClientWorld) (tag : Nat)
    (readRefused : Bool) :
    (world.handle primitives masterKey (.reloads tag readRefused)).store =
      world.store := by
  unfold handle
  simp only
  split <;> rfl

private theorem handle_waiting {world : ClientWorld} {tag : Nat}
    {env : CallEnvironment} {fault : Option PersistStep}
    {pending : PendingUpdate}
    (waits : world.requests tag = some (.waiting pending)) :
    (world.handle primitives masterKey (.writes tag env fault)).store =
      world.store.perform primitives masterKey env (pending.call fault) := by
  unfold handle
  simp only [waits]
  rfl

private theorem handle_idle {world : ClientWorld} {tag : Nat}
    {env : CallEnvironment} {fault : Option PersistStep}
    (idle : ∀ pending, world.requests tag ≠ some (.waiting pending)) :
    world.handle primitives masterKey (.writes tag env fault) = world := by
  simp only [handle]

theorem handle_agree {id : Uuid} {world : ClientWorld} {event : ClientEvent}
    (agree : world.store.Agree)
    (behaved : Behaved primitives masterKey id world event) :
    (world.handle primitives masterKey event).store.Agree := by
  cases event with
  | arrives tag id requestId patch readRefused now =>
      rw [handle_arrives_store]
      exact agree
  | writes tag env fault =>
      by_cases waiting :
          ∃ pending, world.requests tag = some (.waiting pending)
      · obtain ⟨pending, waits⟩ := waiting
        have fresh : (pending.call fault).Fresh primitives masterKey
            world.store := ⟨trivial, trivial⟩
        rw [handle_waiting waits]
        exact VaultStore.perform_agree primitives masterKey env agree fresh
          (behaved pending waits)
      · rw [handle_idle fun pending waits => waiting ⟨pending, waits⟩]
        exact agree
  | reloads tag readRefused =>
      rw [handle_reloads_store]
      exact agree
  | leaves tag => exact agree
  | calls env call =>
      obtain ⟨-, fresh, keeps⟩ := behaved
      exact VaultStore.perform_agree primitives masterKey env agree fresh
        keeps

theorem handle_effect {id : Uuid} {world : ClientWorld} {event : ClientEvent}
    (agree : world.store.Agree)
    (behaved : Behaved primitives masterKey id world event) :
    Effect primitives masterKey id world event := by
  cases event with
  | arrives tag id requestId patch readRefused now =>
      exact .of_store rfl (handle_arrives_store world _ _ _ _ _ _)
  | reloads tag readRefused =>
      exact .of_store rfl (handle_reloads_store world _ _)
  | leaves tag => exact .of_store rfl rfl
  | calls env call =>
      refine .keeps rfl (fun held isHeld => ?_) ?_
      · obtain ⟨avoids, fresh, leaves⟩ := behaved
        exact perform_keeps_scopes avoids agree fresh leaves.behind isHeld
      · intro ⟨_, _, _, _, isWrite, _⟩
        cases isWrite
  | writes tag env fault =>
      by_cases waiting :
          ∃ pending, world.requests tag = some (.waiting pending)
      · obtain ⟨pending, waits⟩ := waiting
        have after := @handle_waiting primitives masterKey world tag env fault
          pending waits
        have leaves := (behaved pending waits).behind
        by_cases named : pending.id = id
        · subst named
          cases commits : world.store.commits primitives masterKey env
              (pending.closure fault) fun _ => some pending.audit with
          | true =>
              obtain ⟨wanted, canonical, written⟩ :=
                mutateWithAudit_rescopes agree leaves commits
              refine .commits pending wanted ?_ canonical ?_
              · simp [committing, waits, commits]
              · rw [after]
                exact written
          | false =>
              have unchanged := mutateWithAudit_keeps commits pending.id
              refine .keeps ?_ (fun held isHeld => ⟨held, ?_, rfl⟩)
                fun _ => ?_
              · simp [committing, waits, commits]
              · rw [after]
                exact unchanged.trans isHeld
              · rw [after]
                exact unchanged
        · refine .keeps ?_ (fun held isHeld => ?_) ?_
          · simp [committing, waits, named]
          · rw [after]
            have avoids : (pending.call fault).Avoids id :=
              ⟨named, fun _ => trivial⟩
            have fresh : (pending.call fault).Fresh primitives masterKey
              world.store := ⟨trivial, trivial⟩
            exact perform_keeps_scopes avoids agree fresh leaves isHeld
          · intro ⟨_, _, _, other, isWrite, isWaiting, isId, _⟩
            cases isWrite
            cases waits.symm.trans isWaiting
            exact absurd isId named
      · have idle : ∀ pending,
            world.requests tag ≠ some (.waiting pending) :=
          fun pending waits => waiting ⟨pending, waits⟩
        refine .of_store ?_ (congrArg store (handle_idle idle))
        simp only [committing]

section Runs

variable {store : VaultStore} {id : Uuid} {events : List ClientEvent}

theorem replay_snoc (world : ClientWorld) (made : List ClientEvent)
    (event : ClientEvent) :
    world.replay primitives masterKey (made ++ [event]) =
      (world.replay primitives masterKey made).handle primitives masterKey
        event := by
  simp only [replay, List.foldl_append, List.foldl_cons, List.foldl_nil]

/-- The scopes that an event commits because its request asks for them. -/
def requested (primitives : Primitives) (masterKey : MasterKey)
    (world : ClientWorld) (id : Uuid) (event : ClientEvent) :
    Option (List String) := do
  let pending ← world.committing primitives masterKey id event
  let scopes ← pending.patch.scopes
  (canonicalScopes scopes).toOption

theorem lastScopes_snoc (initial : List String) (world : ClientWorld)
    (made : List ClientEvent) (event : ClientEvent) :
    lastScopes primitives masterKey id initial world (made ++ [event]) =
      ((world.replay primitives masterKey made).requested primitives masterKey
        id event).getD
        (lastScopes primitives masterKey id initial world made) := by
  induction made generalizing initial world with
  | nil => rfl
  | cons first rest induction => exact induction _ _

theorem Effect.follows {world : ClientWorld} {event : ClientEvent}
    (effect : Effect primitives masterKey id world event)
    (current : ReadsCurrent primitives masterKey id world event)
    {held : DownstreamLifecycle} (isHeld : world.store.lifecycle id = some held)
    {last : List String} (follows : held.scopes = last) :
    ∃ now, (world.handle primitives masterKey event).store.lifecycle id =
      some now ∧
        now.scopes =
          (world.requested primitives masterKey id event).getD last := by
  subst follows
  cases effect with
  | keeps nothing scopes _ =>
      have none_ : world.requested primitives masterKey id event = none := by
        simp [requested, nothing]
      rw [none_]
      exact scopes held isHeld
  | commits pending wanted isCommitting canonical written =>
      rw [isHeld] at written
      refine ⟨_, written, ?_⟩
      cases asked : pending.patch.scopes with
      | some scopes =>
          rw [PendingUpdate.scopes, asked] at canonical
          have isRequested : world.requested primitives masterKey id event =
              some wanted := by
            simp only [requested, isCommitting, asked, Option.bind_eq_bind,
              Option.bind_some]
            exact congrArg Except.toOption canonical
          rw [isRequested]
          rfl
      | none =>
          rw [PendingUpdate.scopes, asked] at canonical
          have same := current pending held isCommitting asked isHeld
          have none_ : world.requested primitives masterKey id event = none :=
            by simp [requested, isCommitting, asked]
          rw [none_]
          exact Except.ok.inj (canonical.symm.trans same)

theorem Effect.unscoped_iff {world : ClientWorld} {event : ClientEvent}
    (effect : Effect primitives masterKey id world event)
    {held : DownstreamLifecycle}
    (isHeld : world.store.lifecycle id = some held) :
    (Unscoped id world event →
        (world.handle primitives masterKey event).store.lifecycle id =
          world.store.lifecycle id) ↔
      ReadsCurrent primitives masterKey id world event := by
  cases effect with
  | keeps nothing _ unscoped =>
      refine iff_of_true unscoped fun pending _ isCommitting => ?_
      cases nothing.symm.trans isCommitting
  | commits pending wanted isCommitting canonical written =>
      rw [written, isHeld, Option.map_some]
      constructor
      · intro keeps other current isOther asked isCurrent
        cases isCommitting.symm.trans isOther
        cases isHeld.symm.trans isCurrent
        rw [PendingUpdate.scopes, asked] at canonical
        have unscoped : Unscoped id world event := by
          unfold committing at isOther
          split at isOther
          · rename_i tag env fault
            split at isOther
            · rename_i waiting waits
              split at isOther
              · rename_i commits
                cases isOther
                exact ⟨tag, env, fault, _, rfl, waits, commits.1, asked⟩
              · cases isOther
            · cases isOther
          · cases isOther
        have same := Option.some.inj (keeps unscoped)
        have scopes : wanted = held.scopes :=
          congrArg DownstreamLifecycle.scopes same
        exact canonical.trans (congrArg Except.ok scopes)
      · intro current unscoped
        obtain ⟨tag, env, fault, other, rfl, waits, -, asked⟩ := unscoped
        have isOther : other = pending := by
          simp only [committing, waits] at isCommitting
          split at isCommitting
          · exact Option.some.inj isCommitting
          · cases isCommitting
        subst isOther
        rw [PendingUpdate.scopes, asked] at canonical
        have same := current other held isCommitting asked isHeld
        cases canonical.symm.trans same
        rfl

theorem no_lost_client_update {initial : DownstreamLifecycle}
    (agree : store.Agree) (present : store.lifecycle id = some initial)
    (behaved : EveryEvent primitives masterKey
      (Behaved primitives masterKey id) (start store) events) :
    ((∀ made rest, events = made ++ rest →
        ∃ now, ((start store).replay primitives masterKey made).store.lifecycle
          id = some now ∧
            now.scopes = lastScopes primitives masterKey id initial.scopes
              (start store) made) ∧
      EveryEvent primitives masterKey
        (fun world event => Unscoped id world event →
          (world.handle primitives masterKey event).store.lifecycle id =
            world.store.lifecycle id) (start store) events) ↔
      EveryEvent primitives masterKey
        (ReadsCurrent primitives masterKey id) (start store) events := by
  have agrees : ∀ made rest, events = made ++ rest →
      ((start store).replay primitives masterKey made).store.Agree := by
    intro made
    induction made using List.reverseRecOn with
    | nil =>
        intro _ _
        exact agree
    | append_singleton made event induction =>
        intro rest split
        have earlier : events = made ++ event :: rest := by simp [split]
        rw [replay_snoc]
        exact handle_agree (induction _ earlier) (behaved _ _ _ earlier)
  have effect : EveryEvent primitives masterKey
      (Effect primitives masterKey id) (start store) events := by
    intro made event rest split
    exact handle_effect (agrees made _ split) (behaved made event rest split)
  constructor
  · intro ⟨follows, unscoped⟩ made event rest split
    obtain ⟨held, isHeld, -⟩ := follows made _ split
    exact ((effect made event rest split).unscoped_iff isHeld).mp
      (unscoped made event rest split)
  · intro current
    -- The client is there, with the scopes last asked for, all along.
    have follows : ∀ made rest, events = made ++ rest →
        ∃ now, ((start store).replay primitives masterKey made).store.lifecycle
          id = some now ∧
            now.scopes = lastScopes primitives masterKey id initial.scopes
              (start store) made := by
      intro made
      induction made using List.reverseRecOn with
      | nil =>
          intro _ _
          exact ⟨initial, present, rfl⟩
      | append_singleton made event induction =>
          intro rest split
          have earlier : events = made ++ event :: rest := by simp [split]
          obtain ⟨held, isHeld, follows⟩ := induction _ earlier
          rw [replay_snoc, lastScopes_snoc]
          exact (effect made event rest earlier).follows
            (current made event rest earlier) isHeld follows
    refine ⟨follows, ?_⟩
    intro made event rest split
    obtain ⟨held, isHeld, -⟩ := follows made _ split
    exact ((effect made event rest split).unscoped_iff isHeld).mpr
      (current made event rest split)

end Runs

namespace Sample

def digest : List UInt8 := List.replicate 32 9

def vault : VaultFile :=
  { VaultFile.empty with
    downstream := [{
      id := 5
      label := "reader"
      scopes := ["models:read"]
      tokenDigest := hexEncode digest
      active := true
      requestCount := 0
      lastUsedAt := none
      createdAt := 0
      revokedAt := none }] }

def row : DownstreamCredentialRow where
  id := 5
  label := "reader"
  digest := digest
  scopes := ["models:read"]
  active := true
  requestCount := 0
  lastUsedAt := none
  createdAt := 0
  revokedAt := none
  keyPrefix := "issued_"
  rotatedAt := none
  expiresAt := none
  modelAllowlist := none
  rpmLimit := none
  maxConcurrency := none
  requestLimitDay := none

def record : VaultDownstreamRecord where
  id := 5
  label := "reader"
  scopes := ["models:read"]
  tokenDigest := digest
  active := true
  requestCount := 0
  lastUsedAt := none
  createdAt := 0
  revokedAt := none

def database : Database :=
  { Database.migrated .empty with
    downstreamCredentials := { rows := [row], nodup := by decide } }

def store : VaultStore where
  vault := { memory := vault, disk := { temporary := none, committed := none } }
  database := some database

def limiting : ClientPatch where
  scopes := none
  expiresAt := .missing
  modelAllowlist := .missing
  rpmLimit := .value 5
  maxConcurrency := .missing
  requestLimitDay := .missing

def widening : ClientPatch :=
  { limiting with scopes := some ["chat:write"], rpmLimit := .missing }

def quietly (auditId : Uuid) : CallEnvironment :=
  { quietEnvironment with auditId }

def interleaved : List ClientEvent := [
  .arrives 0 5 100 limiting false 0,
  .arrives 1 5 101 widening false 0,
  .writes 0 (quietly 1) none,
  .writes 1 (quietly 2) none]

def overtaken : List ClientEvent := [
  .arrives 0 5 100 limiting false 0,
  .arrives 1 5 101 widening false 0,
  .writes 1 (quietly 1) none,
  .writes 0 (quietly 2) none]

def initial : DownstreamLifecycle :=
  ⟨digest, ["models:read"], true, none⟩

private theorem vault_exported :
    Vault.downstreamRecords vault = .ok [record] := by
  simp [Vault.downstreamRecords, vault, Vault.downstreamRecord, record,
    Vault.decodeField, Bind.bind, Except.bind, Pure.pure, Except.pure]

theorem store_agree : store.Agree := by
  have exported : snapshotOf vault = .ok {
      keys := []
      downstream := [record]
      cursors := profiles.map fun profile =>
        (profile, Vault.routerCursorFor profile vault) } := by
    unfold snapshotOf
    rw [vault_exported]
    rfl
  refine ⟨database, _, rfl, exported, List.nodup_nil,
    List.nodup_singleton _, rfl, ?_⟩
  funext id
  simp only [through, Database.downstreamView, database, Table.find?,
    snapshotView, List.find?_cons, List.find?_nil, row, record]
  cases decide ((5 : Uuid) = id) <;> rfl

abbrev ends (events : List ClientEvent) : ClientWorld :=
  (start store).replay (Primitives.tabulated []) (Vector.replicate 32 0) events

abbrev Every (property : ClientWorld → ClientEvent → Prop)
    (events : List ClientEvent) : Prop :=
  EveryEvent (Primitives.tabulated []) (Vector.replicate 32 0) property
    (start store) events

private theorem quietly_leaves (auditId : Uuid) (memory : VaultFile)
    (operated : Option VaultFile) :
    LeavesNothingUnobserved (quietly auditId) memory operated := by
  intro unobserved
  exact absurd quietEnvironment_observed unobserved

private theorem interleaved_behaved :
    Every (Behaved (Primitives.tabulated []) (Vector.replicate 32 0) 5)
      interleaved := by
  simp only [Every, interleaved, everyEvent_cons, everyEvent_nil, and_true]
  exact ⟨trivial, trivial, fun _ _ => quietly_leaves _ _ _,
    fun _ _ => quietly_leaves _ _ _⟩

private theorem interleaved_current :
    Every (ReadsCurrent (Primitives.tabulated []) (Vector.replicate 32 0) 5)
      interleaved := by
  simp only [Every, interleaved, everyEvent_cons, everyEvent_nil, and_true]
  refine ⟨?_, ?_, ?_, ?_⟩
  · intro pending held isCommitting
    cases isCommitting
  · intro pending held isCommitting
    cases isCommitting
  · intro pending held isCommitting _ isHeld
    have known : (ends (interleaved.take 2)).committing
          (Primitives.tabulated []) (Vector.replicate 32 0) 5
          (.writes 0 (quietly 1) none) =
        some ⟨5, limiting, clientFromRow row, 100⟩ := by decide +kernel
    cases known.symm.trans isCommitting
    cases isHeld
    rfl
  · intro pending held isCommitting unscoped
    have known : (ends (interleaved.take 3)).committing
          (Primitives.tabulated []) (Vector.replicate 32 0) 5
          (.writes 1 (quietly 2) none) =
        some ⟨5, widening, clientFromRow row, 101⟩ := by decide +kernel
    cases known.symm.trans isCommitting
    cases unscoped

/-- The request without scopes writes before the other one does: the client is
left with the scopes that were asked for. -/
theorem no_lost_client_update_interleaved :
    (∃ now, (ends interleaved).store.lifecycle 5 = some now ∧
      now.scopes = ["chat:write"]) ∧
      Every (fun world event => Unscoped 5 world event →
        (world.handle (Primitives.tabulated []) (Vector.replicate 32 0)
          event).store.lifecycle 5 = world.store.lifecycle 5) interleaved := by
  have holds := (@no_lost_client_update (Primitives.tabulated [])
    (Vector.replicate 32 0) store 5 interleaved initial store_agree rfl
    interleaved_behaved).mpr interleaved_current
  have last : lastScopes (Primitives.tabulated []) (Vector.replicate 32 0) 5
      initial.scopes (start store) interleaved = ["chat:write"] := by
    decide +kernel
  exact ⟨last ▸ holds.1 interleaved [] (List.append_nil _).symm, holds.2⟩

/-- The request without scopes writes back the scopes it read before the other
one committed: the client is left with the ones it had at the start. -/
theorem stale_scopes_written_back :
    store.Agree ∧
      Every (Behaved (Primitives.tabulated []) (Vector.replicate 32 0) 5)
        overtaken ∧
      lastScopes (Primitives.tabulated []) (Vector.replicate 32 0) 5
        initial.scopes (start store) overtaken = ["chat:write"] ∧
      (ends overtaken).store.lifecycle 5 = some initial := by
  refine ⟨store_agree, ?_, by decide +kernel, by decide +kernel⟩
  simp only [Every, overtaken, everyEvent_cons, everyEvent_nil, and_true]
  exact ⟨trivial, trivial, fun _ _ => quietly_leaves _ _ _,
    fun _ _ => quietly_leaves _ _ _⟩

end Sample

end ClientWorld

end NvidiaBuildLb.Gateway
