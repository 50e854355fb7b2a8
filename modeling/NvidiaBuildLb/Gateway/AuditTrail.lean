import NvidiaBuildLb.Gateway.LostUpdates
import NvidiaBuildLb.Gateway.SyncFrames

namespace NvidiaBuildLb.Gateway

open Foundation NvidiaBuildLb.Core
open Transaction (Untouched)

/-! The audit trail of the vault store: an audited call that commits adds its
event, and nothing else touches the events. -/

/-- The row an audited mutation adds. -/
def VaultAuditMutation.event (auditId : Uuid) (audit : VaultAuditMutation) :
    AuditEventRow where
  id := auditId
  action := audit.action
  resourceKind := audit.resourceKind
  resourceId := audit.resourceId
  requestId := audit.requestId
  outcome := "succeeded"
  detail := audit.detail

section Sync

variable {now : Micros} {auditId : Uuid} {previous current : VaultSyncSnapshot}
  {audit : Option VaultAuditMutation}

def eventOf (auditId : Uuid) (audit : Option VaultAuditMutation) : List AuditEventRow :=
  (audit.map fun mutation => mutation.event auditId).toList

theorem insertAuditEvent_ensures (held : Table AuditEventRow.id)
    (mutation : VaultAuditMutation) :
    Transaction.Ensures (fun rows => rows.auditEvents = held)
      (insertAuditEvent auditId mutation) fun recorded rows =>
        recorded = auditId ∧
          rows.auditEvents.rows = held.rows ++ [mutation.event auditId] := by
  apply Transaction.Ensures.execute
  intro rows recorded rows' same answered
  obtain ⟨auditEvents, inserted, stored⟩ := Option.map_eq_some_iff.mp answered
  cases stored
  rw [← same]
  exact ⟨rfl, (Table.insert?_eq_some inserted).2⟩

theorem recordIfAudited_ensures (held : Table AuditEventRow.id) :
    Transaction.Ensures (fun rows => rows.auditEvents = held)
      (recordIfAudited now auditId audit) fun recorded rows =>
        recorded = audit.map (fun _ => auditId) ∧
          rows.auditEvents.rows = held.rows ++ eventOf auditId audit := by
  cases audit with
  | none =>
      apply Transaction.Ensures.pure
      intro rows same
      rw [same]
      exact ⟨rfl, (List.append_nil _).symm⟩
  | some mutation =>
      refine Transaction.Ensures.bind
        (fun recorded rows => recorded = auditId ∧
          rows.auditEvents.rows = held.rows ++ [mutation.event auditId]) ?_
        fun recorded => ?_
      · refine Transaction.Ensures.bind _ (Untouched.optional
          (applyClientPolicy_leaves fun _ _ => rfl) _ held) fun _ => ?_
        refine Transaction.Ensures.bind _ (Untouched.optional
          (recordProbe_leaves (fun _ _ => rfl) (fun _ _ => rfl) now) _ held) fun _ => ?_
        exact insertAuditEvent_ensures held mutation
      · apply Transaction.Ensures.pure
        rintro rows ⟨rfl, added⟩
        exact ⟨rfl, added⟩

theorem syncDatabaseDelta_events {refuses : Nat → Bool} {database rows : Database}
    {recorded : Option Uuid}
    (ran : syncDatabaseDelta now auditId previous current audit refuses .received database =
      (.ok recorded, rows)) :
    recorded = audit.map (fun _ => auditId) ∧
      rows.auditEvents.rows = database.auditEvents.rows ++ eventOf auditId audit := by
  have ensured : Transaction.Ensures
      (fun rows : Database => rows.auditEvents = database.auditEvents)
      (syncDatabaseDeltaBody now auditId previous current audit) fun recorded rows =>
        recorded = audit.map (fun _ => auditId) ∧
          rows.auditEvents.rows = database.auditEvents.rows ++ eventOf auditId audit := by
    refine Transaction.Ensures.bind _ (control_leaves _ _) fun _ => ?_
    refine Transaction.Ensures.bind _ (control_leaves _ _) fun _ => ?_
    refine Transaction.Ensures.bind _ (Untouched.forM
      (syncKey_leaves (fun _ _ => rfl) (fun _ _ => rfl) now _) _) fun _ => ?_
    refine Transaction.Ensures.bind _ (Untouched.forM
      (syncDownstream_leaves (fun _ _ => rfl) now _) _) fun _ => ?_
    refine Transaction.Ensures.bind _ (Untouched.forM
      (syncCursor_leaves (fun _ _ => rfl) _ _) _) fun _ => ?_
    refine Transaction.Ensures.bind _ (recordIfAudited_ensures _) fun recorded => ?_
    refine Transaction.Ensures.bind (fun _ rows =>
      recorded = audit.map (fun _ => auditId) ∧
        rows.auditEvents.rows = database.auditEvents.rows ++ eventOf auditId audit)
      ?_ fun _ => ?_
    · apply Transaction.Ensures.execute
      intro rows answer rows' holds answered
      cases answered
      exact holds
    · exact Transaction.Ensures.pure fun rows holds => holds
  obtain ⟨-, ran⟩ := syncDatabaseDelta_eq_ok.mp ran
  have ended := ensured.transact rfl (congrArg Prod.fst ran)
  rwa [ran] at ended

end Sync

/-- How a call ends for its caller. -/
inductive CallAnswer where
  | dropped
  | failed
  | succeeded (auditEventId : Option Uuid)
  deriving DecidableEq, Repr

def CallEnd.answer (eventId : α → Option Uuid) (ended : CallEnd ε α) : CallAnswer :=
  match ended.returned with
  | none => .dropped
  | some (.error _) => .failed
  | some (.ok value) => .succeeded (eventId value)

section Calls

variable (primitives : Primitives) (masterKey : MasterKey)

def VaultStore.answer (env : CallEnvironment) (store : VaultStore) : StoreCall → CallAnswer
  | .mutate closure =>
      (store.mutate primitives masterKey env closure).answer fun _ => none
  | .mutateWithAudit closure auditFor =>
      (store.mutateWithAudit primitives masterKey env closure auditFor).answer
        fun value => some value.2
  | .recordAcceptedDownstreamUse use =>
      (store.recordAcceptedDownstreamUse primitives masterKey env use).answer
        fun _ => none

namespace StoreCall

def audit (store : VaultStore) : StoreCall → Option VaultAuditMutation
  | .mutateWithAudit closure auditFor =>
      (closure.run primitives masterKey store.vault).1.toOption.map auditFor
  | _ => none

def commits (env : CallEnvironment) (store : VaultStore) : StoreCall → Bool
  | .mutate closure => store.commits primitives masterKey env closure fun _ => none
  | .mutateWithAudit closure auditFor =>
      store.commits primitives masterKey env closure fun result => some (auditFor result)
  | .recordAcceptedDownstreamUse use =>
      (store.acceptedDownstreamPolicy use).isOk &&
        store.commits primitives masterKey env use.closure fun _ => none

def events (env : CallEnvironment) (store : VaultStore) (call : StoreCall) :
    List AuditEventRow :=
  if call.commits primitives masterKey env store then
    eventOf env.auditId (call.audit primitives masterKey store)
  else
    []

end StoreCall

end Calls

section Operate

variable {primitives : Primitives} {masterKey : MasterKey} {env : CallEnvironment}
  {store : VaultStore} {database : Database}

/-- A call commits and cannot fail any more, unless the answer to its COMMIT is
lost, or it leaves the rows alone and cannot succeed. -/
inductive OperateEnds (primitives : Primitives) (masterKey : MasterKey)
    (env : CallEnvironment) (store : VaultStore) (database : Database)
    (closure : Closure ε α) (auditFor : α → Option VaultAuditMutation)
    (settle : α → Option Uuid → Except (StoreError ε) β) :
    CallEnd (StoreError ε) β → Prop
  | committed {ended : CallEnd (StoreError ε) β} {result : α} {rows : Database}
      (succeeded : (closure.run primitives masterKey store.vault).1 = .ok result)
      (commits : store.commits primitives masterKey env closure auditFor = true)
      (present : ended.store.database = some rows)
      (events : rows.auditEvents.rows =
        database.auditEvents.rows ++ eventOf env.auditId (auditFor result))
      (returned : ended.returned = none ∨
        (∃ value, settle result ((auditFor result).map fun _ => env.auditId) = .ok value ∧
          ended.returned = some (.ok value)) ∨
        env.dropped = none ∧ env.acknowledgement = .lost ∧
          ∃ error, ended.returned = some (.error error)) :
      OperateEnds primitives masterKey env store database closure auditFor settle ended
  | abandoned {ended : CallEnd (StoreError ε) β}
      (uncommitted : store.commits primitives masterKey env closure auditFor = false)
      (present : ended.store.database = some database)
      (returned : ∀ value, ended.returned ≠ some (.ok value)) :
      OperateEnds primitives masterKey env store database closure auditFor settle ended

theorem operate_ends {closure : Closure ε α} {auditFor : α → Option VaultAuditMutation}
    {context : String} {settle : α → Option Uuid → Except (StoreError ε) β}
    (settles : ∀ result recorded error, settle result recorded = .error error →
      recorded = none ∧ auditFor result ≠ none)
    (present : store.database = some database) :
    OperateEnds primitives masterKey env store database closure auditFor settle
      (store.operate primitives masterKey env closure auditFor context settle) := by
  have failing : ∀ error value,
      some (.error error : Except (StoreError ε) β) ≠ some (.ok value) := by
    intros
    simp
  have silent : ∀ value, (none : Option (Except (StoreError ε) β)) ≠ some (.ok value) := by
    intros
    simp
  unfold VaultStore.operate
  cases ran : closure.run primitives masterKey store.vault with
  | mk answer vault =>
  cases answer with
  | error error =>
      exact .abandoned (by simp [VaultStore.commits, ran]) present fun _ => failing _ _
  | ok result =>
  simp only [VaultStore.syncUnlockedWithAudit, present]
  cases isCurrent : snapshotOf vault.memory with
  | error error =>
      refine .abandoned ?_ rfl fun _ => failing _ _
      simp [VaultStore.commits, ran, present, isCurrent]
  | ok current =>
  cases isBefore : snapshotOf store.vault.memory with
  | error error =>
      refine .abandoned ?_ rfl fun _ => failing _ _
      simp [VaultStore.commits, ran, present, isCurrent, isBefore]
  | ok before =>
  simp only
  cases synced : syncDatabaseDelta env.now env.auditId before current (auditFor result)
      env.refuses .received database with
  | mk outcome rows =>
  cases outcome with
  | error error =>
      have uncommitted :
          store.commits primitives masterKey env closure auditFor = false := by
        simp [VaultStore.commits, ran, present, isCurrent, isBefore, synced, Except.isOk,
          Except.toBool]
      have refused : ∀ acknowledgement, ∃ error,
          syncDatabaseDelta env.now env.auditId before current (auditFor result)
            env.refuses acknowledgement database = (.error error, database) := by
        intro acknowledgement
        cases ran : syncDatabaseDelta env.now env.auditId before current (auditFor result)
            env.refuses acknowledgement database with
        | mk answer after =>
        cases answer with
        | ok recorded =>
            obtain ⟨rfl, -⟩ := syncDatabaseDelta_eq_ok.mp ran
            cases ran.symm.trans synced
        | error other =>
            rcases syncDatabaseDelta_error ran with rfl | ⟨-, -, recorded, committed⟩
            · exact ⟨other, rfl⟩
            · cases committed.symm.trans synced
      cases drops : env.dropped with
      | none =>
          obtain ⟨other, isOther⟩ := refused env.acknowledgement
          refine .abandoned uncommitted ?_ ?_ <;>
            simp [VaultStore.observeSync, drops, isOther, VaultStore.abandon, Except.mapError]
      | some moment =>
          obtain ⟨other, isOther⟩ := refused .received
          cases moment with
          | beforeCommit =>
              refine .abandoned uncommitted ?_ ?_ <;>
                simp [VaultStore.observeSync, drops]
          | afterCommit =>
              refine .abandoned uncommitted ?_ ?_ <;>
                simp [VaultStore.observeSync, drops, isOther, VaultStore.abandon]
  | ok recorded =>
      obtain ⟨isRecorded, added⟩ := syncDatabaseDelta_events synced
      have committing : env.dropped ≠ some .beforeCommit →
          store.commits primitives masterKey env closure auditFor = true := by
        intro kept
        simp [VaultStore.commits, ran, present, isCurrent, isBefore, synced, kept,
          Except.isOk, Except.toBool]
      simp only [VaultStore.observeSync]
      cases drops : env.dropped with
      | some moment =>
          cases moment with
          | beforeCommit =>
              refine .abandoned ?_ rfl silent
              simp [VaultStore.commits, ran, present, isCurrent, isBefore, drops]
          | afterCommit =>
              simp only [synced]
              exact .committed (congrArg Prod.fst ran) (committing (by simp [drops])) rfl
                added (.inl rfl)
      | none =>
          have commits := committing (by simp [drops])
          cases heard : env.acknowledgement with
          | lost =>
              simp only [syncDatabaseDelta_lost synced, Except.mapError]
              exact .committed (congrArg Prod.fst ran) commits rfl added
                (.inr (.inr ⟨drops, heard, _, rfl⟩))
          | received =>
              simp only [synced, Except.mapError]
              cases settled : settle result recorded with
              | ok value =>
                  refine .committed (congrArg Prod.fst ran) commits rfl added
                    (.inr (.inl ⟨value, ?_, rfl⟩))
                  rw [← isRecorded, settled]
              | error error =>
                  obtain ⟨isNone, audited⟩ := settles _ _ _ settled
                  rw [isRecorded, Option.map_eq_none_iff] at isNone
                  exact absurd isNone audited

end Operate

def StoreCall.isAudited : StoreCall → Bool
  | .mutateWithAudit _ _ => true
  | _ => false

section Accounts

variable (primitives : Primitives) (masterKey : MasterKey)

/-- How a call on these rows is accounted for. -/
structure Accounted (env : CallEnvironment) (store : VaultStore) (database : Database)
    (call : StoreCall) : Prop where
  added : ∃ rows, (store.perform primitives masterKey env call).database = some rows ∧
    rows.auditEvents.rows =
      database.auditEvents.rows ++ call.events primitives masterKey env store
  succeeded : ∀ auditEventId, call.isAudited = true →
    store.answer primitives masterKey env call = .succeeded auditEventId →
      ∃ mutation id, call.audit primitives masterKey store = some mutation ∧
        auditEventId = some id ∧
        call.events primitives masterKey env store = [mutation.event id]
  failed : store.answer primitives masterKey env call = .failed →
    (store.perform primitives masterKey env call).database = some database ∨
      call.commits primitives masterKey env store = true ∧ env.dropped = none ∧
        env.acknowledgement = .lost
  unrecorded : call.isAudited = true → call.events primitives masterKey env store = [] →
    (store.perform primitives masterKey env call).database = some database

variable {primitives masterKey}
variable {env : CallEnvironment} {store : VaultStore} {database : Database}

theorem OperateEnds.unaudited {closure : Closure ε α}
    {settle : α → Option Uuid → Except (StoreError ε) β}
    {ended : CallEnd (StoreError ε) β}
    (ends : OperateEnds primitives masterKey env store database closure (fun _ => none)
      settle ended) :
    (∃ rows, ended.store.database = some rows ∧
      rows.auditEvents.rows = database.auditEvents.rows) ∧
      ((∃ error, ended.returned = some (.error error)) →
        ended.store.database = some database ∨
          store.commits primitives masterKey env closure (fun _ => none) = true ∧
            env.dropped = none ∧ env.acknowledgement = .lost) := by
  cases ends with
  | committed succeeded commits present events returned =>
      refine ⟨⟨_, present, by simpa [eventOf] using events⟩, ?_⟩
      rintro ⟨error, isError⟩
      rcases returned with isNone | ⟨value, -, isValue⟩ | ⟨drops, lost, -⟩
      · rw [isNone] at isError
        cases isError
      · rw [isValue] at isError
        cases isError
      · exact .inr ⟨commits, drops, lost⟩
  | abandoned uncommitted present returned =>
      exact ⟨⟨database, present, rfl⟩, fun _ => .inl present⟩

theorem CallEnd.answer_failed {eventId : α → Option Uuid} {ended : CallEnd ε α}
    (failed : ended.answer eventId = .failed) :
    ∃ error, ended.returned = some (.error error) := by
  unfold CallEnd.answer at failed
  split at failed
  · cases failed
  · exact ⟨_, ‹_›⟩
  · cases failed

theorem CallEnd.answer_succeeded {eventId : α → Option Uuid} {ended : CallEnd ε α}
    {auditEventId : Option Uuid} (succeeded : ended.answer eventId = .succeeded auditEventId) :
    ∃ value, ended.returned = some (.ok value) := by
  unfold CallEnd.answer at succeeded
  split at succeeded
  · cases succeeded
  · cases succeeded
  · exact ⟨_, ‹_›⟩

theorem StoreCall.events_unaudited {call : StoreCall} (unaudited : call.isAudited = false) :
    call.events primitives masterKey env store = [] := by
  unfold StoreCall.events
  cases call with
  | mutate closure => exact ite_self _
  | mutateWithAudit closure auditFor => cases unaudited
  | recordAcceptedDownstreamUse use => exact ite_self _

private theorem accounted_unaudited {call : StoreCall} (unaudited : call.isAudited = false)
    (added : ∃ rows, (store.perform primitives masterKey env call).database = some rows ∧
      rows.auditEvents.rows = database.auditEvents.rows)
    (failed : store.answer primitives masterKey env call = .failed →
      (store.perform primitives masterKey env call).database = some database ∨
        call.commits primitives masterKey env store = true ∧ env.dropped = none ∧
          env.acknowledgement = .lost) :
    Accounted primitives masterKey env store database call where
  added := by
    rw [StoreCall.events_unaudited unaudited, List.append_nil]
    exact added
  succeeded := by
    intro auditEventId audited
    rw [unaudited] at audited
    cases audited
  failed := failed
  unrecorded := by
    intro audited
    rw [unaudited] at audited
    cases audited

def settleAudited (result : α) : Option Uuid → Except (StoreError ε) (α × Uuid)
  | some auditId => .ok (result, auditId)
  | none => .error (.bail "audited mutation requires PostgreSQL")

theorem settleAudited_error {auditFor : α → VaultAuditMutation} (result : α)
    (recorded : Option Uuid) (error : StoreError ε)
    (unsettled : settleAudited result recorded = .error error) :
    recorded = none ∧ some (auditFor result) ≠ none := by
  cases recorded with
  | none => exact ⟨rfl, Option.some_ne_none _⟩
  | some auditId => cases unsettled

private theorem accounted_audited {closure : Closure ε α}
    {auditFor : α → VaultAuditMutation} (present : store.database = some database) :
    Accounted primitives masterKey env store database (.mutateWithAudit closure auditFor) := by
  have ends : OperateEnds primitives masterKey env store database closure
      (fun result => some (auditFor result)) settleAudited
      (store.mutateWithAudit primitives masterKey env closure auditFor) :=
    operate_ends settleAudited_error present
  have answers : store.answer primitives masterKey env (.mutateWithAudit closure auditFor) =
      (store.mutateWithAudit primitives masterKey env closure auditFor).answer
        fun value => some value.2 := rfl
  cases ends with
  | @committed result rows succeeded commits isRows events returned =>
      have left : (StoreCall.mutateWithAudit closure auditFor).events primitives masterKey env
          store = [(auditFor result).event env.auditId] := by
        simp only [StoreCall.events, StoreCall.commits, commits, if_true, StoreCall.audit,
          succeeded]
        rfl
      have answered : store.answer primitives masterKey env
            (.mutateWithAudit closure auditFor) = .dropped ∨
          store.answer primitives masterKey env (.mutateWithAudit closure auditFor) =
            .succeeded (some env.auditId) ∨
          store.answer primitives masterKey env (.mutateWithAudit closure auditFor) =
            .failed ∧ env.dropped = none ∧ env.acknowledgement = .lost := by
        rcases returned with isNone | ⟨value, settled, isValue⟩ |
          ⟨drops, lost, error, isError⟩
        · left
          rw [answers, CallEnd.answer, isNone]
        · right
          left
          cases settled
          rw [answers, CallEnd.answer, isValue]
        · right
          right
          rw [answers, CallEnd.answer, isError]
          exact ⟨rfl, drops, lost⟩
      refine ⟨⟨rows, isRows, ?_⟩, ?_, ?_, ?_⟩
      · rw [left]
        exact events
      · intro auditEventId _ isSuccess
        rcases answered with isDropped | isSucceeded | ⟨isFailed, -⟩
        · rw [isDropped] at isSuccess
          cases isSuccess
        · rw [isSucceeded] at isSuccess
          cases isSuccess
          exact ⟨auditFor result, env.auditId, by simp [StoreCall.audit, succeeded,
            Except.toOption], rfl, left⟩
        · rw [isFailed] at isSuccess
          cases isSuccess
      · intro isFailure
        rcases answered with isDropped | isSucceeded | ⟨-, drops, lost⟩
        · rw [isDropped] at isFailure
          cases isFailure
        · rw [isSucceeded] at isFailure
          cases isFailure
        · exact .inr ⟨commits, drops, lost⟩
      · intro _ isEmpty
        rw [left] at isEmpty
        cases isEmpty
  | abandoned uncommitted isRows returned =>
      have nothing : (StoreCall.mutateWithAudit closure auditFor).events primitives masterKey
          env store = [] := by
        simp only [StoreCall.events, StoreCall.commits, uncommitted]
        rfl
      refine ⟨⟨database, isRows, ?_⟩, ?_, fun _ => .inl isRows, fun _ _ => isRows⟩
      · rw [nothing, List.append_nil]
      · intro auditEventId _ isSuccess
        rw [answers] at isSuccess
        obtain ⟨value, isValue⟩ := CallEnd.answer_succeeded isSuccess
        exact absurd isValue (returned value)

theorem perform_accounted (present : store.database = some database) (call : StoreCall) :
    Accounted primitives masterKey env store database call := by
  cases call with
  | mutate closure =>
      have ends : OperateEnds primitives masterKey env store database closure (fun _ => none)
          (fun result _ => .ok result) (store.mutate primitives masterKey env closure) :=
        operate_ends (fun _ _ _ unsettled => by cases unsettled) present
      exact accounted_unaudited rfl ends.unaudited.1 fun failed =>
        ends.unaudited.2 (CallEnd.answer_failed failed)
  | mutateWithAudit closure auditFor => exact accounted_audited present
  | recordAcceptedDownstreamUse use =>
      cases policy : store.acceptedDownstreamPolicy use with
      | error error =>
          have same : store.perform primitives masterKey env
              (.recordAcceptedDownstreamUse use) = store := by
            simp only [VaultStore.perform, VaultStore.recordAcceptedDownstreamUse, policy]
          refine accounted_unaudited rfl ⟨database, ?_, rfl⟩ fun _ => .inl ?_
          · rw [same, present]
          · rw [same, present]
      | ok admitted =>
          have ends : OperateEnds primitives masterKey env store database use.closure
              (fun _ => none) (fun _ _ => .ok ())
              (store.operate primitives masterKey env use.closure (fun _ => none) ""
                fun _ _ => .ok ()) :=
            operate_ends (fun _ _ _ unsettled => by cases unsettled) present
          refine accounted_unaudited rfl ?_ fun failed => ?_
          · simp only [VaultStore.perform, VaultStore.recordAcceptedDownstreamUse, policy]
            exact ends.unaudited.1
          · obtain ⟨error, isError⟩ := CallEnd.answer_failed failed
            simp only [VaultStore.recordAcceptedDownstreamUse, policy] at isError
            obtain ⟨answer, isAnswer, mapped⟩ := Option.map_eq_some_iff.mp isError
            simp only [VaultStore.perform, VaultStore.recordAcceptedDownstreamUse,
              StoreCall.commits, policy]
            cases answer with
            | ok value => cases mapped
            | error cause => exact ends.unaudited.2 ⟨cause, isAnswer⟩

end Accounts

section Runs

variable (primitives : Primitives) (masterKey : MasterKey)

/-- The events of the calls that commit, in the order of the calls. -/
def trail : VaultStore → List (CallEnvironment × StoreCall) → List AuditEventRow
  | _, [] => []
  | store, (env, call) :: rest =>
      call.events primitives masterKey env store ++
        trail (store.perform primitives masterKey env call) rest

variable {store : VaultStore} {database : Database}

theorem replay_trail (present : store.database = some database)
    (calls : List (CallEnvironment × StoreCall)) :
    ∃ rows, (store.replay primitives masterKey calls).database = some rows ∧
      rows.auditEvents.rows =
        database.auditEvents.rows ++ trail primitives masterKey store calls := by
  induction calls generalizing store database with
  | nil => exact ⟨database, present, (List.append_nil _).symm⟩
  | cons first rest induction =>
      obtain ⟨env, call⟩ := first
      obtain ⟨middle, isMiddle, added⟩ :=
        (@perform_accounted primitives masterKey env store database present call).added
      obtain ⟨rows, isRows, after⟩ := induction isMiddle
      refine ⟨rows, isRows, ?_⟩
      rw [after, added, List.append_assoc]
      rfl

/-- The events are those there were and one for each audited call that commits.
A call that tells its caller of success has left the event it names; one that
leaves no event has changed nothing, nor has one that reports a failure, unless
its COMMIT took effect and the answer was lost. -/
theorem audit_trail_exact (present : store.database = some database)
    (calls : List (CallEnvironment × StoreCall)) :
    (∃ rows, (store.replay primitives masterKey calls).database = some rows ∧
      rows.auditEvents.rows =
        database.auditEvents.rows ++ trail primitives masterKey store calls) ∧
      EveryCall primitives masterKey (fun store env call => ∃ database,
        store.database = some database ∧
          Accounted primitives masterKey env store database call) store calls := by
  refine ⟨replay_trail primitives masterKey present calls, ?_⟩
  intro made env call rest _
  obtain ⟨rows, isRows, -⟩ := replay_trail primitives masterKey present made
  exact ⟨rows, isRows, perform_accounted isRows call⟩

end Runs

namespace AuditSample

open ClientWorld.Sample (store row limiting quietly)

def pending : PendingUpdate :=
  ⟨5, limiting, clientFromRow row, 100⟩

/-- An update that commits, and one that is dropped before it does. -/
def calls : List (CallEnvironment × StoreCall) := [
  (quietly 1, pending.call none),
  ({ quietly 2 with dropped := some .beforeCommit }, pending.call none)]

theorem audit_trail_exact_update :
    ∃ rows, (store.replay (Primitives.tabulated []) (Vector.replicate 32 0)
        calls).database = some rows ∧
      rows.auditEvents.rows = [pending.audit.event 1] := by
  have present : store.database = some ClientWorld.Sample.database := rfl
  obtain ⟨⟨rows, isRows, events⟩, -⟩ := audit_trail_exact (Primitives.tabulated [])
    (Vector.replicate 32 0) present calls
  refine ⟨rows, isRows, events.trans ?_⟩
  decide +kernel

end AuditSample

end NvidiaBuildLb.Gateway
