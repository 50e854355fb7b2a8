import NvidiaBuildLb.Gateway.Permits

namespace NvidiaBuildLb.Gateway

open Foundation NvidiaBuildLb.Core

/-! The limits hold over every interleaving of admissions and releases. -/

/-- No client has more permits than its policy allows, in any minute, on any
day, and at once. -/
structure WithinLimits (limits : Uuid → PermitLimits) (store : PermitStore) :
    Prop where
  perMinute : ∀ client bound, (limits client).rpmLimit = some bound →
    ∀ minute, (store.acquiredWhen client fun acquiredAt =>
      acquiredAt / minuteMicros = minute) ≤ bound
  perDay : ∀ client bound, (limits client).requestLimitDay = some bound →
    ∀ day, (store.acquiredWhen client fun acquiredAt =>
      acquiredAt / dayMicros = day) ≤ bound
  atOnce : ∀ client bound, (limits client).maxConcurrency = some bound →
    store.unreleased client ≤ bound

/-- What a transaction has learnt and can rely on while it has the lock. -/
def Learnt (limit : PermitLimits) (client : Uuid) (store : PermitStore) :
    PermitStage → Prop
  | .underMinute now => MinuteRoom limit client now store
  | .underDay now =>
      MinuteRoom limit client now store ∧ DayRoom limit client now store
  | .underConcurrency now =>
      (MinuteRoom limit client now store ∧ DayRoom limit client now store) ∧
        ConcurrencyRoom limit client store
  | .inserted now =>
      (MinuteRoom limit client now store ∧ DayRoom limit client now store) ∧
        ConcurrencyRoom limit client store
  | _ => True

def Knows (limits : Uuid → PermitLimits)
    (requests : TransactionId → PermitRequest) (id : TransactionId)
    (stage : PermitStage) (store : PermitStore) : Prop :=
  let client := (requests id).downstreamId
  stage.holdsLock = true →
    store.locks client = some id ∧ Learnt (limits client) client store stage

structure Shrinks (client : Uuid) (before after : PermitStore) : Prop where
  acquired : ∀ select : Micros → Bool,
    after.acquiredWhen client select ≤ before.acquiredWhen client select
  unreleased : after.unreleased client ≤ before.unreleased client

theorem Shrinks.refl (client : Uuid) (store : PermitStore) :
    Shrinks client store store :=
  ⟨fun _ => le_rfl, le_rfl⟩

theorem Learnt.shrink {limit : PermitLimits} {client : Uuid}
    {before after : PermitStore} (shrinks : Shrinks client before after)
    {stage : PermitStage} (learnt : Learnt limit client before stage) :
    Learnt limit client after stage := by
  have minute : ∀ {now}, MinuteRoom limit client now before →
      MinuteRoom limit client now after :=
    fun room bound isBound =>
      (shrinks.acquired _).trans_lt (room bound isBound)
  have day : ∀ {now}, DayRoom limit client now before →
      DayRoom limit client now after :=
    fun room bound isBound =>
      (shrinks.acquired _).trans_lt (room bound isBound)
  have atOnce : ConcurrencyRoom limit client before →
      ConcurrencyRoom limit client after :=
    fun room bound isBound =>
      shrinks.unreleased.trans_lt (room bound isBound)
  cases stage with
  | underMinute now => exact minute learnt
  | underDay now => exact ⟨minute learnt.1, day learnt.2⟩
  | underConcurrency now =>
      exact ⟨⟨minute learnt.1.1, day learnt.1.2⟩, atOnce learnt.2⟩
  | inserted now =>
      exact ⟨⟨minute learnt.1.1, day learnt.1.2⟩, atOnce learnt.2⟩
  | _ => trivial

theorem WithinLimits.shrink {limits : Uuid → PermitLimits}
    {before after : PermitStore} (within : WithinLimits limits before)
    (shrinks : ∀ client, Shrinks client before after) :
    WithinLimits limits after where
  perMinute := fun client bound isBound minute =>
    ((shrinks client).acquired _).trans
      (within.perMinute client bound isBound minute)
  perDay := fun client bound isBound day =>
    ((shrinks client).acquired _).trans
      (within.perDay client bound isBound day)
  atOnce := fun client bound isBound =>
    (shrinks client).unreleased.trans (within.atOnce client bound isBound)

private theorem shrinks_update (store : PermitStore)
    (select : PermitRow → Bool) (edit : PermitRow → PermitRow)
    (keeps : ∀ row, (edit row).requestId = row.requestId)
    (client : ∀ row, (edit row).downstreamCredentialId =
      row.downstreamCredentialId)
    (acquired : ∀ row, (edit row).acquiredAt = row.acquiredAt)
    (released : ∀ row, (edit row).releasedAt.isNone = true →
      row.releasedAt.isNone = true) (id : Uuid) :
    Shrinks id store
      { store with permits := store.permits.update select edit keeps } where
  acquired := by
    intro wanted
    refine Table.count_update_le _ _ _ keeps fun row counted => ?_
    rwa [client row, acquired row] at counted
  unreleased := by
    refine Table.count_update_le _ _ _ keeps fun row counted => ?_
    rw [client row, Bool.and_eq_true] at counted
    rw [Bool.and_eq_true]
    exact ⟨counted.1, released row counted.2⟩

private theorem releaseWhere_shrinks (store : PermitStore) (now : Micros)
    (select : PermitRow → Bool) (id : Uuid) :
    Shrinks id store (store.releaseWhere now select) := by
  unfold PermitStore.releaseWhere
  split
  · apply shrinks_update
    · intro row
      rfl
    · intro row
      rfl
    · intro row unreleased
      cases released : row.releasedAt with
      | none => rfl
      | some time =>
          rw [released] at unreleased
          cases unreleased
  · exact Shrinks.refl id store

private theorem releaseWhere_locks (store : PermitStore) (now : Micros)
    (select : PermitRow → Bool) :
    (store.releaseWhere now select).locks = store.locks := by
  unfold PermitStore.releaseWhere
  split <;> rfl

theorem surround_shrinks (event : PermitEvent) (store : PermitStore)
    (id : Uuid) : Shrinks id store (store.surround event) := by
  cases event with
  | release requestId now => exact releaseWhere_shrinks _ _ _ _
  | cleanupStale now => exact releaseWhere_shrinks _ _ _ _
  | heartbeat instanceId now => exact ⟨fun _ => le_rfl, le_rfl⟩
  | forget instanceId =>
      have shrinks := shrinks_update store
        (fun row => row.ownerId = some instanceId)
        (fun row => { row with ownerId := none }) (fun _ => rfl)
        (fun _ => rfl) (fun _ => rfl) (fun _ unreleased => unreleased) id
      exact ⟨shrinks.acquired, shrinks.unreleased⟩
  | editClient client policy => exact ⟨fun _ => le_rfl, le_rfl⟩

theorem surround_locks (event : PermitEvent) (store : PermitStore) :
    (store.surround event).locks = store.locks := by
  cases event with
  | release requestId now => exact releaseWhere_locks _ _ _
  | cleanupStale now => exact releaseWhere_locks _ _ _
  | heartbeat instanceId now => rfl
  | forget instanceId => rfl
  | editClient client policy => rfl

/-! A commit adds one permit, and its transaction has counted every permit of
the same minute and day, also those with a later clock than its own. -/

private theorem acquiredWhen_insert {store : PermitStore}
    {request : PermitRequest} {now : Micros}
    {permits : Table PermitRow.requestId}
    (stored : store.permits.insert? (request.row now) = some permits)
    (client : Uuid) (select : Micros → Bool) :
    ({ store with permits } : PermitStore).acquiredWhen client select =
      store.acquiredWhen client select +
        if request.downstreamId = client && select now then 1 else 0 :=
  Table.count_insert stored _

private theorem unreleased_insert {store : PermitStore}
    {request : PermitRequest} {now : Micros}
    {permits : Table PermitRow.requestId}
    (stored : store.permits.insert? (request.row now) = some permits)
    (client : Uuid) :
    ({ store with permits } : PermitStore).unreleased client =
      store.unreleased client +
        if request.downstreamId = client then 1 else 0 := by
  refine (Table.count_insert stored _).trans ?_
  by_cases same : request.downstreamId = client
  · simp [PermitRequest.row, same, PermitStore.unreleased]
  · simp [PermitRequest.row, same, PermitStore.unreleased]

theorem truncTo_le_of_same_unit {unit now acquiredAt : Micros}
    (positive : 0 < unit) (same : acquiredAt / unit = now / unit) :
    truncTo unit now ≤ acquiredAt := by
  unfold truncTo
  rw [← same]
  exact Int.ediv_mul_le _ positive.ne'

private theorem acquiredWhen_le_since (store : PermitStore) (client : Uuid)
    {unit now : Micros} (positive : 0 < unit) :
    (store.acquiredWhen client fun acquiredAt =>
        acquiredAt / unit = now / unit) ≤
      store.acquiredSince client (truncTo unit now) := by
  apply List.countP_mono_left
  intro row _ counted
  simp only [Bool.and_eq_true, decide_eq_true_eq] at counted ⊢
  exact ⟨counted.1, truncTo_le_of_same_unit positive counted.2⟩

private theorem unit_insert {store : PermitStore} {request : PermitRequest}
    {now : Micros} {permits : Table PermitRow.requestId}
    (stored : store.permits.insert? (request.row now) = some permits)
    {unit : Micros} (positive : 0 < unit) {client : Uuid} {bound : Nat}
    (within : ∀ index, (store.acquiredWhen client fun acquiredAt =>
      acquiredAt / unit = index) ≤ bound)
    (room : request.downstreamId = client →
      store.acquiredSince client (truncTo unit now) < bound) (index : Int) :
    (({ store with permits } : PermitStore).acquiredWhen client
      fun acquiredAt => acquiredAt / unit = index) ≤ bound := by
  rw [acquiredWhen_insert stored]
  split
  · rename_i counted
    simp only [Bool.and_eq_true, decide_eq_true_eq] at counted
    obtain ⟨isClient, rfl⟩ := counted
    have counted := @acquiredWhen_le_since store client unit now positive
    have free := room isClient
    omega
  · exact within index

private theorem commit_withinLimits {limits : Uuid → PermitLimits}
    {store : PermitStore} {request : PermitRequest} {now : Micros}
    {permits : Table PermitRow.requestId}
    (within : WithinLimits limits store)
    (learnt : Learnt (limits request.downstreamId) request.downstreamId store
      (.inserted now))
    (stored : store.permits.insert? (request.row now) = some permits) :
    WithinLimits limits { store with permits } where
  perMinute := by
    intro client bound isBound
    apply unit_insert stored (by decide) (within.perMinute client bound isBound)
    intro same
    subst same
    exact learnt.1.1 bound isBound
  perDay := by
    intro client bound isBound
    apply unit_insert stored (by decide) (within.perDay client bound isBound)
    intro same
    subst same
    exact learnt.1.2 bound isBound
  atOnce := by
    intro client bound isBound
    rw [unreleased_insert stored]
    have before := within.atOnce client bound isBound
    split
    · rename_i same
      subst same
      exact learnt.2 bound isBound
    · exact before

private theorem shrinks_other_client {store : PermitStore}
    {request : PermitRequest} {now : Micros}
    {permits : Table PermitRow.requestId}
    (stored : store.permits.insert? (request.row now) = some permits)
    {client : Uuid} (other : request.downstreamId ≠ client) :
    Shrinks client store { store with permits } where
  acquired := by
    intro select
    rw [acquiredWhen_insert stored]
    simp [other]
  unreleased := by
    rw [unreleased_insert stored]
    simp [other]

theorem permits_proof (limits : Uuid → PermitLimits)
    (requests : TransactionId → PermitRequest) :
    (permits limits requests).Proof (WithinLimits limits)
      (Knows limits requests) where
  own := by
    intro id action store stage within knows
    have move := acquireDownstreamPermit_moves limits requests id action store
      stage
    change WithinLimits limits (acquireDownstreamPermit limits requests id
        action store stage).1 ∧ Knows limits requests id
      (acquireDownstreamPermit limits requests id action store stage).2
      (acquireDownstreamPermit limits requests id action store stage).1
    revert move
    generalize acquireDownstreamPermit limits requests id action store stage =
      moved
    intro move
    cases move with
    | still => exact ⟨within, knows⟩
    | unlocked before outside entered =>
        refine ⟨within, fun holds => ?_⟩
        rw [outside] at holds
        cases holds
    | locked now free =>
        refine ⟨⟨within.perMinute, within.perDay, within.atOnce⟩, fun _ => ?_⟩
        exact ⟨Function.update_self _ _ _, trivial⟩
    | admitted now =>
        exact ⟨within, fun _ => ⟨(knows rfl).1, trivial⟩⟩
    | underMinute now room =>
        exact ⟨within, fun _ => ⟨(knows rfl).1, room⟩⟩
    | underDay now room =>
        exact ⟨within, fun _ => ⟨(knows rfl).1, (knows rfl).2, room⟩⟩
    | underConcurrency now room =>
        exact ⟨within, fun _ => ⟨(knows rfl).1, (knows rfl).2, room⟩⟩
    | inserted now => exact ⟨within, fun _ => knows rfl⟩
    | leaving error holding =>
        exact ⟨within, fun _ => ⟨(knows holding).1, trivial⟩⟩
    | committed now stored =>
        have after := commit_withinLimits within (knows rfl).2 stored
        exact ⟨⟨after.perMinute, after.perDay, after.atOnce⟩,
          fun holds => by cases holds⟩
    | rolledBack error =>
        exact ⟨⟨within.perMinute, within.perDay, within.atOnce⟩,
          fun holds => by cases holds⟩
  others := by
    intro id action store stage other there different within knows knowsOther
      holds
    obtain ⟨held, learnt⟩ := knowsOther holds
    have move := acquireDownstreamPermit_moves limits requests id action store
      stage
    change (acquireDownstreamPermit limits requests id action store
        stage).1.locks (requests other).downstreamId = some other ∧
      Learnt _ _ (acquireDownstreamPermit limits requests id action store
        stage).1 there
    revert move
    generalize acquireDownstreamPermit limits requests id action store stage =
      moved
    intro move
    -- Whoever holds a lock of its own works for another client.
    have elsewhere : store.locks (requests id).downstreamId = some id →
        (requests other).downstreamId ≠ (requests id).downstreamId := by
      intro mine same
      rw [same, mine] at held
      exact different (Option.some.inj held).symm
    cases move with
    | locked now free =>
        have apart : (requests other).downstreamId ≠
            (requests id).downstreamId := by
          intro same
          rw [same, free] at held
          cases held
        exact ⟨(Function.update_of_ne apart _ _).trans held,
          learnt.shrink ⟨fun _ => le_rfl, le_rfl⟩⟩
    | committed now stored =>
        have apart := elsewhere (knows rfl).1
        refine ⟨(Function.update_of_ne apart _ _).trans held,
          learnt.shrink ?_⟩
        have shrinks := shrinks_other_client stored apart.symm
        exact ⟨shrinks.acquired, shrinks.unreleased⟩
    | rolledBack error =>
        have apart := elsewhere (knows rfl).1
        exact ⟨(Function.update_of_ne apart _ _).trans held,
          learnt.shrink ⟨fun _ => le_rfl, le_rfl⟩⟩
    | _ => exact ⟨held, learnt⟩
  surroundings := fun event store within =>
    within.shrink (surround_shrinks event store)
  surrounded := by
    intro event store id stage _ knows holds
    obtain ⟨held, learnt⟩ := knows holds
    refine ⟨?_, learnt.shrink (surround_shrinks event store _)⟩
    exact (congrFun (surround_locks event store) _).trans held

def PermitStore.unused (clients : Uuid → Option ClientPolicy)
    (instances : Table GatewayInstanceRow.id) : PermitStore where
  permits := .empty
  clients
  instances
  locks := fun _ => none

/-- However the admissions, releases and clean-ups of a gateway interleave, no
client exceeds its limits. -/
theorem permits_withinLimits (limits : Uuid → PermitLimits)
    (requests : TransactionId → PermitRequest)
    (clients : Uuid → Option ClientPolicy)
    (instances : Table GatewayInstanceRow.id)
    (events : List (Event TransactionId PermitAction PermitEvent))
    (client : Uuid) :
    let store := ((permits limits requests).replay
      { shared := .unused clients instances, locals := fun _ => .idle }
      events).shared
    let rows := store.permits.rows.filter fun row =>
      row.downstreamCredentialId = client
    (∀ bound, (limits client).rpmLimit = some bound → ∀ minute : Int,
      (rows.filter fun row =>
        row.acquiredAt / 60000000 = minute).length ≤ bound) ∧
    (∀ bound, (limits client).requestLimitDay = some bound → ∀ day : Int,
      (rows.filter fun row =>
        row.acquiredAt / 86400000000 = day).length ≤ bound) ∧
    ∀ bound, (limits client).maxConcurrency = some bound →
      (rows.filter fun row => row.releasedAt.isNone).length ≤ bound := by
  intro store rows
  have unused : (Interleaving.Established (WithinLimits limits)
      (Knows limits requests) {
        shared := PermitStore.unused clients instances
        locals := fun _ => .idle }) :=
    ⟨⟨fun _ _ _ _ => Nat.zero_le _, fun _ _ _ _ => Nat.zero_le _,
      fun _ _ _ => Nat.zero_le _⟩, fun _ holds => by cases holds⟩
  have within : WithinLimits limits store :=
    ((permits_proof limits requests).replay unused events).shared
  have counted : ∀ select : PermitRow → Bool, (rows.filter select).length =
      store.permits.count fun row =>
        row.downstreamCredentialId = client && select row := by
    intro select
    simp only [rows, List.filter_filter, ← List.countP_eq_length_filter,
      Table.count, Bool.and_comm]
  refine ⟨fun bound isBound minute => ?_, fun bound isBound day => ?_,
    fun bound isBound => ?_⟩
  · rw [counted]
    exact within.perMinute client bound isBound minute
  · rw [counted]
    exact within.perDay client bound isBound day
  · rw [counted]
    exact within.atOnce client bound isBound

end NvidiaBuildLb.Gateway
