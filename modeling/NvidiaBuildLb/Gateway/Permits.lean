import NvidiaBuildLb.Foundation.Interleaving
import NvidiaBuildLb.Foundation.Table
import NvidiaBuildLb.Core.Primitives
import NvidiaBuildLb.Gateway.Database

namespace NvidiaBuildLb.Gateway

open Foundation NvidiaBuildLb.Core

/-! Admission of a client's requests: transactions that count the client's
permits under an advisory lock, while permits are released around them. -/

structure PermitRow where
  requestId : Uuid
  downstreamCredentialId : Uuid
  ownerId : Option Uuid
  profileId : String
  acquiredAt : Micros
  releasedAt : Option Micros
  deriving DecidableEq, Repr

structure PermitLimits where
  rpmLimit : Option Nat
  maxConcurrency : Option Nat
  requestLimitDay : Option Nat
  deriving DecidableEq, Repr

/-- The part of a client's policy that admission reads and that may be edited
while requests run; the limits are not. -/
structure ClientPolicy where
  active : Bool
  expiresAt : Option Micros
  modelAllowlist : Option (List String)
  deriving DecidableEq, Repr

inductive PermitError where
  | expired
  | modelForbidden
  | rateLimited (retryAfter : Nat)
  | dailyLimit
  | concurrencyLimit
  | storeUnavailable
  deriving DecidableEq, Repr

structure PermitRequest where
  requestId : Uuid
  downstreamId : Uuid
  ownerId : Uuid
  profile : String
  deriving DecidableEq, Repr

structure GatewayInstanceRow where
  id : Uuid
  lastSeenAt : Micros
  deriving DecidableEq, Repr

abbrev TransactionId := Nat

structure PermitStore where
  permits : Table PermitRow.requestId
  clients : Uuid → Option ClientPolicy
  instances : Table GatewayInstanceRow.id
  locks : Uuid → Option TransactionId

def minuteMicros : Int := 60000000

def dayMicros : Int := 86400000000

/-- `date_trunc` on UTC, for a unit that divides the day. -/
def truncTo (unit time : Micros) : Micros := time / unit * unit

/-- Where a transaction stands: the statement it has just finished, with the
clock it was started with. -/
inductive PermitStage where
  | idle
  | begun (now : Micros)
  | locked (now : Micros)
  | admitted (now : Micros)
  | underMinute (now : Micros)
  | underDay (now : Micros)
  | underConcurrency (now : Micros)
  | inserted (now : Micros)
  | leaving (error : PermitError)
  | finished (result : Except PermitError Bool)

/-- What a transaction does next, with what its environment decides: the clock
at `BEGIN`, the process clock at the policy check, and whether the query for
the retry hint answers. -/
inductive PermitAction where
  | begin (now : Micros)
  | lock
  | readPolicy (clock : Timestamp)
  | countMinute (hint : Bool)
  | countDay
  | countActive
  | insert
  | commit
  | refused
  | rollback
  deriving DecidableEq, Repr

namespace PermitStore

def acquiredWhen (store : PermitStore) (client : Uuid)
    (select : Micros → Bool) : Nat :=
  store.permits.count fun row =>
    row.downstreamCredentialId = client && select row.acquiredAt

def acquiredSince (store : PermitStore) (client : Uuid) (since : Micros) :
    Nat :=
  store.acquiredWhen client fun acquiredAt => since ≤ acquiredAt

def unreleased (store : PermitStore) (client : Uuid) : Nat :=
  store.permits.count fun row =>
    row.downstreamCredentialId = client && row.releasedAt.isNone

def unlock (store : PermitStore) (client : Uuid) : PermitStore :=
  { store with locks := Function.update store.locks client none }

end PermitStore

def reached (limit : Option Nat) (count : Nat) : Bool :=
  limit.any fun limit => limit ≤ count

/-- Whole seconds to the next minute, at least one. -/
def retryAfterSeconds (now : Micros) : Nat :=
  let left := truncTo minuteMicros now + minuteMicros - now
  (max 1 ((left + 999999) / 1000000)).toNat

def ClientPolicy.rejects (policy : ClientPolicy) (clock : Timestamp)
    (profile : String) : Option PermitError :=
  if !policy.active ||
      policy.expiresAt.any fun expires => expires * 1000 ≤ clock then
    some .expired
  else if policy.modelAllowlist.any fun models => !models.contains profile then
    some .modelForbidden
  else
    none

def PermitRequest.row (request : PermitRequest) (now : Micros) : PermitRow where
  requestId := request.requestId
  downstreamCredentialId := request.downstreamId
  ownerId := some request.ownerId
  profileId := request.profile
  acquiredAt := now
  releasedAt := none

/-- One statement of `acquire_downstream_permit`.  A statement whose turn it is
not does nothing; a refused one, like every rejection, leaves the transaction
to be rolled back. -/
def acquireDownstreamPermit (limits : Uuid → PermitLimits)
    (requests : TransactionId → PermitRequest) (id : TransactionId)
    (action : PermitAction) (store : PermitStore) (stage : PermitStage) :
    PermitStore × PermitStage :=
  let request := requests id
  let client := request.downstreamId
  let limit := limits client
  match stage, action with
  | .idle, .begin now => (store, .begun now)
  | .begun now, .lock =>
      match store.locks client with
      | none =>
          ({ store with
            locks := Function.update store.locks client (some id) },
            .locked now)
      | some _ => (store, .begun now)
  | .locked now, .readPolicy clock =>
      match store.clients client with
      | none => (store, .leaving .expired)
      | some policy =>
          match policy.rejects clock request.profile with
          | some error => (store, .leaving error)
          | none => (store, .admitted now)
  | .admitted now, .countMinute hint =>
      if reached limit.rpmLimit
          (store.acquiredSince client (truncTo minuteMicros now)) then
        (store, .leaving (.rateLimited
          (if hint then retryAfterSeconds now else 60)))
      else
        (store, .underMinute now)
  | .underMinute now, .countDay =>
      if reached limit.requestLimitDay
          (store.acquiredSince client (truncTo dayMicros now)) then
        (store, .leaving .dailyLimit)
      else
        (store, .underDay now)
  | .underDay now, .countActive =>
      if reached limit.maxConcurrency (store.unreleased client) then
        (store, .leaving .concurrencyLimit)
      else
        (store, .underConcurrency now)
  | .underConcurrency now, .insert =>
      match store.permits.insert? (request.row now) with
      | none => (store, .leaving .storeUnavailable)
      | some _ => (store, .inserted now)
  | .inserted now, .commit =>
      match store.permits.insert? (request.row now) with
      | none => (store, .leaving .storeUnavailable)
      | some permits =>
          ({ store with permits }.unlock client, .finished (.ok true))
  | .idle, .refused => (store, .finished (.error .storeUnavailable))
  | .begun _, .refused => (store, .finished (.error .storeUnavailable))
  | .locked _, .refused => (store, .leaving .storeUnavailable)
  | .admitted _, .refused => (store, .leaving .storeUnavailable)
  | .underMinute _, .refused => (store, .leaving .storeUnavailable)
  | .underDay _, .refused => (store, .leaving .storeUnavailable)
  | .underConcurrency _, .refused => (store, .leaving .storeUnavailable)
  | .inserted _, .refused => (store, .leaving .storeUnavailable)
  | .leaving error, .rollback =>
      (store.unlock client, .finished (.error error))
  | stage, _ => (store, stage)

inductive PermitEvent where
  | release (requestId : Uuid) (now : Micros)
  | cleanupStale (now : Micros)
  | heartbeat (id : Uuid) (now : Micros)
  | forget (id : Uuid)
  | editClient (id : Uuid) (policy : ClientPolicy)

namespace PermitStore

/-- Released at the given time, unless a selected row was acquired later: the
time contract then refuses the whole statement. -/
def releaseWhere (store : PermitStore) (now : Micros)
    (select : PermitRow → Bool) : PermitStore :=
  if store.permits.rows.all fun row => !select row || row.acquiredAt ≤ now then
    { store with
      permits := store.permits.update select
        (fun row => { row with
          releasedAt := row.releasedAt.or (some now) }) fun _ => rfl }
  else
    store

def releaseDownstreamPermit (requestId : Uuid) (now : Micros)
    (store : PermitStore) : PermitStore :=
  store.releaseWhere now fun row => row.requestId = requestId

def live (store : PermitStore) (now : Micros) (owner : Option Uuid) : Bool :=
  (owner.bind store.instances.find?).any fun row =>
    now - 30000000 ≤ row.lastSeenAt

def cleanupStalePermits (now : Micros) (store : PermitStore) : PermitStore :=
  store.releaseWhere now fun row =>
    row.releasedAt.isNone && !store.live now row.ownerId

/-- Deleting an instance nulls the owner of its permits. -/
def forget (id : Uuid) (store : PermitStore) : PermitStore :=
  { store with
    instances := {
      rows := store.instances.rows.filter fun row => row.id ≠ id
      nodup := store.instances.nodup.sublist
        (List.filter_sublist.map GatewayInstanceRow.id) }
    permits := store.permits.update (fun row => row.ownerId = some id)
      (fun row => { row with ownerId := none }) fun _ => rfl }

def surround : PermitEvent → PermitStore → PermitStore
  | .release requestId now, store => store.releaseDownstreamPermit requestId now
  | .cleanupStale now, store => store.cleanupStalePermits now
  | .heartbeat id now, store =>
      { store with
        instances := store.instances.update (fun row => row.id = id)
          (fun row => { row with lastSeenAt := now }) fun _ => rfl }
  | .forget id, store => store.forget id
  | .editClient id policy, store =>
      { store with
        clients := Function.update store.clients id (some policy) }

end PermitStore

def permits (limits : Uuid → PermitLimits)
    (requests : TransactionId → PermitRequest) :
    Interleaving TransactionId PermitAction PermitEvent PermitStore
      PermitStage where
  act := acquireDownstreamPermit limits requests
  surround := PermitStore.surround

def MinuteRoom (limit : PermitLimits) (client : Uuid) (now : Micros)
    (store : PermitStore) : Prop :=
  ∀ bound, limit.rpmLimit = some bound →
    store.acquiredSince client (truncTo minuteMicros now) < bound

def DayRoom (limit : PermitLimits) (client : Uuid) (now : Micros)
    (store : PermitStore) : Prop :=
  ∀ bound, limit.requestLimitDay = some bound →
    store.acquiredSince client (truncTo dayMicros now) < bound

def ConcurrencyRoom (limit : PermitLimits) (client : Uuid)
    (store : PermitStore) : Prop :=
  ∀ bound, limit.maxConcurrency = some bound → store.unreleased client < bound

def PermitStage.holdsLock : PermitStage → Bool
  | .idle => false
  | .begun _ => false
  | .finished _ => false
  | _ => true

inductive PermitMove (limits : Uuid → PermitLimits) (request : PermitRequest)
    (id : TransactionId) (store : PermitStore) :
    PermitStage → PermitStore × PermitStage → Prop
  | still (stage : PermitStage) :
      PermitMove limits request id store stage (store, stage)
  | unlocked (before : PermitStage) {after : PermitStage}
      (outside : after.holdsLock = false) (entered : before.holdsLock = false) :
      PermitMove limits request id store before (store, after)
  | locked (now : Micros) (free : store.locks request.downstreamId = none) :
      PermitMove limits request id store (.begun now)
        ({ store with
          locks := Function.update store.locks request.downstreamId (some id) },
          .locked now)
  | admitted (now : Micros) :
      PermitMove limits request id store (.locked now) (store, .admitted now)
  | underMinute (now : Micros) (room : MinuteRoom (limits request.downstreamId)
        request.downstreamId now store) :
      PermitMove limits request id store (.admitted now)
        (store, .underMinute now)
  | underDay (now : Micros) (room : DayRoom (limits request.downstreamId)
        request.downstreamId now store) :
      PermitMove limits request id store (.underMinute now)
        (store, .underDay now)
  | underConcurrency (now : Micros)
      (room : ConcurrencyRoom (limits request.downstreamId)
        request.downstreamId store) :
      PermitMove limits request id store (.underDay now)
        (store, .underConcurrency now)
  | inserted (now : Micros) :
      PermitMove limits request id store (.underConcurrency now)
        (store, .inserted now)
  | leaving {before : PermitStage} (error : PermitError)
      (holding : before.holdsLock = true) :
      PermitMove limits request id store before (store, .leaving error)
  | committed (now : Micros) {permits : Table PermitRow.requestId}
      (stored : store.permits.insert? (request.row now) = some permits) :
      PermitMove limits request id store (.inserted now)
        ({ store with permits }.unlock request.downstreamId,
          .finished (.ok true))
  | rolledBack (error : PermitError) :
      PermitMove limits request id store (.leaving error)
        (store.unlock request.downstreamId, .finished (.error error))

private theorem room_of_not_reached {limit : Option Nat} {count : Nat}
    (free : ¬ reached limit count = true) :
    ∀ bound, limit = some bound → count < bound := by
  intro bound isBound
  rw [isBound] at free
  simpa [reached] using free

theorem acquireDownstreamPermit_moves (limits : Uuid → PermitLimits)
    (requests : TransactionId → PermitRequest) (id : TransactionId)
    (action : PermitAction) (store : PermitStore) (stage : PermitStage) :
    PermitMove limits (requests id) id store stage
      (acquireDownstreamPermit limits requests id action store stage) := by
  unfold acquireDownstreamPermit
  simp only
  split
  · exact .unlocked _ rfl rfl
  · split
    · rename_i free
      exact .locked _ free
    · exact .still _
  · split
    · exact .leaving _ rfl
    · split
      · exact .leaving _ rfl
      · exact .admitted _
  · split
    · exact .leaving _ rfl
    · rename_i free
      exact .underMinute _ (room_of_not_reached free)
  · split
    · exact .leaving _ rfl
    · rename_i free
      exact .underDay _ (room_of_not_reached free)
  · split
    · exact .leaving _ rfl
    · rename_i free
      exact .underConcurrency _ (room_of_not_reached free)
  · split
    · exact .leaving _ rfl
    · exact .inserted _
  · split
    · exact .leaving _ rfl
    · rename_i stored
      exact .committed _ stored
  · exact .unlocked _ rfl rfl
  · exact .unlocked _ rfl rfl
  · exact .leaving _ rfl
  · exact .leaving _ rfl
  · exact .leaving _ rfl
  · exact .leaving _ rfl
  · exact .leaving _ rfl
  · exact .leaving _ rfl
  · exact .rolledBack _
  · exact .still _

end NvidiaBuildLb.Gateway
