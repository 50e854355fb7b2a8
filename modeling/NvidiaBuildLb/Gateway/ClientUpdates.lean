import NvidiaBuildLb.Gateway.TwoCopies

namespace NvidiaBuildLb.Gateway

open Foundation NvidiaBuildLb.Core

/-! PATCH requests to clients.  Each reads its client's row, waits for the
lock of the vault store, and then writes a whole list of scopes. -/

inductive NullablePatch (α : Type) where
  | missing
  | null
  | value (value : α)
  deriving DecidableEq, Repr

namespace NullablePatch

def apply : NullablePatch α → Option α → Option α
  | .missing, current => current
  | .null, _ => none
  | .value wanted, _ => some wanted

def isMissing : NullablePatch α → Bool
  | .missing => true
  | _ => false

def given : NullablePatch α → Option α
  | .value wanted => some wanted
  | _ => none

end NullablePatch

structure ClientPatch where
  scopes : Option (List String)
  expiresAt : NullablePatch Timestamp
  modelAllowlist : NullablePatch (List String)
  rpmLimit : NullablePatch Nat
  maxConcurrency : NullablePatch Nat
  requestLimitDay : NullablePatch Nat
  deriving DecidableEq, Repr

def ClientPatch.isEmpty (patch : ClientPatch) : Bool :=
  patch.scopes.isNone && patch.expiresAt.isMissing &&
    patch.modelAllowlist.isMissing && patch.rpmLimit.isMissing &&
      patch.maxConcurrency.isMissing && patch.requestLimitDay.isMissing

def invalidAllowlist (items : Option (List String)) : Bool :=
  items.any fun items =>
    items.isEmpty || 64 < items.length ||
      items.any fun item => item.isEmpty || !profiles.contains item

def outside (least most : Nat) (limit : Option Nat) : Bool :=
  limit.any fun limit => limit < least || most < limit

def invalidClientLimits (now : Timestamp) (patch : ClientPatch) : Bool :=
  (patch.expiresAt.given.any fun expires => expires ≤ now) ||
    invalidAllowlist patch.modelAllowlist.given ||
      outside 1 100000 patch.rpmLimit.given ||
        outside 1 64 patch.maxConcurrency.given ||
          outside 1 10000000 patch.requestLimitDay.given

/-- A client as the administration API shows it. -/
structure Client where
  id : Uuid
  label : String
  scopes : List String
  active : Bool
  keyPrefix : String
  expiresAt : Option Timestamp
  modelAllowlist : Option (List String)
  rpmLimit : Option Nat
  maxConcurrency : Option Nat
  requestLimitDay : Option Nat
  requestCount : Nat
  lastUsedAt : Option Timestamp
  createdAt : Timestamp
  revokedAt : Option Timestamp
  deriving DecidableEq, Repr

def clientFromRow (row : DownstreamCredentialRow) : Client where
  id := row.id
  label := row.label
  scopes := row.scopes
  active := row.active
  keyPrefix := row.keyPrefix
  expiresAt := row.expiresAt.map fromMicros
  modelAllowlist := row.modelAllowlist
  rpmLimit := row.rpmLimit.map Int.toNat
  maxConcurrency := row.maxConcurrency.map Int.toNat
  requestLimitDay := row.requestLimitDay.map Int.toNat
  requestCount := row.requestCount.toNat
  lastUsedAt := row.lastUsedAt.map fromMicros
  createdAt := fromMicros row.createdAt
  revokedAt := row.revokedAt.map fromMicros

/-- `SELECT ... WHERE id=$1`, the row as it is committed at that moment. -/
def VaultStore.client (store : VaultStore) (id : Uuid) : Option Client :=
  store.database.bind fun database =>
    (database.downstreamCredentials.find? id).map clientFromRow

inductive UpdateResponse where
  | notFound (resourceKind : String)
  | invalid (code message : String)
  | failure (code message : String)
  | updated (item : Client) (auditEventId : Uuid)
  deriving DecidableEq, Repr

/-- What a request carries over the wait for the lock. -/
structure PendingUpdate where
  id : Uuid
  patch : ClientPatch
  read : Client
  requestId : Uuid
  deriving DecidableEq, Repr

namespace PendingUpdate

variable (pending : PendingUpdate)

def scopes : List String :=
  pending.patch.scopes.getD pending.read.scopes

def policy : ClientPolicyMutation where
  id := pending.id
  expiresAt := pending.patch.expiresAt.apply pending.read.expiresAt
  expiresAtChanged := !pending.patch.expiresAt.isMissing
  modelAllowlist :=
    pending.patch.modelAllowlist.apply pending.read.modelAllowlist
  modelAllowlistChanged := !pending.patch.modelAllowlist.isMissing
  rpmLimit := pending.patch.rpmLimit.apply pending.read.rpmLimit
  rpmLimitChanged := !pending.patch.rpmLimit.isMissing
  maxConcurrency :=
    pending.patch.maxConcurrency.apply pending.read.maxConcurrency
  maxConcurrencyChanged := !pending.patch.maxConcurrency.isMissing
  requestLimitDay :=
    pending.patch.requestLimitDay.apply pending.read.requestLimitDay
  requestLimitDayChanged := !pending.patch.requestLimitDay.isMissing

def audit : VaultAuditMutation where
  action := "client.update"
  resourceKind := "client"
  resourceId := some pending.id
  requestId := pending.requestId
  detail := "\x7b\"policy_updated\":true\x7d"
  clientPolicy := some pending.policy
  probeResult := none

def closure (fault : Option PersistStep) : Closure VaultError VaultValue :=
  .call (.updateDownstreamScopes pending.id pending.scopes) fault .done

def call (fault : Option PersistStep) : StoreCall :=
  .mutateWithAudit (pending.closure fault) fun _ => pending.audit

end PendingUpdate

/-- The part of the handler before its first wait for the lock. -/
def prepareUpdate (now : Timestamp) (id requestId : Uuid)
    (read : Option Client) (patch : ClientPatch) :
    Except UpdateResponse PendingUpdate :=
  match read with
  | none => .error (.notFound "client")
  | some current =>
      if patch.isEmpty then
        .error (.invalid "empty_patch"
          "At least one client policy field is required.")
      else if invalidClientLimits now patch then
        .error (.invalid "invalid_client_policy"
          "One or more client policy fields are outside the supported bounds.")
      else
        .ok { id, patch, read := current, requestId }

/-- What an `anyhow` error prints: its outermost context. -/
def StoreError.text : StoreError VaultError → String
  | .operation error => error.message
  | .synced context _ => context
  | .rollback error => error.message
  | .bail message => message

def mentions (word text : String) : Bool :=
  decide (word.toList <:+: text.toList)

def refusedUpdate (error : StoreError VaultError) : UpdateResponse :=
  if mentions "scope" error.text then
    .invalid "invalid_scopes" "Client scopes are invalid."
  else
    .failure "client_unavailable" "Client could not be updated."

def finishUpdate (auditEventId : Uuid) : Option Client → UpdateResponse
  | some item => .updated item auditEventId
  | none => .failure "client_unavailable" "Client could not be loaded."

inductive UpdatePhase where
  | waiting (pending : PendingUpdate)
  | reloading (id auditEventId : Uuid)
  | answered (response : UpdateResponse)
  | gone
  deriving DecidableEq, Repr

structure ClientWorld where
  store : VaultStore
  requests : Nat → Option UpdatePhase

inductive ClientEvent : Type 1 where
  | arrives (tag : Nat) (id requestId : Uuid) (patch : ClientPatch)
      (readRefused : Bool) (now : Timestamp)
  | writes (tag : Nat) (env : CallEnvironment) (fault : Option PersistStep)
  | reloads (tag : Nat) (readRefused : Bool)
  | leaves (tag : Nat)
  | calls (env : CallEnvironment) (call : StoreCall)

namespace ClientWorld

def start (store : VaultStore) : ClientWorld where
  store
  requests := fun _ => none

def move (world : ClientWorld) (tag : Nat) (phase : UpdatePhase) :
    ClientWorld :=
  { world with requests := Function.update world.requests tag (some phase) }

def read (world : ClientWorld) (readRefused : Bool) (id : Uuid) :
    Option Client :=
  if readRefused then none else world.store.client id

/-- How a request goes on once the store has answered it; a dropped call
answers nothing. -/
def afterWrite (id : Uuid) :
    Option (Except (StoreError VaultError) (VaultValue × Uuid)) → UpdatePhase
  | none => .gone
  | some (.ok (_, auditEventId)) => .reloading id auditEventId
  | some (.error error) => .answered (refusedUpdate error)

variable (primitives : Primitives) (masterKey : MasterKey)

/-- An event that does not fit the phase of its request changes nothing. -/
def handle (world : ClientWorld) : ClientEvent → ClientWorld
  | .arrives tag id requestId patch readRefused now =>
      match world.requests tag with
      | some _ => world
      | none =>
          match prepareUpdate now id requestId (world.read readRefused id)
              patch with
          | .ok pending => world.move tag (.waiting pending)
          | .error response => world.move tag (.answered response)
  | .writes tag env fault =>
      match world.requests tag with
      | some (.waiting pending) =>
          let ended := world.store.mutateWithAudit primitives masterKey env
            (pending.closure fault) fun _ => pending.audit
          { world with store := ended.store }.move tag
            (afterWrite pending.id ended.returned)
      | _ => world
  | .reloads tag readRefused =>
      match world.requests tag with
      | some (.reloading id auditEventId) =>
          world.move tag <| .answered <|
            finishUpdate auditEventId (world.read readRefused id)
      | _ => world
  | .leaves tag => world.move tag .gone
  | .calls env call =>
      { world with store := world.store.perform primitives masterKey env call }

def replay (world : ClientWorld) (events : List ClientEvent) : ClientWorld :=
  events.foldl (fun world event => world.handle primitives masterKey event)
    world

end ClientWorld

/-- The stored state of a client that authentication reads. -/
def VaultStore.lifecycle (store : VaultStore) (id : Uuid) :
    Option DownstreamLifecycle :=
  store.database.bind fun database =>
    (database.downstreamView id).map DownstreamColumns.lifecycle

namespace ClientWorld

variable (primitives : Primitives) (masterKey : MasterKey)

def committing (world : ClientWorld) (id : Uuid) :
    ClientEvent → Option PendingUpdate
  | .writes tag env fault =>
      match world.requests tag with
      | some (.waiting pending) =>
          if pending.id = id ∧ world.store.commits primitives masterKey env
              (pending.closure fault) (fun _ => some pending.audit) then
            some pending
          else
            none
      | _ => none
  | _ => none

/-- The scopes of the last request with scopes that a run commits. -/
def lastScopes (id : Uuid) (initial : List String) :
    ClientWorld → List ClientEvent → List String
  | _, [] => initial
  | world, event :: rest =>
      let requested := do
        let pending ← world.committing primitives masterKey id event
        let scopes ← pending.patch.scopes
        (canonicalScopes scopes).toOption
      lastScopes id (requested.getD initial)
        (world.handle primitives masterKey event) rest

end ClientWorld

end NvidiaBuildLb.Gateway
