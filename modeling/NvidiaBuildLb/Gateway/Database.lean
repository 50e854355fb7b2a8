import NvidiaBuildLb.Core.Records
import NvidiaBuildLb.Foundation.Table

namespace NvidiaBuildLb.Gateway

open Foundation NvidiaBuildLb.Core

/-! The PostgreSQL rows of the vault. -/

/-- Microseconds since the Unix epoch, the resolution of `timestamptz`. -/
abbrev Micros := Int

def micros (time : Timestamp) : Micros := time / 1000

def i64Max : Int := 2 ^ 63 - 1

structure UpstreamKeyRow where
  id : Uuid
  label : String
  fingerprint : List UInt8
  ciphertext : List UInt8
  nonce : List UInt8
  enabled : Bool
  verified : Bool
  retired : Bool
  cooldownUntil : Option Micros
  requestCount : Int
  failureCount : Int
  createdAt : Micros
  slotNo : Nat
  deriving DecidableEq, Repr

structure DownstreamCredentialRow where
  id : Uuid
  label : String
  digest : List UInt8
  scopes : List String
  active : Bool
  requestCount : Int
  lastUsedAt : Option Micros
  createdAt : Micros
  revokedAt : Option Micros
  keyPrefix : String
  rotatedAt : Option Micros
  expiresAt : Option Micros
  modelAllowlist : Option (List String)
  rpmLimit : Option Int
  maxConcurrency : Option Int
  requestLimitDay : Option Int
  deriving DecidableEq, Repr

structure RoutingStateRow where
  profileId : String
  nextSlot : Nat
  generation : Nat
  deriving DecidableEq, Repr

structure ProbeReceiptRow where
  profileId : String
  keyId : Uuid
  verifiedAt : Micros
  lastProbeRunId : Option Uuid
  invalidatedAt : Option Micros
  invalidationReason : Option String
  deriving DecidableEq, Repr

structure ProbeRunRow where
  id : Uuid
  kind : String
  upstreamId : Uuid
  profileId : Option String
  status : String
  statusCode : Option Nat
  latencyMs : Int
  errorClass : Option String
  billable : Bool
  startedAt : Micros
  finishedAt : Micros
  deriving DecidableEq, Repr

structure AuditEventRow where
  id : Uuid
  action : String
  resourceKind : String
  resourceId : Option Uuid
  requestId : Uuid
  outcome : String
  detail : String
  deriving DecidableEq, Repr

structure Database where
  upstreamKeys : Table UpstreamKeyRow.id
  downstreamCredentials : Table DownstreamCredentialRow.id
  routingState : Table RoutingStateRow.profileId
  probeReceipts : Table fun row : ProbeReceiptRow => (row.profileId, row.keyId)
  probeRuns : Table ProbeRunRow.id
  auditEvents : Table AuditEventRow.id

/-- The rows right after the migrations, which seed the routing cursors. -/
def Database.migrated (routingState : Table RoutingStateRow.profileId) :
    Database where
  upstreamKeys := .empty
  downstreamCredentials := .empty
  routingState
  probeReceipts := .empty
  probeRuns := .empty
  auditEvents := .empty

/-- `GREATEST` of two values, which skips a null. -/
def greatest : Option Micros → Option Micros → Option Micros
  | some left, some right => some (max left right)
  | some left, none => some left
  | none, right => right

/-! The columns that carry vault state, as a row holds them and as a record of
the vault is stored. -/

structure KeyColumns where
  label : String
  fingerprint : List UInt8
  ciphertext : List UInt8
  nonce : List UInt8
  enabled : Bool
  verified : Bool
  retired : Bool
  cooldownUntil : Option Micros
  requestCount : Int
  failureCount : Int
  deriving DecidableEq, Repr

structure DownstreamColumns where
  label : String
  digest : List UInt8
  scopes : List String
  active : Bool
  requestCount : Int
  lastUsedAt : Option Micros
  createdAt : Micros
  revokedAt : Option Micros
  deriving DecidableEq, Repr

def UpstreamKeyRow.columns (row : UpstreamKeyRow) : KeyColumns where
  label := row.label
  fingerprint := row.fingerprint
  ciphertext := row.ciphertext
  nonce := row.nonce
  enabled := row.enabled
  verified := row.verified
  retired := row.retired
  cooldownUntil := row.cooldownUntil
  requestCount := row.requestCount
  failureCount := row.failureCount

def DownstreamCredentialRow.columns (row : DownstreamCredentialRow) :
    DownstreamColumns where
  label := row.label
  digest := row.digest
  scopes := row.scopes
  active := row.active
  requestCount := row.requestCount
  lastUsedAt := row.lastUsedAt
  createdAt := row.createdAt
  revokedAt := row.revokedAt

def keyColumns (key : VaultKeyRecord) : KeyColumns where
  label := key.label
  fingerprint := key.fingerprint
  ciphertext := key.ciphertext
  nonce := key.nonce
  enabled := key.enabled
  verified := key.verified
  retired := key.retired
  cooldownUntil := key.cooldownUntil.map micros
  requestCount := key.requestCount
  failureCount := key.failureCount

def downstreamColumns (item : VaultDownstreamRecord) : DownstreamColumns where
  label := item.label
  digest := item.tokenDigest
  scopes := item.scopes
  active := item.active
  requestCount := item.requestCount
  lastUsedAt := item.lastUsedAt.map micros
  createdAt := micros item.createdAt
  revokedAt := item.revokedAt.map micros

/-- What a credential id stands for, in the rows. -/
def Database.keyView (database : Database) (id : Uuid) : Option KeyColumns :=
  (database.upstreamKeys.find? id).map UpstreamKeyRow.columns

def Database.downstreamView (database : Database) (id : Uuid) :
    Option DownstreamColumns :=
  (database.downstreamCredentials.find? id).map DownstreamCredentialRow.columns

/-- What an id stands for in a snapshot. -/
def snapshotView (key : α → Uuid) (image : α → β) (entries : List α)
    (id : Uuid) : Option β :=
  (entries.find? fun entry => key entry = id).map image

/-- The rows and the snapshot hold the same credentials with the same state. -/
structure Database.Represents (database : Database)
    (keys : List VaultKeyRecord) (downstream : List VaultDownstreamRecord) :
    Prop where
  keyIds : (keys.map VaultKeyRecord.id).Nodup
  downstreamIds : (downstream.map VaultDownstreamRecord.id).Nodup
  keys : database.keyView = snapshotView VaultKeyRecord.id keyColumns keys
  downstream : database.downstreamView =
    snapshotView VaultDownstreamRecord.id downstreamColumns downstream

end NvidiaBuildLb.Gateway
