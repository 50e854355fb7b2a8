import NvidiaBuildLb.Core.Mutators

namespace NvidiaBuildLb.Core

open Foundation

/-! Loading a vault, from its file or from database rows, and exporting it
back to rows. -/

namespace Vault

/-- A missing file is an empty vault. -/
def «open» (disk : Disk) : Except VaultError VaultFile :=
  let state := disk.committed.getD .empty
  if state.version ≠ 1 then
    .error .unsupportedVersion
  else if activeCount state.keys > maxUpstreamKeys then
    .error .tooManyCredentials
  else if ¬ (state.keys.map StoredKey.fingerprint).Nodup then
    .error .fingerprintsNotDistinct
  else
    .ok state

def storeKey (key : VaultKeyRecord) : Except VaultError StoredKey :=
  if key.nonce.length ≠ 12 ∨ key.ciphertext.length ≤ 16 ∨
      key.fingerprint.length ≠ 32 then
    .error .invalidEncryptedRow
  else
    .ok {
      id := key.id
      label := key.label
      fingerprint := hexEncode key.fingerprint
      nonce := base64UrlEncode key.nonce
      ciphertext := base64UrlEncode key.ciphertext
      enabled := key.enabled
      verified := key.verified
      retired := key.retired
      cooldownUntil := key.cooldownUntil
      requestCount := key.requestCount
      failureCount := key.failureCount }

def storeDownstream (item : VaultDownstreamRecord) :
    Except VaultError StoredDownstream :=
  if item.tokenDigest.length ≠ 32 then
    .error .invalidDownstreamDigest
  else
    .ok {
      id := item.id
      label := item.label
      scopes := item.scopes
      tokenDigest := hexEncode item.tokenDigest
      active := item.active
      requestCount := item.requestCount
      lastUsedAt := item.lastUsedAt
      createdAt := item.createdAt
      revokedAt := item.revokedAt }

def fromRecordsWithCursors (keys : List VaultKeyRecord)
    (downstream : List VaultDownstreamRecord)
    (routerCursors : RouterCursors) : Except VaultError VaultFile :=
  if (keys.filter fun key => !key.retired).length > maxUpstreamKeys then
    .error .tooManyCredentials
  else if ¬ ((∀ key ∈ keys, key.fingerprint.length = 32) ∧
      (keys.map VaultKeyRecord.fingerprint).Nodup) then
    .error .fingerprintsNotDistinct
  else do
    let keys ← keys.mapM storeKey
    let downstream ← downstream.mapM storeDownstream
    .ok {
      version := 1
      keys
      downstream
      routerCursor := (routerCursors.lookup legacyProfile).getD 0
      routerCursors }

def decodeField (field : String) (decoded : Option (List UInt8)) :
    Except VaultError (List UInt8) :=
  match decoded with
  | none => .error (.decode field)
  | some bytes => .ok bytes

def keyRecord (key : StoredKey) : Except VaultError VaultKeyRecord := do
  let fingerprint ← decodeField "key fingerprint" (hexDecode key.fingerprint)
  let nonce ← decodeField "key nonce" (base64UrlDecode key.nonce)
  let ciphertext ←
    decodeField "key ciphertext" (base64UrlDecode key.ciphertext)
  .ok {
    id := key.id
    label := key.label
    fingerprint
    nonce
    ciphertext
    enabled := key.enabled
    verified := key.verified
    retired := key.retired
    cooldownUntil := key.cooldownUntil
    requestCount := key.requestCount
    failureCount := key.failureCount }

def keyRecords (state : VaultFile) : Except VaultError (List VaultKeyRecord) :=
  state.keys.mapM keyRecord

def downstreamRecord (item : StoredDownstream) :
    Except VaultError VaultDownstreamRecord := do
  let tokenDigest ←
    decodeField "downstream digest" (hexDecode item.tokenDigest)
  .ok {
    id := item.id
    label := item.label
    scopes := item.scopes
    tokenDigest
    active := item.active
    requestCount := item.requestCount
    lastUsedAt := item.lastUsedAt
    createdAt := item.createdAt
    revokedAt := item.revokedAt }

def downstreamRecords (state : VaultFile) :
    Except VaultError (List VaultDownstreamRecord) :=
  state.downstream.mapM downstreamRecord

/-- Retired keys are left out. -/
def list (state : VaultFile) : List KeySummary :=
  (state.keys.filter fun key => !key.retired).map summary

def listDownstream (state : VaultFile) : List DownstreamSummary :=
  state.downstream.map downstreamSummary

/-- An unknown key counts as retired. -/
def isRetired (id : Uuid) (state : VaultFile) : Bool :=
  match state.keys.find? fun key => key.id = id with
  | none => true
  | some key => key.retired

end Vault

end NvidiaBuildLb.Core
