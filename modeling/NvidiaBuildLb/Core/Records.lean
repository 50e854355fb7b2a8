import NvidiaBuildLb.Core.Primitives

namespace NvidiaBuildLb.Core

/-! The vault's stored state and the views it hands out. -/

def maxUpstreamKeys : Nat := 2

/-- Advertised profile identifiers in manifest order. -/
def profiles : List String := [
  "z-ai/glm-5.2",
  "microsoft/phi-4-multimodal-instruct",
  "nvidia/vila",
  "nvidia/nvclip",
  "black-forest-labs/flux.1-kontext-dev",
  "stabilityai/stable-video-diffusion",
  "nvidia/magpie-tts-multilingual",
  "nvidia/parakeet-ctc-1.1b"]

structure KeySummary where
  id : Uuid
  label : String
  fingerprint : String
  enabled : Bool
  verified : Bool
  cooldownUntil : Option Timestamp
  requestCount : Nat
  failureCount : Nat
  deriving DecidableEq, Repr

structure DownstreamSummary where
  id : Uuid
  label : String
  scopes : List String
  active : Bool
  requestCount : Nat
  lastUsedAt : Option Timestamp
  createdAt : Timestamp
  revokedAt : Option Timestamp
  deriving DecidableEq, Repr

structure DownstreamIdentity where
  id : Uuid
  active : Bool
  deriving DecidableEq, Repr

inductive DownstreamAuthError where
  | invalidCredential
  | insufficientScope
  deriving DecidableEq, Repr

/-- The only value that ever carries a plaintext bearer. -/
structure IssuedDownstream where
  summary : DownstreamSummary
  token : String
  deriving DecidableEq, Repr

/-- Encrypted upstream row as the PostgreSQL adapter sees it. -/
structure VaultKeyRecord where
  id : Uuid
  label : String
  fingerprint : List UInt8
  nonce : List UInt8
  ciphertext : List UInt8
  enabled : Bool
  verified : Bool
  retired : Bool
  cooldownUntil : Option Timestamp
  requestCount : Nat
  failureCount : Nat
  deriving DecidableEq, Repr

/-- Hashed bearer row as the PostgreSQL adapter sees it. -/
structure VaultDownstreamRecord where
  id : Uuid
  label : String
  scopes : List String
  tokenDigest : List UInt8
  active : Bool
  requestCount : Nat
  lastUsedAt : Option Timestamp
  createdAt : Timestamp
  revokedAt : Option Timestamp
  deriving DecidableEq, Repr

structure StoredKey where
  id : Uuid
  label : String
  fingerprint : String
  nonce : String
  ciphertext : String
  enabled : Bool
  verified : Bool
  retired : Bool
  cooldownUntil : Option Timestamp
  requestCount : Nat
  failureCount : Nat
  deriving DecidableEq, Repr

structure StoredDownstream where
  id : Uuid
  label : String
  scopes : List String
  tokenDigest : String
  active : Bool
  requestCount : Nat
  lastUsedAt : Option Timestamp
  createdAt : Timestamp
  revokedAt : Option Timestamp
  deriving DecidableEq, Repr

/-- Cursor per profile; a map, so only lookups are meaningful. -/
abbrev RouterCursors := List (String × Nat)

def RouterCursors.insert (cursors : RouterCursors) (profile : String)
    (cursor : Nat) : RouterCursors :=
  (profile, cursor) :: cursors.filter fun entry => entry.1 != profile

structure VaultFile where
  version : Nat
  keys : List StoredKey
  downstream : List StoredDownstream
  routerCursor : Nat
  routerCursors : RouterCursors
  deriving DecidableEq, Repr

def VaultFile.empty : VaultFile where
  version := 1
  keys := []
  downstream := []
  routerCursor := 0
  routerCursors := []

def summary (key : StoredKey) : KeySummary where
  id := key.id
  label := key.label
  fingerprint := key.fingerprint
  enabled := key.enabled
  verified := key.verified
  cooldownUntil := key.cooldownUntil
  requestCount := key.requestCount
  failureCount := key.failureCount

def downstreamSummary (item : StoredDownstream) : DownstreamSummary where
  id := item.id
  label := item.label
  scopes := item.scopes
  active := item.active
  requestCount := item.requestCount
  lastUsedAt := item.lastUsedAt
  createdAt := item.createdAt
  revokedAt := item.revokedAt

inductive VaultError where
  | labelInvalid
  | credentialShape
  | credentialExists
  | labelExists
  | tooManyCredentials
  | encryptionFailed
  | downstreamLabelInvalid
  | scopesInvalid
  | scopesNotUnique
  | downstreamLabelExists
  | downstreamNotFound
  | downstreamInvalid
  | keyNotFound
  | probeRequired
  | coolingDown
  | unsupportedVersion
  | fingerprintsNotDistinct
  | invalidEncryptedRow
  | invalidDownstreamDigest
  | decode (field : String)
  | unauthenticated (error : DownstreamAuthError)
  | persist (context : String)
  deriving DecidableEq, Repr

def DownstreamAuthError.message : DownstreamAuthError → String
  | .invalidCredential => "invalid downstream credential"
  | .insufficientScope => "insufficient scope"

def VaultError.message : VaultError → String
  | .labelInvalid => "label is invalid"
  | .credentialShape => "credential shape is invalid"
  | .credentialExists => "upstream credential already exists"
  | .labelExists => "upstream label already exists"
  | .tooManyCredentials => "at most two upstream credentials are supported"
  | .encryptionFailed => "credential encryption failed"
  | .downstreamLabelInvalid => "downstream label is invalid"
  | .scopesInvalid => "scopes are invalid"
  | .scopesNotUnique => "scopes must be unique"
  | .downstreamLabelExists => "downstream label already exists"
  | .downstreamNotFound => "downstream credential not found"
  | .downstreamInvalid => "invalid downstream credential"
  | .keyNotFound => "key not found"
  | .probeRequired => "provider probe is required before enabling key"
  | .coolingDown => "key is cooling down"
  | .unsupportedVersion => "unsupported vault version"
  | .fingerprintsNotDistinct =>
      "upstream credentials must have distinct fingerprints"
  | .invalidEncryptedRow => "invalid encrypted upstream row"
  | .invalidDownstreamDigest => "invalid downstream digest"
  | .decode field => "decode " ++ field
  | .unauthenticated error => error.message
  | .persist context => context

end NvidiaBuildLb.Core
