import NvidiaBuildLb.Core.Validation
import NvidiaBuildLb.Core.Persist
import NvidiaBuildLb.Foundation.ListEdit

namespace NvidiaBuildLb.Core

open Foundation

namespace Vault

/-! The vault's mutators, up to the point where each one writes the file.
Fresh identifiers, random bytes and the clock are arguments. -/

def isLive (id : Uuid) (key : StoredKey) : Bool :=
  key.id = id && !key.retired

def isActiveDownstream (id : Uuid) (item : StoredDownstream) : Bool :=
  item.id = id && item.active

/-- Edits the first key a mutator looks for and goes on to write the file. -/
def editKey (state : VaultFile) (select : StoredKey → Bool)
    (edit : StoredKey → StoredKey) : Staged KeySummary :=
  match modifyFirst? select edit state.keys with
  | none => .failed .keyNotFound state
  | some (keys, key) => .persisting (summary key) { state with keys }

def editDownstream (state : VaultFile) (missing : VaultError)
    (select : StoredDownstream → Bool)
    (edit : StoredDownstream → StoredDownstream) :
    Staged DownstreamSummary :=
  match modifyFirst? select edit state.downstream with
  | none => .failed missing state
  | some (downstream, item) =>
      .persisting (downstreamSummary item) { state with downstream }

def retireForReplacement (key : StoredKey) : StoredKey :=
  { key with retired := true, enabled := false }

/-- The slot `add` takes over once both are occupied: the first one that is
not enabled. -/
def isReplaceable (key : StoredKey) : Bool :=
  !key.retired && !key.enabled

def activeCount (keys : List StoredKey) : Nat :=
  (keys.filter fun key => !key.retired).length

def add (primitives : Primitives) (masterKey : MasterKey) (id : Uuid)
    (nonce : CipherNonce) (label credential : String) (state : VaultFile) :
    Staged KeySummary :=
  match validateLabel label with
  | .error error => .failed error state
  | .ok () =>
      if !validUpstreamCredential credential then
        .failed .credentialShape state
      else
        let credentialFingerprint := fingerprint primitives (utf8 credential)
        if state.keys.any fun key =>
            key.fingerprint == credentialFingerprint then
          .failed .credentialExists state
        else if state.keys.any fun key =>
            !key.retired && key.label == label then
          .failed .labelExists state
        else
          let slots :=
            if activeCount state.keys ≥ maxUpstreamKeys then
              (modifyFirst? isReplaceable retireForReplacement state.keys).map
                Prod.fst
            else
              some state.keys
          match slots with
          | none => .failed .tooManyCredentials state
          | some keys =>
              match primitives.encryptInPlace masterKey nonce id.asBytes
                  (utf8 credential) with
              -- The replaced slot is already retired in memory here.
              | none => .failed .encryptionFailed { state with keys }
              | some payload =>
                  let entry : StoredKey := {
                    id
                    label
                    fingerprint := credentialFingerprint
                    nonce := base64UrlEncode nonce.toList
                    ciphertext := base64UrlEncode payload
                    enabled := false
                    verified := false
                    retired := false
                    cooldownUntil := none
                    requestCount := 0
                    failureCount := 0 }
                  .persisting (summary entry)
                    { state with keys := keys ++ [entry] }

def isCooling (now : Timestamp) (key : StoredKey) : Bool :=
  match key.cooldownUntil with
  | none => false
  | some until_ => now < until_

def setEnabled (id : Uuid) (enabled : Bool) (now : Timestamp)
    (state : VaultFile) : Staged KeySummary :=
  match state.keys.find? (isLive id) with
  | none => .failed .keyNotFound state
  | some key =>
      if enabled && !key.verified then
        .failed .probeRequired state
      else if enabled && isCooling now key then
        .failed .coolingDown state
      else
        editKey state (isLive id) fun key => { key with enabled }

def markVerified (id : Uuid) (state : VaultFile) : Staged KeySummary :=
  editKey state (isLive id) fun key =>
    { key with verified := true, cooldownUntil := none, failureCount := 0 }

def delete (id : Uuid) (state : VaultFile) : Staged Unit :=
  (editKey state (isLive id) fun key =>
    { key with
      retired := true
      enabled := false
      verified := false
      cooldownUntil := none }).map fun _ => ()

def quarantine (id : Uuid) (state : VaultFile) : Staged KeySummary :=
  editKey state (isLive id) fun key =>
    { key with
      enabled := false
      verified := false
      cooldownUntil := none
      failureCount := 0 }

/-- Retirement does not stop the accounting of a request that selected the
key before. -/
def recordRequest (id : Uuid) (state : VaultFile) : Staged Unit :=
  (editKey state (fun key => key.id = id) fun key =>
    { key with
      requestCount := saturatingAdd key.requestCount 1
      failureCount := 0
      cooldownUntil := none }).map fun _ => ()

def failureDelay (retryAfter : Option Duration) (failureCount : Nat) :
    Duration :=
  match retryAfter with
  | some value => max 0 (min value (Duration.seconds 300))
  | none => Duration.seconds (1 <<< min failureCount 6)

def applyFailure (retryAfter : Option Duration) (now : Timestamp)
    (key : StoredKey) : StoredKey :=
  let failureCount := saturatingAdd key.failureCount 1
  if key.retired then
    { key with failureCount, cooldownUntil := none }
  else
    let until_ := now + failureDelay retryAfter failureCount
    { key with
      failureCount
      cooldownUntil := some <|
        match key.cooldownUntil with
        | none => until_
        | some old => max old until_ }

def recordFailure (id : Uuid) (retryAfter : Option Duration)
    (now : Timestamp) (state : VaultFile) : Staged Unit :=
  (editKey state (fun key => key.id = id)
    (applyFailure retryAfter now)).map fun _ => ()

def legacyProfile : String := "__legacy__"

def setRouterCursor (cursor : Nat) (state : VaultFile) : Staged Unit :=
  .persisting () { state with
    routerCursor := cursor
    routerCursors := state.routerCursors.insert legacyProfile cursor }

def setRouterCursorFor (profile : String) (cursor : Nat)
    (state : VaultFile) : Staged Unit :=
  .persisting () { state with
    routerCursors := state.routerCursors.insert profile cursor }

def routerCursorFor (profile : String) (state : VaultFile) : Nat :=
  ((state.routerCursors.lookup profile).or
    (state.routerCursors.lookup legacyProfile)).getD state.routerCursor

def tokenPrefix : String := "nblb_ds_"

/-- The bearer made of 32 random bytes. -/
def bearer (bytes : Vector UInt8 32) : String :=
  tokenPrefix ++ hexEncode bytes.toList

def issueDownstream (primitives : Primitives) (id : Uuid)
    (bytes : Vector UInt8 32) (now : Timestamp) (label : String)
    (requestedScopes : List String) (state : VaultFile) :
    Staged IssuedDownstream :=
  match validateDownstreamLabel label with
  | .error error => .failed error state
  | .ok () =>
      match canonicalScopes requestedScopes with
      | .error error => .failed error state
      | .ok scopes =>
          if state.downstream.any fun item =>
              item.active && item.label == label then
            .failed .downstreamLabelExists state
          else
            let token := bearer bytes
            let entry : StoredDownstream := {
              id
              label
              scopes
              tokenDigest := fingerprint primitives (utf8 token)
              active := true
              requestCount := 0
              lastUsedAt := none
              createdAt := now
              revokedAt := none }
            .persisting { summary := downstreamSummary entry, token }
              { state with downstream := state.downstream ++ [entry] }

/-- Revoking twice is idempotent, and the second time writes nothing. -/
def revokeDownstream (id : Uuid) (now : Timestamp) (state : VaultFile) :
    Staged DownstreamSummary :=
  match state.downstream.find? fun item => item.id = id with
  | none => .failed .downstreamNotFound state
  | some item =>
      if item.active then
        editDownstream state .downstreamNotFound (fun item => item.id = id)
          fun item => { item with active := false, revokedAt := some now }
      else
        .settled (downstreamSummary item) state

def rotateDownstream (primitives : Primitives) (id : Uuid)
    (bytes : Vector UInt8 32) (state : VaultFile) :
    Staged IssuedDownstream :=
  let token := bearer bytes
  (editDownstream state .downstreamNotFound (isActiveDownstream id)
    fun item =>
      { item with tokenDigest := fingerprint primitives (utf8 token) }).map
    fun summary => { summary, token }

def updateDownstreamScopes (id : Uuid) (requestedScopes : List String)
    (state : VaultFile) : Staged DownstreamSummary :=
  match canonicalScopes requestedScopes with
  | .error error => .failed error state
  | .ok scopes =>
      editDownstream state .downstreamNotFound (isActiveDownstream id)
        fun item => { item with scopes }

def recordDownstreamUse (id : Uuid) (usedAt : Timestamp)
    (state : VaultFile) : Staged DownstreamSummary :=
  editDownstream state .downstreamInvalid (isActiveDownstream id) fun item =>
    { item with
      requestCount := saturatingAdd item.requestCount 1
      lastUsedAt := some usedAt }

end Vault

inductive VaultOperation where
  | add (id : Uuid) (nonce : CipherNonce) (label credential : String)
  | setEnabled (id : Uuid) (enabled : Bool) (now : Timestamp)
  | markVerified (id : Uuid)
  | delete (id : Uuid)
  | quarantine (id : Uuid)
  | recordRequest (id : Uuid)
  | recordFailure (id : Uuid) (retryAfter : Option Duration) (now : Timestamp)
  | setRouterCursor (cursor : Nat)
  | setRouterCursorFor (profile : String) (cursor : Nat)
  | issueDownstream (id : Uuid) (bytes : Vector UInt8 32) (now : Timestamp)
      (label : String) (scopes : List String)
  | revokeDownstream (id : Uuid) (now : Timestamp)
  | rotateDownstream (id : Uuid) (bytes : Vector UInt8 32)
  | updateDownstreamScopes (id : Uuid) (scopes : List String)
  | recordDownstreamUse (id : Uuid) (usedAt : Timestamp)
  deriving DecidableEq

inductive VaultValue where
  | unit
  | key (summary : KeySummary)
  | downstream (summary : DownstreamSummary)
  | issued (issued : IssuedDownstream)
  deriving DecidableEq

def VaultOperation.stage (primitives : Primitives) (masterKey : MasterKey) :
    VaultOperation → VaultFile → Staged VaultValue
  | .add id nonce label credential, state =>
      (Vault.add primitives masterKey id nonce label credential state).map .key
  | .setEnabled id enabled now, state =>
      (Vault.setEnabled id enabled now state).map .key
  | .markVerified id, state => (Vault.markVerified id state).map .key
  | .delete id, state => (Vault.delete id state).map fun _ => .unit
  | .quarantine id, state => (Vault.quarantine id state).map .key
  | .recordRequest id, state =>
      (Vault.recordRequest id state).map fun _ => .unit
  | .recordFailure id retryAfter now, state =>
      (Vault.recordFailure id retryAfter now state).map fun _ => .unit
  | .setRouterCursor cursor, state =>
      (Vault.setRouterCursor cursor state).map fun _ => .unit
  | .setRouterCursorFor profile cursor, state =>
      (Vault.setRouterCursorFor profile cursor state).map fun _ => .unit
  | .issueDownstream id bytes now label scopes, state =>
      (Vault.issueDownstream primitives id bytes now label scopes state).map
        .issued
  | .revokeDownstream id now, state =>
      (Vault.revokeDownstream id now state).map .downstream
  | .rotateDownstream id bytes, state =>
      (Vault.rotateDownstream primitives id bytes state).map .issued
  | .updateDownstreamScopes id scopes, state =>
      (Vault.updateDownstreamScopes id scopes state).map .downstream
  | .recordDownstreamUse id usedAt, state =>
      (Vault.recordDownstreamUse id usedAt state).map .downstream

end NvidiaBuildLb.Core
