import NvidiaBuildLb.Gateway.Database
import NvidiaBuildLb.Foundation.Transaction

namespace NvidiaBuildLb.Gateway

open Foundation NvidiaBuildLb.Core
open Transaction (Acknowledgement)

/-! The incremental vault sync: the fields one local mutation changed, each
guarded by its previous value, in one transaction. -/

inductive SyncError where
  | database (context : String)
  | conversion (context : String)
  | conflict (message : String)
  deriving DecidableEq, Repr

def SyncError.message : SyncError → String
  | .database context => context
  | .conversion context => context
  | .conflict message => message

abbrev Sync := Transaction Database SyncError

structure ClientPolicyMutation where
  id : Uuid
  expiresAt : Option Timestamp
  expiresAtChanged : Bool
  modelAllowlist : Option (List String)
  modelAllowlistChanged : Bool
  rpmLimit : Option Nat
  rpmLimitChanged : Bool
  maxConcurrency : Option Nat
  maxConcurrencyChanged : Bool
  requestLimitDay : Option Nat
  requestLimitDayChanged : Bool

structure ProbeAuditMutation where
  id : Uuid
  kind : String
  upstreamId : Uuid
  profileId : Option String
  receiptProfile : Option String
  billable : Bool
  statusCode : Option Nat
  errorClass : Option String
  latencyMs : Nat

structure VaultAuditMutation where
  action : String
  resourceKind : String
  resourceId : Option Uuid
  requestId : Uuid
  detail : String
  clientPolicy : Option ClientPolicyMutation
  probeResult : Option ProbeAuditMutation

structure VaultSyncSnapshot where
  keys : List VaultKeyRecord
  downstream : List VaultDownstreamRecord
  cursors : RouterCursors

/-- `i64::try_from` on an unsigned counter. -/
def toI64 (context : String) (count : Nat) : Except SyncError Int :=
  if (count : Int) ≤ i64Max then .ok count else .error (.conversion context)

def checkedSub (context : String) (current previous : Int) :
    Except SyncError Int :=
  let difference := current - previous
  if -i64Max - 1 ≤ difference ∧ difference ≤ i64Max then
    .ok difference
  else
    .error (.conversion context)

/-- Collecting a snapshot into a map keeps the last record of an id. -/
def lastWith (key : α → Uuid) (entries : List α) (id : Uuid) : Option α :=
  entries.reverse.find? fun entry => key entry = id

def Database.updateKeys (database : Database)
    (select : UpstreamKeyRow → Bool) (edit : UpstreamKeyRow → UpstreamKeyRow)
    (keeps : ∀ row, (edit row).id = row.id) : Nat × Database :=
  (database.upstreamKeys.count select,
    { database with
      upstreamKeys := database.upstreamKeys.update select edit keeps })

def Database.updateDownstream (database : Database)
    (select : DownstreamCredentialRow → Bool)
    (edit : DownstreamCredentialRow → DownstreamCredentialRow)
    (keeps : ∀ row, (edit row).id = row.id) : Nat × Database :=
  (database.downstreamCredentials.count select,
    { database with
      downstreamCredentials :=
        database.downstreamCredentials.update select edit keeps })

/-- A statement that has to affect exactly one row. -/
def affectOne (context conflict : String)
    (statement : Database → Option (Nat × Database)) : Sync Unit := do
  let affected ← Transaction.execute (.database context) statement
  Transaction.refuseIf (affected != 1) (.conflict conflict)

def updateOne (context conflict : String)
    (update : Database → Nat × Database) : Sync Unit :=
  affectOne context conflict fun rows => some (update rows)

def whenChanged [DecidableEq α] (previous current : α) (update : Sync Unit) :
    Sync Unit :=
  if current ≠ previous then update else pure ()

/-- Counters are added to, so another process may have moved them. -/
def syncCounter (overflow deltaOverflow : String) (previous current : Nat)
    (add : Int → Sync Unit) : Sync Unit :=
  whenChanged previous current do
    let currentCount ← Transaction.lift <| toI64 overflow current
    let previousCount ← Transaction.lift <| toI64 overflow previous
    let delta ← Transaction.lift <|
      checkedSub deltaOverflow currentCount previousCount
    add delta

/-- The first free one of the two slots, or null. -/
def freeSlot (keys : Table UpstreamKeyRow.id) : Option Nat :=
  [1, 2].find? fun slot =>
    keys.count (fun row => row.slotNo == slot && !row.retired) == 0

def insertUpstreamKey (now : Micros) (current : VaultKeyRecord) :
    Sync Unit := do
  let activeCount ← Transaction.execute
    (.database "count active upstream keys") fun rows =>
      some (rows.upstreamKeys.count (fun row => !row.retired), rows)
  Transaction.refuseIf (maxUpstreamKeys ≤ activeCount)
    (.conflict "at most two upstream credentials are supported")
  let requestCount ← Transaction.lift <|
    toI64 "key request count overflow" current.requestCount
  let failureCount ← Transaction.lift <|
    toI64 "key failure count overflow" current.failureCount
  affectOne "insert changed upstream key" "concurrent upstream key insertion"
    fun rows =>
      -- A null slot violates the column; a taken id inserts nothing.
      (freeSlot rows.upstreamKeys).map fun slotNo =>
        match rows.upstreamKeys.insert? {
            id := current.id
            label := current.label
            fingerprint := current.fingerprint
            ciphertext := current.ciphertext
            nonce := current.nonce
            enabled := current.enabled
            verified := current.verified
            retired := current.retired
            cooldownUntil := current.cooldownUntil.map micros
            requestCount
            failureCount
            createdAt := now
            slotNo } with
        | none => (0, rows)
        | some upstreamKeys => (1, { rows with upstreamKeys })

def syncKeyEnabled (previous current : VaultKeyRecord) : Sync Unit :=
  whenChanged previous.enabled current.enabled <|
    updateOne "update upstream enabled state"
      "concurrent upstream enabled state" fun rows =>
        rows.updateKeys
          (fun row => row.id = current.id && row.enabled = previous.enabled)
          (fun row => { row with enabled := current.enabled }) fun _ => rfl

def syncKeyVerified (previous current : VaultKeyRecord) : Sync Unit :=
  whenChanged previous.verified current.verified <|
    updateOne "update upstream verification state"
      "concurrent upstream verification state" fun rows =>
        rows.updateKeys
          (fun row => row.id = current.id && row.verified = previous.verified)
          (fun row => { row with verified := current.verified }) fun _ => rfl

def syncKeyRetired (previous current : VaultKeyRecord) : Sync Unit :=
  whenChanged previous.retired current.retired <|
    updateOne "update upstream retirement state"
      "concurrent upstream retirement state" fun rows =>
        rows.updateKeys
          (fun row => row.id = current.id && row.retired = previous.retired)
          (fun row => { row with retired := current.retired }) fun _ => rfl

def Database.invalidateReceipts (database : Database) (keyId : Uuid)
    (edit : ProbeReceiptRow → ProbeReceiptRow)
    (keeps : ∀ row, ((edit row).profileId, (edit row).keyId) =
      (row.profileId, row.keyId)) : Database :=
  { database with
    probeReceipts :=
      database.probeReceipts.update (fun row => row.keyId = keyId) edit keeps }

/-- Receipts stay as evidence; they only stop counting. -/
def syncKeyReceipts (now : Micros) (previous current : VaultKeyRecord) :
    Sync Unit :=
  if (!current.verified && previous.verified) ||
      (current.retired && !previous.retired) then
    let reason :=
      if current.retired && !previous.retired then
        "upstream_retired"
      else
        "credential_unverified"
    Transaction.execute
      (.database "invalidate stale profile provider receipts") fun rows =>
        some ((), rows.invalidateReceipts current.id
          (fun row => { row with
            invalidatedAt := row.invalidatedAt.or (some now)
            invalidationReason := row.invalidationReason.or (some reason) })
          fun _ => rfl)
  else
    pure ()

def syncKeyCooldown (previous current : VaultKeyRecord) : Sync Unit :=
  whenChanged previous.cooldownUntil current.cooldownUntil <|
    updateOne "update upstream cooldown" "concurrent upstream cooldown"
      fun rows => rows.updateKeys
        (fun row => row.id = current.id &&
          row.cooldownUntil = previous.cooldownUntil.map micros)
        (fun row => { row with
          cooldownUntil := current.cooldownUntil.map micros }) fun _ => rfl

def syncKeyRequestCount (previous current : VaultKeyRecord) : Sync Unit :=
  syncCounter "key request count overflow" "key request count delta overflow"
    previous.requestCount current.requestCount fun delta =>
      updateOne "update upstream request count"
        "concurrent upstream request count" fun rows =>
          rows.updateKeys (fun row => row.id = current.id)
            (fun row => { row with
              requestCount := max 0 (row.requestCount + delta) }) fun _ => rfl

def syncKeyFailureCount (previous current : VaultKeyRecord) : Sync Unit :=
  syncCounter "key failure count overflow" "key failure count delta overflow"
    previous.failureCount current.failureCount fun delta =>
      updateOne "update upstream failure count"
        "concurrent upstream failure count" fun rows =>
          rows.updateKeys (fun row => row.id = current.id)
            (fun row => { row with
              failureCount := max 0 (row.failureCount + delta) }) fun _ => rfl

def syncKey (now : Micros) (previousKeys : List VaultKeyRecord)
    (current : VaultKeyRecord) : Sync Unit :=
  match lastWith VaultKeyRecord.id previousKeys current.id with
  | none => insertUpstreamKey now current
  | some previous => do
      syncKeyEnabled previous current
      syncKeyVerified previous current
      syncKeyRetired previous current
      syncKeyReceipts now previous current
      syncKeyCooldown previous current
      syncKeyRequestCount previous current
      syncKeyFailureCount previous current

/-- `'issued_'||left(replace(id::text,'-',''),12)` -/
def issuedKeyPrefix (id : Uuid) : String :=
  "issued_" ++ String.ofList ((hexEncode (Uuid.asBytes id)).toList.take 12)

def insertDownstreamCredential (current : VaultDownstreamRecord) :
    Sync Unit := do
  let requestCount ← Transaction.lift <|
    toI64 "downstream request count overflow" current.requestCount
  affectOne "insert changed downstream credential"
    "concurrent downstream credential insertion" fun rows =>
      match rows.downstreamCredentials.insert? {
          id := current.id
          label := current.label
          digest := current.tokenDigest
          scopes := current.scopes
          active := current.active
          requestCount
          lastUsedAt := current.lastUsedAt.map micros
          createdAt := micros current.createdAt
          revokedAt := current.revokedAt.map micros
          keyPrefix := issuedKeyPrefix current.id
          rotatedAt := none
          expiresAt := none
          modelAllowlist := none
          rpmLimit := none
          maxConcurrency := none
          requestLimitDay := none } with
      | none => some (0, rows)
      | some downstreamCredentials =>
          some (1, { rows with downstreamCredentials })

def syncDownstreamActive (previous current : VaultDownstreamRecord) :
    Sync Unit :=
  whenChanged previous.active current.active <|
    updateOne "update downstream active state"
      "concurrent downstream active state" fun rows =>
        rows.updateDownstream
          (fun row => row.id = current.id && row.active = previous.active)
          (fun row => { row with active := current.active }) fun _ => rfl

def syncDownstreamDigest (now : Micros)
    (previous current : VaultDownstreamRecord) : Sync Unit :=
  whenChanged previous.tokenDigest current.tokenDigest <|
    updateOne "rotate downstream credential digest"
      "concurrent downstream credential rotation" fun rows =>
        rows.updateDownstream
          (fun row => row.id = current.id && row.digest = previous.tokenDigest)
          (fun row => { row with
            digest := current.tokenDigest
            rotatedAt := some now }) fun _ => rfl

def syncDownstreamScopes (previous current : VaultDownstreamRecord) :
    Sync Unit :=
  whenChanged previous.scopes current.scopes <|
    updateOne "update downstream credential scopes"
      "concurrent downstream credential scopes" fun rows =>
        rows.updateDownstream
          (fun row => row.id = current.id && row.scopes = previous.scopes)
          (fun row => { row with scopes := current.scopes }) fun _ => rfl

def syncDownstreamRevocation (previous current : VaultDownstreamRecord) :
    Sync Unit :=
  whenChanged previous.revokedAt current.revokedAt <|
    updateOne "update downstream revocation"
      "concurrent downstream revocation" fun rows =>
        rows.updateDownstream
          (fun row => row.id = current.id &&
            row.revokedAt = previous.revokedAt.map micros)
          (fun row => { row with
            revokedAt := current.revokedAt.map micros }) fun _ => rfl

def syncDownstreamRequestCount (previous current : VaultDownstreamRecord) :
    Sync Unit :=
  syncCounter "downstream request count overflow"
    "downstream request count delta overflow" previous.requestCount
    current.requestCount fun delta =>
      updateOne "update downstream request count"
        "concurrent downstream request count" fun rows =>
          rows.updateDownstream (fun row => row.id = current.id)
            (fun row => { row with
              requestCount := max 0 (row.requestCount + delta) }) fun _ => rfl

/-- The column only moves forward. -/
def syncDownstreamLastUsed (previous current : VaultDownstreamRecord) :
    Sync Unit :=
  whenChanged previous.lastUsedAt current.lastUsedAt <|
    let usedAt := current.lastUsedAt.map micros
    updateOne "update downstream last-used timestamp"
      "concurrent downstream last-used timestamp" fun rows =>
        rows.updateDownstream (fun row => row.id = current.id)
          (fun row => { row with
            lastUsedAt := greatest (row.lastUsedAt.or usedAt) usedAt })
          fun _ => rfl

def syncDownstream (now : Micros)
    (previousDownstream : List VaultDownstreamRecord)
    (current : VaultDownstreamRecord) : Sync Unit :=
  match lastWith VaultDownstreamRecord.id previousDownstream current.id with
  | none => insertDownstreamCredential current
  | some previous => do
      syncDownstreamActive previous current
      syncDownstreamDigest now previous current
      syncDownstreamScopes previous current
      syncDownstreamRevocation previous current
      syncDownstreamRequestCount previous current
      syncDownstreamLastUsed previous current

/-- `wrapping_sub` then `% 2`: the parities differ. -/
def cursorMoved (previous current : Nat) : Bool :=
  (previous + current) % 2 != 0

def syncCursor (previous current : RouterCursors) (profile : String) :
    Sync Unit :=
  if cursorMoved ((previous.lookup profile).getD 0)
      ((current.lookup profile).getD 0) then
    updateOne "update routing cursor" "concurrent routing cursor" fun rows =>
      let select := fun row : RoutingStateRow => decide (row.profileId = profile)
      (rows.routingState.count select,
        { rows with
          routingState := rows.routingState.update select
            (fun row => { row with
              nextSlot := if row.nextSlot = 1 then 2 else 1
              generation := row.generation + 1 }) fun _ => rfl })
  else
    pure ()

/-- `iN::try_from` that saturates. -/
def saturatingTo (bound : Int) (value : Nat) : Int :=
  min value bound

def applyClientPolicy (policy : ClientPolicyMutation) : Sync Unit :=
  updateOne "apply client policy in audited vault mutation"
    "client policy target is unavailable" fun rows =>
      rows.updateDownstream (fun row => row.id = policy.id && row.active)
        (fun row => { row with
          expiresAt :=
            if policy.expiresAtChanged then policy.expiresAt.map micros
            else row.expiresAt
          modelAllowlist :=
            if policy.modelAllowlistChanged then policy.modelAllowlist
            else row.modelAllowlist
          rpmLimit :=
            if policy.rpmLimitChanged then
              policy.rpmLimit.map (saturatingTo (2 ^ 31 - 1))
            else row.rpmLimit
          maxConcurrency :=
            if policy.maxConcurrencyChanged then
              policy.maxConcurrency.map (saturatingTo (2 ^ 15 - 1))
            else row.maxConcurrency
          requestLimitDay :=
            if policy.requestLimitDayChanged then
              policy.requestLimitDay.map (saturatingTo (2 ^ 31 - 1))
            else row.requestLimitDay }) fun _ => rfl

def ProbeAuditMutation.passed (probe : ProbeAuditMutation) : Bool :=
  probe.errorClass.isNone &&
    probe.statusCode.any fun status => 200 ≤ status && status < 300

def insertProbeRun (now : Micros) (probe : ProbeAuditMutation) : Sync Unit :=
  Transaction.execute (.database "insert audited probe result") fun rows =>
    (rows.probeRuns.insert? {
      id := probe.id
      kind := probe.kind
      upstreamId := probe.upstreamId
      profileId := probe.profileId
      status := if probe.passed then "passed" else "failed"
      statusCode := probe.statusCode
      latencyMs := saturatingTo i64Max probe.latencyMs
      errorClass := probe.errorClass
      billable := probe.billable
      startedAt := now
      finishedAt := now }).map fun probeRuns => ((), { rows with probeRuns })

/-- `INSERT ... ON CONFLICT DO UPDATE`. -/
def Database.storeReceipt (database : Database) (now : Micros)
    (profile : String) (probe : ProbeAuditMutation) : Database :=
  match database.probeReceipts.insert? {
      profileId := profile
      keyId := probe.upstreamId
      verifiedAt := now
      lastProbeRunId := some probe.id
      invalidatedAt := none
      invalidationReason := none } with
  | some probeReceipts => { database with probeReceipts }
  | none =>
      { database with
        probeReceipts := database.probeReceipts.update
          (fun row => row.profileId = profile && row.keyId = probe.upstreamId)
          (fun row => { row with
            verifiedAt := now
            lastProbeRunId := some probe.id
            invalidatedAt := none
            invalidationReason := none }) fun _ => rfl }

def recordProbe (now : Micros) (probe : ProbeAuditMutation) : Sync Unit := do
  insertProbeRun now probe
  if probe.passed then
    match probe.receiptProfile with
    | none => pure ()
    | some profile =>
        Transaction.execute (.database "store audited probe receipt")
          fun rows => some ((), rows.storeReceipt now profile probe)
  else if probe.statusCode = some 401 || probe.statusCode = some 403 then
    Transaction.execute (.database "invalidate audited provider proofs")
      fun rows => some ((), rows.invalidateReceipts probe.upstreamId
        (fun row => { row with
          invalidatedAt := row.invalidatedAt.or (some now)
          invalidationReason := some "provider_auth_error" }) fun _ => rfl)

def insertAuditEvent (auditId : Uuid) (audit : VaultAuditMutation) :
    Sync Uuid :=
  Transaction.execute (.database "insert audited vault mutation event")
    fun rows => (rows.auditEvents.insert? {
      id := auditId
      action := audit.action
      resourceKind := audit.resourceKind
      resourceId := audit.resourceId
      requestId := audit.requestId
      outcome := "succeeded"
      detail := audit.detail }).map fun auditEvents =>
        (auditId, { rows with auditEvents })

def recordAudit (now : Micros) (auditId : Uuid) (audit : VaultAuditMutation) :
    Sync Uuid := do
  audit.clientPolicy.forM applyClientPolicy
  audit.probeResult.forM (recordProbe now)
  insertAuditEvent auditId audit

def recordIfAudited (now : Micros) (auditId : Uuid) :
    Option VaultAuditMutation → Sync (Option Uuid)
  | none => pure none
  | some audit => do
      let recorded ← recordAudit now auditId audit
      pure (some recorded)

/-- A statement that changes no row: `BEGIN`, the advisory lock, `COMMIT`. -/
def control (context : String) : Sync Unit :=
  Transaction.execute (.database context) fun rows => some ((), rows)

/-- `now` is fixed when the transaction starts; `auditId` is the identifier the
server generates for the audit event. -/
def syncDatabaseDeltaBody (now : Micros) (auditId : Uuid)
    (previous current : VaultSyncSnapshot)
    (audit : Option VaultAuditMutation) : Sync (Option Uuid) := do
  control "begin incremental vault sync"
  control "lock incremental vault sync"
  current.keys.forM (syncKey now previous.keys)
  current.downstream.forM (syncDownstream now previous.downstream)
  profiles.forM (syncCursor previous.cursors current.cursors)
  let recorded ← recordIfAudited now auditId audit
  control "commit incremental vault sync"
  pure recorded

def syncDatabaseDelta (now : Micros) (auditId : Uuid)
    (previous current : VaultSyncSnapshot) (audit : Option VaultAuditMutation)
    (refuses : Nat → Bool) (acknowledgement : Acknowledgement)
    (database : Database) : Except SyncError (Option Uuid) × Database :=
  (syncDatabaseDeltaBody now auditId previous current audit).commit refuses
    acknowledgement (.database "commit incremental vault sync") database

section Delta

variable {now : Micros} {auditId : Uuid} {previous current : VaultSyncSnapshot}
  {audit : Option VaultAuditMutation} {refuses : Nat → Bool}
  {acknowledgement : Acknowledgement} {database after : Database}

theorem syncDatabaseDelta_eq_ok {recorded : Option Uuid} :
    syncDatabaseDelta now auditId previous current audit refuses
        acknowledgement database = (.ok recorded, after) ↔
      acknowledgement = .received ∧
        (syncDatabaseDeltaBody now auditId previous current audit).transact
          refuses database = (.ok recorded, after) :=
  Transaction.commit_eq_ok

theorem syncDatabaseDelta_lost {recorded : Option Uuid}
    (ran : syncDatabaseDelta now auditId previous current audit refuses
      .received database = (.ok recorded, after)) :
    syncDatabaseDelta now auditId previous current audit refuses .lost
      database = (.error (.database "commit incremental vault sync"), after) :=
  Transaction.commit_lost (syncDatabaseDelta_eq_ok.mp ran).2

theorem syncDatabaseDelta_aborted {error : SyncError}
    (failed : syncDatabaseDelta now auditId previous current audit refuses
      .received database = (.error error, after)) :
    syncDatabaseDelta now auditId previous current audit refuses acknowledgement
      database = (.error error, after) := by
  unfold syncDatabaseDelta at failed ⊢
  rw [Transaction.commit_received] at failed
  unfold Transaction.commit
  rw [failed]

theorem syncDatabaseDelta_rows :
    (syncDatabaseDelta now auditId previous current audit refuses
        acknowledgement database).2 =
      (syncDatabaseDelta now auditId previous current audit refuses .received
        database).2 :=
  Transaction.commit_rows.trans Transaction.commit_rows.symm

theorem syncDatabaseDelta_error {error : SyncError}
    (failed : syncDatabaseDelta now auditId previous current audit refuses
      acknowledgement database = (.error error, after)) :
    after = database ∨ acknowledgement = .lost ∧
      error = .database "commit incremental vault sync" ∧
      ∃ recorded, syncDatabaseDelta now auditId previous current audit refuses
        .received database = (.ok recorded, after) := by
  rcases Transaction.commit_error failed with
    unchanged | ⟨lost, unheard, recorded, ran⟩
  · exact .inl unchanged
  · exact .inr ⟨lost, unheard, recorded,
      syncDatabaseDelta_eq_ok.mpr ⟨rfl, ran⟩⟩

end Delta

end NvidiaBuildLb.Gateway
