import NvidiaBuildLb.Foundation.RowLocking
import NvidiaBuildLb.Gateway.Permits

namespace NvidiaBuildLb.Gateway

open Foundation NvidiaBuildLb.Core

/-! The evidence rows of proxied requests, and every transaction that writes
them.  A transaction is a script of statements: each one works on the rows
committed when it starts, and looks at a row once more under its lock. -/

inductive RequestOutcome where
  | succeeded
  | failed
  | cancelled
  | rejected
  | abandonedAfterRestart
  deriving DecidableEq, Repr

/-- The outcomes the check of `request_attempts` admits. -/
inductive AttemptOutcome where
  | succeeded
  | failed
  | cancelled
  | abandonedAfterRestart
  deriving DecidableEq, Repr

def AttemptOutcome.ofRequest : AttemptOutcome → RequestOutcome
  | .succeeded => .succeeded
  | .failed => .failed
  | .cancelled => .cancelled
  | .abandonedAfterRestart => .abandonedAfterRestart

inductive Outcome (ε : Type) where
  | started
  | ended (outcome : ε)
  deriving DecidableEq, Repr

/-- A row of `proxy_requests` under its terminal contract. -/
structure ProxyRequestRow where
  id : Uuid
  requestId : Uuid
  ownerId : Option Uuid
  downstreamCredentialId : Option Uuid
  endpoint : String
  profileId : String
  stream : Bool
  modality : String
  outcome : Outcome RequestOutcome
  statusCode : Option Nat
  errorClass : Option String
  durationMs : Option Int
  ttfbMs : Option Int
  failoverCount : Nat
  startedAt : Micros
  finishedAt : Option Micros
  contract : outcome = .started ↔ finishedAt = none
  deriving DecidableEq

structure RequestAttemptRow where
  id : Uuid
  requestId : Uuid
  profileId : String
  keyId : Uuid
  ownerId : Option Uuid
  proxyRequestId : Option Uuid
  attemptNo : Option Nat
  outcome : Outcome AttemptOutcome
  statusCode : Option Nat
  errorClass : Option String
  cooldownAppliedUntil : Option Micros
  bytesOut : Option Int
  ttfbMs : Option Int
  responseStarted : Bool
  latencyMs : Option Int
  createdAt : Micros
  finishedAt : Option Micros
  contract : outcome = .started ↔ finishedAt = none
  deriving DecidableEq

structure LedgerRows where
  requests : Table ProxyRequestRow.requestId
  attempts : Table RequestAttemptRow.id
  receipts : Table fun row : ProbeReceiptRow => (row.profileId, row.keyId)
  instances : Table GatewayInstanceRow.id

inductive LedgerKey where
  | request (requestId : Uuid)
  | attempt (id : Uuid)
  | receipt (profileId : String) (keyId : Uuid)
  deriving DecidableEq, Repr

abbrev LedgerRow : LedgerKey → Type
  | .request requestId => { row : ProxyRequestRow // row.requestId = requestId }
  | .attempt id => { row : RequestAttemptRow // row.id = id }
  | .receipt profileId keyId =>
      { row : ProbeReceiptRow // (row.profileId, row.keyId) = (profileId, keyId) }

/-- `ORDER BY created_at DESC LIMIT 1`. -/
def newestAttempt : List RequestAttemptRow → Option RequestAttemptRow
  | [] => none
  | row :: rest =>
      match newestAttempt rest with
      | some other =>
          if row.createdAt < other.createdAt then some other else some row
      | none => some row

namespace LedgerRows

def get (rows : LedgerRows) : ∀ key, Option (LedgerRow key)
  | .request requestId => rows.requests.lookup requestId
  | .attempt id => rows.attempts.lookup id
  | .receipt profileId keyId => rows.receipts.lookup (profileId, keyId)

def set (rows : LedgerRows) : ∀ key, LedgerRow key → LedgerRows
  | .request _, row => { rows with requests := rows.requests.put row.val }
  | .attempt _, row => { rows with attempts := rows.attempts.put row.val }
  | .receipt _ _, row => { rows with receipts := rows.receipts.put row.val }

theorem get_set (rows : LedgerRows) (placed : LedgerKey)
    (row : LedgerRow placed) :
    (rows.set placed row).get = Function.update rows.get placed (some row) := by
  funext key
  by_cases same : key = placed
  · subst same
    rw [Function.update_self]
    cases key with
    | request requestId =>
        exact (congrFun (rows.requests.lookup_put row) _).trans
          (Function.update_self ..)
    | attempt id =>
        exact (congrFun (rows.attempts.lookup_put row) _).trans
          (Function.update_self ..)
    | receipt profileId keyId =>
        exact (congrFun (rows.receipts.lookup_put row) _).trans
          (Function.update_self ..)
  · rw [Function.update_of_ne same]
    cases placed with
    | request requestId =>
        cases key with
        | request other =>
            refine (congrFun (rows.requests.lookup_put row) other).trans ?_
            apply Function.update_of_ne
            intro heq
            cases heq
            exact same rfl
        | attempt id => rfl
        | receipt profileId keyId => rfl
    | attempt id =>
        cases key with
        | request other => rfl
        | attempt other =>
            refine (congrFun (rows.attempts.lookup_put row) other).trans ?_
            apply Function.update_of_ne
            intro heq
            cases heq
            exact same rfl
        | receipt profileId keyId => rfl
    | receipt profileId keyId =>
        cases key with
        | request other => rfl
        | attempt other => rfl
        | receipt otherProfile otherKey =>
            refine (congrFun (rows.receipts.lookup_put row) _).trans ?_
            apply Function.update_of_ne
            intro heq
            cases heq
            exact same rfl

def keyed : Keyed LedgerRows LedgerKey LedgerRow where
  get
  set
  get_set

/-- `EXISTS` an instance of that owner which was seen within thirty seconds. -/
def alive (rows : LedgerRows) (now : Micros) (owner : Option Uuid) : Bool :=
  (owner.bind rows.instances.find?).any fun row =>
    now - 30000000 ≤ row.lastSeenAt

def attemptsOf (rows : LedgerRows) (proxyRequestId : Uuid) : Nat :=
  rows.attempts.count fun row => row.proxyRequestId = some proxyRequestId

def newestOpenAttempt (rows : LedgerRows) (requestId keyId ownerId : Uuid) :
    Option RequestAttemptRow :=
  newestAttempt <| rows.attempts.rows.filter fun row =>
    row.requestId = requestId && row.keyId = keyId &&
      row.ownerId = some ownerId && row.finishedAt.isNone

end LedgerRows

structure AttemptTerminal where
  outcome : AttemptOutcome
  statusCode : Option Nat
  errorClass : Option String
  cooldownAppliedUntil : Option Micros
  bytesOut : Option Int
  deriving DecidableEq, Repr

structure RequestTerminal where
  outcome : RequestOutcome
  statusCode : Option Nat
  errorClass : Option String
  ttfbMs : Option Int
  deriving DecidableEq, Repr

/-- `i64::try_from(bytes).unwrap_or(i64::MAX)`. -/
def bytesColumn (bytes : Nat) : Int := min bytes i64Max

def elapsedMs (since now : Micros) : Int := max 0 ((now - since) / 1000)

def ProxyRequestRow.finish (row : ProxyRequestRow) (now : Micros)
    (attempts : Nat) (terminal : RequestTerminal) : ProxyRequestRow :=
  { row with
    outcome := .ended terminal.outcome
    statusCode := terminal.statusCode
    errorClass := terminal.errorClass
    durationMs := some (elapsedMs row.startedAt now)
    ttfbMs := terminal.ttfbMs
    failoverCount := attempts - 1
    finishedAt := some now
    contract := by simp }

/-- What the cleanup sets: not the status, and not the time to first byte. -/
def ProxyRequestRow.abandon (row : ProxyRequestRow) (now : Micros)
    (attempts : Nat) : ProxyRequestRow :=
  { row with
    outcome := .ended .abandonedAfterRestart
    errorClass := some "owner_lease_expired"
    durationMs := some (elapsedMs row.startedAt now)
    failoverCount := attempts - 1
    finishedAt := some now
    contract := by simp }

def RequestAttemptRow.finish (row : RequestAttemptRow) (now : Micros)
    (terminal : AttemptTerminal) : RequestAttemptRow :=
  { row with
    outcome := .ended terminal.outcome
    statusCode := terminal.statusCode
    errorClass := terminal.errorClass
    cooldownAppliedUntil := terminal.cooldownAppliedUntil
    bytesOut := terminal.bytesOut
    latencyMs := some (elapsedMs row.createdAt now)
    finishedAt := some now
    contract := by simp }

/-- How a request ends together with whatever attempts of it are open. -/
structure OpenTerminal where
  outcome : AttemptOutcome
  statusCode : Option Nat
  errorClass : String
  ttfbMs : Option Int
  bytesOut : Nat
  deriving DecidableEq, Repr

def OpenTerminal.request (terminal : OpenTerminal) : RequestTerminal where
  outcome := terminal.outcome.ofRequest
  statusCode := terminal.statusCode
  errorClass := some terminal.errorClass
  ttfbMs := terminal.ttfbMs

def RequestAttemptRow.finishOpen (row : RequestAttemptRow) (now : Micros)
    (terminal : OpenTerminal) : RequestAttemptRow :=
  { row with
    outcome := .ended terminal.outcome
    statusCode := terminal.statusCode
    errorClass := some terminal.errorClass
    bytesOut := some (bytesColumn terminal.bytesOut)
    ttfbMs := row.ttfbMs.or terminal.ttfbMs
    responseStarted := row.responseStarted || terminal.ttfbMs.isSome
    latencyMs := some (elapsedMs row.createdAt now)
    finishedAt := some now
    contract := by simp }

def RequestAttemptRow.abandon (row : RequestAttemptRow) (now : Micros) :
    RequestAttemptRow :=
  { row with
    outcome := .ended .abandonedAfterRestart
    finishedAt := some now
    contract := by simp }

inductive LedgerReply where
  | done
  | affected (rows : Nat)
  | refused (text : String)
  deriving DecidableEq, Repr

abbrev LedgerScript := Script LedgerRows LedgerKey LedgerRow LedgerReply

def requestEdit (qualifies : LedgerRows → ProxyRequestRow → Bool)
    (change : LedgerRows → ProxyRequestRow → ProxyRequestRow)
    (keeps : ∀ rows row, (change rows row).requestId = row.requestId) :
    Edit LedgerRows LedgerKey LedgerRow :=
  fun rows key current =>
    match key, current with
    | .request _, some row =>
        if qualifies rows row.val then
          some ⟨change rows row.val, (keeps rows row.val).trans row.property⟩
        else
          none
    | _, _ => none

def attemptEdit (qualifies : LedgerRows → RequestAttemptRow → Bool)
    (change : RequestAttemptRow → RequestAttemptRow)
    (keeps : ∀ row, (change row).id = row.id) :
    Edit LedgerRows LedgerKey LedgerRow :=
  fun rows key current =>
    match key, current with
    | .attempt _, some row =>
        if qualifies rows row.val then
          some ⟨change row.val, (keeps row.val).trans row.property⟩
        else
          none
    | _, _ => none

/-- `UPDATE proxy_requests SET change WHERE qualifies`. -/
def updateRequests (qualifies : LedgerRows → ProxyRequestRow → Bool)
    (change : LedgerRows → ProxyRequestRow → ProxyRequestRow)
    (keeps : ∀ rows row, (change rows row).requestId = row.requestId)
    (next : Nat → LedgerScript) : LedgerScript :=
  .update
    (fun rows => (rows.requests.rows.filter (qualifies rows)).map fun row =>
      .request row.requestId)
    (requestEdit qualifies change keeps) next

/-- `UPDATE request_attempts SET change WHERE qualifies`. -/
def updateAttempts (qualifies : LedgerRows → RequestAttemptRow → Bool)
    (change : RequestAttemptRow → RequestAttemptRow)
    (keeps : ∀ row, (change row).id = row.id)
    (next : Nat → LedgerScript) : LedgerScript :=
  .update
    (fun rows => (rows.attempts.rows.filter (qualifies rows)).map fun row =>
      .attempt row.id)
    (attemptEdit qualifies change keeps) next

def insertRequest (row : ProxyRequestRow) (next : Nat → LedgerScript) :
    LedgerScript :=
  .update (fun _ => [.request row.requestId])
    (fun _ key current =>
      match key, current with
      | .request requestId, none =>
          if same : row.requestId = requestId then some ⟨row, same⟩ else none
      | _, _ => none)
    next

/-- `INSERT INTO request_attempts ... SELECT`, of no row or one. -/
def insertAttempt (row : LedgerRows → Option RequestAttemptRow)
    (next : Nat → LedgerScript) : LedgerScript :=
  .update (fun rows => (row rows).toList.map fun row => .attempt row.id)
    (fun rows key current =>
      match key, current, row rows with
      | .attempt id, none, some row =>
          if same : row.id = id then some ⟨row, same⟩ else none
      | _, _, _ => none)
    next

def receiptEdit (now : Micros) : Edit LedgerRows LedgerKey LedgerRow :=
  fun _ key current =>
    match key, current with
    | .receipt profileId keyId, current =>
        some ⟨{
          profileId
          keyId
          verifiedAt := now
          lastProbeRunId := current.bind fun row => row.val.lastProbeRunId
          invalidatedAt := none
          invalidationReason := none }, rfl⟩
    | _, _ => none

/-- `INSERT INTO profile_probe_receipts ... ON CONFLICT DO UPDATE`. -/
def persistReceipt (profileId : String) (keyId : Uuid) (now : Micros)
    (next : LedgerScript) : LedgerScript :=
  .update (fun _ => [.receipt profileId keyId]) (receiptEdit now) fun _ => next

/-- The parent update, which four writers share. -/
def finishRequest (requestId : Uuid) (now : Micros)
    (terminal : RequestTerminal) (next : Nat → LedgerScript) : LedgerScript :=
  updateRequests
    (fun _ row => row.requestId = requestId && row.outcome = .started)
    (fun rows row => row.finish now (rows.attemptsOf row.id) terminal)
    (fun _ _ => rfl) next

/-- The update of the attempt that a subselect chooses: the choice is made
once, in the rows the statement starts with. -/
def updateNewestOpenAttempt (requestId keyId ownerId : Uuid)
    (change : RequestAttemptRow → RequestAttemptRow)
    (keeps : ∀ row, (change row).id = row.id)
    (next : Nat → LedgerScript) : LedgerScript :=
  updateAttempts
    (fun rows row => (rows.newestOpenAttempt requestId keyId ownerId).any
      fun newest => row.id = newest.id)
    change keeps next

def abandonRequests (now : Micros) (next : Nat → LedgerScript) : LedgerScript :=
  updateRequests
    (fun rows row => row.finishedAt.isNone && !rows.alive now row.ownerId)
    (fun rows row => row.abandon now (rows.attemptsOf row.id))
    (fun _ _ => rfl) next

def abandonAttempts (now : Micros) (next : Nat → LedgerScript) : LedgerScript :=
  updateAttempts
    (fun rows row => row.finishedAt.isNone && row.ownerId.isSome &&
      !rows.alive now row.ownerId)
    (fun row => row.abandon now) (fun _ => rfl) next

structure StartedRequest where
  id : Uuid
  requestId : Uuid
  ownerId : Uuid
  downstreamCredentialId : Option Uuid
  endpoint : String
  profileId : String
  stream : Bool
  modality : String
  deriving DecidableEq, Repr

def StartedRequest.row (request : StartedRequest) (now : Micros) :
    ProxyRequestRow where
  id := request.id
  requestId := request.requestId
  ownerId := some request.ownerId
  downstreamCredentialId := request.downstreamCredentialId
  endpoint := request.endpoint
  profileId := request.profileId
  stream := request.stream
  modality := request.modality
  outcome := .started
  statusCode := none
  errorClass := none
  durationMs := none
  ttfbMs := none
  failoverCount := 0
  startedAt := now
  finishedAt := none
  contract := by simp

structure StartedAttempt where
  id : Uuid
  requestId : Uuid
  profileId : String
  keyId : Uuid
  ownerId : Uuid
  deriving DecidableEq, Repr

def StartedAttempt.row (attempt : StartedAttempt) (now : Micros)
    (proxyRequestId : Uuid) (attemptNo : Nat) : RequestAttemptRow where
  id := attempt.id
  requestId := attempt.requestId
  profileId := attempt.profileId
  keyId := attempt.keyId
  ownerId := some attempt.ownerId
  proxyRequestId := some proxyRequestId
  attemptNo := some attemptNo
  outcome := .started
  statusCode := none
  errorClass := none
  cooldownAppliedUntil := none
  bytesOut := none
  ttfbMs := none
  responseStarted := false
  latencyMs := none
  createdAt := now
  finishedAt := none
  contract := by simp

def exactlyOne (text : String) (next : LedgerScript) (affected : Nat) :
    LedgerScript :=
  if affected = 1 then next else .abort (.refused text)

def proxyRequestStarted (request : StartedRequest) (now : Micros) :
    LedgerScript :=
  insertRequest (request.row now) <|
    exactlyOne "start proxy request evidence" (.commit .done)

def LedgerRows.nextAttemptNo (rows : LedgerRows) (proxyRequestId : Uuid) :
    Nat :=
  ((rows.attempts.rows.filter fun row =>
    row.proxyRequestId = some proxyRequestId).filterMap
    RequestAttemptRow.attemptNo).foldl max 0 + 1

def attemptStarted (attempt : StartedAttempt) (now : Micros) : LedgerScript :=
  insertAttempt
    (fun rows =>
      (rows.requests.find? attempt.requestId).bind fun request =>
        if request.outcome = .started then
          some (attempt.row now request.id (rows.nextAttemptNo request.id))
        else
          none) <|
    exactlyOne "proxy request row is missing before attempt start"
      (.commit .done)

def attemptResponseStarted (requestId keyId ownerId : Uuid) (ttfbMs : Int) :
    LedgerScript :=
  updateNewestOpenAttempt requestId keyId ownerId
    (fun row => { row with responseStarted := true, ttfbMs := some ttfbMs })
    (fun _ => rfl) <|
    exactlyOne "request attempt response-start row is missing" (.commit .done)

/-- The second statement of `attempt_finished`, which has no transaction around
its statements. -/
def attemptFinished (requestId keyId ownerId : Uuid) (now : Micros)
    (terminal : AttemptTerminal) : LedgerScript :=
  updateNewestOpenAttempt requestId keyId ownerId
    (fun row => row.finish now terminal) (fun _ => rfl) <|
    exactlyOne "request attempt terminal row is missing" (.commit .done)

/-- Its third statement. -/
def attemptReceiptPersisted (profileId : String) (keyId : Uuid)
    (now : Micros) : LedgerScript :=
  persistReceipt profileId keyId now (.commit .done)

def proxyRequestFinished (requestId : Uuid) (now : Micros)
    (terminal : RequestTerminal) : LedgerScript :=
  finishRequest requestId now terminal <|
    exactlyOne "proxy request terminal row is missing" (.commit .done)

def requestAndAttemptFinished (requestId keyId ownerId : Uuid) (now : Micros)
    (attempt : AttemptTerminal) (request : RequestTerminal) : LedgerScript :=
  .read fun rows =>
    match rows.newestOpenAttempt requestId keyId ownerId with
    | none => .abort (.refused "final request attempt row is missing")
    | some newest =>
        let finishParent : LedgerScript :=
          finishRequest requestId now request <|
            exactlyOne "final proxy request row is missing" (.commit .done)
        updateNewestOpenAttempt requestId keyId ownerId
          (fun row => row.finish now attempt) (fun _ => rfl) <|
          exactlyOne "final request attempt row is missing" <|
            if attempt.outcome = .succeeded then
              persistReceipt newest.profileId keyId now finishParent
            else
              finishParent

def proxyRequestAndOpenAttemptsFinished (requestId ownerId : Uuid)
    (now : Micros) (terminal : OpenTerminal) : LedgerScript :=
  updateAttempts
    (fun _ row => row.requestId = requestId && row.ownerId = some ownerId &&
      row.finishedAt.isNone)
    (fun row => row.finishOpen now terminal) (fun _ => rfl) fun _ =>
    finishRequest requestId now terminal.request <|
      exactlyOne "proxy request terminal row is missing" (.commit .done)

def cleanupStaleProxyRequests (now : Micros) : LedgerScript :=
  abandonRequests now fun affected => .commit (.affected affected)

/-- The first statement of `cleanup_stale_attempts`; the second one releases
permits. -/
def cleanupStaleAttempts (now : Micros) : LedgerScript :=
  abandonAttempts now fun affected => .commit (.affected affected)

/-- The transaction of a starting gateway.  Pruning the instances that were not
seen any more takes the owner of their rows away. -/
def registerOwner (now : Micros) : LedgerScript :=
  abandonAttempts now fun _ => abandonRequests now fun _ =>
    updateAttempts (fun rows row => row.ownerId.isSome &&
        !rows.alive now row.ownerId)
      (fun row => { row with ownerId := none }) (fun _ => rfl) fun _ =>
    updateRequests (fun rows row => row.ownerId.isSome &&
        !rows.alive now row.ownerId)
      (fun _ row => { row with ownerId := none }) (fun _ _ => rfl) fun _ =>
    .commit .done

inductive LedgerCall where
  | proxyRequestStarted (request : StartedRequest) (now : Micros)
  | attemptStarted (attempt : StartedAttempt) (now : Micros)
  | attemptResponseStarted (requestId keyId ownerId : Uuid) (ttfbMs : Int)
  | attemptFinished (requestId keyId ownerId : Uuid) (now : Micros)
      (terminal : AttemptTerminal)
  | attemptReceiptPersisted (profileId : String) (keyId : Uuid) (now : Micros)
  | proxyRequestFinished (requestId : Uuid) (now : Micros)
      (terminal : RequestTerminal)
  | requestAndAttemptFinished (requestId keyId ownerId : Uuid) (now : Micros)
      (attempt : AttemptTerminal) (request : RequestTerminal)
  | proxyRequestAndOpenAttemptsFinished (requestId ownerId : Uuid)
      (now : Micros) (terminal : OpenTerminal)
  | cleanupStaleProxyRequests (now : Micros)
  | cleanupStaleAttempts (now : Micros)
  | registerOwner (now : Micros)
  deriving DecidableEq, Repr

def LedgerCall.script : LedgerCall → LedgerScript
  | .proxyRequestStarted request now => Gateway.proxyRequestStarted request now
  | .attemptStarted attempt now => Gateway.attemptStarted attempt now
  | .attemptResponseStarted requestId keyId ownerId ttfbMs =>
      Gateway.attemptResponseStarted requestId keyId ownerId ttfbMs
  | .attemptFinished requestId keyId ownerId now terminal =>
      Gateway.attemptFinished requestId keyId ownerId now terminal
  | .attemptReceiptPersisted profileId keyId now =>
      Gateway.attemptReceiptPersisted profileId keyId now
  | .proxyRequestFinished requestId now terminal =>
      Gateway.proxyRequestFinished requestId now terminal
  | .requestAndAttemptFinished requestId keyId ownerId now attempt request =>
      Gateway.requestAndAttemptFinished requestId keyId ownerId now attempt
        request
  | .proxyRequestAndOpenAttemptsFinished requestId ownerId now terminal =>
      Gateway.proxyRequestAndOpenAttemptsFinished requestId ownerId now terminal
  | .cleanupStaleProxyRequests now => Gateway.cleanupStaleProxyRequests now
  | .cleanupStaleAttempts now => Gateway.cleanupStaleAttempts now
  | .registerOwner now => Gateway.registerOwner now

/-- Instances come, report and go around the transactions. -/
def instancesChange (instances : Table GatewayInstanceRow.id)
    (rows : LedgerRows) : LedgerRows :=
  { rows with instances }

/-- All writers of the ledger at work: thread by thread one call, in any order
of their statements, and failing wherever they fail. -/
def ledger (τ : Type) [DecidableEq τ] :
    Interleaving τ WorkAction (Table GatewayInstanceRow.id)
      (Locked LedgerRows LedgerKey τ)
      (Work LedgerRows LedgerKey LedgerRow LedgerReply) :=
  Locked.system LedgerRows.keyed instancesChange

def ledgerRun {τ : Type} [DecidableEq τ] (start : LedgerRows)
    (calls : τ → LedgerCall)
    (events : List (Event τ WorkAction (Table GatewayInstanceRow.id))) :
    Configuration τ (Locked LedgerRows LedgerKey τ)
      (Work LedgerRows LedgerKey LedgerRow LedgerReply) :=
  (ledger τ).replay (started start fun thread => (calls thread).script) events

end NvidiaBuildLb.Gateway
