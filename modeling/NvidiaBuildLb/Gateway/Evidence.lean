import NvidiaBuildLb.Foundation.Program
import NvidiaBuildLb.Gateway.Ledger
import NvidiaBuildLb.Gateway.RetryAfter
import NvidiaBuildLb.Gateway.RoutingPolicy
import NvidiaBuildLb.Gateway.SseValidator

namespace NvidiaBuildLb.Gateway

open Foundation NvidiaBuildLb.Core

/-! What a handler asks for while it serves a request, and the evidence of the
request, which it owns and which records the request however the handler ends. -/

/-- `http::StatusCode`. -/
structure StatusCode where
  code : Nat
  valid : 100 ≤ code ∧ code ≤ 999
  deriving DecidableEq

namespace StatusCode

def fromU16 (code : Nat) : Option StatusCode :=
  if valid : 100 ≤ code ∧ code ≤ 999 then some ⟨code, valid⟩ else none

def ok : StatusCode := ⟨200, by decide⟩
def unauthorized : StatusCode := ⟨401, by decide⟩
def forbidden : StatusCode := ⟨403, by decide⟩
def tooManyRequests : StatusCode := ⟨429, by decide⟩
def internalServerError : StatusCode := ⟨500, by decide⟩
def badGateway : StatusCode := ⟨502, by decide⟩
def serviceUnavailable : StatusCode := ⟨503, by decide⟩

def isSuccess (status : StatusCode) : Bool :=
  200 ≤ status.code && status.code < 300

end StatusCode

/-- What a body brings next: bytes, an error, or nothing for as long as the
gateway waits.  After the last one the body is at its end. -/
inductive UpstreamEvent where
  | chunk (bytes : Bytes)
  | failed
  | silent
  deriving DecidableEq, Repr

/-- `reqwest::Response`.  A header is missing also when it is not text; of
`Retry-After` it is said what `retry_after_duration` makes of it. -/
structure ProviderResponse where
  status : StatusCode
  headers : String → Option String
  contentLength : Option Nat
  retryAfter : Option Duration
  host : Option String
  sameOrigin : String → Option String
  events : List UpstreamEvent

inductive PostBody where
  | json (value : Json)
  | bytes (contentType : String) (content : Bytes)
  | form (fields : List (String × String))

/-- A body that Actix has yet to take from the upstream. -/
structure StreamBody where
  keyId : Uuid
  upstream : List UpstreamEvent
  validator : SseValidator
  pending : List Bytes

inductive Response where
  | error (status : StatusCode) (message kind code : String)
      (retryAfter : Option Nat)
  | body (status : StatusCode) (contentType : String) (bytes : Bytes)
  | stream (status : StatusCode) (contentType : String) (body : StreamBody)

def openaiError (status : StatusCode) (message kind code : String) : Response :=
  .error status message kind code none

namespace Response

def withRetryAfter (seconds : Nat) : Response → Response
  | .error status message kind code _ =>
      .error status message kind code (some seconds)
  | response => response

def status : Response → StatusCode
  | .error status .. => status
  | .body status .. => status
  | .stream status .. => status

end Response

def evidenceUnavailable : Response :=
  openaiError .internalServerError
    "Request evidence is temporarily unavailable." "service_unavailable_error"
    "evidence_unavailable"

def ledgerUnavailable (status : StatusCode) (message : String) : Response :=
  openaiError status message "service_unavailable_error" "ledger_unavailable"

def permitErrorResponse : PermitError → Response
  | .expired => openaiError .unauthorized
      "The downstream credential is expired or revoked."
      "authentication_error" "invalid_downstream_token"
  | .modelForbidden => openaiError .forbidden
      "The requested model is not allowed for this credential."
      "permission_error" "model_not_allowed"
  | .rateLimited retryAfter => (openaiError .tooManyRequests
      "The per-minute request limit has been reached."
      "rate_limit_error" "rpm_limit_exceeded").withRetryAfter retryAfter
  | .dailyLimit => openaiError .tooManyRequests
      "The daily request limit has been reached."
      "rate_limit_error" "daily_limit_exceeded"
  | .concurrencyLimit => openaiError .tooManyRequests
      "The concurrent request limit has been reached."
      "rate_limit_error" "concurrency_limit_exceeded"
  | .storeUnavailable => evidenceUnavailable

def usizeMax : Nat := 2 ^ 64 - 1

namespace AttemptTerminal

def succeeded (status : Nat) (bytesOut : Option Nat) : AttemptTerminal where
  outcome := .succeeded
  statusCode := some status
  errorClass := none
  cooldownAppliedUntil := none
  bytesOut := bytesOut.map bytesColumn

def failed (status : Option Nat) (errorClass : String)
    (cooldown : Option Timestamp) : AttemptTerminal where
  outcome := .failed
  statusCode := status
  errorClass := some errorClass
  cooldownAppliedUntil := cooldown.map micros
  bytesOut := none

def withBytesOut (terminal : AttemptTerminal) (bytes : Nat) : AttemptTerminal :=
  { terminal with bytesOut := some (bytesColumn bytes) }

def withCooldown (terminal : AttemptTerminal) (cooldown : Option Timestamp) :
    AttemptTerminal :=
  { terminal with cooldownAppliedUntil := cooldown.map micros }

/-- `terminal_bytes_out`. -/
def bytes (terminal : AttemptTerminal) : Nat :=
  (terminal.bytesOut.getD 0).toNat

end AttemptTerminal

namespace RequestTerminal

def succeeded (status : Nat) : RequestTerminal where
  outcome := .succeeded
  statusCode := some status
  errorClass := none
  ttfbMs := none

def failed (status : Nat) (errorClass : String) : RequestTerminal where
  outcome := .failed
  statusCode := some status
  errorClass := some errorClass
  ttfbMs := none

def rejected (status : Nat) (errorClass : String) : RequestTerminal :=
  { failed status errorClass with outcome := .rejected }

def withTtfb (terminal : RequestTerminal) (ttfbMs : Option Int) :
    RequestTerminal :=
  { terminal with ttfbMs }

end RequestTerminal

/-- What a drop records. -/
abbrev DropRecovery := OpenTerminal

namespace DropRecovery

def handlerAbandoned : DropRecovery where
  outcome := .failed
  statusCode := none
  errorClass := "handler_abandoned"
  ttfbMs := none
  bytesOut := 0

def evidenceFailure (ttfbMs : Option Int) (bytesOut : Nat) : DropRecovery where
  outcome := .failed
  statusCode := some 500
  errorClass := "evidence_unavailable"
  ttfbMs
  bytesOut

end DropRecovery

structure RequestEvidence where
  terminal : Bool
  permitAcquired : Bool
  dropRecovery : DropRecovery
  deriving DecidableEq

/-- What the guard of a stream writes when it is dropped is a record of its
own; its request's counts once the guard is terminal. -/
structure StreamAttemptGuard where
  terminal : Bool
  request : RequestEvidence
  drop : DropRecovery
  deriving DecidableEq

def StreamAttemptGuard.withRequest (request : RequestEvidence) :
    StreamAttemptGuard where
  terminal := false
  request
  drop := .handlerAbandoned

/-- What a handler owns.  A permit is one that its guard would release. -/
inductive Held where
  | nothing
  | permit
  | evidence (evidence : RequestEvidence)
  | guard (guard : StreamAttemptGuard)
  deriving DecidableEq

namespace Held

def request : Held → Option RequestEvidence
  | .nothing | .permit => none
  | .evidence owner => some owner
  | .guard owner => some owner.request

def mapRequest (change : RequestEvidence → RequestEvidence) : Held → Held
  | .evidence owner => .evidence (change owner)
  | .guard owner => .guard { owner with request := change owner.request }
  | held => held

def mapGuard (change : StreamAttemptGuard → StreamAttemptGuard) : Held → Held
  | .guard owner => .guard (change owner)
  | held => held

def permitAcquired (held : Held) : Bool :=
  held.request.any RequestEvidence.permitAcquired

/-- What the task writes that its drop spawns. -/
def recovery : Held → Option DropRecovery
  | .nothing | .permit => none
  | .evidence owner => if owner.terminal then none else some owner.dropRecovery
  | .guard owner =>
      if !owner.terminal then some owner.drop
      else if owner.request.terminal then none
      else some owner.request.dropRecovery

/-- Whether that task releases the permit. -/
def releases : Held → Bool
  | .permit => true
  | held => held.permitAcquired

end Held

inductive ProxyOp where
  | acquireDownstreamPermit
  | selectAndStartRequest
  | proxyRequestStarted
  | selectInitialKey
  | recordAcceptedDownstreamUse
  | list
  | now
  | selectFailoverKey (attempted : List Uuid)
  | attemptStarted (keyId : Uuid)
  | attemptFinished (keyId : Uuid) (terminal : AttemptTerminal)
  | requestAndAttemptFinished (keyId : Uuid) (attempt : AttemptTerminal)
      (request : RequestTerminal)
  | attemptResponseStarted (keyId : Uuid) (ttfbMs : Int)
  | proxyRequestFinished (request : RequestTerminal)
  | requestAndOpenAttemptsFinished (terminal : OpenTerminal)
  | releaseDownstreamPermit
  | spawnPermitRelease
  | consumeLiveFailureFixture (keyId : Uuid)
  | credential (keyId : Uuid)
  | recordRequest (keyId : Uuid)
  | recordFailure (keyId : Uuid) (retryAfter : Option Duration)
  | quarantine (keyId : Uuid)
  | routingPolicies
  | post (keyId : Uuid) (endpoint credential : String) (body : PostBody)
  | pollDeadlinePassed
  | sleep
  | poll (endpoint credential : String)
  | body
  | prime
  | next
  | elapsedMs
  | emit (frame : Bytes)

/-- Nothing waits for the answers that the others give at once, so that a
handler is not dropped there. -/
def ProxyOp.awaits : ProxyOp → Bool
  | .list | .now | .spawnPermitRelease | .credential _ | .pollDeadlinePassed
  | .elapsedMs => false
  | _ => true

abbrev ProxyOp.Answer : ProxyOp → Type
  | .acquireDownstreamPermit => Except PermitError Bool
  | .selectAndStartRequest => Except Unit (Option Uuid)
  | .selectInitialKey => Option Uuid
  | .recordAcceptedDownstreamUse => Except DownstreamAuthenticationError Unit
  | .list => List KeySummary
  | .now => Timestamp
  | .selectFailoverKey _ => Option Uuid
  | .consumeLiveFailureFixture _ => Except Unit (Option String)
  | .credential _ => Except Unit String
  | .recordFailure _ _ => Except Unit (Option Timestamp)
  | .routingPolicies => Option (List RoutingPolicyRow)
  | .post _ _ _ _ => Except Unit ProviderResponse
  | .pollDeadlinePassed => Bool
  | .poll _ _ => Except Unit ProviderResponse
  | .elapsedMs => Nat
  | .spawnPermitRelease | .sleep | .body | .prime | .next | .emit _ => Unit
  | .proxyRequestStarted | .attemptStarted _ | .attemptFinished _ _
  | .requestAndAttemptFinished _ _ _ | .attemptResponseStarted _ _
  | .proxyRequestFinished _ | .requestAndOpenAttemptsFinished _
  | .releaseDownstreamPermit | .recordRequest _ | .quarantine _ =>
      Except Unit Unit

abbrev ProxyRoutine (α : Type) : Type :=
  Routine Held Response ProxyOp ProxyOp.Answer α

namespace Proxy

def ask (op : ProxyOp) : ProxyRoutine op.Answer :=
  Routine.ask op

/-- `map_err(..)?`. -/
def orElse {α : Type} (response : Response) :
    Except Unit α → ProxyRoutine α
  | .ok value => pure value
  | .error _ => Routine.leave response

def changeRequest (change : RequestEvidence → RequestEvidence) :
    ProxyRoutine Unit :=
  Routine.update (Held.mapRequest change)

def changeGuard (change : StreamAttemptGuard → StreamAttemptGuard) :
    ProxyRoutine Unit :=
  Routine.update (Held.mapGuard change)

def armDropRecovery (recovery : DropRecovery) : ProxyRoutine Unit :=
  changeRequest fun evidence => { evidence with dropRecovery := recovery }

def armEvidenceFailure (ttfbMs : Option Int) (bytesOut : Nat) :
    ProxyRoutine Unit :=
  armDropRecovery (.evidenceFailure ttfbMs bytesOut)

def resetDropRecovery : ProxyRoutine Unit :=
  armDropRecovery .handlerAbandoned

/-- `elapsed_ms`, of the milliseconds since the request started. -/
def elapsedMs : ProxyRoutine Int := do
  let elapsed ← ask .elapsedMs
  return bytesColumn elapsed

def releasePermitNow : ProxyRoutine Unit := do
  let held ← Routine.owned
  if held.permitAcquired then
    match ← ask .releaseDownstreamPermit with
    | .ok () => pure ()
    | .error () => ask .spawnPermitRelease
    changeRequest fun evidence => { evidence with permitAcquired := false }

/-- The request is terminal from here on. -/
def close : ProxyRoutine Unit := do
  changeRequest fun evidence => { evidence with terminal := true }
  releasePermitNow

def finishWithAttempt (keyId : Uuid) (attempt : AttemptTerminal)
    (request : RequestTerminal) : ProxyRoutine Unit := do
  armEvidenceFailure request.ttfbMs attempt.bytes
  orElse evidenceUnavailable
    (← ask (.requestAndAttemptFinished keyId attempt request))
  close

def finishWithAttemptSilently (keyId : Uuid) (attempt : AttemptTerminal)
    (request : RequestTerminal) : ProxyRoutine Bool := do
  armDropRecovery {
    outcome := .failed
    statusCode := request.statusCode
    errorClass := "evidence_unavailable"
    ttfbMs := request.ttfbMs
    bytesOut := attempt.bytes }
  match ← ask (.requestAndAttemptFinished keyId attempt request) with
  | .error () => return false
  | .ok () =>
      close
      return true

def finishWithOpenAttemptsSilently (terminal : OpenTerminal) :
    ProxyRoutine Bool := do
  armDropRecovery terminal
  match ← ask (.requestAndOpenAttemptsFinished terminal) with
  | .error () => return false
  | .ok () =>
      close
      return true

def finish (terminal : RequestTerminal) : ProxyRoutine Unit := do
  armEvidenceFailure terminal.ttfbMs 0
  orElse evidenceUnavailable (← ask (.proxyRequestFinished terminal))
  close

def fail (status : StatusCode) (errorClass : String) : ProxyRoutine Unit :=
  finish (.failed status.code errorClass)

def recordRequest (keyId : Uuid) : ProxyRoutine Unit := do
  orElse (ledgerUnavailable .internalServerError
      "request accounting unavailable") (← ask (.recordRequest keyId))

def recordFailure (keyId : Uuid) (retryAfter : Option Duration) :
    ProxyRoutine (Option Timestamp) := do
  orElse (ledgerUnavailable .serviceUnavailable
      "upstream health state unavailable")
    (← ask (.recordFailure keyId retryAfter))

def quarantineKey (keyId : Uuid) : ProxyRoutine Unit := do
  orElse (ledgerUnavailable .serviceUnavailable
      "upstream health state unavailable") (← ask (.quarantine keyId))

def attemptUnavailable : Response :=
  ledgerUnavailable .internalServerError "request attempt ledger unavailable"

def attemptStarted (keyId : Uuid) : ProxyRoutine Unit := do
  orElse attemptUnavailable (← ask (.attemptStarted keyId))

def attemptFinished (keyId : Uuid) (terminal : AttemptTerminal) :
    ProxyRoutine Unit := do
  orElse attemptUnavailable (← ask (.attemptFinished keyId terminal))

def attemptResponseStarted (keyId : Uuid) (ttfbMs : Int) :
    ProxyRoutine Unit := do
  orElse attemptUnavailable (← ask (.attemptResponseStarted keyId ttfbMs))

structure Host where
  database : Bool
  upstreamUrl : String
  /-- `upstream_endpoint_for` on that address. -/
  endpointFor : String → String → String

def noVerifiedUpstream : Response :=
  openaiError .serviceUnavailable
    "No verified NVIDIA upstream is currently available."
    "service_unavailable_error" "no_eligible_upstream"

def startedEvidence (permitAcquired : Bool) : Held :=
  .evidence {
    terminal := false
    permitAcquired
    dropRecovery := .handlerAbandoned }

def holdPermit (permitAcquired : Bool) : ProxyRoutine Unit :=
  Routine.update fun held => if permitAcquired then .permit else held

def acquirePermit : ProxyRoutine Bool := do
  match ← ask .acquireDownstreamPermit with
  | .error error => Routine.leave (permitErrorResponse error)
  | .ok acquired =>
      holdPermit acquired
      return acquired

def start : ProxyRoutine Unit := do
  let acquired ← acquirePermit
  orElse evidenceUnavailable (← ask .proxyRequestStarted)
  Routine.update fun _ => startedEvidence acquired

def admitAndStartSelected (host : Host) : ProxyRoutine Uuid := do
  if !host.database then
    start
    match ← ask .selectInitialKey with
    | none =>
        fail .serviceUnavailable "no_eligible_upstream"
        Routine.leave noVerifiedUpstream
    | some keyId =>
        armEvidenceFailure none 0
        attemptStarted keyId
        resetDropRecovery
        return keyId
  else
    let acquired ← acquirePermit
    match ← orElse evidenceUnavailable (← ask .selectAndStartRequest) with
    | none => Routine.leave noVerifiedUpstream
    | some keyId =>
        Routine.update fun _ => startedEvidence acquired
        return keyId

end Proxy

end NvidiaBuildLb.Gateway
