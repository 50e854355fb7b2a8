import NvidiaBuildLb.Gateway.ProxyStream

namespace NvidiaBuildLb.Gateway

open Foundation NvidiaBuildLb.Core

/-! The two handlers that send a client's request to the provider, key after
key. -/

def Json.asBool : Json → Option Bool
  | .bool value => some value
  | _ => none

inductive ResponseBodyError where
  | tooLarge
  | transport
  deriving DecidableEq, Repr

def chatResponseLimit : Nat := 16 * 1024 * 1024

def responseBodyLimit (path : String) : Nat :=
  if path = "/v1/videos/generations" then 128 * 1024 * 1024
  else if path = "/v1/images/generations" ∨ path = "/v1/audio/speech" then
    32 * 1024 * 1024
  else if path = "/v1/embeddings" ∨ path = "/v1/audio/transcriptions" ∨
      path = "/v1/nvidia/inference" then
    16 * 1024 * 1024
  else
    chatResponseLimit

/-- The chunks of a body that stays within the limit. -/
def collectChunks (limit : Nat) :
    Bytes → List UpstreamEvent → Except ResponseBodyError Bytes
  | body, [] => .ok body
  | body, .chunk bytes :: rest =>
      if body.length + bytes.length > limit then
        .error .tooLarge
      else
        collectChunks limit (body ++ bytes) rest
  | _, .failed :: _ => .error .transport
  | body, .silent :: rest => collectChunks limit body rest

def boundedResponseBytes (limit : Nat) (response : ProviderResponse) :
    Except ResponseBodyError Bytes :=
  if response.contentLength.any fun length => length > limit then
    .error .tooLarge
  else
    collectChunks limit [] response.events

/-- The media type, without its parameters and whatever its case. -/
def mediaTypeIs (expected contentType : String) : Bool :=
  (trim (contentType.toList.takeWhile fun character => character ≠ ';')).map
    Char.toLower = expected.toList

def retryableErrorClass (status : Nat) : String :=
  if status = 401 ∨ status = 403 then "upstream_auth_error"
  else if status = 402 then "upstream_quota_error"
  else if status = 408 then "upstream_timeout"
  else if status = 429 then "upstream_rate_limited"
  else if 500 ≤ status ∧ status ≤ 599 then "upstream_server_error"
  else "upstream_failure"

def metadataOf (request : Json) (key : String) : Option Json :=
  (request.get "metadata").bind fun metadata => metadata.get key

def mockStatus (request : Json) : Option Nat :=
  ((metadataOf request "mock_status").bind Json.asU64).filter fun status =>
    status = 400 ∨ status = 401 ∨ status = 403 ∨ status = 429 ∨ status = 500

def mockResponseKind (request : Json) : Option String :=
  (metadataOf request "mock_response").bind Json.asStr

def mockStreamScenario (request : Json) : Option String :=
  (metadataOf request "mock_stream_scenario").bind Json.asStr

def forceFirstFailure (request : Json) : Bool :=
  ((metadataOf request "force_first_upstream_failure").bind
      Json.asBool).getD false ||
    mockStreamScenario request = some "disconnect_before_first_frame" ||
    mockStreamScenario request = some "invalid_sse"

/-- How bodies are read and made elsewhere. -/
structure Representations where
  parse : String → Option Json
  validateChatResponse : Bytes → Bool
  normalizeModalityResponse : String → Bytes → String → Option (Bytes × String)
  mockModality : String → Json → Bytes × String
  mockResponse : Json → Bytes
  mockFrames : Json → Bytes × Bytes

/-- A request that passed the guard, the scope and the checks of its body.
`prepared` is what the provider is sent of one that is not a chat. -/
structure ProxyCall where
  path : String
  downstreamCredentialId : Option Uuid
  contentType : String
  mockStatusHeader : Option Nat
  mockInvalidResponse : Bool
  body : Bytes
  request : Json
  prepared : Json

namespace ProxyCall

/-- The first of the profiles, if the request names none. -/
def profile (call : ProxyCall) : String :=
  (call.request.getStr "model").getD "z-ai/glm-5.2"

def stream (call : ProxyCall) : Bool :=
  ((call.request.get "stream").bind Json.asBool).getD false

end ProxyCall

/-- The locals of the loop. -/
structure Attempts where
  attempted : List Uuid
  nextKeyId : Option Uuid
  rateLimited : Bool
  allAttemptsRateLimited : Bool
  deriving DecidableEq, Repr

def Attempts.initial : Attempts where
  attempted := []
  nextKeyId := none
  rateLimited := false
  allAttemptsRateLimited := true

namespace Attempts

def notAllRateLimited (locals : Attempts) : Attempts :=
  { locals with allAttemptsRateLimited := false }

def observe (locals : Attempts) (status : Option Nat) : Attempts :=
  if status = some 429 then
    { locals with rateLimited := true }
  else
    locals.notAllRateLimited

/-- `rate_limited |= ..; all_attempts_rate_limited &= ..`. -/
def observeMock (locals : Attempts) (status : Nat) : Attempts :=
  { locals with
    rateLimited := locals.rateLimited || status = 429
    allAttemptsRateLimited := locals.allAttemptsRateLimited && status = 429 }

end Attempts

namespace Proxy

def noEligibleUpstream : Response :=
  openaiError .serviceUnavailable
    "No eligible NVIDIA upstream is available." "service_unavailable_error"
    "no_eligible_upstream"

def upstreamRateLimited : Response :=
  openaiError .tooManyRequests "All NVIDIA upstream keys are rate limited"
    "rate_limit_error" "upstream_rate_limited"

def upstreamError (status : StatusCode) (message code : String) : Response :=
  openaiError status message "upstream_error" code

def retryAfterSeconds : ProxyRoutine (Option Nat) := do
  let keys ← ask .list
  let now ← ask .now
  return retryAfterForKeys now keys

def finishRetryableOrTerminal (attempted : List Uuid) (retryAllowed : Bool)
    (keyId : Uuid) (attempt : AttemptTerminal)
    (allAttemptsRateLimited : Bool) : ProxyRoutine Uuid := do
  let next ←
    if retryAllowed then ask (.selectFailoverKey attempted) else pure none
  match next with
  | some nextKeyId =>
      attemptFinished keyId attempt
      resetDropRecovery
      return nextKeyId
  | none =>
      if allAttemptsRateLimited then
        let response := match ← retryAfterSeconds with
          | some seconds => upstreamRateLimited.withRetryAfter seconds
          | none => upstreamRateLimited
        finishWithAttempt keyId attempt (.failed 429 "upstream_rate_limited")
        Routine.leave response
      else
        finishWithAttempt keyId attempt (.failed 503 "no_eligible_upstream")
        Routine.leave noEligibleUpstream

def startEvidencedAttempt (keyId : Uuid) : ProxyRoutine Unit := do
  armEvidenceFailure none 0
  attemptStarted keyId
  resetDropRecovery

section Exits

variable (keyAttempts : Nat) (locals : Attempts) (keyId : Uuid)

/-- `next_key_id = Some(..); continue`. -/
def retry (attempt : AttemptTerminal) (allAttemptsRateLimited : Bool) :
    ProxyRoutine (Routine.Flow Attempts) := do
  let next ← finishRetryableOrTerminal locals.attempted
    (locals.attempted.length < keyAttempts) keyId attempt allAttemptsRateLimited
  return .again { locals with nextKeyId := some next }

/-- The failure counts for the key. -/
def retryAfterFailure (retryAfter : Option Duration) (status : Option Nat)
    (errorClass : String) (allAttemptsRateLimited : Bool) :
    ProxyRoutine (Routine.Flow Attempts) := do
  armEvidenceFailure none 0
  let cooldown ← recordFailure keyId retryAfter
  retry keyAttempts locals keyId (.failed status errorClass cooldown)
    allAttemptsRateLimited

/-- The key is out of use from here on. -/
def retryAfterQuarantine (status : Nat) (allAttemptsRateLimited : Bool) :
    ProxyRoutine (Routine.Flow Attempts) := do
  armEvidenceFailure none 0
  quarantineKey keyId
  retry keyAttempts locals keyId
    (.failed (some status) (retryableErrorClass status) none)
    allAttemptsRateLimited

def endAttempt {α : Type} (attempt : AttemptTerminal)
    (request : RequestTerminal) (response : Response) : ProxyRoutine α := do
  finishWithAttempt keyId attempt request
  Routine.leave response

/-- No other key is tried; `bytesOut` are the bytes of an answer that came. -/
def failAttempt {α : Type} (bytesOut : Option Nat) (status : Nat)
    (errorClass message : String) : ProxyRoutine α := do
  armEvidenceFailure none (bytesOut.getD 0)
  let cooldown ← recordFailure keyId none
  let attempt := AttemptTerminal.failed (some status) errorClass cooldown
  endAttempt keyId
    (match bytesOut with
      | some bytes => attempt.withBytesOut bytes
      | none => attempt)
    (.failed 502 errorClass) (upstreamError .badGateway message errorClass)

def succeedAttempt {α : Type} (status : Nat) (bytesOut : Option Nat)
    (response : Response) : ProxyRoutine α := do
  armEvidenceFailure none (bytesOut.getD 0)
  recordRequest keyId
  endAttempt keyId (.succeeded status bytesOut) (.succeeded status) response

def rejectRequest {α : Type} (status : StatusCode) (message : String) :
    ProxyRoutine α :=
  endAttempt keyId
    (.failed (some status.code) "upstream_request_rejected" none)
    (.rejected status.code "upstream_request_rejected")
    (upstreamError status message "upstream_request_rejected")

/-- A status that the client asks the mock provider for. -/
def mockRejection (status : Nat) : ProxyRoutine (Routine.Flow Attempts) := do
  if status = 401 ∨ status = 403 then
    retryAfterQuarantine keyAttempts locals.notAllRateLimited keyId status false
  else if status = 429 ∨ status = 500 then
    let locals := locals.observeMock status
    retryAfterFailure keyAttempts locals keyId
      (some (Duration.seconds (if status = 429 then 30 else 2))) (some status)
      (retryableErrorClass status) locals.allAttemptsRateLimited
  else
    armEvidenceFailure none 0
    rejectRequest keyId ((StatusCode.fromU16 status).getD .badGateway)
      "mock provider rejected the request"

def readBody (limit : Nat) (response : ProviderResponse)
    (next : Bytes → ProxyRoutine (Routine.Flow Attempts)) :
    ProxyRoutine (Routine.Flow Attempts) := do
  ask .body
  match boundedResponseBytes limit response with
  | .ok bytes => next bytes
  | .error .tooLarge =>
      failAttempt keyId none response.status.code "upstream_response_too_large"
        "provider response exceeded the endpoint size limit"
  | .error .transport =>
      retryAfterFailure keyAttempts locals keyId none
        (some response.status.code) "upstream_body_error" false

def providerFailover (policy : RuntimeRoutingPolicy)
    (response : ProviderResponse) : ProxyRoutine (Routine.Flow Attempts) :=
  let status := response.status.code
  if status = 401 ∨ status = 403 then
    retryAfterQuarantine keyAttempts locals keyId status
      locals.allAttemptsRateLimited
  else
    retryAfterFailure keyAttempts locals keyId
      (response.retryAfter.or (some policy.defaultCooldown)) (some status)
      (retryableErrorClass status) locals.allAttemptsRateLimited

def failsOver (policy : RuntimeRoutingPolicy) (status : Nat) : Bool :=
  status = 401 || status = 403 ||
    policy.retryableStatuses.any fun retryable => retryable.toNat = status

end Exits

def isLowerHex (character : Char) : Bool :=
  character.isDigit || ('a' ≤ character && character ≤ 'f')

/-- What is written like this is parsed, and written like this again. -/
def canonicalRequestId (text : String) : Bool :=
  text.toList.length = 36 &&
    text.toList.zipIdx.all fun (character, index) =>
      if index = 8 ∨ index = 13 ∨ index = 18 ∨ index = 23 then
        character = '-'
      else
        isLowerHex character

def endsWith (text tail : String) : Bool :=
  tail.toList.isSuffixOf text.toList

def pollEndpoint (response : ProviderResponse) (requestId : String) :
    Option String :=
  let path := "/v2/nvcf/pexec/status/" ++ requestId
  if response.host.any fun host =>
      host = "api.nvcf.nvidia.com" || endsWith host ".nvidia.com" then
    some ("https://api.nvcf.nvidia.com" ++ path)
  else
    response.sameOrigin path

/-- Where to poll, if the answer says so in the one way that is followed. -/
def pollTarget (response : ProviderResponse) : Option String := do
  let requestId ← (response.headers "nvcf-reqid").filter canonicalRequestId
  if response.status.code ≠ 202 then
    none
  let endpoint ← pollEndpoint response requestId
  if ["location", "nvcf-status-url"].any fun header =>
      (response.headers header).any fun value => value ≠ endpoint then
    none
  return endpoint

/-- Every round sleeps for a quarter of a second at least, and the deadline is
after thirty. -/
def pollRounds : Nat := 30 * 4

/-- One request for the answer; `none` where there is none to be had. -/
def pollRound (endpoint credential : String) :
    ProxyRoutine (Routine.Flow (Option ProviderResponse)) := do
  match ← ask (.poll endpoint credential) with
  | .error () => return .stop none
  | .ok response =>
      if response.status.code = 202 then
        return .again none
      else if response.status.isSuccess &&
          mediaTypeIs "application/json"
            ((response.headers "content-type").getD "") then
        return .stop (some response)
      else
        return .stop none

def pollNvcf (credential : String) (response : ProviderResponse) :
    ProxyRoutine (Option ProviderResponse) := do
  match pollTarget response with
  | none => return none
  | some endpoint =>
      Routine.loop
        (fun _ => do
          if ← ask .pollDeadlinePassed then
            return .stop none
          ask .sleep
          if ← ask .pollDeadlinePassed then
            return .stop none
          pollRound endpoint credential)
        pollRounds none

section Handlers

variable (representations : Representations) (host : Host) (call : ProxyCall)

def downstreamUseError : DownstreamAuthenticationError → Response
  | .invalidCredential => openaiError .unauthorized
      "Invalid downstream credential or scope." "authentication_error"
      "invalid_downstream_token"
  | .insufficientScope => openaiError .forbidden
      "The downstream credential is not allowed to perform this operation."
      "permission_error" "insufficient_scope"
  | .storeUnavailable => openaiError .serviceUnavailable
      "Credential usage could not be recorded." "service_unavailable_error"
      "credential_store_unavailable"

def recordAcceptedDownstreamUse : ProxyRoutine Unit := do
  if call.downstreamCredentialId.isSome then
    match ← ask .recordAcceptedDownstreamUse with
    | .ok () => pure ()
    | .error error =>
        let response := downstreamUseError error
        let _ ← finishWithOpenAttemptsSilently {
          outcome := .failed
          statusCode := some response.status.code
          errorClass := "downstream_credential_usage_record_failed"
          ttfbMs := none
          bytesOut := 0 }
        Routine.leave response

/-- The key of the next attempt, started unless it is the first one, which
admission has started. -/
def beginAttempt (firstKeyId : Uuid) (locals : Attempts) :
    ProxyRoutine (Option Uuid) := do
  let firstAttempt := locals.attempted.isEmpty
  let selected ←
    if firstAttempt then pure (some firstKeyId)
    else match locals.nextKeyId with
      | some keyId => pure (some keyId)
      | none => ask (.selectFailoverKey locals.attempted)
  match selected.filter fun keyId => !locals.attempted.contains keyId with
  | none => return none
  | some keyId =>
      if !firstAttempt then
        startEvidencedAttempt keyId
      return some keyId

def activePolicy : ProxyRoutine RuntimeRoutingPolicy := do
  let rows ← if host.database then ask .routingPolicies else pure none
  return loadRoutingPolicy rows

def attemptRounds (keyAttempts : Nat) (firstKeyId : Uuid)
    (attempt : Attempts → Uuid → ProxyRoutine (Routine.Flow Attempts)) :
    ProxyRoutine Attempts :=
  Routine.loop
    (fun locals => do
      match ← beginAttempt firstKeyId locals with
      | none => return .stop locals
      | some keyId =>
          attempt {
            locals with
            attempted := locals.attempted ++ [keyId]
            nextKeyId := none } keyId)
    keyAttempts .initial

/-- Behind the loop. -/
def exhausted (locals : Attempts) : ProxyRoutine Response := do
  let seconds ←
    if locals.rateLimited && locals.allAttemptsRateLimited &&
        !locals.attempted.isEmpty then
      retryAfterSeconds
    else
      pure none
  let recorded (status : StatusCode) (errorClass : String) :=
    finishWithOpenAttemptsSilently {
      outcome := .failed
      statusCode := some status.code
      errorClass
      ttfbMs := none
      bytesOut := 0 }
  match seconds with
  | some seconds =>
      if ← recorded .tooManyRequests "upstream_rate_limited" then
        return upstreamRateLimited.withRetryAfter seconds
      else
        return evidenceUnavailable
  | none =>
      if ← recorded .serviceUnavailable "no_eligible_upstream" then
        return noEligibleUpstream
      else
        return evidenceUnavailable

section Chat

variable (keyAttempts : Nat) (locals : Attempts) (keyId : Uuid)

/-- The fixtures of a QA run; `none` where there is none. -/
def qaFixture : ProxyRoutine (Option (Routine.Flow Attempts)) := do
  let kind ←
    if host.database && call.downstreamCredentialId.isSome then
      orElse (openaiError .serviceUnavailable
          "QA failure fixture state could not be persisted"
          "service_unavailable_error" "evidence_unavailable")
        (← ask (.consumeLiveFailureFixture keyId))
    else
      pure none
  match kind with
  | none => return none
  | some kind =>
      if kind = "before_first_frame" then
        return some (← retryAfterFailure keyAttempts locals keyId
          (some (Duration.seconds 2)) none "qa_injected_transport_failure" false)
      else if kind = "after_first_frame" then
        if call.stream then
          Routine.leave (← injectedPostFrameFailure keyId)
        else
          fail .internalServerError "qa_fixture_contract_error"
          Routine.leave (openaiError .internalServerError
            "QA post-frame fixture requires streaming" "server_error"
            "qa_fixture_contract_error")
      else
        Routine.leave (openaiError .internalServerError
          "Unknown QA failure fixture" "server_error"
          "qa_fixture_contract_error")

def mockFailureClass : String :=
  if call.stream then
    if mockStreamScenario call.request = some "invalid_sse" then
      "upstream_protocol_error"
    else
      "mock_stream_prime_error"
  else
    "mock_upstream_failure"

def containsText (text part : String) : Bool :=
  text.toList.tails.any part.toList.isPrefixOf

def chatMock (firstAttempt : Bool) (credential : String) :
    ProxyRoutine (Routine.Flow Attempts) := do
  match if firstAttempt then mockStatus call.request else none with
  | some status => mockRejection keyAttempts locals keyId status
  | none =>
      let locals := locals.notAllRateLimited
      if firstAttempt && mockResponseKind call.request = some "invalid_json" then
        failAttempt keyId (some 8) 200 "upstream_protocol_error"
          "mock provider returned invalid JSON"
      else if containsText credential "fail" ||
          (forceFirstFailure call.request && locals.attempted.length = 1) then
        retryAfterFailure keyAttempts locals keyId (some (Duration.seconds 2))
          none (mockFailureClass call) false
      else if call.stream then
        let (first, terminal) := representations.mockFrames call.request
        Routine.leave (← mockStreamResponse representations.parse
          (mockStreamScenario call.request) first terminal keyId)
      else
        succeedAttempt keyId 200 none
          (.body .ok "application/json"
            (representations.mockResponse call.request))

def chatBody (status : StatusCode) (contentType : String) (bytes : Bytes) :
    ProxyRoutine (Routine.Flow Attempts) :=
  if representations.validateChatResponse bytes then
    succeedAttempt keyId status.code (some bytes.length)
      (.body status contentType bytes)
  else
    failAttempt keyId (some bytes.length) status.code "upstream_protocol_error"
      "provider returned an invalid chat response"

/-- Only the two that are served asynchronously. -/
def pollsFor (profile : String) : Bool :=
  profile = "microsoft/phi-4-multimodal-instruct" || profile = "nvidia/vila"

def chatPolled (credential : String) (accepted : ProviderResponse) :
    ProxyRoutine (Routine.Flow Attempts) := do
  match ← pollNvcf credential accepted with
  | none =>
      failAttempt keyId none 202 "upstream_poll_error"
        "NVIDIA accepted the request but polling did not complete"
  | some response =>
      readBody keyAttempts locals keyId chatResponseLimit response fun bytes =>
        chatBody representations keyId response.status "application/json" bytes

def chatStream (response : ProviderResponse) (contentType : String) :
    ProxyRoutine (Routine.Flow Attempts) := do
  if mediaTypeIs "text/event-stream" contentType then
    Routine.update Held.guarded
    ask .prime
    match primeStream representations.parse response.events .initial [] with
    | .ok (upstream, validator, pending) =>
        Routine.leave (← commitStream keyId response.status contentType upstream
          validator pending)
    | .error () =>
        -- Armed is the guard, and what it gives back is the request's own.
        changeGuard (.armEvidenceFailure none 0)
        let cooldown ← recordFailure keyId none
        Routine.update Held.released
        retry keyAttempts locals keyId
          (.failed (some response.status.code) "stream_prime_error" cooldown)
          false
  else
    retryAfterFailure keyAttempts locals keyId none (some response.status.code)
      "unexpected_stream_content_type" false

def chatAnswered (credential : String) (response : ProviderResponse)
    (policy : RuntimeRoutingPolicy) : ProxyRoutine (Routine.Flow Attempts) :=
  let status := response.status.code
  if status = 202 ∧ call.stream = false ∧ pollsFor call.profile = true then
    chatPolled representations keyAttempts locals keyId credential response
  else if status = 202 then
    endAttempt keyId (.failed (some 202) "upstream_protocol_error" none)
      (.failed 502 "upstream_protocol_error")
      (upstreamError .badGateway
        "NVIDIA returned an unsupported asynchronous response"
        "upstream_protocol_error")
  else if response.status.isSuccess then
    let contentType :=
      (response.headers "content-type").getD "application/json"
    if call.stream then
      chatStream representations keyAttempts locals keyId response contentType
    else
      readBody keyAttempts locals keyId chatResponseLimit response fun bytes =>
        chatBody representations keyId response.status contentType bytes
  else if failsOver policy status then
    providerFailover keyAttempts locals keyId policy response
  else
    rejectRequest keyId response.status "NVIDIA rejected the request"

def chatProvider (credential : String) :
    ProxyRoutine (Routine.Flow Attempts) := do
  let endpoint := host.endpointFor "/v1/chat/completions" call.profile
  let result ← ask (.post keyId endpoint credential (.json call.request))
  match result with
  | .ok response =>
      let locals := locals.observe (some response.status.code)
      let policy ← activePolicy host
      chatAnswered representations call keyAttempts locals keyId credential
        response policy
  | .error () =>
      let locals := locals.observe none
      let _ ← activePolicy host
      retryAfterFailure keyAttempts locals keyId none none
        "upstream_transport_error" false

/-- A key whose credential cannot be read. -/
def credentialUnavailable : ProxyRoutine (Routine.Flow Attempts) := do
  armEvidenceFailure none 0
  retry keyAttempts locals.notAllRateLimited keyId
    (.failed none "credential_unavailable" none) false

def chatAttempt : ProxyRoutine (Routine.Flow Attempts) := do
  let firstAttempt := decide (locals.attempted.length = 1)
  let injected ←
    if firstAttempt then qaFixture host call keyAttempts locals keyId
    else pure none
  match injected with
  | some flow => return flow
  | none =>
      match ← ask (.credential keyId) with
      | .error () => credentialUnavailable keyAttempts locals keyId
      | .ok credential =>
          if startsWith host.upstreamUrl "mock://" then
            chatMock representations call keyAttempts locals keyId firstAttempt
              credential
          else
            chatProvider representations host call keyAttempts locals keyId
              credential

end Chat

def chatCompletions : ProxyRoutine Response := do
  let firstKeyId ← admitAndStartSelected host
  recordAcceptedDownstreamUse call
  let keys ← ask .list
  let keyAttempts := max keys.length 1
  exhausted (← attemptRounds keyAttempts firstKeyId
    (chatAttempt representations host call keyAttempts))

section Multimodal

variable (keyAttempts : Nat) (locals : Attempts) (keyId : Uuid)

def multimodalMock (firstAttempt : Bool) :
    ProxyRoutine (Routine.Flow Attempts) := do
  match if firstAttempt then call.mockStatusHeader else none with
  | some status => mockRejection keyAttempts locals keyId status
  | none =>
      armEvidenceFailure none 0
      recordRequest keyId
      let (body, contentType) :=
        if call.mockInvalidResponse then
          (utf8 "not-a-provider-response", "application/json")
        else
          representations.mockModality call.path call.request
      match representations.normalizeModalityResponse call.path body
          contentType with
      | none =>
          endAttempt keyId (.failed (some 502) "mock_contract_invalid" none)
            (.failed 502 "mock_contract_invalid")
            (upstreamError .badGateway
              "mock provider fixture failed the modality contract"
              "mock_contract_invalid")
      | some (body, contentType) =>
          endAttempt keyId (.succeeded 200 (some body.length)) (.succeeded 200)
            (.body .ok contentType body)

def speechForm : PostBody :=
  let voice := (call.request.getStr "voice").getD "English-US.Female-1"
  let language :=
    if (voice.toList.take 2).map Char.toLower = ['k', 'o'] then "ko-KR"
    else "en-US"
  .form [
    ("text", (call.request.getStr "input").getD ""),
    ("language", language),
    ("voice", voice),
    ("encoding", "LINEAR_PCM"),
    ("sample_rate_hz", "44100")]

def multimodalBody : PostBody :=
  if call.path = "/v1/audio/transcriptions" ∧
      startsWith call.contentType "multipart/form-data" = true ∧
      (call.request.get "__nblb_multipart").bind Json.asBool = some true then
    .bytes call.contentType call.body
  else if call.path = "/v1/audio/speech" then
    speechForm call
  else
    .json call.prepared

def multimodalRead (response : ProviderResponse) :
    ProxyRoutine (Routine.Flow Attempts) :=
  let contentType := (response.headers "content-type").getD "application/json"
  readBody keyAttempts locals keyId (responseBodyLimit call.path) response
    fun bytes =>
      match representations.normalizeModalityResponse call.path bytes
          contentType with
      | none =>
          failAttempt keyId (some bytes.length) response.status.code
            "upstream_protocol_error"
            "provider returned an invalid modality response"
      | some (bytes, contentType) =>
          succeedAttempt keyId response.status.code (some bytes.length)
            (.body response.status contentType bytes)

def multimodalAnswered (credential : String) (response : ProviderResponse)
    (policy : RuntimeRoutingPolicy) : ProxyRoutine (Routine.Flow Attempts) := do
  let status := response.status.code
  if response.status.isSuccess then
    -- The job is accepted already; the POST is not sent to another key.
    let answer ←
      if status = 202 then pollNvcf credential response
      else pure (some response)
    match answer with
    | none =>
        failAttempt keyId none 202 "upstream_poll_error"
          "NVIDIA accepted the media request but polling did not complete"
    | some response =>
        multimodalRead representations call keyAttempts locals keyId response
  else if failsOver policy status then
    providerFailover keyAttempts locals keyId policy response
  else
    rejectRequest keyId response.status "NVIDIA rejected the request"

def multimodalProvider (credential : String) :
    ProxyRoutine (Routine.Flow Attempts) := do
  let endpoint := host.endpointFor call.path call.profile
  let result ← ask (.post keyId endpoint credential (multimodalBody call))
  match result with
  | .ok response =>
      let locals := locals.observe (some response.status.code)
      let policy ← activePolicy host
      multimodalAnswered representations call keyAttempts locals keyId
        credential response policy
  | .error () =>
      let locals := locals.observe none
      let _ ← activePolicy host
      retryAfterFailure keyAttempts locals keyId none none
        "upstream_transport_error" false

def multimodalAttempt : ProxyRoutine (Routine.Flow Attempts) := do
  let firstAttempt := decide (locals.attempted.length = 1)
  match ← ask (.credential keyId) with
  | .error () => credentialUnavailable keyAttempts locals keyId
  | .ok credential =>
      if startsWith host.upstreamUrl "mock://" then
        multimodalMock representations call keyAttempts locals keyId
          firstAttempt
      else
        multimodalProvider representations host call keyAttempts locals keyId
          credential

end Multimodal

def isGeneration (path : String) : Bool :=
  path = "/v1/images/generations" || path = "/v1/videos/generations"

def multimodal : ProxyRoutine Response := do
  let firstKeyId ← admitAndStartSelected host
  recordAcceptedDownstreamUse call
  let keyAttempts ←
    if isGeneration call.path then pure 1
    else do
      let keys ← ask .list
      pure (max keys.length 1)
  exhausted (← attemptRounds keyAttempts firstKeyId
    (multimodalAttempt representations host call keyAttempts))

/-- A request from its admission to the end of its answer's body. -/
def serve (handler : ProxyRoutine Response) : ProxyRoutine Response := do
  let response ← match ← Routine.attempt handler with
    | .ok response => pure response
    | .error response => pure response
  match response with
  | .stream _ _ body => chatResponseStream representations.parse body
  | _ => pure ()
  return response

end Handlers

end Proxy

end NvidiaBuildLb.Gateway
