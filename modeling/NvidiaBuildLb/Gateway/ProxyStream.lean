import NvidiaBuildLb.Gateway.Evidence

namespace NvidiaBuildLb.Gateway

open Foundation NvidiaBuildLb.Core

/-! The streamed answer: the frames a provider sends, those the client gets,
and the guard that owns the request in the meantime. -/

namespace StreamAttemptGuard

def markTerminal (guard : StreamAttemptGuard) : StreamAttemptGuard :=
  { guard with terminal := true }

def markResponseStarted (ttfbMs : Int) (guard : StreamAttemptGuard) :
    StreamAttemptGuard :=
  { guard with drop := { guard.drop with ttfbMs := some ttfbMs } }

def armEvidenceFailure (ttfbMs : Option Int) (bytesOut : Nat)
    (guard : StreamAttemptGuard) : StreamAttemptGuard :=
  { guard with drop := .evidenceFailure ttfbMs bytesOut }

/-- Actix owns the body from here on. -/
def markResponseCommitted (status : Nat) (guard : StreamAttemptGuard) :
    StreamAttemptGuard :=
  { guard with drop := { guard.drop with
    outcome := .cancelled
    statusCode := some status
    errorClass := "downstream_cancelled" } }

/-- `usize::saturating_add`. -/
def recordBytesOut (bytes : Nat) (guard : StreamAttemptGuard) :
    StreamAttemptGuard :=
  { guard with drop := { guard.drop with
    bytesOut := min (guard.drop.bytesOut + bytes) usizeMax } }

/-- The typed finalizer failed, and the answer is not told as it was meant. -/
def armRecovery (statusCode : Option Nat) (bytesOut : Nat)
    (guard : StreamAttemptGuard) : StreamAttemptGuard :=
  { guard with drop := { guard.drop with
    outcome := .failed
    statusCode
    errorClass := "evidence_unavailable"
    bytesOut } }

end StreamAttemptGuard

namespace Held

/-- `StreamAttemptGuard::with_request`. -/
def guarded : Held → Held
  | .evidence owner => .guard (.withRequest owner)
  | held => held

/-- `release_request`. -/
def released : Held → Held
  | .guard owner => .evidence owner.request
  | held => held

def drop : Held → DropRecovery
  | .guard owner => owner.drop
  | _ => .handlerAbandoned

end Held

inductive StreamTerminalResult where
  | requestedTerminalCommitted
  | recoveredAsEvidenceFailure
  | pendingDropRetry
  deriving DecidableEq, Repr

def StreamTerminalResult.isDurable (result : StreamTerminalResult) : Bool :=
  result ≠ .pendingDropRetry

def sseErrorFrame (message : String) : Bytes :=
  utf8 ("event: error\ndata: \x7b\"error\":\x7b\"message\":\"" ++ message ++
    "\",\"type\":\"upstream_stream_error\"\x7d\x7d\n\ndata: [DONE]\n\n")

section Priming

variable (parse : String → Option Json)

/-- Up to the first chunk that has a data frame. -/
def primeStream :
    List UpstreamEvent → SseValidator → List Bytes →
      Except Unit (List UpstreamEvent × SseValidator × List Bytes)
  | .chunk bytes :: rest, validator, pending =>
      match validator.feed parse bytes with
      | .error () => .error ()
      | .ok fed =>
          let (emitted, validator) := fed.takeEmitted
          let pending := pending ++ emitted
          if validator.checks.dataFrameCount > 0 then
            .ok (rest, validator, pending)
          else if pending.length > 256 then
            .error ()
          else
            primeStream rest validator pending
  | _, _, _ => .error ()

end Priming

namespace Proxy

def finishRequestAndAttempt (keyId : Uuid) (attempt : AttemptTerminal)
    (terminal : RequestTerminal) (recoveryBytesOut : Nat) :
    ProxyRoutine StreamTerminalResult := do
  let held ← Routine.owned
  let terminal := terminal.withTtfb held.drop.ttfbMs
  if ← finishWithAttemptSilently keyId attempt terminal then
    return .requestedTerminalCommitted
  changeGuard (.armRecovery terminal.statusCode recoveryBytesOut)
  let recovered ← finishWithOpenAttemptsSilently {
    outcome := .failed
    statusCode := terminal.statusCode
    errorClass := "evidence_unavailable"
    ttfbMs := terminal.ttfbMs
    bytesOut := recoveryBytesOut }
  return if recovered then .recoveredAsEvidenceFailure else .pendingDropRetry

def markDurable (result : StreamTerminalResult) : ProxyRoutine Unit :=
  changeGuard fun guard =>
    if result.isDurable then guard.markTerminal else guard

/-- A failure that is not recorded leaves the key as it is. -/
def cooldownOf (keyId : Uuid) : ProxyRoutine (Option Timestamp) := do
  match ← ask (.recordFailure keyId none) with
  | .ok cooldown => return cooldown
  | .error () => return none

def finishStreamFailure (keyId : Uuid) (terminal : AttemptTerminal)
    (errorClass : String) : ProxyRoutine StreamTerminalResult := do
  let cooldown ← cooldownOf keyId
  let held ← Routine.owned
  finishRequestAndAttempt keyId
    ((terminal.withCooldown cooldown).withBytesOut held.drop.bytesOut)
    (.failed 200 errorClass) held.drop.bytesOut

def finishStreamSuccess (keyId : Uuid) : ProxyRoutine Bytes := do
  match ← ask (.recordRequest keyId) with
  | .error () =>
      let errorFrame := sseErrorFrame "request accounting unavailable"
      changeGuard (.recordBytesOut errorFrame.length)
      let held ← Routine.owned
      let durable ← finishRequestAndAttempt keyId
        ((AttemptTerminal.failed (some 200) "request_accounting_unavailable"
          none).withBytesOut held.drop.bytesOut)
        (.failed 200 "request_accounting_unavailable") held.drop.bytesOut
      markDurable durable
      return errorFrame
  | .ok () =>
      let errorFrame := sseErrorFrame "request evidence unavailable"
      let held ← Routine.owned
      let successBytesOut :=
        min (held.drop.bytesOut + doneFrame.length) usizeMax
      let recoveryBytesOut :=
        min (held.drop.bytesOut + errorFrame.length) usizeMax
      let result ← finishRequestAndAttempt keyId
        (.succeeded 200 (some successBytesOut)) (.succeeded 200)
        recoveryBytesOut
      match result with
      | .requestedTerminalCommitted =>
          changeGuard (.recordBytesOut doneFrame.length)
          changeGuard .markTerminal
          return doneFrame
      | .recoveredAsEvidenceFailure =>
          changeGuard .markTerminal
          return errorFrame
      | .pendingDropRetry => return errorFrame

/-- The frame that ends a stream that failed. -/
def failStream (keyId : Uuid) (errorClass message : String) :
    ProxyRoutine Bytes := do
  let errorFrame := sseErrorFrame message
  changeGuard (.recordBytesOut errorFrame.length)
  let durable ← finishStreamFailure keyId (.failed (some 200) errorClass none)
    errorClass
  markDurable durable
  return errorFrame

def emitPending (pending : List Bytes) : ProxyRoutine Unit :=
  Routine.each pending fun chunk => do
    changeGuard (.recordBytesOut chunk.length)
    ask (.emit chunk)

section Streaming

variable (parse : String → Option Json)

/-- The frames up to the last one; then the body is at its end. -/
def streamFrames (keyId : Uuid) :
    List UpstreamEvent → SseValidator → List Bytes → ProxyRoutine Unit
  | upstream, validator, pending => do
    emitPending pending
    if validator.finish then
      ask (.emit (← finishStreamSuccess keyId))
    else do
      ask .next
      match upstream with
      | .chunk bytes :: rest =>
          match validator.feed parse bytes with
          | .error () =>
              ask (.emit (← failStream keyId "upstream_protocol_error"
                "invalid upstream stream"))
          | .ok fed =>
              let (emitted, validator) := fed.takeEmitted
              streamFrames keyId rest validator emitted
      | .failed :: _ =>
          ask (.emit (← failStream keyId "upstream_stream_error"
            "upstream stream failed"))
      | .silent :: _ =>
          ask (.emit (← failStream keyId "upstream_stream_idle_timeout"
            "upstream stream timed out"))
      | [] =>
          if validator.finish then
            ask (.emit (← finishStreamSuccess keyId))
          else
            ask (.emit (← failStream keyId "incomplete_upstream_stream"
              "incomplete upstream stream"))

def chatResponseStream (body : StreamBody) : ProxyRoutine Unit :=
  streamFrames parse body.keyId body.upstream body.validator body.pending

/-- What stands between a primed stream and the response that carries it. -/
def commitStream (keyId : Uuid) (status : StatusCode) (contentType : String)
    (upstream : List UpstreamEvent) (validator : SseValidator)
    (pending : List Bytes) : ProxyRoutine Response := do
  let ttfbMs ← elapsedMs
  changeGuard (.armEvidenceFailure (some ttfbMs) 0)
  attemptResponseStarted keyId ttfbMs
  changeGuard (.markResponseStarted ttfbMs)
  changeGuard (.markResponseCommitted status.code)
  return .stream status contentType { keyId, upstream, validator, pending }

end Streaming

def qaFixtureFrame : Bytes :=
  utf8 ("data: \x7b\"id\":\"chatcmpl-qa-fixture\"," ++
    "\"object\":\"chat.completion.chunk\",\"created\":1," ++
    "\"model\":\"z-ai/glm-5.2\",\"choices\":[\x7b\"index\":0," ++
    "\"delta\":\x7b\"role\":\"assistant\",\"content\":\"QA\"\x7d," ++
    "\"finish_reason\":null\x7d]\x7d\n\n")

def injectedPostFrameFailure (keyId : Uuid) : ProxyRoutine Response := do
  let error := sseErrorFrame "controlled QA failure after the first frame"
  let bytesOut := min (qaFixtureFrame.length + error.length) usizeMax
  attemptResponseStarted keyId 0
  finishWithAttempt keyId
    ((AttemptTerminal.failed (some 200) "qa_injected_post_frame_failure"
      none).withBytesOut bytesOut)
    ((RequestTerminal.failed 502 "qa_injected_post_frame_failure").withTtfb
      (some 0))
  return .body .ok "text/event-stream" (qaFixtureFrame ++ error)

/-- The pieces between the ends given, as far as they are not empty. -/
def splitAtEnds (joined : Bytes) : Nat → List Nat → List Bytes
  | _, [] => []
  | start, stop :: rest =>
      if stop > start && stop ≤ joined.length then
        (joined.take stop).drop start :: splitAtEnds joined stop rest
      else
        splitAtEnds joined start rest

def mockChunks (scenario : Option String) (first terminal : Bytes) :
    List Bytes :=
  if scenario = some "disconnect_after_first_frame" then
    [first]
  else if scenario = some "fragmented_sse" then
    let joined := first ++ terminal
    splitAtEnds joined 0 [1, 7, 31, joined.length - 3, joined.length]
  else
    [first, terminal]

def mockStreamResponse (parse : String → Option Json)
    (scenario : Option String) (first terminal : Bytes) (keyId : Uuid) :
    ProxyRoutine Response := do
  Routine.update Held.guarded
  ask .prime
  let upstream := (mockChunks scenario first terminal).map UpstreamEvent.chunk
  match primeStream parse upstream .initial [] with
  | .error () =>
      let cooldown ← cooldownOf keyId
      let held ← Routine.owned
      let durable ← finishRequestAndAttempt keyId
        (.failed (some 502) "mock_stream_prime_error" cooldown)
        (.failed 502 "mock_stream_prime_error") held.drop.bytesOut
      markDurable durable
      return openaiError .badGateway
        "mock upstream stream did not produce a valid first frame"
        "upstream_error" "mock_stream_prime_error"
  | .ok (upstream, validator, pending) =>
      commitStream keyId .ok "text/event-stream" upstream validator pending

end Proxy

end NvidiaBuildLb.Gateway
