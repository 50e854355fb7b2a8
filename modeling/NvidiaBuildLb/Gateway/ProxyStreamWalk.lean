import NvidiaBuildLb.Gateway.ProxyRules

namespace NvidiaBuildLb.Gateway

open Foundation NvidiaBuildLb.Core

/-! A streamed answer keeps to the protocol to its end. -/

theorem bytesColumn_nonneg (bytes : Nat) : 0 ≤ bytesColumn bytes := by
  unfold bytesColumn i64Max
  omega

/-- How an attempt ends, as far as the protocol has conditions on it. -/
structure AttemptFits (setting : Setting) (history : History) (seen : Seen)
    (terminal : AttemptTerminal) : Prop where
  status : ∀ code, terminal.statusCode = some code → StatusFrom setting seen code
  label : LabelFits terminal.errorClass
  bytes : ∀ count, terminal.bytesOut = some count → 0 ≤ count
  rateLimited : terminal.rateLimited = rateLimits setting history.keys.length seen
  succeeds : terminal.outcome = .succeeded → seen.accepted = true →
    ∃ accepted answer, seen = .polled accepted answer ∧
      terminal.statusCode = some answer.status.code

structure RequestFits (setting : Setting) (history : History) (seen : Seen)
    (attempt : AttemptTerminal) (request : RequestTerminal) : Prop where
  status : ∀ code, request.statusCode = some code → StatusFrom setting seen code
  label : LabelFits request.errorClass
  ttfb : ∀ elapsed, request.ttfbMs = some elapsed → 0 ≤ elapsed
  rateLimited : request.rateLimited = (history.flag && attempt.rateLimited)
  succeeds : request.outcome = .succeeded → attempt.outcome = .succeeded

section

variable {setting : Setting} {history : History} {keyId : Uuid} {seen : Seen}
  {held : Held} {progress : RequestProgress} {attempt : AttemptTerminal}
  {request : RequestTerminal}

theorem Serving.closing (serving : Serving history keyId seen held progress)
    (fits : AttemptFits setting history seen attempt) :
    Closing setting progress keyId seen attempt where
  stage := serving.stage
  unfailed := serving.follows.unfailed
  status := fits.status
  label := fits.label
  bytes := fits.bytes
  rateLimited := by rw [serving.follows.keys, fits.rateLimited]
  succeeds := fits.succeeds

theorem Serving.closingRequest (serving : Serving history keyId seen held progress)
    (fits : RequestFits setting history seen attempt request) :
    ClosingRequest setting progress seen attempt request where
  status := fits.status
  label := fits.label
  ttfb := fits.ttfb
  rateLimited := by rw [serving.follows.flag, fits.rateLimited]
  succeeds := fits.succeeds

end

/-- What a stream has come to once it is closed, or has failed to be. -/
def StreamEnded (held : Held) (progress : RequestProgress) : Prop :=
  (∃ request, Settled request held progress ∧ request.rateLimited = false) ∨
    ∃ keyId seen, Failing keyId seen held progress ∧ held.Armed

theorem StreamEnded.owns {setting : Setting} (ended : StreamEnded held progress) :
    Owns setting held progress := by
  rcases ended with ⟨request, settled, _⟩ | ⟨keyId, seen, failing, armed⟩
  · exact settled.owns
  · exact Proxy.owns_failing failing.opened armed failing.failed

theorem StreamEnded.answers {setting : Setting} {response : Response}
    (other : response.rateLimited = false) (ended : StreamEnded held progress) :
    Answers setting response held progress := by
  refine ⟨ended.owns, ?_, ?_⟩
  · rw [other]
    refine iff_of_false nofun ?_
    rintro ⟨closed, isClosed, limited⟩
    rcases ended with ⟨request, settled, unlimited⟩ | ⟨keyId, seen, failing, armed⟩
    · cases settled.stage.symm.trans isClosed
      rw [unlimited] at limited
      cases limited
    · cases failing.stage.symm.trans isClosed
  · intro isBetween
    rcases ended with ⟨request, settled, unlimited⟩ | ⟨keyId, seen, failing, armed⟩
    · cases settled.stage.symm.trans isBetween
    · cases failing.stage.symm.trans isBetween

theorem Streaming.owns {setting : Setting} {keyId : Uuid} {guard : StreamAttemptGuard}
    (streaming : Streaming setting keyId guard progress) :
    Owns setting (.guard guard) progress := by
  obtain ⟨_, _, serving, _⟩ := streaming.serving
  exact serving.owns

theorem Leaves.answers {setting : Setting} {response : Response}
    (leaves : Leaves setting response held progress) :
    Answers setting response held progress := by
  cases response with
  | error status message kind code retryAfter => exact leaves
  | body status contentType bytes => exact leaves
  | stream status contentType body =>
      obtain ⟨guard, rfl, streaming⟩ := leaves
      obtain ⟨_, _, serving, _⟩ := streaming.serving
      refine ⟨streaming.owns, iff_of_false nofun ?_, ?_⟩
      · rintro ⟨request, closed, _⟩
        cases serving.stage.symm.trans closed
      · intro isBetween
        cases serving.stage.symm.trans isBetween

theorem Streaming.mapDrop {setting : Setting} {keyId : Uuid} {guard : StreamAttemptGuard}
    (streaming : Streaming setting keyId guard progress)
    (change : DropRecovery → DropRecovery)
    (timed : Timed { guard with drop := change guard.drop })
    (keeps : OpenTerminalFits guard.drop → OpenTerminalFits (change guard.drop)) :
    Streaming setting keyId { guard with drop := change guard.drop } progress where
  timed := timed
  serving := by
    obtain ⟨history, seen, serving, unlimited, notAccepted⟩ := streaming.serving
    have changed : ∀ other, Held.guard guard = .guard other →
        OpenTerminalFits other.drop → OpenTerminalFits (change other.drop) := by
      intro other isOther
      cases isOther
      exact keeps
    exact ⟨history, seen, serving.mapDrop change changed, unlimited, notAccepted⟩

theorem openTerminalFits_recordBytesOut {guard : StreamAttemptGuard} (bytes : Nat)
    (fits : OpenTerminalFits guard.drop) :
    OpenTerminalFits (guard.recordBytesOut bytes).drop where
  status := fits.status
  label := fits.label
  ttfb := fits.ttfb
  other := fits.other
  unsuccessful := fits.unsuccessful

theorem Streaming.recordBytesOut {setting : Setting} {keyId : Uuid}
    {guard : StreamAttemptGuard} (streaming : Streaming setting keyId guard progress)
    (bytes : Nat) : Streaming setting keyId (guard.recordBytesOut bytes) progress :=
  streaming.mapDrop (fun drop => { drop with
    bytesOut := min (drop.bytesOut + bytes) usizeMax }) streaming.timed
    (openTerminalFits_recordBytesOut bytes)

namespace Proxy

variable {setting : Setting} {held : Held} {progress : RequestProgress}
  {history : History} {keyId : Uuid} {seen : Seen}

theorem armed_guard {guard : StreamAttemptGuard} (going : guard.terminal = false)
    (failure : DropRecovery.EvidenceFailure guard.drop) : (Held.guard guard).Armed :=
  ⟨guard.drop, by simp [Held.recovery, going], failure⟩

theorem walks_finishRequestAndAttempt {guard : StreamAttemptGuard}
    {attempt : AttemptTerminal} {request : RequestTerminal} {bytesOut : Nat}
    {post : StreamTerminalResult → Held → RequestProgress → Prop}
    (serving : Serving history keyId seen (.guard guard) progress) (timed : Timed guard)
    (fits : AttemptFits setting history seen attempt)
    (requestFits : RequestFits setting history seen attempt
      (request.withTtfb guard.drop.ttfbMs))
    (status : ∀ code, request.statusCode = some code → 100 ≤ code ∧ code ≤ 599)
    (settles : ∀ result request held progress, Settled request held progress →
      request.rateLimited = false → post result held progress)
    (unlimited : request.rateLimited = false)
    (pending : ∀ held progress, Failing keyId seen held progress → held.Armed →
      post .pendingDropRetry held progress) :
    Walks setting (finishRequestAndAttempt keyId attempt request bytesOut) post
      (.guard guard) progress := by
  refine Routine.wp_bind.mpr (Routine.wp_owned.mpr ?_)
  refine Routine.wp_bind.mpr (walks_finishWithAttemptSilently serving
    (serving.closing fits) (serving.closingRequest requestFits) status ?_ ?_)
  · intro held progress settled
    exact settles _ _ held progress settled unlimited
  · intro recovery recoveryFits
    let terminal : OpenTerminal := {
      outcome := .failed
      statusCode := request.statusCode
      errorClass := "evidence_unavailable"
      ttfbMs := guard.drop.ttfbMs
      bytesOut }
    have terminalFits : OpenTerminalFits terminal :=
      openTerminalFits_evidence rfl rfl status timed
    have failing := (serving.armed recoveryFits).failing
    have opened := failing.opened.mapDrop (fun drop => { drop with
      outcome := .failed
      statusCode := request.statusCode
      errorClass := "evidence_unavailable"
      bytesOut }) fun _ _ fits => openTerminalFits_evidence rfl rfl status fits.ttfb
    have going := serving.opened.guard guard rfl
    refine Routine.wp_bind.mpr ((Routine.wp_update _).mpr ?_)
    refine Routine.wp_bind.mpr (walks_finishWithOpenAttemptsSilently
      opened terminalFits serving.stage (by simp) (fun _ => ⟨rfl, rfl⟩) ?_ ?_ ?_ ?_)
    · exact owns_failing (opened.armed terminalFits) (armed_guard going ⟨rfl, rfl⟩) rfl
    · refine .recovered keyId seen terminal serving.stage rfl ?_ ⟨rfl, rfl⟩
      exact terminalFits
    · intro held progress settled
      exact settles _ _ held progress settled rfl
    · exact pending _ _ ⟨opened.armed terminalFits, serving.stage, rfl⟩
        (armed_guard going ⟨rfl, rfl⟩)

theorem attemptFits_stream {terminal : AttemptTerminal} {code : Nat}
    (isStatus : terminal.statusCode = some code)
    (sensible : 100 ≤ code ∧ code ≤ 599 ∧ code ≠ 429) (label : LabelFits terminal.errorClass)
    (bytes : ∀ count, terminal.bytesOut = some count → 0 ≤ count)
    (unlimited : rateLimits setting history.keys.length seen = false)
    (notAccepted : seen.accepted = false) : AttemptFits setting history seen terminal where
  status := by
    intro other isOther
    cases isStatus.symm.trans isOther
    exact ⟨sensible.1, .inl sensible.2.1⟩
  label := label
  bytes := bytes
  rateLimited := by
    rw [unlimited, AttemptTerminal.rateLimited, isStatus]
    simp [sensible.2.2]
  succeeds := by simp [notAccepted]

theorem requestFits_stream {attempt : AttemptTerminal} {request : RequestTerminal}
    {code : Nat} (isStatus : request.statusCode = some code)
    (sensible : 100 ≤ code ∧ code ≤ 599) (label : LabelFits request.errorClass)
    (ttfb : ∀ elapsed, request.ttfbMs = some elapsed → 0 ≤ elapsed)
    (unlimited : request.rateLimited = false)
    (attemptUnlimited : attempt.rateLimited = false)
    (succeeds : request.outcome = .succeeded → attempt.outcome = .succeeded) :
    RequestFits setting history seen attempt request where
  status := by
    intro other isOther
    cases isStatus.symm.trans isOther
    exact ⟨sensible.1, .inl sensible.2⟩
  label := label
  ttfb := ttfb
  rateLimited := by rw [unlimited, attemptUnlimited, Bool.and_false]
  succeeds := succeeds

theorem streamEnded_markDurable {result : StreamTerminalResult}
    (durable : result ≠ .pendingDropRetry → ∃ request,
      Settled request held progress ∧ request.rateLimited = false)
    (pending : result = .pendingDropRetry → StreamEnded held progress) :
    Walks setting (markDurable result) (fun _ => StreamEnded) held progress := by
  refine (Routine.wp_update _).mpr ?_
  cases result with
  | requestedTerminalCommitted =>
      obtain ⟨request, settled, unlimited⟩ := durable nofun
      exact .inl ⟨request, settled.mapGuard (fun _ => rfl) fun _ fits => fits, unlimited⟩
  | recoveredAsEvidenceFailure =>
      obtain ⟨request, settled, unlimited⟩ := durable nofun
      exact .inl ⟨request, settled.mapGuard (fun _ => rfl) fun _ fits => fits, unlimited⟩
  | pendingDropRetry =>
      have ended := pending rfl
      cases held <;> exact ended

theorem walks_cooldownOf {post : Option Timestamp → Held → RequestProgress → Prop}
    (serving : Serving history keyId seen held progress)
    (next : ∀ cooldown, post cooldown held progress) :
    Walks setting (cooldownOf keyId) post held progress := by
  refine Routine.wp_bind.mpr (walks_serve serving
    (fun unfailed stage => .serves _ keyId seen stage unfailed
      (.inr (.inl ⟨none, rfl⟩)))
    (fun _ => rfl) fun answer _ => ?_)
  cases answer with
  | ok cooldown => exact next cooldown
  | error failure => exact next none

theorem walks_endStream (code requestCode : Nat) {guard : StreamAttemptGuard}
    {attempt : AttemptTerminal} {request : RequestTerminal} {bytesOut : Nat}
    {post : StreamTerminalResult → Held → RequestProgress → Prop}
    (streaming : Streaming setting keyId guard progress)
    (isStatus : attempt.statusCode = some code)
    (sensible : 100 ≤ code ∧ code ≤ 599 ∧ code ≠ 429) (label : LabelFits attempt.errorClass)
    (bytes : ∀ count, attempt.bytesOut = some count → 0 ≤ count)
    (isRequestStatus : request.statusCode = some requestCode)
    (requestSensible : 100 ≤ requestCode ∧ requestCode ≤ 599)
    (requestLabel : LabelFits request.errorClass) (unlimited : request.rateLimited = false)
    (succeeds : request.outcome = .succeeded → attempt.outcome = .succeeded)
    (settles : ∀ result request held progress, Settled request held progress →
      request.rateLimited = false → post result held progress)
    (pending : ∀ held progress, StreamEnded held progress →
      post .pendingDropRetry held progress) :
    Walks setting (finishRequestAndAttempt keyId attempt request bytesOut) post
      (.guard guard) progress := by
  obtain ⟨history, seen, serving, seenUnlimited, notAccepted⟩ := streaming.serving
  have fits := attemptFits_stream isStatus sensible label bytes seenUnlimited notAccepted
  have attemptUnlimited : attempt.rateLimited = false :=
    fits.rateLimited.trans seenUnlimited
  refine walks_finishRequestAndAttempt serving streaming.timed fits
    (requestFits_stream isRequestStatus requestSensible requestLabel streaming.timed
      unlimited attemptUnlimited succeeds) ?_ settles unlimited ?_
  · intro other isOther
    cases isRequestStatus.symm.trans isOther
    exact requestSensible
  · intro held progress failing armed
    exact pending held progress (.inr ⟨keyId, seen, failing, armed⟩)

theorem walks_emit {frame : Bytes} {post : Unit → Held → RequestProgress → Prop}
    (owns : Owns setting held progress) (next : post () held progress) :
    Walks setting (ask (.emit frame)) post held progress :=
  walks_look owns (.emits frame) (fun _ => rfl) fun _ _ => next

theorem walks_failStream {guard : StreamAttemptGuard} {errorClass message : String}
    (streaming : Streaming setting keyId guard progress)
    (label : LabelFits (some errorClass))
    (unlimited : errorClass ≠ "upstream_rate_limited") :
    Walks setting (failStream keyId errorClass message) (fun _ => StreamEnded)
      (.guard guard) progress := by
  refine Routine.wp_bind.mpr ((Routine.wp_update _).mpr ?_)
  have counted := streaming.recordBytesOut (sseErrorFrame message).length
  obtain ⟨history, seen, serving, _, _⟩ := counted.serving
  refine Routine.wp_bind.mpr (Routine.wp_bind.mpr (walks_cooldownOf serving fun cooldown => ?_))
  refine Routine.wp_bind.mpr (Routine.wp_owned.mpr ?_)
  refine walks_endStream 200 200 counted rfl (by decide) label
    ?_ rfl (by decide) label ?_ nofun ?_ ?_
  · intro count isCount
    cases isCount
    exact bytesColumn_nonneg _
  · simpa [RequestTerminal.rateLimited, RequestTerminal.failed] using unlimited
  · intro result request held progress settled isUnlimited
    refine Routine.wp_bind.mpr (Routine.wp_mono (streamEnded_markDurable
      (fun _ => ⟨request, settled, isUnlimited⟩)
      (fun _ => .inl ⟨request, settled, isUnlimited⟩)) ?_)
    exact fun _ _ _ ended => ended
  · intro held progress ended
    refine Routine.wp_bind.mpr (Routine.wp_mono (streamEnded_markDurable
      (fun durable => absurd rfl durable) (fun _ => ended)) ?_)
    exact fun _ _ _ ended => ended

theorem walks_finishStreamSuccess {guard : StreamAttemptGuard}
    (streaming : Streaming setting keyId guard progress) :
    Walks setting (finishStreamSuccess keyId) (fun _ => StreamEnded) (.guard guard)
      progress := by
  obtain ⟨history, seen, serving, _, _⟩ := streaming.serving
  refine Routine.wp_bind.mpr (walks_serve serving
    (fun unfailed stage => .serves _ keyId seen stage unfailed (.inl rfl))
    (fun _ => rfl) fun answer _ => ?_)
  cases answer with
  | error failure =>
      generalize sseErrorFrame "request accounting unavailable" = errorFrame
      refine Routine.wp_bind.mpr ((Routine.wp_update _).mpr ?_)
      have counted := streaming.recordBytesOut errorFrame.length
      refine Routine.wp_bind.mpr (Routine.wp_owned.mpr ?_)
      have label : LabelFits (some "request_accounting_unavailable") :=
        labelFits_some (by decide)
      refine Routine.wp_bind.mpr (walks_endStream 200 200 counted rfl (by decide) label
        ?_ rfl (by decide) label (by decide) nofun ?_ ?_)
      · intro count isCount
        cases isCount
        exact bytesColumn_nonneg _
      · intro result request held progress settled isUnlimited
        refine Routine.wp_bind.mpr (Routine.wp_mono (streamEnded_markDurable
          (fun _ => ⟨request, settled, isUnlimited⟩)
          (fun _ => .inl ⟨request, settled, isUnlimited⟩)) ?_)
        exact fun _ _ _ ended => ended
      · intro held progress ended
        refine Routine.wp_bind.mpr (Routine.wp_mono (streamEnded_markDurable
          (fun durable => absurd rfl durable) (fun _ => ended)) ?_)
        exact fun _ _ _ ended => ended
  | ok value =>
      refine Routine.wp_bind.mpr (Routine.wp_owned.mpr ?_)
      have label : LabelFits none := nofun
      refine Routine.wp_bind.mpr (walks_endStream 200 200 streaming rfl (by decide) label
        ?_ rfl (by decide) label rfl (fun _ => rfl) ?_ ?_)
      · intro count isCount
        cases isCount
        exact bytesColumn_nonneg _
      · intro result request held progress settled isUnlimited
        cases result with
        | requestedTerminalCommitted =>
            have counted : Settled request
                (held.mapGuard (.recordBytesOut doneFrame.length)) progress :=
              settled.mapGuard (fun _ => rfl) fun _ => openTerminalFits_recordBytesOut _
            exact .inl ⟨request, counted.mapGuard (fun _ => rfl) fun _ fits => fits,
              isUnlimited⟩
        | recoveredAsEvidenceFailure =>
            exact .inl ⟨request, settled.mapGuard (fun _ => rfl) fun _ fits => fits,
              isUnlimited⟩
        | pendingDropRetry => exact .inl ⟨request, settled, isUnlimited⟩
      · exact fun held progress ended => ended

theorem walks_emitPending {guard : StreamAttemptGuard} (pending : List Bytes)
    (streaming : Streaming setting keyId guard progress) :
    Walks setting (emitPending pending)
      (fun _ held progress => ∃ guard, held = .guard guard ∧
        Streaming setting keyId guard progress) (.guard guard) progress := by
  refine Routine.wp_each (fun _ held progress => ∃ guard, held = Held.guard guard ∧
    Streaming setting keyId guard progress) ?_ ⟨guard, rfl, streaming⟩
  rintro chunk rest owned progress ⟨guard, rfl, streaming⟩
  refine Routine.wp_bind.mpr ((Routine.wp_update _).mpr ?_)
  have counted := streaming.recordBytesOut chunk.length
  exact walks_emit counted.owns ⟨_, rfl, counted⟩

theorem walks_emitLast {routine : ProxyRoutine Bytes}
    (ends : Walks setting routine (fun _ => StreamEnded) held progress) :
    Walks setting (do ask (.emit (← routine))) (fun _ => StreamEnded) held progress := by
  refine Routine.wp_bind.mpr (Routine.wp_mono ends ?_)
  intro frame held progress ended
  exact walks_emit ended.owns ended

theorem walks_streamFrames {parse : String → Option Json} {upstream : List UpstreamEvent}
    {validator : SseValidator} {pending : List Bytes} {guard : StreamAttemptGuard}
    (streaming : Streaming setting keyId guard progress) :
    Walks setting (streamFrames parse keyId upstream validator pending)
      (fun _ => StreamEnded) (.guard guard) progress := by
  induction upstream generalizing validator pending guard progress with
  | nil =>
      unfold streamFrames
      refine Routine.wp_bind.mpr (Routine.wp_mono (walks_emitPending pending streaming) ?_)
      rintro _ held progress ⟨guard, rfl, streaming⟩
      obtain ⟨history, seen, serving, _, _⟩ := streaming.serving
      cases finished : validator.finish with
      | true =>
          rw [if_pos rfl]
          exact walks_emitLast (walks_finishStreamSuccess streaming)
      | false =>
          rw [if_neg Bool.false_ne_true]
          refine Routine.wp_bind.mpr (walks_serve serving
            (fun unfailed stage => .serves _ keyId seen stage unfailed (by simp))
            (fun _ => rfl) fun _ _ => ?_)
          exact walks_emitLast (walks_failStream streaming (labelFits_some (by decide))
            (by decide))
  | cons event rest induction =>
      unfold streamFrames
      refine Routine.wp_bind.mpr (Routine.wp_mono (walks_emitPending pending streaming) ?_)
      rintro _ held progress ⟨guard, rfl, streaming⟩
      obtain ⟨history, seen, serving, _, _⟩ := streaming.serving
      cases finished : validator.finish with
      | true =>
          rw [if_pos rfl]
          exact walks_emitLast (walks_finishStreamSuccess streaming)
      | false =>
          rw [if_neg Bool.false_ne_true]
          refine Routine.wp_bind.mpr (walks_serve serving
            (fun unfailed stage => .serves _ keyId seen stage unfailed (by simp))
            (fun _ => rfl) fun _ _ => ?_)
          cases event with
          | chunk bytes =>
              cases fed : validator.feed parse bytes with
              | error failure =>
                  simp only [fed]
                  exact walks_emitLast (walks_failStream streaming
                    (labelFits_some (by decide)) (by decide))
              | ok fed' =>
                  simp only [fed]
                  exact induction streaming
          | failed =>
              exact walks_emitLast (walks_failStream streaming
                (labelFits_some (by decide)) (by decide))
          | silent =>
              exact walks_emitLast (walks_failStream streaming
                (labelFits_some (by decide)) (by decide))

theorem walks_elapsedMs {post : Int → Held → RequestProgress → Prop}
    (owns : Owns setting held progress)
    (next : ∀ elapsed, 0 ≤ elapsed → post elapsed held progress) :
    Walks setting elapsedMs post held progress := by
  refine Routine.wp_bind.mpr (walks_look owns (.looks _ (by simp)) (fun _ => rfl)
    fun elapsed _ => ?_)
  exact next _ (bytesColumn_nonneg elapsed)

theorem walks_commitStream {guard : StreamAttemptGuard} {status : StatusCode}
    {contentType : String} {upstream : List UpstreamEvent} {validator : SseValidator}
    {pending : List Bytes} (streaming : Streaming setting keyId guard progress)
    (ordinary : status.code ≤ 599) :
    Walks setting (commitStream keyId status contentType upstream validator pending)
      (Leaves setting) (.guard guard) progress := by
  refine Routine.wp_bind.mpr (walks_elapsedMs streaming.owns fun ttfbMs sensible => ?_)
  have timed : ∀ elapsed, some ttfbMs = some elapsed → 0 ≤ elapsed := by
    intro elapsed same
    cases same
    exact sensible
  refine Routine.wp_bind.mpr ((Routine.wp_update _).mpr ?_)
  have armed := streaming.mapDrop (fun _ => .evidenceFailure (some ttfbMs) 0) timed
    fun _ => openTerminalFits_evidenceFailure timed 0
  obtain ⟨history, seen, serving, unlimited, notAccepted⟩ := armed.serving
  refine Routine.wp_bind.mpr (walks_attemptResponseStarted sensible serving ?_)
  refine Routine.wp_bind.mpr ((Routine.wp_update _).mpr ?_)
  refine Routine.wp_bind.mpr ((Routine.wp_update _).mpr ?_)
  have label : LabelFits (some "downstream_cancelled") := labelFits_some (by decide)
  have other : "downstream_cancelled" ≠ "upstream_rate_limited" := by decide
  have cancelled : OpenTerminalFits {
      outcome := .cancelled
      statusCode := some status.code
      errorClass := "downstream_cancelled"
      ttfbMs := some ttfbMs
      bytesOut := 0 } := {
    status := by
      intro code isCode
      cases isCode
      exact ⟨status.valid.1, ordinary⟩
    label
    ttfb := timed
    other
    unsuccessful := by simp }
  exact ⟨_, rfl, armed.mapDrop (fun drop => { drop with
    ttfbMs := some ttfbMs
    outcome := .cancelled
    statusCode := some status.code
    errorClass := "downstream_cancelled" }) timed fun _ => cancelled⟩

theorem Streaming.begins {evidence : RequestEvidence}
    (serving : Serving history keyId seen (.evidence evidence) progress)
    (unlimited : rateLimits setting history.keys.length seen = false)
    (notAccepted : seen.accepted = false) :
    Streaming setting keyId (.withRequest evidence) progress :=
  ⟨nofun, history, seen, serving.guarded, unlimited, notAccepted⟩

theorem walks_prime {post : Unit → Held → RequestProgress → Prop}
    (serving : Serving history keyId seen held progress) (next : post () held progress) :
    Walks setting (ask .prime) post held progress :=
  walks_serve serving (fun unfailed stage => .serves _ keyId seen stage unfailed (by simp))
    (fun _ => rfl) fun _ _ => next

theorem walks_mockStreamResponse {parse : String → Option Json} {scenario : Option String}
    {first terminal : Bytes} {evidence : RequestEvidence}
    (serving : Serving history keyId seen (.evidence evidence) progress)
    (unlimited : rateLimits setting history.keys.length seen = false)
    (notAccepted : seen.accepted = false) :
    Walks setting (mockStreamResponse parse scenario first terminal keyId)
      (Leaves setting) (.evidence evidence) progress := by
  have streaming := Streaming.begins serving unlimited notAccepted
  refine Routine.wp_bind.mpr ((Routine.wp_update _).mpr ?_)
  refine Routine.wp_bind.mpr (walks_prime serving.guarded ?_)
  simp only []
  split
  case h_1 =>
      refine Routine.wp_bind.mpr (walks_cooldownOf serving.guarded fun cooldown => ?_)
      refine Routine.wp_bind.mpr (Routine.wp_owned.mpr ?_)
      have label : LabelFits (some "mock_stream_prime_error") := labelFits_some (by decide)
      refine Routine.wp_bind.mpr (walks_endStream 502 502 streaming rfl (by decide) label
        nofun rfl (by decide) label (by decide) nofun ?_ ?_)
      · intro result request held progress settled isUnlimited
        refine Routine.wp_bind.mpr (Routine.wp_mono (streamEnded_markDurable
          (fun _ => ⟨request, settled, isUnlimited⟩)
          (fun _ => .inl ⟨request, settled, isUnlimited⟩)) ?_)
        exact fun _ _ _ ended => ended.answers rfl
      · intro held progress ended
        refine Routine.wp_bind.mpr (Routine.wp_mono (streamEnded_markDurable
          (fun durable => absurd rfl durable) (fun _ => ended)) ?_)
        exact fun _ _ _ ended => ended.answers rfl
  case h_2 => exact walks_commitStream streaming (by decide)

end Proxy

end NvidiaBuildLb.Gateway
