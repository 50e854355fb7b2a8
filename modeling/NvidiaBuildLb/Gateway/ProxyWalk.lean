import NvidiaBuildLb.Gateway.ProxyStreamWalk

namespace NvidiaBuildLb.Gateway

open Foundation NvidiaBuildLb.Core

/-! The handlers keep to the protocol: the exits of an attempt, its course, and
the loop over the keys. -/

/-- An attempt has ended, and another one is about to start. -/
structure Between (history : History) (held : Held) (progress : RequestProgress) :
    Prop where
  opened : Open held progress
  stage : progress.stage = .between
  follows : Follows history progress

def History.ended (history : History) (keyId : Uuid) (seen : Seen)
    (terminal : AttemptTerminal) : History :=
  { history with flag := history.flag && Ending.keepsFlag { keyId, seen, terminal } }

/-- What is owned when the write of an attempt's end fails: armed, but for a
stream that broke. -/
def ReadyToRetry (setting : Setting) (seen : Seen) (evidence : RequestEvidence) : Prop :=
  if seen.broken setting then evidence.dropRecovery = .handlerAbandoned
  else evidence.dropRecovery.EvidenceFailure

namespace Proxy

variable {setting : Setting} {held : Held} {progress : RequestProgress}
  {history : History} {keyId : Uuid} {seen : Seen}

theorem serving_listed (keys : List KeySummary)
    (serving : Serving history keyId seen held progress) :
    Serving { history with listed := history.listed.or (some keys.length) } keyId seen held
      (progress.after .list keys) :=
  { serving with
    opened := ⟨serving.opened.owner, serving.opened.guard, serving.opened.fits⟩
    follows := { serving.follows with
      listed := by rw [← serving.follows.listed]; rfl } }

theorem walks_retryAfterSeconds
    {post : Option Nat → Held → RequestProgress → Prop}
    (serving : Serving history keyId seen held progress)
    (next : ∀ seconds listed progress,
      Serving { history with listed := listed } keyId seen held progress →
        post seconds held progress) :
    Walks setting retryAfterSeconds post held progress := by
  refine Routine.wp_bind.mpr (walks_ask serving.owns (.looks _ (by simp))
    fun keys _ => ?_)
  have listed := serving_listed keys serving
  refine Routine.wp_bind.mpr (walks_look listed.owns (.looks _ (by simp)) (fun _ => rfl)
    fun now _ => ?_)
  exact next _ _ _ listed

theorem requestFits_unavailable {attempt : AttemptTerminal} {code : Nat} {errorClass : String}
    (sensible : 100 ≤ code ∧ code ≤ 599) (label : LabelFits (some errorClass))
    (limited : (RequestTerminal.failed code errorClass).rateLimited =
      (history.flag && attempt.rateLimited)) :
    RequestFits setting history seen attempt (.failed code errorClass) where
  status := by
    intro other isOther
    cases isOther
    exact ⟨sensible.1, .inl sensible.2⟩
  label := label
  ttfb := nofun
  rateLimited := limited
  succeeds := nofun

section Retrying

variable {evidence : RequestEvidence} {attempt : AttemptTerminal}

theorem between_of_finished
    (serving : Serving history keyId seen held progress) :
    Between (history.ended keyId seen attempt) held
      (progress.finish attempt .between) := by
  have finished : progress.finish attempt .between = { progress with
      stage := .between
      endings := progress.endings ++ [{ keyId, seen, terminal := attempt }] } := by
    rw [RequestProgress.finish, serving.stage]
  rw [finished]
  refine ⟨⟨serving.opened.owner, serving.opened.guard, serving.opened.fits⟩, rfl,
    ⟨serving.follows.unfailed, serving.follows.keys, serving.follows.listed, ?_,
      serving.follows.unrefused⟩⟩
  rw [List.all_append, serving.follows.flag]
  simp [History.ended]

theorem leaves_unfinished
    (serving : Serving history keyId seen (.evidence evidence) progress)
    (ready : ReadyToRetry setting seen evidence) :
    Leaves setting attemptUnavailable (.evidence evidence)
      { progress with failed := some .attemptOnly } := by
  have opened := serving.opened
  refine leaves_of_answers rfl ⟨⟨opened.fits, fun _ => opened.recovers, ?_, ?_,
    (fun failed => by cases failed)⟩, ?_, by simp [serving.stage]⟩
  · obtain ⟨owner, isOwner, _, acquired⟩ := opened.owner
    exact releases_of_owner isOwner acquired
  · refine fun _ => ⟨keyId, seen, serving.stage, ?_⟩
    have recovery : (Held.evidence evidence).recovery = some evidence.dropRecovery := by
      simp [Held.recovery, opened.going]
    unfold ReadyToRetry at ready
    split at ready
    case isTrue broken =>
        rw [if_pos broken, recovery, ready]
    case isFalse whole =>
        rw [if_neg whole]
        exact ⟨_, recovery, ready⟩
  · refine iff_of_false (fun failed => by cases failed) ?_
    rintro ⟨request, closed, _⟩
    cases serving.stage.symm.trans closed

theorem walks_attemptFinished {post : Unit → Held → RequestProgress → Prop}
    (serving : Serving history keyId seen (.evidence evidence) progress)
    (fits : AttemptFits setting history seen attempt) (resumes : Resumes setting seen)
    (failed : attempt.outcome = .failed) (ready : ReadyToRetry setting seen evidence)
    (next : ∀ progress, Between (history.ended keyId seen attempt) (.evidence evidence)
      progress → post () (.evidence evidence) progress) :
    Walks setting (attemptFinished keyId attempt) post (.evidence evidence) progress := by
  refine Routine.wp_bind.mpr (walks_ask serving.owns
    (.attemptFinished keyId seen attempt (serving.closing fits) resumes failed)
    fun answer _ => ?_)
  cases answer with
  | ok value => exact next _ (between_of_finished serving)
  | error failure =>
      exact walks_orElse nofun fun _ => leaves_unfinished serving ready

theorem walks_endRequest {α : Type} {post : α → Held → RequestProgress → Prop}
    {request : RequestTerminal} {response : Response}
    (serving : Serving history keyId seen (.evidence evidence) progress)
    (fits : AttemptFits setting history seen attempt)
    (requestFits : RequestFits setting history seen attempt request)
    (plain : response.isStream = false)
    (same : response.rateLimited = request.rateLimited) :
    Walks setting (endAttempt keyId attempt request response) post (.evidence evidence)
      progress := by
  refine Routine.wp_bind.mpr (walks_finishWithAttempt serving (serving.closing fits)
    (serving.closingRequest requestFits) ?_)
  intro held progress settled
  exact leaves_settled plain same settled

/-- What holds of the owner and the keys when another attempt is due. -/
structure Retries (history : History) (attempted : List Uuid) (retryAllowed : Bool)
    (nextKeyId : Uuid) (held : Held) (progress : RequestProgress) : Prop where
  between : Between history held progress
  fresh : ∃ permitAcquired, held = startedEvidence permitAcquired
  allowed : retryAllowed = true
  unused : nextKeyId ∉ attempted

theorem walks_exhausted {post : Uuid → Held → RequestProgress → Prop} {flag : Bool}
    (serving : Serving history keyId seen (.evidence evidence) progress)
    (fits : AttemptFits setting history seen attempt)
    (flagged : flag = (history.flag && attempt.rateLimited)) :
    Walks setting (if flag then do
        let response := match ← retryAfterSeconds with
          | some seconds => upstreamRateLimited.withRetryAfter seconds
          | none => upstreamRateLimited
        finishWithAttempt keyId attempt (.failed 429 "upstream_rate_limited")
        Routine.leave response
      else do
        finishWithAttempt keyId attempt (.failed 503 "no_eligible_upstream")
        Routine.leave noEligibleUpstream) post (.evidence evidence) progress := by
  cases isFlag : flag with
  | true =>
      rw [if_pos rfl]
      refine Routine.wp_bind.mpr (walks_retryAfterSeconds serving ?_)
      intro seconds listed progress listing
      refine walks_endRequest listing ?_ ?_ ?_ ?_
      · exact { fits with }
      · exact requestFits_unavailable (by decide) (labelFits_some (by decide))
          (by rw [← flagged, isFlag]; rfl)
      · cases seconds <;> rfl
      · cases seconds <;> rfl
  | false =>
      rw [if_neg Bool.false_ne_true]
      exact walks_endRequest serving fits
        (requestFits_unavailable (by decide) (labelFits_some (by decide))
          (by rw [← flagged, isFlag]; rfl)) rfl rfl

theorem walks_finishRetryableOrTerminal {attempted : List Uuid} {retryAllowed flag : Bool}
    (serving : Serving history keyId seen (.evidence evidence) progress)
    (same : attempted = history.keys) (fits : AttemptFits setting history seen attempt)
    (resumes : Resumes setting seen) (failed : attempt.outcome = .failed)
    (ready : ReadyToRetry setting seen evidence)
    (flagged : flag = (history.flag && attempt.rateLimited)) :
    Walks setting (finishRetryableOrTerminal attempted retryAllowed keyId attempt flag)
      (Retries (history.ended keyId seen attempt) attempted retryAllowed)
      (.evidence evidence) progress := by
  unfold finishRetryableOrTerminal
  cases retryAllowed with
  | false => exact walks_exhausted serving fits flagged
  | true =>
      rw [if_pos rfl]
      refine Routine.wp_bind.mpr (walks_look serving.owns
        (.failover attempted (same.trans serving.follows.keys.symm)) (fun _ => rfl)
        fun next isLegal => ?_)
      cases next with
      | none => exact walks_exhausted serving fits flagged
      | some nextKeyId =>
          refine Routine.wp_bind.mpr (walks_attemptFinished serving fits resumes failed ready
            fun progress between => ?_)
          refine Routine.wp_bind.mpr ((Routine.wp_update _).mpr ?_)
          obtain ⟨owner, isOwner, going, acquired⟩ := between.opened.owner
          cases isOwner
          refine ⟨{ between with opened := between.opened.armed openTerminalFits_handlerAbandoned },
            ⟨evidence.permitAcquired, ?_⟩, rfl, isLegal nextKeyId rfl⟩
          simp [Held.mapRequest, startedEvidence, going]

end Retrying

def Pending (keyAttempts : Nat) (listed : Option Nat) (locals : Attempts) (held : Held)
    (progress : RequestProgress) : Prop :=
  ∃ nextKeyId, locals.nextKeyId = some nextKeyId ∧
    Retries ⟨locals.attempted, listed, locals.allAttemptsRateLimited⟩ locals.attempted
      (locals.attempted.length < keyAttempts) nextKeyId held progress

/-- What a round of the loop leaves to the next one. -/
def Again (keyAttempts : Nat) (history : History) (flow : Routine.Flow Attempts)
    (held : Held) (progress : RequestProgress) : Prop :=
  match flow with
  | .stop _ => False
  | .again locals => locals.attempted = history.keys ∧
      Pending keyAttempts history.listed locals held progress

/-- The locals say of the attempts so far what is on record. -/
structure InStep (locals : Attempts) (history : History) : Prop where
  keys : locals.attempted = history.keys
  flag : locals.allAttemptsRateLimited = history.flag

/-- An attempt is served, and nothing is armed yet. -/
structure Attempting (history : History) (keyId : Uuid) (seen : Seen) (held : Held)
    (progress : RequestProgress) : Prop where
  serving : Serving history keyId seen held progress
  fresh : ∃ permitAcquired, held = startedEvidence permitAcquired

section Exits

variable {keyAttempts : Nat} {locals : Attempts} {evidence : RequestEvidence}

theorem walks_retry {attempt : AttemptTerminal} {flag : Bool}
    (serving : Serving history keyId seen (.evidence evidence) progress)
    (sameKeys : locals.attempted = history.keys)
    (fits : AttemptFits setting history seen attempt) (resumes : Resumes setting seen)
    (failed : attempt.outcome = .failed) (ready : ReadyToRetry setting seen evidence)
    (flagged : flag = (history.flag && attempt.rateLimited))
    (kept : locals.allAttemptsRateLimited =
      (history.flag && Ending.keepsFlag { keyId, seen, terminal := attempt })) :
    Walks setting (retry keyAttempts locals keyId attempt flag)
      (Again keyAttempts history) (.evidence evidence) progress := by
  refine Routine.wp_bind.mpr (Routine.wp_mono (walks_finishRetryableOrTerminal serving
    sameKeys fits resumes failed ready flagged) ?_)
  intro nextKeyId held progress retries
  refine ⟨sameKeys, nextKeyId, rfl, ?_⟩
  have same : history.ended keyId seen attempt =
      ⟨locals.attempted, history.listed, locals.allAttemptsRateLimited⟩ := by
    rw [sameKeys, kept]
    rfl
  exact same ▸ retries

theorem attemptFits_failed {status : Option Nat} {errorClass : String}
    {cooldown : Option Timestamp}
    (sensible : ∀ code, status = some code → StatusFrom setting seen code)
    (label : LabelFits (some errorClass))
    (limited : (AttemptTerminal.failed status errorClass none).rateLimited =
      rateLimits setting history.keys.length seen) :
    AttemptFits setting history seen (.failed status errorClass cooldown) where
  status := sensible
  label := label
  bytes := nofun
  rateLimited := limited
  succeeds := nofun

theorem readyToRetry_armed {ttfbMs : Option Int} {bytesOut : Nat}
    (whole : seen.broken setting = false) :
    ReadyToRetry setting seen
      { evidence with dropRecovery := .evidenceFailure ttfbMs bytesOut } := by
  rw [ReadyToRetry, if_neg (by simp [whole])]
  exact ⟨rfl, rfl⟩

/-- What is asked of an attempt that fails over. -/
structure FailsOver (setting : Setting) (history : History) (keyId : Uuid) (seen : Seen)
    (locals : Attempts) (status : Option Nat) (errorClass : String) (flag : Bool) :
    Prop where
  keys : locals.attempted = history.keys
  sensible : ∀ code, status = some code → StatusFrom setting seen code
  label : LabelFits (some errorClass)
  limited : (AttemptTerminal.failed status errorClass none).rateLimited =
    rateLimits setting history.keys.length seen
  resumes : Resumes setting seen
  whole : seen.broken setting = false
  flagged : flag = (history.flag && rateLimits setting history.keys.length seen)
  kept : locals.allAttemptsRateLimited = (history.flag && Ending.keepsFlag
    { keyId, seen, terminal := .failed status errorClass none })

theorem walks_retryAfterFailure {retryAfter : Option Duration} {status : Option Nat}
    {errorClass : String} {flag : Bool}
    (serving : Serving history keyId seen (.evidence evidence) progress)
    (failsOver : FailsOver setting history keyId seen locals status errorClass flag) :
    Walks setting (retryAfterFailure keyAttempts locals keyId retryAfter status errorClass
      flag) (Again keyAttempts history) (.evidence evidence) progress := by
  refine Routine.wp_bind.mpr ((Routine.wp_update _).mpr ?_)
  have armed := serving.armed (openTerminalFits_untimed 0)
  refine Routine.wp_bind.mpr (walks_recordFailure armed fun cooldown => ?_)
  exact walks_retry armed failsOver.keys
    (attemptFits_failed failsOver.sensible failsOver.label failsOver.limited)
    failsOver.resumes rfl (readyToRetry_armed failsOver.whole)
    (failsOver.flagged.trans (congrArg _ failsOver.limited.symm)) failsOver.kept

theorem walks_retryAfterQuarantine {status : Nat} {flag : Bool}
    (serving : Serving history keyId seen (.evidence evidence) progress)
    (failsOver : FailsOver setting history keyId seen locals (some status)
      (retryableErrorClass status) flag) :
    Walks setting (retryAfterQuarantine keyAttempts locals keyId status flag)
      (Again keyAttempts history) (.evidence evidence) progress := by
  refine Routine.wp_bind.mpr ((Routine.wp_update _).mpr ?_)
  have armed := serving.armed (openTerminalFits_untimed 0)
  refine Routine.wp_bind.mpr (walks_quarantineKey armed ?_)
  exact walks_retry armed failsOver.keys
    (attemptFits_failed failsOver.sensible failsOver.label failsOver.limited)
    failsOver.resumes rfl (readyToRetry_armed failsOver.whole)
    (failsOver.flagged.trans (congrArg _ failsOver.limited.symm)) failsOver.kept

/-- An exit that is not taken for a rate limit. -/
structure EndsHere (setting : Setting) (history : History) (seen : Seen) (status : Nat) :
    Prop where
  sensible : StatusFrom setting seen status
  unlimited : rateLimits setting history.keys.length seen = false

theorem attemptFits_ended (terminal : AttemptTerminal) {status : Nat} {errorClass : String}
    (ends : EndsHere setting history seen status)
    (isStatus : terminal.statusCode = some status)
    (isClass : terminal.errorClass = some errorClass)
    (failed : terminal.outcome = .failed) (label : LabelFits (some errorClass))
    (other : errorClass ≠ "upstream_rate_limited")
    (bytes : ∀ count, terminal.bytesOut = some count → 0 ≤ count) :
    AttemptFits setting history seen terminal ∧ terminal.rateLimited = false := by
  have unlimited : terminal.rateLimited = false := by
    simp [AttemptTerminal.rateLimited, isClass, other]
  refine ⟨⟨?_, isClass ▸ label, bytes, unlimited.trans ends.unlimited.symm, ?_⟩, unlimited⟩
  · intro code isCode
    cases isStatus.symm.trans isCode
    exact ends.sensible
  · rw [failed]
    exact fun succeeded => by cases succeeded

theorem walks_failAttempt {α : Type} {post : α → Held → RequestProgress → Prop}
    {bytesOut : Option Nat} {status : Nat} {errorClass message : String}
    (serving : Serving history keyId seen (.evidence evidence) progress)
    (ends : EndsHere setting history seen status) (label : LabelFits (some errorClass))
    (other : errorClass ≠ "upstream_rate_limited") :
    Walks setting (failAttempt keyId bytesOut status errorClass message) post
      (.evidence evidence) progress := by
  refine Routine.wp_bind.mpr ((Routine.wp_update _).mpr ?_)
  have armed := serving.armed (openTerminalFits_untimed (bytesOut.getD 0))
  refine Routine.wp_bind.mpr (walks_recordFailure armed fun cooldown => ?_)
  have unlimited : (RequestTerminal.failed 502 errorClass).rateLimited = false := by
    simpa [RequestTerminal.rateLimited, RequestTerminal.failed] using other
  have plain : (upstreamError .badGateway message errorClass).rateLimited =
      (RequestTerminal.failed 502 errorClass).rateLimited := by
    rw [unlimited]
    simp [Response.rateLimited, upstreamError, openaiError, other]
  cases bytesOut with
  | none =>
      obtain ⟨fits, attemptUnlimited⟩ := attemptFits_ended
        (.failed (some status) errorClass cooldown) ends rfl rfl rfl label other
        (fits_of_none rfl)
      exact walks_endRequest armed fits (requestFits_unavailable (by decide) label
        (by rw [unlimited, attemptUnlimited, Bool.and_false])) rfl plain
  | some bytes =>
      obtain ⟨fits, attemptUnlimited⟩ := attemptFits_ended
        ((AttemptTerminal.failed (some status) errorClass cooldown).withBytesOut bytes) ends rfl rfl rfl label other
        (fun count isCount => by cases isCount; exact bytesColumn_nonneg bytes)
      exact walks_endRequest armed fits (requestFits_unavailable (by decide) label
        (by rw [unlimited, attemptUnlimited, Bool.and_false])) rfl plain

theorem walks_succeedAttempt {α : Type} {post : α → Held → RequestProgress → Prop}
    {bytesOut : Option Nat} {status : Nat} {response : Response}
    (serving : Serving history keyId seen (.evidence evidence) progress)
    (ends : EndsHere setting history seen status)
    (polled : seen.accepted = true → ∃ accepted answer, seen = .polled accepted answer ∧
      status = answer.status.code)
    (plain : response.isStream = false) (other : response.rateLimited = false) :
    Walks setting (succeedAttempt keyId status bytesOut response) post (.evidence evidence)
      progress := by
  refine Routine.wp_bind.mpr ((Routine.wp_update _).mpr ?_)
  have armed := serving.armed (openTerminalFits_untimed (bytesOut.getD 0))
  refine Routine.wp_bind.mpr (walks_recordRequest armed ?_)
  have sensible : ∀ code, some status = some code → StatusFrom setting seen code := by
    intro code isCode
    cases isCode
    exact ends.sensible
  have unlimited : (AttemptTerminal.succeeded status bytesOut).rateLimited = false := by
    simp [AttemptTerminal.rateLimited, AttemptTerminal.succeeded]
  refine walks_endRequest armed
    ⟨sensible, fits_of_none rfl, ?_, unlimited.trans ends.unlimited.symm, ?_⟩
    ⟨sensible, fits_of_none rfl, fits_of_none rfl, by rw [unlimited, Bool.and_false]; rfl,
      fun _ => rfl⟩
    plain (other.trans rfl)
  · intro count isCount
    cases bytesOut with
    | none => cases isCount
    | some bytes =>
        cases isCount
        exact bytesColumn_nonneg bytes
  · intro _ isAccepted
    obtain ⟨accepted, answer, isPolled, isStatus⟩ := polled isAccepted
    exact ⟨accepted, answer, isPolled, congrArg some isStatus⟩

theorem walks_rejectRequest {α : Type} {post : α → Held → RequestProgress → Prop}
    {status : StatusCode} {message : String}
    (serving : Serving history keyId seen (.evidence evidence) progress)
    (ends : EndsHere setting history seen status.code) :
    Walks setting (rejectRequest keyId status message) post (.evidence evidence)
      progress := by
  have label : LabelFits (some "upstream_request_rejected") := labelFits_some (by decide)
  obtain ⟨fits, unlimited⟩ := attemptFits_ended
    (.failed (some status.code) "upstream_request_rejected" none) ends rfl rfl rfl label
    (by decide) (fits_of_none rfl)
  have requestUnlimited : (RequestTerminal.rejected status.code
      "upstream_request_rejected").rateLimited = false := by
    simp [RequestTerminal.rateLimited, RequestTerminal.rejected, RequestTerminal.failed]
  refine walks_endRequest serving fits
    ⟨?_, label, fits_of_none rfl, ?_, fun succeeded => by cases succeeded⟩ rfl ?_
  · intro code isCode
    cases isCode
    exact ends.sensible
  · rw [requestUnlimited, unlimited, Bool.and_false]
  · rw [requestUnlimited]
    simp [Response.rateLimited, upstreamError, openaiError]

theorem labelFits_retryable (status : Nat) :
    LabelFits (some (retryableErrorClass status)) := by
  apply labelFits_some
  unfold retryableErrorClass
  split
  case isTrue => decide
  split
  case isTrue => decide
  split
  case isTrue => decide
  split
  case isTrue => decide
  split
  case isTrue => decide
  case isFalse => decide

theorem rateLimited_retryable (status : Nat) :
    (AttemptTerminal.failed (some status) (retryableErrorClass status) none).rateLimited =
      decide (status = 429) := by
  by_cases limited : status = 429
  case pos =>
      subst limited
      decide
  case neg => simp [AttemptTerminal.rateLimited, AttemptTerminal.failed, limited]

/-- The status the client asks of the mock provider in its first attempt. -/
structure Mocked (setting : Setting) (history : History) (status : Nat) : Prop where
  mocked : setting.mocked = some status
  first : history.keys.length = 1

theorem Mocked.rateLimits {status : Nat} (mocked : Mocked setting history status) :
    rateLimits setting history.keys.length .nothing = decide (status = 429) := by
  rw [NvidiaBuildLb.Gateway.rateLimits, mocked.mocked, mocked.first]
  simp

theorem mocked_failsOver {status : Nat} {flag : Bool}
    (mocked : Mocked setting history status) (sensible : 100 ≤ status ∧ status ≤ 599)
    (keys : locals.attempted = history.keys)
    (flagged : flag = (history.flag && decide (status = 429)))
    (kept : locals.allAttemptsRateLimited = flag) :
    FailsOver setting history keyId .nothing locals (some status)
      (retryableErrorClass status) flag where
  keys := keys
  sensible := by
    intro code isCode
    cases isCode
    exact ⟨sensible.1, .inl sensible.2⟩
  label := labelFits_retryable status
  limited := (rateLimited_retryable status).trans mocked.rateLimits.symm
  resumes := nofun
  whole := rfl
  flagged := by rw [mocked.rateLimits, flagged]
  kept := by
    rw [kept, flagged, Ending.keepsFlag, rateLimited_retryable, Bool.or_false]

theorem walks_mockRejection {status : Nat}
    (serving : Serving history keyId .nothing (.evidence evidence) progress)
    (mocked : Mocked setting history status) (inStep : InStep locals history) :
    Walks setting (mockRejection keyAttempts locals keyId status)
      (Again keyAttempts history) (.evidence evidence) progress := by
  unfold mockRejection
  by_cases denied : status = 401 ∨ status = 403
  case pos =>
      rw [if_pos denied]
      refine walks_retryAfterQuarantine serving (mocked_failsOver mocked (by omega)
        inStep.keys ?_ rfl)
      have other : status ≠ 429 := by omega
      simp [other]
  case neg =>
      rw [if_neg denied]
      by_cases failed : status = 429 ∨ status = 500
      case pos =>
          rw [if_pos failed]
          refine walks_retryAfterFailure serving (mocked_failsOver mocked (by omega)
            inStep.keys ?_ rfl)
          rw [Attempts.observeMock, inStep.flag]
      case neg =>
          rw [if_neg failed]
          refine Routine.wp_bind.mpr ((Routine.wp_update _).mpr ?_)
          refine walks_rejectRequest (serving.armed (openTerminalFits_untimed 0)) ⟨?_, ?_⟩
          · unfold StatusCode.fromU16
            split
            case isTrue valid => exact ⟨valid.1, .inr (.inr mocked.mocked)⟩
            case isFalse => exact ⟨by decide, .inl (by decide)⟩
          · rw [mocked.rateLimits]
            simp only [decide_eq_false_iff_not]
            omega

end Exits

end Proxy

end NvidiaBuildLb.Gateway
