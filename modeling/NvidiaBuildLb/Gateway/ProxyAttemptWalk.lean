import NvidiaBuildLb.Gateway.ProxyWalk

namespace NvidiaBuildLb.Gateway

open Foundation NvidiaBuildLb.Core

/-! What a provider's answer makes of an attempt. -/

/-- The answer whose body is read, of a provider that succeeded. -/
structure Reading (setting : Setting) (history : History) (seen : Seen)
    (locals : Attempts) (response : ProviderResponse) : Prop where
  keys : locals.attempted = history.keys
  cleared : locals.allAttemptsRateLimited = false
  status : seen.status = some response.status.code
  unlimited : rateLimits setting history.keys.length seen = false
  whole : seen.broken setting = false
  polled : seen.accepted = true → ∃ accepted, seen = .polled accepted response

/-- The answer to a post, under the policy of that time. -/
structure Answered (history : History) (locals : Attempts) (response : ProviderResponse) :
    Prop where
  keys : locals.attempted = history.keys
  flag : locals.allAttemptsRateLimited =
    (history.flag && decide (response.status.code = 429))

theorem Reading.endsHere {setting : Setting}
    (reading : Reading setting history seen locals response) :
    Proxy.EndsHere setting history seen response.status.code :=
  ⟨⟨response.status.valid.1, .inr (.inl reading.status)⟩, reading.unlimited⟩

namespace Proxy

variable {setting : Setting} {held : Held} {progress : RequestProgress}
  {history : History} {keyId : Uuid} {seen : Seen} {keyAttempts : Nat}
  {locals : Attempts} {evidence : RequestEvidence} {response : ProviderResponse}
  {policy : RuntimeRoutingPolicy}

theorem keepsFlag_of_status {terminal : AttemptTerminal} {status : Nat}
    (isStatus : seen.status = some status) :
    Ending.keepsFlag { keyId, seen, terminal } = terminal.rateLimited := by
  cases seen with
  | answered response policy => exact Bool.or_false _
  | polled accepted answer => exact Bool.or_false _
  | nothing => cases isStatus
  | injected kind => cases isStatus
  | unreadable => cases isStatus
  | unreachable => cases isStatus

theorem walks_readBody {next : Bytes → ProxyRoutine (Routine.Flow Attempts)}
    (serving : Serving history keyId seen (.evidence evidence) progress)
    (reading : Reading setting history seen locals response)
    (continues : ∀ bytes, Walks setting (next bytes) (Again keyAttempts history)
      (.evidence evidence) progress) :
    Walks setting (readBody keyAttempts locals keyId setting.limit response next)
      (Again keyAttempts history) (.evidence evidence) progress := by
  refine Routine.wp_bind.mpr (walks_serve serving
    (fun unfailed stage => .serves _ keyId seen stage unfailed (by simp))
    (fun _ => rfl) fun _ _ => ?_)
  cases read : boundedResponseBytes setting.limit response with
  | ok bytes => exact continues bytes
  | error failure =>
      cases failure with
      | tooLarge =>
          exact walks_failAttempt serving reading.endsHere (labelFits_some (by decide))
            (by decide)
      | transport =>
          refine walks_retryAfterFailure serving ?_
          refine {
            keys := reading.keys
            sensible := ?_
            label := labelFits_some (by decide)
            limited := ?_
            resumes := ?_
            whole := reading.whole
            flagged := by rw [reading.unlimited, Bool.and_false]
            kept := ?_ }
          · intro code isCode
            cases isCode
            exact reading.endsHere.sensible
          · rw [reading.unlimited]
            simp [AttemptTerminal.rateLimited, AttemptTerminal.failed]
          · intro isAccepted
            obtain ⟨accepted, isPolled⟩ := reading.polled isAccepted
            exact ⟨accepted, response, isPolled, read⟩
          · rw [keepsFlag_of_status reading.status, reading.cleared]
            simp [AttemptTerminal.rateLimited, AttemptTerminal.failed]

theorem walks_succeedReading {body : Response} {bytesOut : Nat}
    (serving : Serving history keyId seen (.evidence evidence) progress)
    (reading : Reading setting history seen locals response)
    (plain : body.isStream = false) (other : body.rateLimited = false) :
    Walks setting (succeedAttempt keyId response.status.code (some bytesOut) body)
      (Again keyAttempts history) (.evidence evidence) progress := by
  refine walks_succeedAttempt serving reading.endsHere ?_ plain other
  intro isAccepted
  obtain ⟨accepted, isPolled⟩ := reading.polled isAccepted
  exact ⟨accepted, response, isPolled, rfl⟩

theorem walks_chatBody {representations : Representations} {contentType : String}
    {bytes : Bytes} (serving : Serving history keyId seen (.evidence evidence) progress)
    (reading : Reading setting history seen locals response) :
    Walks setting (chatBody representations keyId response.status contentType bytes)
      (Again keyAttempts history) (.evidence evidence) progress := by
  unfold chatBody
  cases representations.validateChatResponse bytes with
  | true => exact walks_succeedReading serving reading rfl rfl
  | false =>
      exact walks_failAttempt serving reading.endsHere (labelFits_some (by decide))
        (by decide)

theorem walks_multimodalRead {representations : Representations} {call : ProxyCall}
    (serving : Serving history keyId seen (.evidence evidence) progress)
    (reading : Reading setting history seen locals response)
    (limit : setting.limit = responseBodyLimit call.path) :
    Walks setting (multimodalRead representations call keyAttempts locals keyId response)
      (Again keyAttempts history) (.evidence evidence) progress := by
  unfold multimodalRead
  rw [← limit]
  refine walks_readBody serving reading ?_
  intro bytes
  cases representations.normalizeModalityResponse call.path bytes
      ((response.headers "content-type").getD "application/json") with
  | none =>
      exact walks_failAttempt serving reading.endsHere (labelFits_some (by decide))
        (by decide)
  | some normalized => exact walks_succeedReading serving reading rfl rfl

theorem walks_providerFailover
    (serving : Serving history keyId (.answered response policy) (.evidence evidence)
      progress)
    (answered : Answered history locals response)
    (fails : response.status.isSuccess = false)
    (moves : failsOver policy response.status.code = true) :
    Walks setting (providerFailover keyAttempts locals keyId policy response)
      (Again keyAttempts history) (.evidence evidence) progress := by
  have limited : rateLimits setting history.keys.length (.answered response policy) =
      decide (response.status.code = 429) := by
    by_cases isLimit : response.status.code = 429
    case pos =>
        rw [failsOver, isLimit] at moves
        simpa [rateLimits, isLimit] using moves
    case neg => simp [rateLimits, isLimit]
  have failing : FailsOver setting history keyId (.answered response policy) locals
      (some response.status.code) (retryableErrorClass response.status.code)
      locals.allAttemptsRateLimited := {
    keys := answered.keys
    sensible := by
      intro code isCode
      cases isCode
      exact ⟨response.status.valid.1, .inr (.inl rfl)⟩
    label := labelFits_retryable _
    limited := (rateLimited_retryable _).trans limited.symm
    resumes := by
      intro isAccepted
      have isCode := of_decide_eq_true isAccepted
      rw [StatusCode.isSuccess, isCode] at fails
      cases fails
    whole := by simp [Seen.broken, fails]
    flagged := by rw [limited, answered.flag]
    kept := by
      rw [keepsFlag_of_status rfl, rateLimited_retryable]
      exact answered.flag }
  unfold providerFailover
  by_cases denied : response.status.code = 401 ∨ response.status.code = 403
  case pos =>
      simp only [if_pos denied]
      exact walks_retryAfterQuarantine serving failing
  case neg =>
      simp only [if_neg denied]
      exact walks_retryAfterFailure serving failing

theorem walks_rejected
    (serving : Serving history keyId (.answered response policy) (.evidence evidence)
      progress)
    (stays : failsOver policy response.status.code = false) (message : String) :
    Walks setting (rejectRequest keyId response.status message)
      (Again keyAttempts history) (.evidence evidence) progress := by
  refine walks_rejectRequest serving
    ⟨⟨response.status.valid.1, .inr (.inl rfl)⟩, ?_⟩
  by_cases isLimit : response.status.code = 429
  case pos =>
      rw [failsOver, isLimit] at stays
      simpa [rateLimits, isLimit] using stays
  case neg => simp [rateLimits, isLimit]

/-- What is known of the attempt after polling: with an answer, that it is the
one polled. -/
def Polls (history : History) (keyId : Uuid) (accepted : ProviderResponse)
    (policy : RuntimeRoutingPolicy) (owned : Held) (result : Option ProviderResponse)
    (held : Held) (progress : RequestProgress) : Prop :=
  held = owned ∧
    match result with
    | some answer => Serving history keyId (.polled accepted answer) held progress ∧
        answer.status.isSuccess = true
    | none => Serving history keyId (.answered accepted policy) held progress ∨
        ∃ answer, Serving history keyId (.polled accepted answer) held progress

theorem serving_seen (change : Seen → Seen)
    (serving : Serving history keyId seen held progress) :
    Serving history keyId (change seen) held (progress.see change) := by
  have changed : progress.see change =
      { progress with stage := .attempting keyId (change seen) } := by
    rw [RequestProgress.see, serving.stage]
  rw [changed]
  exact ⟨⟨serving.opened.owner, serving.opened.guard, serving.opened.fits⟩, rfl,
    ⟨serving.follows.unfailed, serving.follows.keys, serving.follows.listed,
      serving.follows.flag, serving.follows.unrefused⟩⟩

theorem walks_pollRound {endpoint credential : String}
    (serving : Serving history keyId (.answered response policy) held progress) :
    Walks setting (pollRound endpoint credential)
      (fun flow after progress =>
        match flow with
        | .again locals => locals = none ∧ after = held ∧
            Serving history keyId (.answered response policy) after progress
        | .stop result => Polls history keyId response policy held result after progress)
      held progress := by
  refine Routine.wp_bind.mpr (walks_ask serving.owns
    (.serves _ keyId _ serving.stage serving.follows.unfailed (by simp)) fun answer _ => ?_)
  cases answer with
  | error failure => exact ⟨rfl, .inl serving⟩
  | ok answer =>
      by_cases pending : answer.status.code = 202
      case pos =>
          simp only [RequestProgress.after, if_pos pending]
          exact ⟨rfl, rfl, serving⟩
      case neg =>
          simp only [RequestProgress.after, if_neg pending]
          have polled : Serving history keyId (.polled response answer) held
              (progress.see (Seen.poll answer)) :=
            serving_seen (Seen.poll answer) serving
          split
          case isTrue good =>
              refine ⟨rfl, polled, ?_⟩
              rw [Bool.and_eq_true] at good
              exact good.1
          case isFalse => exact ⟨rfl, .inr ⟨answer, polled⟩⟩

theorem walks_pollNvcf {credential : String}
    (serving : Serving history keyId (.answered response policy) held progress) :
    Walks setting (pollNvcf credential response)
      (Polls history keyId response policy held) held progress := by
  unfold pollNvcf
  cases pollTarget response with
  | none => exact ⟨rfl, .inl serving⟩
  | some endpoint =>
      refine Routine.wp_rounds (fun _ locals after progress => locals = none ∧
        after = held ∧ Serving history keyId (.answered response policy) after progress)
        ?_ ?_ pollRounds ⟨rfl, rfl, serving⟩
      · rintro rounds locals after now ⟨rfl, rfl, polling⟩
        have serve : ∀ {op : ProxyOp} {post : op.Answer → Held → RequestProgress → Prop},
            op = .pollDeadlinePassed ∨ op = .sleep →
            (∀ answer, now.after op answer = now) →
            (∀ answer, post answer after now) →
            Walks setting (ask op) post after now := by
          intro op post isOp calm next
          refine walks_serve polling (fun unfailed stage => .serves _ keyId _ stage unfailed ?_)
            calm fun answer _ => next answer
          rcases isOp with rfl | rfl <;> simp
        refine Routine.wp_bind.mpr (serve (.inl rfl) (fun _ => rfl) fun passed => ?_)
        cases passed with
        | true => exact ⟨rfl, .inl polling⟩
        | false =>
            refine Routine.wp_bind.mpr (serve (.inr rfl) (fun _ => rfl) fun _ => ?_)
            refine Routine.wp_bind.mpr (serve (.inl rfl) (fun _ => rfl) fun passed => ?_)
            cases passed with
            | true => exact ⟨rfl, .inl polling⟩
            | false =>
                refine Routine.wp_mono (walks_pollRound polling) ?_
                intro flow after now ended
                cases flow <;> exact ended
      · rintro locals after now ⟨rfl, rfl, polling⟩
        exact ⟨rfl, .inl polling⟩

theorem success_not_limited (success : response.status.isSuccess = true) :
    response.status.code ≠ 429 := by
  intro isLimit
  rw [StatusCode.isSuccess, isLimit] at success
  cases success

theorem reading_answered (answered : Answered history locals response)
    (success : response.status.isSuccess = true) (other : response.status.code ≠ 202)
    (plain : setting.stream = false) :
    Reading setting history (.answered response policy) locals response where
  keys := answered.keys
  cleared := by simp [answered.flag, success_not_limited success]
  status := rfl
  unlimited := by simp [rateLimits, success_not_limited success]
  whole := by simp [Seen.broken, plain]
  polled := by simp [Seen.accepted, other]

theorem reading_polled {answer : ProviderResponse}
    (answered : Answered history locals response) (accepted : response.status.code = 202) :
    Reading setting history (.polled response answer) locals answer where
  keys := answered.keys
  cleared := by simp [answered.flag, accepted]
  status := rfl
  unlimited := rfl
  whole := rfl
  polled := fun _ => ⟨response, rfl⟩

theorem walks_unpolled {α : Type} {post : α → Held → RequestProgress → Prop}
    {message : String} (accepted : response.status.code = 202)
    (unpolled : Polls history keyId response policy (.evidence evidence) none held
      progress) :
    Walks setting (failAttempt keyId none 202 "upstream_poll_error" message) post held
      progress := by
  have label : LabelFits (some "upstream_poll_error") := labelFits_some (by decide)
  have sensible : ∀ seen, StatusFrom setting seen 202 :=
    fun _ => ⟨by decide, .inl (by decide)⟩
  obtain ⟨rfl, serving | ⟨answer, serving⟩⟩ := unpolled
  · refine walks_failAttempt serving ⟨sensible _, ?_⟩ label (by decide)
    simp [rateLimits, accepted]
  · exact walks_failAttempt serving ⟨sensible _, rfl⟩ label (by decide)

theorem walks_activePolicy {host : Host}
    {post : RuntimeRoutingPolicy → Held → RequestProgress → Prop}
    (serving : Serving history keyId (.answered response (loadRoutingPolicy none)) held
      progress)
    (next : ∀ policy progress,
      Serving history keyId (.answered response policy) held progress →
        post policy held progress) :
    Walks setting (activePolicy host) post held progress := by
  unfold activePolicy
  cases host.database with
  | false => exact next _ _ serving
  | true =>
      refine Routine.wp_bind.mpr (walks_ask serving.owns
        (.serves _ keyId _ serving.stage serving.follows.unfailed (by simp))
        fun rows _ => ?_)
      exact next _ _ (serving_seen (Seen.governed rows) serving)

theorem walks_activePolicy_unreachable {host : Host}
    {post : RuntimeRoutingPolicy → Held → RequestProgress → Prop}
    (serving : Serving history keyId .unreachable held progress)
    (next : ∀ policy progress, Serving history keyId .unreachable held progress →
      post policy held progress) :
    Walks setting (activePolicy host) post held progress := by
  unfold activePolicy
  cases host.database with
  | false => exact next _ _ serving
  | true =>
      refine Routine.wp_bind.mpr (walks_ask serving.owns
        (.serves _ keyId _ serving.stage serving.follows.unfailed (by simp))
        fun rows _ => ?_)
      exact next _ _ (serving_seen (Seen.governed rows) serving)

theorem failsOver_plain {errorClass : String} (keys : locals.attempted = history.keys)
    (cleared : locals.allAttemptsRateLimited = false)
    (unlimited : rateLimits setting history.keys.length seen = false)
    (natural : ∀ kind, seen ≠ .injected kind) (whole : seen.broken setting = false)
    (notAccepted : seen.accepted = false) (label : LabelFits (some errorClass)) :
    FailsOver setting history keyId seen locals none errorClass false where
  keys := keys
  sensible := nofun
  label := label
  limited := unlimited.symm
  resumes := by simp [Resumes, notAccepted]
  whole := whole
  flagged := by rw [unlimited, Bool.and_false]
  kept := by
    rw [cleared]
    cases seen with
    | injected kind => exact absurd rfl (natural kind)
    | nothing => exact (Bool.and_false _).symm
    | unreadable => exact (Bool.and_false _).symm
    | unreachable => exact (Bool.and_false _).symm
    | answered response policy => exact (Bool.and_false _).symm
    | polled accepted answer => exact (Bool.and_false _).symm

theorem walks_unreachable
    (serving : Serving history keyId .unreachable (.evidence evidence) progress)
    (keys : locals.attempted = history.keys)
    (cleared : locals.allAttemptsRateLimited = false) :
    Walks setting (retryAfterFailure keyAttempts locals keyId none none
      "upstream_transport_error" false) (Again keyAttempts history)
      (.evidence evidence) progress :=
  walks_retryAfterFailure serving
    (failsOver_plain keys cleared rfl nofun rfl rfl (labelFits_some (by decide)))

end Proxy

end NvidiaBuildLb.Gateway
