import NvidiaBuildLb.Gateway.ProxyAttemptWalk

namespace NvidiaBuildLb.Gateway

open Foundation NvidiaBuildLb.Core

/-! An attempt of either handler keeps to the protocol. -/

namespace Proxy

section Settings

variable (representations : Representations) (host : Host) (call : ProxyCall)

def chatSetting : Setting where
  parse := representations.parse
  mocked := if startsWith host.upstreamUrl "mock://" then mockStatus call.request else none
  single := false
  stream := call.stream
  limit := chatResponseLimit

def multimodalSetting : Setting where
  parse := representations.parse
  mocked := if startsWith host.upstreamUrl "mock://" then call.mockStatusHeader else none
  single := isGeneration call.path
  stream := false
  limit := responseBodyLimit call.path

end Settings

/-- The attempt that has just begun is the last of the history. -/
structure Begun (locals : Attempts) (history : History) (keyId : Uuid) : Prop where
  inStep : InStep locals history
  last : ∃ earlier, history.keys = earlier ++ [keyId]

theorem Begun.alone {locals : Attempts} {keyId : Uuid}
    (begun : Begun locals history keyId) (first : locals.attempted.length = 1) :
    history.keys = [keyId] := by
  obtain ⟨earlier, isLast⟩ := begun.last
  rw [begun.inStep.keys, isLast, List.length_append] at first
  have empty : earlier = [] := List.length_eq_zero_iff.mp (by simpa using first)
  rw [isLast, empty]
  rfl

theorem Attempting.sees {keyId : Uuid} (change : Seen → Seen)
    {seen : Seen}
    (attempting : Attempting history keyId seen held progress) :
    Attempting history keyId (change seen) held (progress.see change) :=
  ⟨serving_seen change attempting.serving, attempting.fresh⟩

variable {held : Held} {progress : RequestProgress} {history : History} {keyId : Uuid}
  {seen : Seen} {keyAttempts : Nat} {locals : Attempts} {response : ProviderResponse}
  {policy : RuntimeRoutingPolicy} {representations : Representations} {host : Host}
  {call : ProxyCall} {credential : String}

theorem observe_answered (inStep : InStep locals history) :
    Answered history (locals.observe (some response.status.code)) response := by
  unfold Attempts.observe
  by_cases isLimit : response.status.code = 429
  case pos =>
      rw [if_pos (congrArg some isLimit)]
      exact ⟨inStep.keys, by simp [inStep.flag, isLimit]⟩
  case neg =>
      rw [if_neg fun same => isLimit (Option.some.inj same)]
      exact ⟨inStep.keys, by simp [Attempts.notAllRateLimited, isLimit]⟩

section Sending

variable {setting : Setting}

theorem walks_credential {post : Except Unit String → Held → RequestProgress → Prop}
    (attempting : Attempting history keyId .nothing held progress)
    (unreadable : ∀ progress, Attempting history keyId .unreadable held progress →
      post (.error ()) held progress)
    (readable : ∀ credential, post (.ok credential) held progress) :
    Walks setting (ask (.credential keyId)) post held progress := by
  have serving := attempting.serving
  refine walks_ask serving.owns
    (.sends _ keyId serving.stage serving.follows.unfailed (by simp)) fun answer _ => ?_
  cases answer with
  | ok credential => exact readable credential
  | error failure => exact unreadable _ (attempting.sees fun _ => .unreadable)

theorem walks_credentialUnavailable
    (attempting : Attempting history keyId .unreadable held progress)
    (inStep : InStep locals history) :
    Walks setting (credentialUnavailable keyAttempts locals keyId)
      (Again keyAttempts history) held progress := by
  obtain ⟨permitAcquired, rfl⟩ := attempting.fresh
  refine Routine.wp_bind.mpr ((Routine.wp_update _).mpr ?_)
  have armed := attempting.serving.armed (openTerminalFits_untimed 0)
  refine walks_retry armed inStep.keys
    (attemptFits_failed nofun (labelFits_some (by decide)) rfl) nofun rfl
    (readyToRetry_armed rfl) ?_ ?_
  · exact (Bool.and_false _).symm
  · exact (Bool.and_false _).symm

theorem walks_post {endpoint : String} {body : PostBody}
    {post : Except Unit ProviderResponse → Held → RequestProgress → Prop}
    (attempting : Attempting history keyId .nothing held progress)
    (answered : ∀ response progress,
      Attempting history keyId (.answered response (loadRoutingPolicy none)) held progress →
        post (.ok response) held progress)
    (unreachable : ∀ progress, Attempting history keyId .unreachable held progress →
      post (.error ()) held progress) :
    Walks setting (ask (.post keyId endpoint credential body)) post held progress := by
  have serving := attempting.serving
  refine walks_ask serving.owns
    (.sends _ keyId serving.stage serving.follows.unfailed (by simp)) fun answer _ => ?_
  cases answer with
  | ok response =>
      exact answered response _
        (attempting.sees fun _ => .answered response (loadRoutingPolicy none))
  | error failure => exact unreachable _ (attempting.sees fun _ => .unreachable)

theorem walks_unanswered (attempting : Attempting history keyId .unreachable held progress)
    (inStep : InStep locals history) :
    Walks setting (do
        let _ ← activePolicy host
        retryAfterFailure keyAttempts (locals.observe none) keyId none none
          "upstream_transport_error" false)
      (Again keyAttempts history) held progress := by
  obtain ⟨permitAcquired, rfl⟩ := attempting.fresh
  refine Routine.wp_bind.mpr (walks_activePolicy_unreachable attempting.serving ?_)
  intro policy progress serving
  exact walks_unreachable serving inStep.keys rfl

end Sending

theorem walks_chatPolled
    (attempting : Attempting history keyId (.answered response policy) held progress)
    (answered : Answered history locals response) (accepted : response.status.code = 202) :
    Walks (chatSetting representations host call)
      (chatPolled representations keyAttempts locals keyId credential response)
      (Again keyAttempts history) held progress := by
  obtain ⟨permitAcquired, rfl⟩ := attempting.fresh
  refine Routine.wp_bind.mpr (Routine.wp_mono (walks_pollNvcf attempting.serving) ?_)
  intro result held progress polls
  cases result with
  | none => exact walks_unpolled accepted polls
  | some answer =>
      obtain ⟨rfl, polled, _⟩ := polls
      have reading : Reading (chatSetting representations host call) history
          (.polled response answer) locals answer := reading_polled answered accepted
      exact walks_readBody polled reading fun bytes => walks_chatBody polled reading

theorem walks_chatStream
    (attempting : Attempting history keyId (.answered response policy) held progress)
    (answered : Answered history locals response)
    (success : response.status.isSuccess = true) (other : response.status.code ≠ 202)
    (streamed : call.stream = true) :
    Walks (chatSetting representations host call)
      (chatStream representations keyAttempts locals keyId response
        ((response.headers "content-type").getD "application/json"))
      (Again keyAttempts history) held progress := by
  obtain ⟨permitAcquired, rfl⟩ := attempting.fresh
  have serving := attempting.serving
  have unlimited : rateLimits (chatSetting representations host call) history.keys.length
      (.answered response policy) = false := by
    simp [rateLimits, success_not_limited success]
  have notAccepted : (Seen.answered response policy).accepted = false := by
    simp [Seen.accepted, other]
  have ordinary : response.status.code ≤ 599 := by
    rw [StatusCode.isSuccess, Bool.and_eq_true, decide_eq_true_eq, decide_eq_true_eq]
      at success
    omega
  have cleared : locals.allAttemptsRateLimited = false := by
    simp [answered.flag, success_not_limited success]
  have sensible : ∀ code, some response.status.code = some code →
      StatusFrom (chatSetting representations host call) (.answered response policy)
        code := by
    intro code isCode
    cases isCode
    exact ⟨response.status.valid.1, .inr (.inl rfl)⟩
  have noLimit : ∀ errorClass cooldown, errorClass ≠ "upstream_rate_limited" →
      (AttemptTerminal.failed (some response.status.code) errorClass cooldown).rateLimited =
        false := by
    intro errorClass cooldown isOther
    simp [AttemptTerminal.rateLimited, AttemptTerminal.failed, isOther]
  unfold chatStream
  by_cases eventStream : mediaTypeIs "text/event-stream"
      ((response.headers "content-type").getD "application/json") = true
  case neg =>
      rw [if_neg eventStream]
      refine walks_retryAfterFailure serving {
        keys := answered.keys
        sensible
        label := labelFits_some (by decide)
        limited := (noLimit _ _ (by decide)).trans unlimited.symm
        resumes := by simp [Resumes, notAccepted]
        whole := by simp [Seen.broken, eventStream]
        flagged := by rw [unlimited, Bool.and_false]
        kept := ?_ }
      rw [cleared, keepsFlag_of_status rfl, noLimit _ _ (by decide), Bool.and_false]
  case pos =>
      rw [if_pos eventStream]
      refine Routine.wp_bind.mpr ((Routine.wp_update _).mpr ?_)
      refine Routine.wp_bind.mpr (walks_prime serving.guarded ?_)
      cases primed : primeStream representations.parse response.events .initial [] with
      | ok stream =>
          obtain ⟨upstream, validator, pending⟩ := stream
          refine Routine.wp_bind.mpr (Routine.wp_mono
            (walks_commitStream (Streaming.begins serving unlimited notAccepted) ordinary) ?_)
          exact fun _ _ _ leaves => leaves
      | error failure =>
          refine Routine.wp_bind.mpr ((Routine.wp_update _).mpr ?_)
          refine Routine.wp_bind.mpr (walks_recordFailure
            (serving.guarded.mapDrop (fun _ => .evidenceFailure none 0) fun _ _ _ =>
              openTerminalFits_untimed 0) fun cooldown => ?_)
          refine Routine.wp_bind.mpr ((Routine.wp_update _).mpr ?_)
          have broken : (Seen.answered response policy).broken
              (chatSetting representations host call) = true := by
            simp only [Seen.broken, chatSetting]
            rw [streamed, success, eventStream, primed]
            rfl
          refine walks_retry serving answered.keys
            (attemptFits_failed sensible (labelFits_some (by decide))
              ((noLimit _ _ (by decide)).trans unlimited.symm))
            (by simp [Resumes, notAccepted]) rfl ?_ ?_ ?_
          · rw [ReadyToRetry, if_pos broken]
            rfl
          · rw [noLimit _ _ (by decide), Bool.and_false]
          · rw [cleared, keepsFlag_of_status rfl, noLimit _ _ (by decide), Bool.and_false]

theorem walks_chatAnswered
    (attempting : Attempting history keyId (.answered response policy) held progress)
    (answered : Answered history locals response) :
    Walks (chatSetting representations host call)
      (chatAnswered representations call keyAttempts locals keyId credential response policy)
      (Again keyAttempts history) held progress := by
  unfold chatAnswered
  by_cases polls : response.status.code = 202 ∧ call.stream = false ∧
      pollsFor call.profile = true
  case pos =>
      simp only [if_pos polls]
      exact walks_chatPolled attempting answered polls.1
  simp only [if_neg polls]
  by_cases accepted : response.status.code = 202
  case pos =>
      rw [if_pos accepted]
      obtain ⟨permitAcquired, rfl⟩ := attempting.fresh
      have label : LabelFits (some "upstream_protocol_error") := labelFits_some (by decide)
      have ends : EndsHere (chatSetting representations host call) history
          (.answered response policy) 202 :=
        ⟨⟨by decide, .inl (by decide)⟩, by simp [rateLimits, accepted]⟩
      obtain ⟨fits, unlimited⟩ := attemptFits_ended
        (.failed (some 202) "upstream_protocol_error" none) ends rfl rfl rfl label
        (by decide) (fits_of_none rfl)
      refine walks_endRequest attempting.serving fits (requestFits_unavailable (by decide)
        label ?_) rfl rfl
      rw [unlimited, Bool.and_false]
      rfl
  rw [if_neg accepted]
  cases success : response.status.isSuccess with
  | true =>
      rw [if_pos rfl]
      cases streamed : call.stream with
      | true => exact walks_chatStream attempting answered success accepted streamed
      | false =>
          obtain ⟨permitAcquired, rfl⟩ := attempting.fresh
          have reading : Reading (chatSetting representations host call) history
              (.answered response policy) locals response :=
            reading_answered answered success accepted streamed
          exact walks_readBody attempting.serving reading fun bytes =>
            walks_chatBody attempting.serving reading
  | false =>
      rw [if_neg Bool.false_ne_true]
      obtain ⟨permitAcquired, rfl⟩ := attempting.fresh
      cases moves : failsOver policy response.status.code with
      | true =>
          exact walks_providerFailover attempting.serving answered success moves
      | false =>
          exact walks_rejected attempting.serving moves "NVIDIA rejected the request"

theorem walks_chatProvider
    (attempting : Attempting history keyId .nothing held progress)
    (inStep : InStep locals history) :
    Walks (chatSetting representations host call)
      (chatProvider representations host call keyAttempts locals keyId credential)
      (Again keyAttempts history) held progress := by
  refine Routine.wp_bind.mpr (walks_post attempting ?_ ?_)
  · intro response progress answered
    refine Routine.wp_bind.mpr (walks_activePolicy answered.serving ?_)
    intro policy progress serving
    exact walks_chatAnswered ⟨serving, attempting.fresh⟩ (observe_answered inStep)
  · intro progress unanswered
    exact walks_unanswered unanswered inStep

theorem walks_injectedPostFrameFailure {setting : Setting} {kind : String}
    (attempting : Attempting history keyId (.injected kind) held progress) :
    Walks setting (injectedPostFrameFailure keyId) (Leaves setting) held progress := by
  obtain ⟨permitAcquired, rfl⟩ := attempting.fresh
  have serving := attempting.serving
  unfold injectedPostFrameFailure
  generalize sseErrorFrame "controlled QA failure after the first frame" = error
  generalize qaFixtureFrame = frame
  refine Routine.wp_bind.mpr (walks_attemptResponseStarted (by decide) serving ?_)
  have label : LabelFits (some "qa_injected_post_frame_failure") :=
    labelFits_some (by decide)
  have ends : EndsHere setting history (.injected kind) 200 :=
    ⟨⟨by decide, .inl (by decide)⟩, rfl⟩
  obtain ⟨fits, unlimited⟩ := attemptFits_ended
    ((AttemptTerminal.failed (some 200) "qa_injected_post_frame_failure" none).withBytesOut
      (min (frame.length + error.length) usizeMax)) ends rfl rfl rfl label
    (by decide) (fun count isCount => by cases isCount; exact bytesColumn_nonneg _)
  have requestFits : RequestFits setting history (.injected kind)
      ((AttemptTerminal.failed (some 200) "qa_injected_post_frame_failure"
        none).withBytesOut (min (frame.length + error.length) usizeMax))
      ((RequestTerminal.failed 502 "qa_injected_post_frame_failure").withTtfb
        (some 0)) := {
    status := by
      intro code isCode
      cases isCode
      exact ⟨by decide, .inl (by decide)⟩
    label := label
    ttfb := by
      intro elapsed isElapsed
      cases isElapsed
      decide
    rateLimited := by
      rw [unlimited, Bool.and_false]
      rfl
    succeeds := nofun }
  refine Routine.wp_bind.mpr (walks_finishWithAttempt serving (serving.closing fits)
    (serving.closingRequest requestFits) ?_)
  intro held progress settled
  refine (Routine.wp_pure _).mpr ?_
  exact leaves_settled rfl rfl settled

/-- What a fixture makes of an attempt: nothing, or what leads to the next
one. -/
def AfterFixture (keyAttempts : Nat) (history : History) (keyId : Uuid)
    (injected : Option (Routine.Flow Attempts)) (held : Held)
    (progress : RequestProgress) : Prop :=
  match injected with
  | none => Attempting history keyId .nothing held progress
  | some flow => Again keyAttempts history flow held progress

theorem walks_injected {kind : String}
    (attempting : Attempting history keyId (.injected kind) held progress)
    (inStep : InStep locals history) :
    Walks (chatSetting representations host call) (do
        if kind = "before_first_frame" then
          return some (← retryAfterFailure keyAttempts locals keyId
            (some (Duration.seconds 2)) none "qa_injected_transport_failure" false)
        else if kind = "after_first_frame" then
          if call.stream then
            Routine.leave (← injectedPostFrameFailure keyId)
          else
            fail .internalServerError "qa_fixture_contract_error"
            Routine.leave (openaiError .internalServerError
              "QA post-frame fixture requires streaming" "server_error"
              "qa_fixture_contract_error")
        else
          Routine.leave (openaiError .internalServerError
            "Unknown QA failure fixture" "server_error"
            "qa_fixture_contract_error"))
      (AfterFixture keyAttempts history keyId) held progress := by
  by_cases before : kind = "before_first_frame"
  case pos =>
      rw [if_pos before]
      obtain ⟨permitAcquired, rfl⟩ := attempting.fresh
      refine Routine.wp_bind.mpr (Routine.wp_mono (walks_retryAfterFailure attempting.serving {
        keys := inStep.keys
        sensible := fits_of_none rfl
        label := labelFits_some (by decide)
        limited := rfl
        resumes := fun accepted => by cases accepted
        whole := rfl
        flagged := (Bool.and_false _).symm
        kept := ?_ }) ?_)
      · rw [inStep.flag, Ending.keepsFlag, Bool.or_true, Bool.and_true]
      · exact fun _ _ _ again => again
  rw [if_neg before]
  by_cases after : kind = "after_first_frame"
  case neg =>
      rw [if_neg after]
      refine (Routine.wp_leave _).mpr ?_
      exact leaves_serving rfl rfl attempting.serving
  rw [if_pos after]
  cases streamed : call.stream with
  | true =>
      refine Routine.wp_bind.mpr (Routine.wp_mono
        (walks_injectedPostFrameFailure attempting) ?_)
      exact fun _ _ _ leaves => leaves
  | false =>
      obtain ⟨permitAcquired, rfl⟩ := attempting.fresh
      have serving := attempting.serving
      refine Routine.wp_bind.mpr (walks_finish serving.opened (fits_of_none rfl)
        serving.follows.unfailed ?_ (by simp [serving.stage]) (.unsuited _ keyId (after ▸ serving.stage)
          serving.follows.unfailed streamed rfl) ?_)
      · intro request closed
        cases serving.stage.symm.trans closed
      · intro held progress settled
        refine (Routine.wp_leave _).mpr ?_
        exact leaves_settled rfl rfl settled

theorem walks_qaFixture
    (attempting : Attempting history keyId .nothing held progress)
    (begun : Begun locals history keyId) (first : locals.attempted.length = 1) :
    Walks (chatSetting representations host call)
      (qaFixture host call keyAttempts locals keyId)
      (AfterFixture keyAttempts history keyId) held progress := by
  unfold qaFixture
  cases consumes : host.database && call.downstreamCredentialId.isSome with
  | false => exact attempting
  | true =>
      have serving := attempting.serving
      have alone : progress.keys = [keyId] := serving.follows.keys.trans (begun.alone first)
      refine Routine.wp_bind.mpr (walks_ask serving.owns
        (.sends _ keyId serving.stage serving.follows.unfailed (by simp [alone]))
        fun answer _ => ?_)
      refine Routine.wp_bind.mpr ?_
      cases answer with
      | error failure =>
          exact walks_orElse nofun fun _ => leaves_serving rfl rfl attempting.serving
      | ok answer =>
          cases answer with
          | none => exact attempting
          | some kind => exact walks_injected (attempting.sees fun _ => .injected kind) begun.inStep

theorem unlimited_mock {setting : Setting} {status : Option Nat} {firstAttempt : Bool}
    (mocked : setting.mocked = status)
    (first : firstAttempt = decide (history.keys.length = 1))
    (unasked : (if firstAttempt then status else none) = none) :
    rateLimits setting history.keys.length .nothing = false := by
  rw [rateLimits, mocked]
  by_cases alone : history.keys.length = 1
  case pos =>
      rw [first, if_pos (decide_eq_true alone)] at unasked
      simp [unasked]
  case neg => simp [alone]

theorem mocked_asked {setting : Setting} {asked : Option Nat} {status : Nat}
    {firstAttempt : Bool} (mocked : setting.mocked = asked)
    (first : firstAttempt = decide (history.keys.length = 1))
    (isAsked : (if firstAttempt then asked else none) = some status) :
    Mocked setting history status := by
  by_cases alone : history.keys.length = 1
  case pos =>
      rw [first, if_pos (decide_eq_true alone)] at isAsked
      exact ⟨mocked.trans isAsked, alone⟩
  case neg =>
      rw [first, if_neg (by simpa using alone)] at isAsked
      cases isAsked

theorem labelFits_mockFailure (call : ProxyCall) :
    LabelFits (some (mockFailureClass call)) := by
  apply labelFits_some
  unfold mockFailureClass
  split
  case isTrue =>
      split
      case isTrue => decide
      case isFalse => decide
  case isFalse => decide

theorem walks_chatMock {firstAttempt : Bool}
    (attempting : Attempting history keyId .nothing held progress)
    (begun : Begun locals history keyId)
    (first : firstAttempt = decide (locals.attempted.length = 1))
    (mocks : startsWith host.upstreamUrl "mock://" = true) :
    Walks (chatSetting representations host call)
      (chatMock representations call keyAttempts locals keyId firstAttempt credential)
      (Again keyAttempts history) held progress := by
  obtain ⟨permitAcquired, rfl⟩ := attempting.fresh
  have serving := attempting.serving
  have mocked : (chatSetting representations host call).mocked = mockStatus call.request :=
    if_pos mocks
  rw [begun.inStep.keys] at first
  unfold chatMock
  cases asked : (if firstAttempt then mockStatus call.request else none) with
  | some status =>
      exact walks_mockRejection serving (mocked_asked mocked first asked) begun.inStep
  | none =>
      have unlimited := unlimited_mock mocked first asked
      simp only []
      by_cases invalid : (firstAttempt &&
          mockResponseKind call.request = some "invalid_json") = true
      case pos =>
          rw [if_pos invalid]
          exact walks_failAttempt serving ⟨⟨by decide, .inl (by decide)⟩, unlimited⟩
            (labelFits_some (by decide)) (by decide)
      rw [if_neg invalid]
      split
      case isTrue =>
          exact walks_retryAfterFailure serving (failsOver_plain begun.inStep.keys rfl
            unlimited nofun rfl rfl (labelFits_mockFailure call))
      case isFalse =>
          split
          case isTrue =>
              refine Routine.wp_bind.mpr (Routine.wp_mono
                (walks_mockStreamResponse serving unlimited rfl) ?_)
              exact fun _ _ _ leaves => leaves
          case isFalse =>
              exact walks_succeedAttempt serving ⟨⟨by decide, .inl (by decide)⟩, unlimited⟩
                nofun rfl rfl

theorem walks_chatSent (injected : Option (Routine.Flow Attempts))
    (after : AfterFixture keyAttempts history keyId injected held progress)
    (begun : Begun locals history keyId) :
    Walks (chatSetting representations host call)
      (match injected with
        | some flow => pure flow
        | none => do
            match ← ask (.credential keyId) with
            | .error () => credentialUnavailable keyAttempts locals keyId
            | .ok credential =>
                if startsWith host.upstreamUrl "mock://" then
                  chatMock representations call keyAttempts locals keyId
                    (decide (locals.attempted.length = 1)) credential
                else
                  chatProvider representations host call keyAttempts locals keyId
                    credential)
      (Again keyAttempts history) held progress := by
  cases injected with
  | some flow => exact after
  | none =>
      refine Routine.wp_bind.mpr (walks_credential after ?_ ?_)
      · intro progress unreadable
        exact walks_credentialUnavailable unreadable begun.inStep
      · intro credential
        cases mocks : startsWith host.upstreamUrl "mock://" with
        | true => exact walks_chatMock after begun rfl mocks
        | false => exact walks_chatProvider after begun.inStep

theorem walks_chatAttempt (attempting : Attempting history keyId .nothing held progress)
    (begun : Begun locals history keyId) :
    Walks (chatSetting representations host call)
      (chatAttempt representations host call keyAttempts locals keyId)
      (Again keyAttempts history) held progress := by
  unfold chatAttempt
  by_cases first : locals.attempted.length = 1
  case pos =>
      simp only [decide_eq_true first, if_true]
      refine Routine.wp_bind.mpr (Routine.wp_mono (walks_qaFixture attempting begun first) ?_)
      intro injected held progress after
      have sent : Walks (chatSetting representations host call) _
          (Again keyAttempts history) held progress :=
        walks_chatSent injected after begun
      rw [decide_eq_true first] at sent
      exact sent
  case neg =>
      simp only [decide_eq_false first, Bool.false_eq_true, if_false]
      have sent : Walks (chatSetting representations host call) _
          (Again keyAttempts history) held progress :=
        walks_chatSent none attempting begun
      rw [decide_eq_false first] at sent
      exact sent

theorem walks_multimodalMock {firstAttempt : Bool}
    (attempting : Attempting history keyId .nothing held progress)
    (begun : Begun locals history keyId)
    (first : firstAttempt = decide (locals.attempted.length = 1))
    (mocks : startsWith host.upstreamUrl "mock://" = true) :
    Walks (multimodalSetting representations host call)
      (multimodalMock representations call keyAttempts locals keyId firstAttempt)
      (Again keyAttempts history) held progress := by
  obtain ⟨permitAcquired, rfl⟩ := attempting.fresh
  have serving := attempting.serving
  have mocked : (multimodalSetting representations host call).mocked =
      call.mockStatusHeader :=
    if_pos mocks
  rw [begun.inStep.keys] at first
  unfold multimodalMock
  cases asked : (if firstAttempt then call.mockStatusHeader else none) with
  | some status =>
      exact walks_mockRejection serving (mocked_asked mocked first asked) begun.inStep
  | none =>
      have unlimited := unlimited_mock mocked first asked
      refine Routine.wp_bind.mpr ((Routine.wp_update _).mpr ?_)
      have armed := serving.armed (openTerminalFits_untimed 0)
      refine Routine.wp_bind.mpr (walks_recordRequest armed ?_)
      generalize (if call.mockInvalidResponse then _ else _ : Bytes × String) = answer
      obtain ⟨body, contentType⟩ := answer
      simp only []
      cases representations.normalizeModalityResponse call.path body contentType with
      | none =>
          have label : LabelFits (some "mock_contract_invalid") :=
            labelFits_some (by decide)
          have ends : EndsHere (multimodalSetting representations host call) history
              .nothing 502 :=
            ⟨⟨by decide, .inl (by decide)⟩, unlimited⟩
          obtain ⟨fits, attemptUnlimited⟩ := attemptFits_ended
            (.failed (some 502) "mock_contract_invalid" none) ends rfl rfl rfl label
            (by decide) nofun
          refine walks_endRequest armed fits (requestFits_unavailable (by decide) label ?_)
            rfl rfl
          rw [attemptUnlimited, Bool.and_false]
          rfl
      | some normalized =>
          obtain ⟨bytes, normalizedType⟩ := normalized
          have sensible : ∀ code, some 200 = some code →
              StatusFrom (multimodalSetting representations host call) .nothing code := by
            intro code isCode
            cases isCode
            exact ⟨by decide, .inl (by decide)⟩
          refine walks_endRequest armed ⟨sensible, nofun, ?_, unlimited.symm, nofun⟩
            ⟨sensible, nofun, nofun, (Bool.and_false _).symm, fun _ => rfl⟩ rfl rfl
          intro count isCount
          cases isCount
          exact bytesColumn_nonneg _

theorem walks_multimodalAnswered
    (attempting : Attempting history keyId (.answered response policy) held progress)
    (answered : Answered history locals response) :
    Walks (multimodalSetting representations host call)
      (multimodalAnswered representations call keyAttempts locals keyId credential response
        policy) (Again keyAttempts history) held progress := by
  obtain ⟨permitAcquired, rfl⟩ := attempting.fresh
  unfold multimodalAnswered
  cases success : response.status.isSuccess with
  | true =>
      simp only [if_true]
      by_cases accepted : response.status.code = 202
      case pos =>
          rw [if_pos accepted]
          refine Routine.wp_bind.mpr (Routine.wp_mono (walks_pollNvcf attempting.serving) ?_)
          intro result held progress polls
          cases result with
          | none => exact walks_unpolled accepted polls
          | some answer =>
              obtain ⟨rfl, polled, _⟩ := polls
              exact walks_multimodalRead polled (reading_polled answered accepted) rfl
      case neg =>
          rw [if_neg accepted]
          exact walks_multimodalRead attempting.serving
            (reading_answered answered success accepted rfl) rfl
  | false =>
      simp only [Bool.false_eq_true, if_false]
      cases moves : failsOver policy response.status.code with
      | true => exact walks_providerFailover attempting.serving answered success moves
      | false => exact walks_rejected attempting.serving moves "NVIDIA rejected the request"

theorem walks_multimodalAttempt
    (attempting : Attempting history keyId .nothing held progress)
    (begun : Begun locals history keyId) :
    Walks (multimodalSetting representations host call)
      (multimodalAttempt representations host call keyAttempts locals keyId)
      (Again keyAttempts history) held progress := by
  refine Routine.wp_bind.mpr (walks_credential attempting ?_ ?_)
  · intro progress unreadable
    exact walks_credentialUnavailable unreadable begun.inStep
  · intro credential
    cases mocks : startsWith host.upstreamUrl "mock://" with
    | true => exact walks_multimodalMock attempting begun rfl mocks
    | false =>
        refine Routine.wp_bind.mpr (walks_post attempting ?_ ?_)
        · intro response progress answered
          refine Routine.wp_bind.mpr (walks_activePolicy answered.serving ?_)
          intro policy progress serving
          exact walks_multimodalAnswered ⟨serving, attempting.fresh⟩
            (observe_answered begun.inStep)
        · intro progress unanswered
          exact walks_unanswered unanswered begun.inStep

end Proxy

end NvidiaBuildLb.Gateway
