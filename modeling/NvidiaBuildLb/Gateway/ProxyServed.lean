import NvidiaBuildLb.Gateway.ProxyHandlersWalk

namespace NvidiaBuildLb.Gateway

open Foundation NvidiaBuildLb.Core

/-! A request keeps to the protocol from its admission to the end of its
answer. -/

def Attempts.begin (locals : Attempts) (keyId : Uuid) : Attempts :=
  { locals with
    attempted := locals.attempted ++ [keyId]
    nextKeyId := none }

namespace Proxy

/-- The keys a handler tries at most, by what it listed. -/
def Allows (setting : Setting) (listed : Option Nat) (keyAttempts : Nat) : Prop :=
  if setting.single then keyAttempts = 1
  else ∃ count, listed = some count ∧ keyAttempts = max count 1

/-- Before the first round its attempt has begun, and before a later one it is
due. -/
def Head (keyAttempts : Nat) (firstKeyId : Uuid) (listed : Option Nat) (rounds : Nat)
    (locals : Attempts) (held : Held) (progress : RequestProgress) : Prop :=
  rounds + locals.attempted.length = keyAttempts ∧
    ((locals = .initial ∧
      Attempting ⟨[firstKeyId], listed, true⟩ firstKeyId .nothing held progress) ∨
    (locals.attempted ≠ [] ∧ Pending keyAttempts listed locals held progress))

variable {setting : Setting} {held : Held} {progress : RequestProgress}
  {history : History} {keyId firstKeyId : Uuid} {keyAttempts rounds : Nat}
  {locals : Attempts} {listed : Option Nat} {host : Host} {call : ProxyCall}

theorem walks_attemptStarted {post : Unit → Held → RequestProgress → Prop}
    (opened : Open held progress) (unfailed : progress.failed = none)
    (unclosed : ∀ request, progress.stage ≠ .closed request)
    (due : Due setting progress (.attemptStarted keyId))
    (next : post () held (progress.begin keyId)) :
    Walks setting (attemptStarted keyId) post held progress := by
  refine Routine.wp_bind.mpr (walks_ask (opened.owns unfailed) due fun answer _ => ?_)
  cases answer with
  | ok value => exact next
  | error failure =>
      have still : Open held { progress with refused := true } :=
        ⟨opened.owner, opened.guard, opened.fits⟩
      refine walks_orElse nofun fun _ => leaves_of_answers rfl
        ⟨still.owns unfailed, iff_of_false nofun ?_, fun _ => rfl⟩
      rintro ⟨request, closed, _⟩
      exact unclosed request closed

structure Round (keyAttempts : Nat) (listed : Option Nat) (rounds : Nat)
    (locals : Attempts) (keyId : Uuid) (held : Held) (progress : RequestProgress) :
    Prop where
  attempts : rounds + (locals.begin keyId).attempted.length = keyAttempts
  attempting : ∃ history, history.listed = listed ∧
    Attempting history keyId .nothing held progress ∧
    Begun (locals.begin keyId) history keyId

theorem walks_beginAttempt (allows : Allows setting listed keyAttempts)
    (head : Head keyAttempts firstKeyId listed (rounds + 1) locals held progress) :
    Walks setting (beginAttempt firstKeyId locals)
      (fun selected held progress => ∃ keyId, selected = some keyId ∧
        Round keyAttempts listed rounds locals keyId held progress) held progress := by
  obtain ⟨count, ⟨rfl, attempting⟩ | ⟨several, again⟩⟩ := head
  · refine ⟨firstKeyId, rfl, ?_, _, rfl, attempting, ⟨rfl, rfl⟩, [], rfl⟩
    simpa [Attempts.begin, Attempts.initial] using count
  · obtain ⟨nextKeyId, isNext, retries⟩ := again
    obtain ⟨permitAcquired, rfl⟩ := retries.fresh
    have between := retries.between
    have room : locals.attempted.length < keyAttempts := of_decide_eq_true retries.allowed
    have isLater : locals.attempted.isEmpty = false := by simpa using several
    have isUnused : locals.attempted.contains nextKeyId = false := by
      simpa using retries.unused
    have due : Due setting progress (.attemptStarted nextKeyId) := by
      have attempted : 0 < locals.attempted.length := List.length_pos_iff.mpr several
      unfold Allows at allows
      cases single : setting.single with
      | true =>
          rw [if_pos single] at allows
          omega
      | false =>
          rw [if_neg (by simp [single])] at allows
          obtain ⟨listing, isListed, limit⟩ := allows
          refine .another nextKeyId between.stage between.follows.unrefused ?_ single ?_
          · rw [between.follows.keys]
            exact retries.unused
          · rw [between.follows.keys, between.follows.listed, isListed]
            simpa [max_comm, limit] using room
    unfold beginAttempt
    simp only [isLater, isNext, Bool.false_eq_true, if_false, pure_bind, Option.filter,
      isUnused, Bool.not_false, if_true]
    refine Routine.wp_bind.mpr (Routine.wp_bind.mpr ((Routine.wp_update _).mpr ?_))
    refine Routine.wp_bind.mpr (walks_attemptStarted (between.opened.armed (openTerminalFits_untimed 0))
      between.follows.unfailed ?_ due ?_)
    · intro request closed
      cases between.stage.symm.trans closed
    refine (Routine.wp_update _).mpr ?_
    have opened := (between.opened.armed (openTerminalFits_untimed 0)).armed
      openTerminalFits_handlerAbandoned
    refine ⟨nextKeyId, rfl, ?_,
      ⟨locals.attempted ++ [nextKeyId], listed, locals.allAttemptsRateLimited⟩, rfl,
      ⟨⟨⟨opened.owner, opened.guard, opened.fits⟩, rfl, ?_⟩, permitAcquired, rfl⟩, ⟨rfl, rfl⟩,
      locals.attempted, rfl⟩
    · simp only [Attempts.begin, List.length_append, List.length_singleton]
      omega
    · exact ⟨between.follows.unfailed, congrArg (· ++ [nextKeyId]) between.follows.keys,
        between.follows.listed, between.follows.flag, between.follows.unrefused⟩

theorem walks_attemptRounds
    {attempt : Attempts → Uuid → ProxyRoutine (Routine.Flow Attempts)}
    {post : Attempts → Held → RequestProgress → Prop}
    (allows : Allows setting listed keyAttempts)
    (serves : ∀ locals history keyId held progress,
      Attempting history keyId .nothing held progress → Begun locals history keyId →
        Walks setting (attempt locals keyId) (Again keyAttempts history) held
          progress)
    (attempting : Attempting ⟨[firstKeyId], listed, true⟩ firstKeyId .nothing held
      progress) :
    Walks setting (attemptRounds keyAttempts firstKeyId attempt) post held progress := by
  refine Routine.wp_rounds (Head keyAttempts firstKeyId listed) ?_ ?_ keyAttempts
    ⟨rfl, .inl ⟨rfl, attempting⟩⟩
  · intro rounds locals held progress head
    refine Routine.wp_bind.mpr (Routine.wp_mono (walks_beginAttempt allows head) ?_)
    rintro selected held progress ⟨keyId, rfl, round⟩
    obtain ⟨history, rfl, attempting, begun⟩ := round.attempting
    refine Routine.wp_mono (serves _ history keyId held progress attempting begun) ?_
    intro flow held progress again
    cases flow with
    | stop locals => exact again.elim
    | again next =>
        obtain ⟨sameKeys, pending⟩ := again
        rw [begun.inStep.keys.symm] at sameKeys
        refine ⟨by rw [sameKeys]; exact round.attempts, .inr ⟨?_, pending⟩⟩
        rw [sameKeys]
        simp [Attempts.begin]
  · rintro locals held progress ⟨count, ⟨rfl, _⟩ | ⟨_, nextKeyId, _, retries⟩⟩
    · have none_yet : (Attempts.initial.attempted).length = 0 := rfl
      unfold Allows at allows
      split at allows
      case isTrue => omega
      case isFalse =>
          obtain ⟨listing, _, limit⟩ := allows
          omega
    · have room : locals.attempted.length < keyAttempts := of_decide_eq_true retries.allowed
      omega

/-- The request has no row yet, and its permit has its guard. -/
structure Admitting (acquired : Bool) (held : Held) (progress : RequestProgress) :
    Prop where
  held : held = if acquired then .permit else .nothing
  progress : progress = { RequestProgress.initial with permit := acquired }

theorem Admitting.owns {acquired : Bool} (admitting : Admitting acquired held progress) :
    Owns setting held progress := by
  obtain ⟨rfl, rfl⟩ := admitting
  refine ⟨?_, by simp [RequestProgress.initial], ?_, nofun, nofun⟩
  · constructor
    · intro evidence isEvidence
      cases acquired <;> cases isEvidence
    · intro guard isGuard
      cases acquired <;> cases isGuard
  · rintro rfl
    rfl

theorem Admitting.leaves {acquired : Bool} {response : Response}
    (admitting : Admitting acquired held progress) (plain : response.isStream = false)
    (other : response.rateLimited = false) : Leaves setting response held progress := by
  refine leaves_of_answers plain ⟨admitting.owns, ?_, ?_⟩
  · rw [other, admitting.progress]
    simp [RequestProgress.initial]
  · simp [admitting.progress, RequestProgress.initial]

theorem permitErrorResponse_plain (error : PermitError) :
    (permitErrorResponse error).isStream = false ∧
      (permitErrorResponse error).rateLimited = false := by
  cases error with
  | rateLimited retryAfter => exact ⟨rfl, rfl⟩
  | expired => exact ⟨rfl, rfl⟩
  | modelForbidden => exact ⟨rfl, rfl⟩
  | dailyLimit => exact ⟨rfl, rfl⟩
  | concurrencyLimit => exact ⟨rfl, rfl⟩
  | storeUnavailable => exact ⟨rfl, rfl⟩

theorem walks_acquirePermit {post : Bool → Held → RequestProgress → Prop}
    (next : ∀ acquired held progress, Admitting acquired held progress →
      post acquired held progress) :
    Walks setting acquirePermit post .nothing .initial := by
  have admitting : Admitting false .nothing .initial := ⟨rfl, rfl⟩
  refine Routine.wp_bind.mpr (walks_ask admitting.owns (.acquire rfl rfl) fun answer _ => ?_)
  cases answer with
  | error error =>
      obtain ⟨plain, other⟩ := permitErrorResponse_plain error
      exact admitting.leaves plain other
  | ok acquired =>
      refine Routine.wp_bind.mpr ((Routine.wp_update _).mpr ?_)
      exact next _ _ _ ⟨rfl, rfl⟩

theorem open_started {acquired : Bool} (granted : progress.permit = acquired) :
    Open (startedEvidence acquired) progress :=
  have fits : (startedEvidence acquired).Fits := by
    refine ⟨?_, Held.unguarded⟩
    intro evidence isEvidence
    cases isEvidence
    exact openTerminalFits_handlerAbandoned
  ⟨⟨_, rfl, rfl, fun permit => granted.symm.trans permit⟩, Held.unguarded, fits⟩

theorem attempting_first {acquired : Bool} {stage : Stage} (keyId : Uuid) :
    Attempting ⟨[keyId], none, true⟩ keyId .nothing (startedEvidence acquired)
      ({ RequestProgress.initial with permit := acquired, stage := stage }.begin keyId) :=
  ⟨⟨open_started rfl, rfl, ⟨rfl, rfl, rfl, rfl, rfl⟩⟩, acquired, rfl⟩

theorem walks_admitAndStartSelected :
    Walks setting (admitAndStartSelected host)
      (fun keyId => Attempting ⟨[keyId], none, true⟩ keyId .nothing) .nothing .initial := by
  unfold admitAndStartSelected
  cases host.database with
  | true =>
      refine Routine.wp_bind.mpr (walks_acquirePermit ?_)
      intro acquired held progress admitting
      refine Routine.wp_bind.mpr (walks_ask admitting.owns
        (.select (by rw [admitting.progress]; rfl)) fun answer _ => ?_)
      refine Routine.wp_bind.mpr ?_
      cases answer with
      | error failure => exact walks_orElse nofun fun _ => admitting.leaves rfl rfl
      | ok selected =>
          cases selected with
          | none =>
              have leaves : Leaves setting noVerifiedUpstream held progress :=
                admitting.leaves rfl rfl
              exact leaves
          | some keyId =>
              obtain ⟨rfl, rfl⟩ := admitting
              exact attempting_first keyId
  | false =>
      refine Routine.wp_bind.mpr (Routine.wp_bind.mpr (walks_acquirePermit ?_))
      intro acquired held progress admitting
      refine Routine.wp_bind.mpr (walks_ask admitting.owns
        (.start (by rw [admitting.progress]; rfl)) fun answer _ => ?_)
      refine Routine.wp_bind.mpr ?_
      cases answer with
      | error failure => exact walks_orElse nofun fun _ => admitting.leaves rfl rfl
      | ok value =>
          obtain ⟨rfl, rfl⟩ := admitting
          have opened : Open (startedEvidence acquired)
              { RequestProgress.initial with permit := acquired, stage := .started } :=
            open_started rfl
          refine (Routine.wp_update _).mpr ?_
          refine Routine.wp_bind.mpr (walks_look (opened.owns rfl) (.initialKey rfl)
            (fun _ => rfl) fun selected _ => ?_)
          cases selected with
          | none =>
              refine Routine.wp_bind.mpr (walks_finish opened nofun rfl nofun nofun
                (.unstarted _ rfl rfl) ?_)
              intro held progress settled
              refine (Routine.wp_leave _).mpr ?_
              exact leaves_settled rfl rfl settled
          | some keyId =>
              refine Routine.wp_bind.mpr ((Routine.wp_update _).mpr ?_)
              refine Routine.wp_bind.mpr (walks_attemptStarted (opened.armed
                (openTerminalFits_untimed 0)) rfl nofun
                (.first keyId rfl rfl) ?_)
              exact attempting_first keyId

theorem downstreamUseError_plain (error : DownstreamAuthenticationError) :
    (downstreamUseError error).isStream = false ∧
      (downstreamUseError error).rateLimited = false ∧
      100 ≤ (downstreamUseError error).status.code ∧
      (downstreamUseError error).status.code ≤ 599 := by
  cases error with
  | invalidCredential => decide
  | insufficientScope => decide
  | storeUnavailable => decide

theorem walks_recordAcceptedDownstreamUse
    {post : Unit → Held → RequestProgress → Prop}
    (attempting : Attempting history keyId .nothing held progress)
    (next : post () held progress) :
    Walks setting (recordAcceptedDownstreamUse call) post held progress := by
  unfold recordAcceptedDownstreamUse
  cases call.downstreamCredentialId.isSome with
  | false => exact next
  | true =>
      have serving := attempting.serving
      refine Routine.wp_bind.mpr (walks_look serving.owns
        (.sends _ keyId serving.stage serving.follows.unfailed (by simp))
        (fun _ => rfl) fun answer _ => ?_)
      cases answer with
      | ok value => exact next
      | error error =>
          obtain ⟨plain, other, low, high⟩ := downstreamUseError_plain error
          have label : LabelFits (some "downstream_credential_usage_record_failed") :=
            labelFits_some (by decide)
          have unlimited :
              "downstream_credential_usage_record_failed" ≠ "upstream_rate_limited" := by
            decide
          let terminal : OpenTerminal := {
            outcome := .failed
            statusCode := some (downstreamUseError error).status.code
            errorClass := "downstream_credential_usage_record_failed"
            ttfbMs := none
            bytesOut := 0 }
          have fits : OpenTerminalFits terminal := {
            status := by
              intro code isCode
              cases isCode
              exact ⟨low, high⟩
            label
            ttfb := nofun
            other := unlimited
            unsuccessful := by simp [terminal] }
          have armed := serving.armed fits
          refine Routine.wp_bind.mpr (walks_finishWithOpenAttemptsSilently serving.opened
            fits serving.stage ?_ ?_ armed.owns
            (.unused keyId terminal serving.stage serving.follows.unfailed fits rfl) ?_ ?_)
          · simp [serving.follows.unfailed]
          · simp [serving.follows.unfailed]
          · intro held progress settled
            refine (Routine.wp_leave _).mpr ?_
            exact leaves_settled plain (other.trans rfl) settled
          · refine (Routine.wp_leave _).mpr ?_
            exact leaves_serving plain other armed

theorem attempting_listed (keys : List KeySummary)
    (attempting : Attempting ⟨[keyId], none, true⟩ keyId .nothing held progress) :
    Attempting ⟨[keyId], some keys.length, true⟩ keyId .nothing held
      (progress.after .list keys) :=
  ⟨serving_listed keys attempting.serving, attempting.fresh⟩

theorem walks_chatCompletions {representations : Representations}
    {post : Response → Held → RequestProgress → Prop} :
    Walks (chatSetting representations host call)
      (chatCompletions representations host call) post .nothing .initial := by
  refine Routine.wp_bind.mpr (Routine.wp_mono walks_admitAndStartSelected ?_)
  intro keyId held progress attempting
  refine Routine.wp_bind.mpr (walks_recordAcceptedDownstreamUse attempting ?_)
  refine Routine.wp_bind.mpr (walks_ask attempting.serving.owns (.looks _ (by simp))
    fun keys _ => ?_)
  refine Routine.wp_bind.mpr (walks_attemptRounds ⟨keys.length, rfl, rfl⟩ ?_
    (attempting_listed keys attempting))
  intro locals history keyId held progress attempting begun
  exact walks_chatAttempt attempting begun

theorem walks_multimodal {representations : Representations}
    {post : Response → Held → RequestProgress → Prop} :
    Walks (multimodalSetting representations host call)
      (multimodal representations host call) post .nothing .initial := by
  have serves : ∀ keyAttempts locals history keyId held progress,
      Attempting history keyId .nothing held progress → Begun locals history keyId →
        Walks (multimodalSetting representations host call)
          (multimodalAttempt representations host call keyAttempts locals keyId)
          (Again keyAttempts history) held progress :=
    fun _ _ _ _ _ _ attempting begun => walks_multimodalAttempt attempting begun
  refine Routine.wp_bind.mpr (Routine.wp_mono walks_admitAndStartSelected ?_)
  intro keyId held progress attempting
  refine Routine.wp_bind.mpr (walks_recordAcceptedDownstreamUse attempting ?_)
  cases single : isGeneration call.path with
  | true =>
      have allows : Allows (multimodalSetting representations host call) none 1 := by
        rw [Allows, multimodalSetting, single]
        rfl
      refine Routine.wp_bind.mpr ((Routine.wp_pure _).mpr ?_)
      exact Routine.wp_bind.mpr (walks_attemptRounds allows (serves 1) attempting)
  | false =>
      refine Routine.wp_bind.mpr (walks_ask attempting.serving.owns (.looks _ (by simp))
        fun keys _ => ?_)
      refine Routine.wp_bind.mpr ((Routine.wp_pure _).mpr ?_)
      have allows : Allows (multimodalSetting representations host call)
          (some keys.length) (max keys.length 1) := by
        rw [Allows, multimodalSetting, single]
        exact ⟨keys.length, rfl, rfl⟩
      exact Routine.wp_bind.mpr (walks_attemptRounds allows (serves _)
        (attempting_listed keys attempting))

theorem walks_served {representations : Representations} {response : Response}
    (leaves : Leaves setting response held progress) :
    Walks setting (do
        match response with
        | .stream _ _ body => chatResponseStream representations.parse body
        | _ => pure ()
        return response) (Answers setting) held progress := by
  cases response with
  | error status message kind code retryAfter => exact leaves
  | body status contentType bytes => exact leaves
  | stream status contentType body =>
      obtain ⟨guard, rfl, streaming⟩ := leaves
      refine Routine.wp_bind.mpr (Routine.wp_mono (walks_streamFrames streaming) ?_)
      exact fun _ _ _ ended => ended.answers rfl

theorem walks_serve_handler {handler : ProxyRoutine Response}
    {representations : Representations}
    (walks : Walks setting handler (fun _ _ _ => False) .nothing .initial) :
    Walks setting (serve representations handler) (Answers setting) .nothing .initial := by
  unfold serve
  refine Routine.wp_bind.mpr (Routine.wp_attempt.mpr ?_)
  refine Routine.wp_mono_exits (Routine.wp_mono walks ?_) ?_
  · exact fun _ _ _ never => never.elim
  · intro response held progress leaves
    exact walks_served leaves

end Proxy

end NvidiaBuildLb.Gateway
