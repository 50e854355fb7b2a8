import NvidiaBuildLb.Gateway.ProxyProtocol

namespace NvidiaBuildLb.Gateway

open Foundation NvidiaBuildLb.Core

/-! Rules for what the two handlers ask, each in the stage it is asked in. -/

theorem labelFits_some {text : String} (fits : 1 ≤ text.length ∧ text.length ≤ 80) :
    LabelFits (some text) := by
  intro other same
  cases same
  exact fits

theorem labelFits_evidence : LabelFits (some "evidence_unavailable") :=
  labelFits_some (by decide)

/-- A time to first byte that can have been. -/
abbrev Elapsed (ttfbMs : Option Int) : Prop :=
  ∀ elapsed, ttfbMs = some elapsed → 0 ≤ elapsed

theorem openTerminalFits_handlerAbandoned :
    OpenTerminalFits DropRecovery.handlerAbandoned where
  status := nofun
  label := labelFits_some (by decide)
  ttfb := nofun
  other := by decide
  unsuccessful := by decide

theorem openTerminalFits_evidence {terminal : OpenTerminal}
    (failed : terminal.outcome = .failed)
    (isEvidence : terminal.errorClass = "evidence_unavailable")
    (status : ∀ code, terminal.statusCode = some code → 100 ≤ code ∧ code ≤ 599)
    (elapsed : Elapsed terminal.ttfbMs) : OpenTerminalFits terminal where
  status := status
  label := by
    rw [isEvidence]
    exact labelFits_evidence
  ttfb := elapsed
  other := by
    rw [isEvidence]
    decide
  unsuccessful := by
    rw [failed]
    exact nofun

theorem openTerminalFits_evidenceFailure {ttfbMs : Option Int} (elapsed : Elapsed ttfbMs)
    (bytesOut : Nat) : OpenTerminalFits (DropRecovery.evidenceFailure ttfbMs bytesOut) := by
  refine openTerminalFits_evidence rfl rfl ?_ elapsed
  intro code isCode
  cases isCode
  decide

theorem openTerminalFits_untimed (bytesOut : Nat) :
    OpenTerminalFits (DropRecovery.evidenceFailure none bytesOut) := by
  have untimed : Elapsed none := nofun
  exact openTerminalFits_evidenceFailure untimed bytesOut

/-- The request is open, and who drops its owner leaves a task that closes it
and releases its permit. -/
structure Open (held : Held) (progress : RequestProgress) : Prop where
  owner : ∃ evidence, held.request = some evidence ∧ evidence.terminal = false ∧
    (progress.permit = true → evidence.permitAcquired = true)
  guard : ∀ guard, held = .guard guard → guard.terminal = false
  fits : held.Fits

/-- The attempts before the one under way: their keys and its own, the keys
there were, and whether none of the attempts has cleared the flag. -/
structure History where
  keys : List Uuid
  listed : Option Nat
  flag : Bool

structure Follows (history : History) (progress : RequestProgress) : Prop where
  unfailed : progress.failed = none
  keys : progress.keys = history.keys
  listed : progress.listed = history.listed
  flag : progress.endings.all Ending.keepsFlag = history.flag
  unrefused : progress.refused = false

structure Serving (history : History) (keyId : Uuid) (seen : Seen) (held : Held)
    (progress : RequestProgress) : Prop where
  opened : Open held progress
  stage : progress.stage = .attempting keyId seen
  follows : Follows history progress

/-- The request is closed; its permit is the guard's to release. -/
structure Settled (request : RequestTerminal) (held : Held)
    (progress : RequestProgress) : Prop where
  owner : ∃ evidence, held.request = some evidence ∧
    (progress.permit = true → evidence.permitAcquired = true)
  fits : held.Fits
  stage : progress.stage = .closed request
  attempt : progress.failed ≠ some .attemptOnly
  failed : progress.failed = some .withRequest →
    request.outcome = .failed ∧ request.errorClass = some "evidence_unavailable"

theorem Open.recovers (opened : Open held progress) : held.recovery.isSome = true := by
  obtain ⟨evidence, isEvidence, going, _⟩ := opened.owner
  cases held with
  | nothing => cases isEvidence
  | permit => cases isEvidence
  | evidence owner =>
      cases isEvidence
      simp [Held.recovery, going]
  | guard owner => simp [Held.recovery, opened.guard owner rfl]

theorem releases_of_owner {held : Held} {evidence : RequestEvidence} {permit : Bool}
    (isEvidence : held.request = some evidence)
    (acquired : permit = true → evidence.permitAcquired = true) :
    permit = true → held.releases = true := by
  intro granted
  cases held with
  | nothing => cases isEvidence
  | permit => rfl
  | evidence owner =>
      simpa [Held.releases, Held.permitAcquired, isEvidence] using acquired granted
  | guard owner =>
      simpa [Held.releases, Held.permitAcquired, isEvidence] using acquired granted

theorem Open.owns {setting : Setting} (opened : Open held progress)
    (unfailed : progress.failed = none) : Owns setting held progress where
  fits := opened.fits
  request := fun _ => opened.recovers
  permit := by
    obtain ⟨evidence, isEvidence, _, acquired⟩ := opened.owner
    exact releases_of_owner isEvidence acquired
  attemptOnly := by simp [unfailed]
  withRequest := by simp [unfailed]

theorem Serving.owns {setting : Setting} (serving : Serving history keyId seen held progress) :
    Owns setting held progress :=
  serving.opened.owns serving.follows.unfailed

theorem Settled.owns {setting : Setting} (settled : Settled request held progress) :
    Owns setting held progress where
  fits := settled.fits
  request := by simp [settled.stage]
  permit := by
    obtain ⟨evidence, isEvidence, acquired⟩ := settled.owner
    exact releases_of_owner isEvidence acquired
  attemptOnly := fun failed => absurd failed settled.attempt
  withRequest := fun failed => .inr ⟨request, settled.stage, settled.failed failed⟩

def Held.mapDrop (change : DropRecovery → DropRecovery) (held : Held) : Held :=
  held.mapGuard fun guard => { guard with drop := change guard.drop }

theorem Held.unguarded {owner : RequestEvidence} {holds : StreamAttemptGuard → Prop} :
    ∀ guard, Held.evidence owner = .guard guard → holds guard := by
  intro guard isGuard
  cases isGuard

theorem Held.Fits.mapRequest {held : Held} {change : RequestEvidence → RequestEvidence}
    (keeps : ∀ evidence, OpenTerminalFits evidence.dropRecovery →
      OpenTerminalFits (change evidence).dropRecovery)
    (fits : held.Fits) : (held.mapRequest change).Fits := by
  cases held with
  | nothing => exact fits
  | permit => exact fits
  | evidence owner =>
      refine ⟨?_, Held.unguarded⟩
      intro evidence isEvidence
      cases isEvidence
      exact keeps owner (fits.evidence owner rfl)
  | guard owner =>
      refine ⟨?_, ?_⟩
      · intro evidence isEvidence
        cases isEvidence
        exact keeps owner.request (fits.evidence owner.request rfl)
      · intro guard isGuard
        cases isGuard
        exact fits.guard owner rfl

theorem Held.Fits.recovery {held : Held} {recovery : DropRecovery} (fits : held.Fits)
    (isRecovery : held.recovery = some recovery) : OpenTerminalFits recovery := by
  cases held with
  | nothing => cases isRecovery
  | permit => cases isRecovery
  | evidence owner =>
      rw [Held.recovery] at isRecovery
      split at isRecovery
      case isTrue => cases isRecovery
      case isFalse =>
          cases isRecovery
          exact fits.evidence owner rfl
  | guard owner =>
      rw [Held.recovery] at isRecovery
      split at isRecovery
      case isTrue =>
          cases isRecovery
          exact fits.guard owner rfl
      case isFalse =>
          split at isRecovery
          case isTrue => cases isRecovery
          case isFalse =>
              cases isRecovery
              exact fits.evidence owner.request rfl

theorem Held.Fits.mapGuard {held : Held}
    {change : StreamAttemptGuard → StreamAttemptGuard}
    (same : ∀ guard, (change guard).request = guard.request)
    (keeps : ∀ guard, OpenTerminalFits guard.drop → OpenTerminalFits (change guard).drop)
    (fits : held.Fits) : (held.mapGuard change).Fits := by
  cases held with
  | nothing => exact fits
  | permit => exact fits
  | evidence owner => exact fits
  | guard owner =>
      refine ⟨?_, ?_⟩
      · intro evidence isEvidence
        rw [Held.mapGuard, Held.request, same] at isEvidence
        exact fits.evidence evidence isEvidence
      · intro guard isGuard
        cases isGuard
        exact keeps owner (fits.guard owner rfl)

theorem Open.armed {recovery : DropRecovery} (recoveryFits : OpenTerminalFits recovery)
    (opened : Open held progress) :
    Open (held.mapRequest fun evidence => { evidence with dropRecovery := recovery })
      progress := by
  obtain ⟨evidence, isEvidence, going, acquired⟩ := opened.owner
  have fits : (held.mapRequest fun evidence =>
      { evidence with dropRecovery := recovery }).Fits :=
    opened.fits.mapRequest fun _ _ => recoveryFits
  cases held with
  | nothing => cases isEvidence
  | permit => cases isEvidence
  | evidence owner =>
      cases isEvidence
      exact ⟨⟨_, rfl, going, acquired⟩, Held.unguarded, fits⟩
  | guard owner =>
      cases isEvidence
      refine ⟨⟨_, rfl, going, acquired⟩, ?_, fits⟩
      intro guard isGuard
      cases isGuard
      exact opened.guard owner rfl

theorem Open.mapDrop (change : DropRecovery → DropRecovery)
    (keeps : ∀ guard, held = .guard guard → OpenTerminalFits guard.drop →
      OpenTerminalFits (change guard.drop))
    (opened : Open held progress) : Open (held.mapDrop change) progress := by
  obtain ⟨evidence, isEvidence, going, acquired⟩ := opened.owner
  cases held with
  | nothing => cases isEvidence
  | permit => cases isEvidence
  | evidence owner => exact opened
  | guard owner =>
      refine ⟨⟨evidence, isEvidence, going, acquired⟩, ?_, ⟨opened.fits.evidence, ?_⟩⟩
      · intro guard isGuard
        cases isGuard
        exact opened.guard owner rfl
      · intro guard isGuard
        cases isGuard
        exact keeps owner rfl (opened.fits.guard owner rfl)

section Serving

variable {history : History} {keyId : Uuid} {seen : Seen}

theorem Serving.armed {recovery : DropRecovery} (recoveryFits : OpenTerminalFits recovery)
    (serving : Serving history keyId seen held progress) :
    Serving history keyId seen
      (held.mapRequest fun evidence => { evidence with dropRecovery := recovery })
      progress :=
  { serving with opened := serving.opened.armed recoveryFits }

theorem Serving.mapDrop (change : DropRecovery → DropRecovery)
    (keeps : ∀ guard, held = .guard guard → OpenTerminalFits guard.drop →
      OpenTerminalFits (change guard.drop))
    (serving : Serving history keyId seen held progress) :
    Serving history keyId seen (held.mapDrop change) progress :=
  { serving with opened := serving.opened.mapDrop change keeps }

theorem Serving.guarded (serving : Serving history keyId seen held progress) :
    Serving history keyId seen held.guarded progress := by
  obtain ⟨evidence, isEvidence, going, acquired⟩ := serving.opened.owner
  cases held with
  | nothing => cases isEvidence
  | permit => cases isEvidence
  | evidence owner =>
      have fits : (Held.guard (.withRequest owner)).Fits := by
        refine ⟨fun other isOther => serving.opened.fits.evidence other isOther, ?_⟩
        intro guard isGuard
        cases isGuard
        exact openTerminalFits_handlerAbandoned
      refine ⟨⟨⟨evidence, isEvidence, going, acquired⟩, ?_, fits⟩, serving.stage,
        serving.follows⟩
      intro guard isGuard
      cases isGuard
      rfl
  | guard owner => exact serving

theorem Serving.released (serving : Serving history keyId seen held progress) :
    Serving history keyId seen held.released progress := by
  obtain ⟨evidence, isEvidence, going, acquired⟩ := serving.opened.owner
  cases held with
  | nothing => cases isEvidence
  | permit => cases isEvidence
  | evidence owner => exact serving
  | guard owner =>
      have fits : (Held.evidence owner.request).Fits := by
        refine ⟨?_, Held.unguarded⟩
        intro other isOther
        exact serving.opened.fits.evidence other isOther
      have opened : Open (.evidence owner.request) progress :=
        ⟨⟨evidence, isEvidence, going, acquired⟩, Held.unguarded, fits⟩
      exact ⟨opened, serving.stage, serving.follows⟩

end Serving

theorem Settled.mapRequest {request : RequestTerminal}
    {change : RequestEvidence → RequestEvidence}
    (keeps : ∀ evidence, (change evidence).permitAcquired = evidence.permitAcquired)
    (keepsDrop : ∀ evidence, (change evidence).dropRecovery = evidence.dropRecovery)
    (settled : Settled request held progress) :
    Settled request (held.mapRequest change) progress := by
  obtain ⟨evidence, isEvidence, acquired⟩ := settled.owner
  refine { settled with
    owner := ⟨change evidence, ?_, by rwa [keeps]⟩
    fits := settled.fits.mapRequest fun _ fits => by rwa [keepsDrop] }
  cases held <;> simp_all [Held.request, Held.mapRequest]

theorem Settled.mapGuard {request : RequestTerminal}
    {change : StreamAttemptGuard → StreamAttemptGuard}
    (same : ∀ guard, (change guard).request = guard.request)
    (keeps : ∀ guard, OpenTerminalFits guard.drop → OpenTerminalFits (change guard).drop)
    (settled : Settled request held progress) :
    Settled request (held.mapGuard change) progress := by
  obtain ⟨evidence, isEvidence, acquired⟩ := settled.owner
  refine { settled with
    owner := ⟨evidence, ?_, acquired⟩
    fits := settled.fits.mapGuard same keeps }
  cases held <;> simp_all [Held.request, Held.mapGuard]

theorem Settled.withoutPermit {request : RequestTerminal}
    {change : RequestEvidence → RequestEvidence}
    (keepsDrop : ∀ evidence, (change evidence).dropRecovery = evidence.dropRecovery)
    (settled : Settled request held progress) :
    Settled request (held.mapRequest change) { progress with permit := false } := by
  obtain ⟨evidence, isEvidence, acquired⟩ := settled.owner
  refine ⟨⟨change evidence, ?_, nofun⟩,
    settled.fits.mapRequest fun _ fits => by rwa [keepsDrop], settled.stage,
    settled.attempt, settled.failed⟩
  cases held <;> simp_all [Held.request, Held.mapRequest]

theorem Open.going {evidence : RequestEvidence} (opened : Open (.evidence evidence) progress) :
    evidence.terminal = false := by
  obtain ⟨other, isOther, going, _⟩ := opened.owner
  cases isOther
  exact going

/-- The write of the request's end failed, and what is owned records that. -/
structure Failing (keyId : Uuid) (seen : Seen) (held : Held)
    (progress : RequestProgress) : Prop where
  opened : Open held progress
  stage : progress.stage = .attempting keyId seen
  failed : progress.failed = some .withRequest

theorem Serving.failing {history : History} {keyId : Uuid} {seen : Seen}
    (serving : Serving history keyId seen held progress) :
    Failing keyId seen held { progress with failed := some .withRequest } :=
  ⟨⟨serving.opened.owner, serving.opened.guard, serving.opened.fits⟩, serving.stage, rfl⟩

/-- No guard has a time to first byte before the request. -/
def Timed (guard : StreamAttemptGuard) : Prop :=
  ∀ elapsed, guard.drop.ttfbMs = some elapsed → 0 ≤ elapsed

/-- A stream has its guard, and its attempt may still end as it will. -/
structure Streaming (setting : Setting) (keyId : Uuid) (guard : StreamAttemptGuard)
    (progress : RequestProgress) : Prop where
  timed : Timed guard
  serving : ∃ history seen, Serving history keyId seen (.guard guard) progress ∧
    rateLimits setting history.keys.length seen = false ∧ seen.accepted = false

def Leaves (setting : Setting) (response : Response) (held : Held)
    (progress : RequestProgress) : Prop :=
  match response with
  | .stream _ _ body =>
      ∃ guard, held = .guard guard ∧ Streaming setting body.keyId guard progress
  | _ => Answers setting response held progress

abbrev proxyContract (setting : Setting) :=
  (proxyMonitor setting).contract Legal fun op => op.awaits = true

abbrev Walks (setting : Setting) (routine : ProxyRoutine α)
    (post : α → Held → RequestProgress → Prop) (held : Held)
    (progress : RequestProgress) : Prop :=
  routine.wp (proxyContract setting) (Leaves setting) post held progress

def Response.isStream : Response → Bool
  | .stream .. => true
  | _ => false

theorem leaves_of_answers {setting : Setting} {response : Response}
    (plain : response.isStream = false) (answers : Answers setting response held progress) :
    Leaves setting response held progress := by
  cases response with
  | stream status contentType body => cases plain
  | error status message kind code retryAfter => exact answers
  | body status contentType bytes => exact answers

namespace Proxy

variable {setting : Setting} {held : Held} {progress : RequestProgress}

theorem walks_ask {op : ProxyOp} {post : op.Answer → Held → RequestProgress → Prop}
    (owns : Owns setting held progress) (due : Due setting progress op)
    (next : ∀ answer, Legal op answer → post answer held (progress.after op answer)) :
    Walks setting (ask op) post held progress := by
  refine Routine.wp_ask.mpr ⟨⟨owns, due⟩, ?_, ?_⟩
  · intro after dropped
    exact ⟨progress, ⟨owns, due⟩, dropped.2⟩
  · rintro answer after ⟨isLegal, rfl⟩
    exact next answer isLegal

theorem walks_look {op : ProxyOp} {post : op.Answer → Held → RequestProgress → Prop}
    (owns : Owns setting held progress) (due : Due setting progress op)
    (calm : ∀ answer, progress.after op answer = progress)
    (next : ∀ answer, Legal op answer → post answer held progress) :
    Walks setting (ask op) post held progress :=
  walks_ask owns due fun answer isLegal => (calm answer).symm ▸ next answer isLegal

theorem walks_orElse {response : Response} {result : Except Unit α}
    {post : α → Held → RequestProgress → Prop}
    (ok : ∀ value, result = .ok value → post value held progress)
    (error : result = .error () → Leaves setting response held progress) :
    Walks setting (orElse response result) post held progress := by
  cases result with
  | ok value => exact ok value rfl
  | error failure => exact error rfl

section Served

variable {history : History} {keyId : Uuid} {seen : Seen}

theorem leaves_serving {response : Response} (plain : response.isStream = false)
    (other : response.rateLimited = false)
    (serving : Serving history keyId seen held progress) :
    Leaves setting response held progress := by
  refine leaves_of_answers plain ⟨serving.owns, ?_, ?_⟩
  · simp [other, serving.stage]
  · simp [serving.stage]

theorem leaves_settled {response : Response} {request : RequestTerminal}
    (plain : response.isStream = false)
    (same : response.rateLimited = request.rateLimited)
    (settled : Settled request held progress) :
    Leaves setting response held progress := by
  refine leaves_of_answers plain ⟨settled.owns, ?_, by simp [settled.stage]⟩
  rw [settled.stage, same]
  constructor
  · exact fun limited => ⟨request, rfl, limited⟩
  · rintro ⟨other, isOther, limited⟩
    cases isOther
    exact limited

theorem walks_serve {op : ProxyOp} {post : op.Answer → Held → RequestProgress → Prop}
    (serving : Serving history keyId seen held progress)
    (due : progress.failed = none → progress.stage = .attempting keyId seen →
      Due setting progress op)
    (calm : ∀ answer, progress.after op answer = progress)
    (next : ∀ answer, Legal op answer → post answer held progress) :
    Walks setting (ask op) post held progress :=
  walks_look serving.owns (due serving.follows.unfailed serving.stage) calm next

theorem walks_recordRequest {post : Unit → Held → RequestProgress → Prop}
    (serving : Serving history keyId seen held progress)
    (next : post () held progress) :
    Walks setting (recordRequest keyId) post held progress := by
  refine Routine.wp_bind.mpr (walks_serve serving
    (fun unfailed stage => .serves _ keyId seen stage unfailed (.inl rfl))
    (fun _ => rfl) fun answer _ => ?_)
  exact walks_orElse (fun _ _ => next) fun _ => leaves_serving rfl rfl serving

theorem walks_recordFailure {retryAfter : Option Duration}
    {post : Option Timestamp → Held → RequestProgress → Prop}
    (serving : Serving history keyId seen held progress)
    (next : ∀ cooldown, post cooldown held progress) :
    Walks setting (recordFailure keyId retryAfter) post held progress := by
  refine Routine.wp_bind.mpr (walks_serve serving
    (fun unfailed stage => .serves _ keyId seen stage unfailed
      (.inr (.inl ⟨retryAfter, rfl⟩)))
    (fun _ => rfl) fun answer _ => ?_)
  exact walks_orElse (fun cooldown _ => next cooldown) fun _ =>
    leaves_serving rfl rfl serving

theorem walks_quarantineKey {post : Unit → Held → RequestProgress → Prop}
    (serving : Serving history keyId seen held progress)
    (next : post () held progress) :
    Walks setting (quarantineKey keyId) post held progress := by
  refine Routine.wp_bind.mpr (walks_serve serving
    (fun unfailed stage => .serves _ keyId seen stage unfailed
      (.inr (.inr (.inl rfl))))
    (fun _ => rfl) fun answer _ => ?_)
  exact walks_orElse (fun _ _ => next) fun _ => leaves_serving rfl rfl serving

theorem walks_attemptResponseStarted {ttfbMs : Int}
    {post : Unit → Held → RequestProgress → Prop} (sensible : 0 ≤ ttfbMs)
    (serving : Serving history keyId seen held progress)
    (next : post () held progress) :
    Walks setting (attemptResponseStarted keyId ttfbMs) post held progress := by
  refine Routine.wp_bind.mpr (walks_serve serving
    (fun unfailed stage => .serves _ keyId seen stage unfailed (by simp [sensible]))
    (fun _ => rfl) fun answer _ => ?_)
  exact walks_orElse (fun _ _ => next) fun _ => leaves_serving rfl rfl serving

end Served

theorem walks_releasePermitNow {request : RequestTerminal}
    {post : Unit → Held → RequestProgress → Prop}
    (settled : Settled request held progress)
    (next : ∀ held progress, Settled request held progress → post () held progress) :
    Walks setting releasePermitNow post held progress := by
  refine Routine.wp_bind.mpr (Routine.wp_owned.mpr ?_)
  by_cases acquired : held.permitAcquired = true
  case neg =>
      rw [if_neg acquired]
      exact next held progress settled
  case pos =>
      rw [if_pos acquired]
      refine Routine.wp_bind.mpr (walks_ask settled.owns
        (.release _ request settled.stage (.inl rfl)) fun answer _ => ?_)
      cases answer with
      | ok value => exact next _ _ (settled.withoutPermit fun _ => rfl)
      | error failure =>
          refine Routine.wp_bind.mpr (walks_ask settled.owns
            (.release _ request settled.stage (.inr rfl)) fun _ _ => ?_)
          exact next _ _ (settled.withoutPermit fun _ => rfl)

theorem walks_close {request : RequestTerminal}
    {post : Unit → Held → RequestProgress → Prop}
    (settled : Settled request held progress)
    (next : ∀ held progress, Settled request held progress → post () held progress) :
    Walks setting close post held progress := by
  refine Routine.wp_bind.mpr (Routine.wp_update _ |>.mpr ?_)
  exact walks_releasePermitNow (settled.mapRequest (fun _ => rfl) fun _ => rfl) next

section Finishing

variable {history : History} {keyId : Uuid} {seen : Seen} {attempt : AttemptTerminal}
  {request : RequestTerminal}

theorem settled_of_finished (serving : Serving history keyId seen held progress) :
    Settled request held (progress.finish attempt (.closed request)) := by
  obtain ⟨evidence, isEvidence, _, acquired⟩ := serving.opened.owner
  have finished : progress.finish attempt (.closed request) = { progress with
      stage := .closed request
      endings := progress.endings ++ [{ keyId, seen, terminal := attempt }] } := by
    rw [RequestProgress.finish, serving.stage]
  rw [finished]
  exact ⟨⟨evidence, isEvidence, acquired⟩, serving.opened.fits, rfl, by simp [serving.follows.unfailed],
    by simp [serving.follows.unfailed]⟩

theorem owns_failing (opened : Open held progress) (armed : held.Armed)
    (failed : progress.failed = some .withRequest) : Owns setting held progress where
  fits := opened.fits
  request := fun _ => opened.recovers
  permit := by
    obtain ⟨evidence, isEvidence, _, acquired⟩ := opened.owner
    exact releases_of_owner isEvidence acquired
  attemptOnly := by simp [failed]
  withRequest := fun _ => .inl armed

theorem leaves_failing {response : Response} (plain : response.isStream = false)
    (other : response.rateLimited = false) (failing : Failing keyId seen held progress)
    (armed : held.Armed) : Leaves setting response held progress := by
  refine leaves_of_answers plain
    ⟨owns_failing failing.opened armed failing.failed, ?_, ?_⟩
  · simp [other, failing.stage]
  · simp [failing.stage]

theorem armed_evidence {evidence : RequestEvidence} {ttfbMs : Option Int} {bytesOut : Nat}
    (going : evidence.terminal = false) :
    (Held.evidence { evidence with
      dropRecovery := .evidenceFailure ttfbMs bytesOut }).Armed :=
  ⟨.evidenceFailure ttfbMs bytesOut, by simp [Held.recovery, going], rfl, rfl⟩

theorem walks_finishWithAttempt {post : Unit → Held → RequestProgress → Prop}
    {evidence : RequestEvidence}
    (serving : Serving history keyId seen (.evidence evidence) progress)
    (closing : Closing setting progress keyId seen attempt)
    (closingRequest : ClosingRequest setting progress seen attempt request)
    (next : ∀ held progress, Settled request held progress → post () held progress) :
    Walks setting (finishWithAttempt keyId attempt request) post (.evidence evidence)
      progress := by
  refine Routine.wp_bind.mpr ((Routine.wp_update _).mpr ?_)
  have armed := serving.armed
    (openTerminalFits_evidenceFailure closingRequest.ttfb attempt.bytes)
  refine Routine.wp_bind.mpr (walks_ask armed.owns
    (.requestAndAttemptFinished keyId seen attempt request closing closingRequest)
    fun answer _ => ?_)
  refine Routine.wp_bind.mpr ?_
  cases answer with
  | ok value => exact walks_close (settled_of_finished armed) next
  | error failure =>
      exact walks_orElse nofun fun _ =>
        leaves_failing rfl rfl armed.failing (armed_evidence serving.opened.going)

theorem walks_finishWithAttemptSilently {post : Bool → Held → RequestProgress → Prop}
    (serving : Serving history keyId seen held progress)
    (closing : Closing setting progress keyId seen attempt)
    (closingRequest : ClosingRequest setting progress seen attempt request)
    (status : ∀ code, request.statusCode = some code → 100 ≤ code ∧ code ≤ 599)
    (done : ∀ held progress, Settled request held progress → post true held progress)
    (failed : ∀ recovery, OpenTerminalFits recovery → post false
      (held.mapRequest fun evidence => { evidence with dropRecovery := recovery })
      { progress with failed := some .withRequest }) :
    Walks setting (finishWithAttemptSilently keyId attempt request) post held progress := by
  refine Routine.wp_bind.mpr ((Routine.wp_update _).mpr ?_)
  let recovery : OpenTerminal := {
    outcome := .failed
    statusCode := request.statusCode
    errorClass := "evidence_unavailable"
    ttfbMs := request.ttfbMs
    bytesOut := attempt.bytes }
  have fits : OpenTerminalFits recovery :=
    openTerminalFits_evidence rfl rfl status closingRequest.ttfb
  have armed := serving.armed fits
  refine Routine.wp_bind.mpr (walks_ask armed.owns
    (.requestAndAttemptFinished keyId seen attempt request closing closingRequest)
    fun answer _ => ?_)
  cases answer with
  | ok value =>
      refine Routine.wp_bind.mpr (walks_close (settled_of_finished armed) ?_)
      exact done
  | error failure => exact failed recovery fits

theorem walks_finishWithOpenAttemptsSilently {terminal : OpenTerminal}
    {post : Bool → Held → RequestProgress → Prop} (opened : Open held progress)
    (fits : OpenTerminalFits terminal)
    (stage : progress.stage = .attempting keyId seen)
    (attemptOnly : progress.failed ≠ some .attemptOnly)
    (evidence : progress.failed = some .withRequest →
      DropRecovery.EvidenceFailure terminal)
    (owns : Owns setting
      (held.mapRequest fun evidence => { evidence with dropRecovery := terminal })
      progress)
    (due : Due setting progress (.requestAndOpenAttemptsFinished terminal))
    (done : ∀ held progress, Settled terminal.request held progress →
      post true held progress)
    (failed : post false
      (held.mapRequest fun evidence => { evidence with dropRecovery := terminal })
      progress) :
    Walks setting (finishWithOpenAttemptsSilently terminal) post held progress := by
  refine Routine.wp_bind.mpr ((Routine.wp_update _).mpr ?_)
  refine Routine.wp_bind.mpr (walks_ask owns due fun answer _ => ?_)
  cases answer with
  | error failure => exact failed
  | ok value =>
      have settled : Settled terminal.request
          (held.mapRequest fun evidence => { evidence with dropRecovery := terminal })
          (progress.finish terminal.attempt (.closed terminal.request)) := by
        obtain ⟨owner, isOwner, _, acquired⟩ := (opened.armed fits).owner
        have finished : progress.finish terminal.attempt (.closed terminal.request) =
            { progress with
              stage := .closed terminal.request
              endings := progress.endings ++
                [{ keyId, seen, terminal := terminal.attempt }] } := by
          rw [RequestProgress.finish, stage]
        rw [finished]
        refine ⟨⟨owner, isOwner, acquired⟩, (opened.armed fits).fits, rfl, attemptOnly, ?_⟩
        intro withRequest
        obtain ⟨isFailed, isEvidence⟩ := evidence withRequest
        exact ⟨by rw [OpenTerminal.request, isFailed]; rfl, congrArg some isEvidence⟩
      refine Routine.wp_bind.mpr (walks_close settled ?_)
      exact done

theorem walks_finish {post : Unit → Held → RequestProgress → Prop}
    {evidence : RequestEvidence} (opened : Open (.evidence evidence) progress)
    (elapsed : Elapsed request.ttfbMs) (unfailed : progress.failed = none)
    (unclosed : ∀ request, progress.stage ≠ .closed request)
    (unfinished : progress.stage ≠ .between)
    (due : Due setting progress (.proxyRequestFinished request))
    (next : ∀ held progress, Settled request held progress → post () held progress) :
    Walks setting (finish request) post (.evidence evidence) progress := by
  refine Routine.wp_bind.mpr ((Routine.wp_update _).mpr ?_)
  have armed := opened.armed (openTerminalFits_evidenceFailure elapsed 0)
  refine Routine.wp_bind.mpr (walks_ask (armed.owns unfailed) due fun answer _ => ?_)
  refine Routine.wp_bind.mpr ?_
  cases answer with
  | ok value =>
      obtain ⟨owner, isOwner, _, acquired⟩ := armed.owner
      refine walks_close ⟨⟨owner, isOwner, acquired⟩, armed.fits, rfl, ?_, ?_⟩ next
      · exact fun attemptOnly => by cases unfailed.symm.trans attemptOnly
      · exact fun withRequest => by cases unfailed.symm.trans withRequest
  | error failure =>
      refine walks_orElse nofun fun _ => leaves_of_answers rfl
        ⟨armed.owns unfailed, ?_, fun isBetween => absurd isBetween unfinished⟩
      refine iff_of_false nofun ?_
      rintro ⟨other, closed, _⟩
      exact unclosed other closed

end Finishing

end Proxy

end NvidiaBuildLb.Gateway
