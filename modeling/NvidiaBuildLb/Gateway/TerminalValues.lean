import NvidiaBuildLb.Gateway.ProxyRuns

namespace NvidiaBuildLb.Gateway

open Foundation NvidiaBuildLb.Core

/-! What the terminal writes bind, against the checks of the two tables. -/

def AttemptOutcome.text : AttemptOutcome → String
  | .succeeded => "succeeded"
  | .failed => "failed"
  | .cancelled => "cancelled"
  | .abandonedAfterRestart => "abandoned_after_restart"

def RequestOutcome.text : RequestOutcome → String
  | .succeeded => "succeeded"
  | .failed => "failed"
  | .cancelled => "cancelled"
  | .rejected => "rejected"
  | .abandonedAfterRestart => "abandoned_after_restart"

/-- `status_code IS NULL OR status_code BETWEEN 100 AND 599`. -/
def StatusChecked (status : Option Nat) : Prop :=
  ∀ code, status = some code → 100 ≤ code ∧ code ≤ 599

/-- `NULL OR .. >= 0`. -/
def NonNegative (value : Option Int) : Prop :=
  ∀ number, value = some number → 0 ≤ number

/-- The checks of `request_attempts`, of a row that is finished. -/
structure AttemptChecked (outcome : AttemptOutcome) (status : Option Nat)
    (errorClass : Option String) (ttfbMs bytesOut : Option Int) : Prop where
  known : outcome.text ∈ ["started", "succeeded", "failed", "cancelled",
    "abandoned_after_restart"]
  terminal : outcome.text ≠ "started"
  status : StatusChecked status
  errorClass : LabelFits errorClass
  ttfbMs : NonNegative ttfbMs
  bytesOut : NonNegative bytesOut

/-- Those of `proxy_requests`. -/
structure RequestChecked (request : RequestTerminal) : Prop where
  known : request.outcome.text ∈ ["started", "succeeded", "failed", "cancelled",
    "rejected", "abandoned_after_restart"]
  terminal : request.outcome.text ≠ "started"
  status : StatusChecked request.statusCode
  errorClass : LabelFits request.errorClass
  ttfbMs : NonNegative request.ttfbMs

/-- The checks of the rows that a terminal write touches, of what it binds. -/
def TerminalChecked : ProxyOp → Prop
  | .attemptFinished _ attempt =>
      AttemptChecked attempt.outcome attempt.statusCode attempt.errorClass none
        attempt.bytesOut
  | .requestAndAttemptFinished _ attempt request =>
      AttemptChecked attempt.outcome attempt.statusCode attempt.errorClass none
        attempt.bytesOut ∧ RequestChecked request
  | .proxyRequestFinished request => RequestChecked request
  | .requestAndOpenAttemptsFinished terminal =>
      AttemptChecked terminal.outcome terminal.statusCode (some terminal.errorClass)
        terminal.ttfbMs (some (bytesColumn terminal.bytesOut)) ∧
        RequestChecked terminal.request
  | _ => True

theorem attemptOutcome_checked (outcome : AttemptOutcome) :
    outcome.text ∈ ["started", "succeeded", "failed", "cancelled",
      "abandoned_after_restart"] ∧ outcome.text ≠ "started" := by
  cases outcome <;> decide

theorem requestOutcome_checked (outcome : RequestOutcome) :
    outcome.text ∈ ["started", "succeeded", "failed", "cancelled", "rejected",
      "abandoned_after_restart"] ∧ outcome.text ≠ "started" := by
  cases outcome <;> decide

theorem OpenTerminalFits.checked {terminal : OpenTerminal} (fits : OpenTerminalFits terminal) :
    TerminalChecked (.requestAndOpenAttemptsFinished terminal) := by
  obtain ⟨isOutcome, isTerminal⟩ := attemptOutcome_checked terminal.outcome
  obtain ⟨isRequestOutcome, isRequestTerminal⟩ :=
    requestOutcome_checked terminal.request.outcome
  refine ⟨⟨isOutcome, isTerminal, fits.status, fits.label, fits.ttfb, ?_⟩,
    isRequestOutcome, isRequestTerminal, fits.status, fits.label, fits.ttfb⟩
  intro number isNumber
  cases isNumber
  exact bytesColumn_nonneg _

/-- The status of a provider's answer, if it is one. -/
def answeredStatus (op : ProxyOp) (answer : op.Answer) : Option Nat :=
  match op, answer with
  | .post _ _ _ _, .ok response => some response.status.code
  | .poll _ _, .ok response => some response.status.code
  | _, _ => none

/-- No status of the provider is beyond those of HTTP; `asked` is the one that
the mock provider is asked for. -/
structure OrdinaryStatuses (asked : Option Nat) (log : ProxyLog) : Prop where
  answered : ∀ exchange ∈ log, ∀ status,
    answeredStatus exchange.op exchange.answer = some status → status ≤ 599
  mocked : ∀ status, asked = some status → status ≤ 599

section

variable {setting : Setting} {log : ProxyLog}

theorem OrdinaryStatuses.before {op : ProxyOp} {answer : op.Answer}
    (ordinary : OrdinaryStatuses asked (log ++ [⟨op, answer⟩])) :
    OrdinaryStatuses asked log ∧
      ∀ status, answeredStatus op answer = some status → status ≤ 599 := by
  refine ⟨⟨fun exchange member => ordinary.answered exchange ?_, ordinary.mocked⟩, ?_⟩
  · exact List.mem_append_left _ member
  · exact ordinary.answered ⟨op, answer⟩ (by simp)

theorem Sees.ordinary {op : ProxyOp} {answer : op.Answer} {before after : Seen}
    (sees : Sees op answer before after)
    (answered : ∀ status, answeredStatus op answer = some status → status ≤ 599)
    (earlier : ∀ status, before.status = some status → status ≤ 599) :
    ∀ status, after.status = some status → status ≤ 599 := by
  intro status isStatus
  cases sees with
  | same => exact earlier status isStatus
  | injected => cases isStatus
  | unreadable => cases isStatus
  | unreachable => cases isStatus
  | answered response => exact answered status isStatus
  | ruled response policy rows => exact earlier status isStatus
  | polled accepted answer policy other => exact answered status isStatus

theorem seen_ordinary (conforms : Monitor.Conforms Legal (proxyMonitor setting) log)
    (ordinary : OrdinaryStatuses setting.mocked log) {keyId : Uuid} {seen : Seen}
    (stage : ((proxyMonitor setting).state log).stage = .attempting keyId seen) :
    ∀ status, seen.status = some status → status ≤ 599 := by
  induction conforms generalizing keyId seen with
  | nil => cases stage
  | @snoc log op answer held before allowed isLegal induction =>
      obtain ⟨earlier, answered⟩ := ordinary.before
      rw [Monitor.state_append] at stage
      rcases after_attempting stage with ⟨_, rfl⟩ | ⟨known, isKnown, sees⟩
      · exact fun _ isStatus => by cases isStatus
      · exact sees.ordinary answered (induction earlier isKnown)

theorem StatusFrom.checked {seen : Seen} {status : Nat}
    (sensible : StatusFrom setting seen status)
    (ordinary : ∀ status, seen.status = some status → status ≤ 599)
    (mocked : ∀ status, setting.mocked = some status → status ≤ 599) :
    100 ≤ status ∧ status ≤ 599 := by
  refine ⟨sensible.1, ?_⟩
  rcases sensible.2 with small | isSeen | isMocked
  · exact small
  · exact ordinary status isSeen
  · exact mocked status isMocked

theorem Closing.checked {progress : RequestProgress} {keyId : Uuid} {seen : Seen}
    {attempt : AttemptTerminal} (closing : Closing setting progress keyId seen attempt)
    (ordinary : ∀ status, seen.status = some status → status ≤ 599)
    (mocked : ∀ status, setting.mocked = some status → status ≤ 599) :
    AttemptChecked attempt.outcome attempt.statusCode attempt.errorClass none
      attempt.bytesOut := by
  obtain ⟨isOutcome, isTerminal⟩ := attemptOutcome_checked attempt.outcome
  refine ⟨isOutcome, isTerminal, ?_, closing.label, nofun, closing.bytes⟩
  exact fun code isCode => (closing.status code isCode).checked ordinary mocked

theorem ClosingRequest.checked {progress : RequestProgress} {seen : Seen}
    {attempt : AttemptTerminal} {request : RequestTerminal}
    (closing : ClosingRequest setting progress seen attempt request)
    (ordinary : ∀ status, seen.status = some status → status ≤ 599)
    (mocked : ∀ status, setting.mocked = some status → status ≤ 599) :
    RequestChecked request := by
  obtain ⟨isOutcome, isTerminal⟩ := requestOutcome_checked request.outcome
  refine ⟨isOutcome, isTerminal, ?_, closing.label, closing.ttfb⟩
  exact fun code isCode => (closing.status code isCode).checked ordinary mocked

theorem requestChecked_failed {code : Nat} {errorClass : String}
    (sensible : 100 ≤ code ∧ code ≤ 599) (label : LabelFits (some errorClass)) :
    RequestChecked (.failed code errorClass) := by
  obtain ⟨isOutcome, isTerminal⟩ := requestOutcome_checked .failed
  refine ⟨isOutcome, isTerminal, ?_, label, nofun⟩
  intro other isOther
  cases isOther
  exact sensible

theorem Due.checked {progress : RequestProgress} {op : ProxyOp}
    (due : Due setting progress op)
    (ordinary : ∀ keyId seen, progress.stage = .attempting keyId seen →
      ∀ status, seen.status = some status → status ≤ 599)
    (mocked : ∀ status, setting.mocked = some status → status ≤ 599) :
    TerminalChecked op := by
  cases due with
  | attemptFinished keyId seen terminal closing =>
      exact closing.checked (ordinary keyId seen closing.stage) mocked
  | requestAndAttemptFinished keyId seen attempt request closing with_request =>
      have seenOrdinary := ordinary keyId seen closing.stage
      exact ⟨closing.checked seenOrdinary mocked, with_request.checked seenOrdinary mocked⟩
  | unstarted request stage isFailed =>
      exact isFailed ▸ requestChecked_failed (by decide) (labelFits_some (by decide))
  | unsuited request keyId stage unfailed plain isFailed =>
      exact isFailed ▸ requestChecked_failed (by decide) (labelFits_some (by decide))
  | unused keyId terminal stage unfailed fits => exact fits.checked
  | recovered keyId seen terminal stage afterFailure fits => exact fits.checked
  | looks op calm => rcases calm with rfl | rfl | rfl <;> trivial
  | release op request stage releasing => rcases releasing with rfl | rfl <;> trivial
  | serves op keyId seen stage unfailed serving =>
      rcases serving with rfl | ⟨_, rfl⟩ | rfl | rfl | rfl | rfl | rfl | rfl | rfl |
        ⟨_, _, rfl⟩ | ⟨_, rfl, _⟩ <;> trivial
  | sends op keyId stage unfailed sending =>
      rcases sending with rfl | ⟨rfl, _⟩ | rfl | ⟨_, _, _, rfl⟩ <;> trivial
  | _ => trivial

end

section Runs

variable {handler : Handler} {representations : Representations} {host : Proxy.Host}
  {call : ProxyCall} {log : ProxyLog} {ending : ProxyEnding}

/-- Who owns the request when it is dropped or has returned. -/
def LeftWith : ProxyEnding → Held → Prop
  | .waiting (held, _), owned => held = owned
  | .dropped (held, _), owned => held = owned
  | .returned (_, held), owned => held = owned

/-- Whatever a request asks to be written, and whatever its drop writes. -/
def Writes (log : ProxyLog) (ending : ProxyEnding) (op : ProxyOp) : Prop :=
  Asked log ending op ∨ ∃ held recovery, LeftWith ending held ∧
    held.recovery = some recovery ∧ op = .requestAndOpenAttemptsFinished recovery

theorem exchange_due {setting : Setting}
    (conforms : Monitor.Conforms Legal (proxyMonitor setting) log)
    {exchange : Exchange ProxyOp ProxyOp.Answer} (member : exchange ∈ log) :
    ∃ before after, log = before ++ exchange :: after ∧
      Monitor.Conforms Legal (proxyMonitor setting) before ∧
      Due setting ((proxyMonitor setting).state before) exchange.op := by
  induction conforms with
  | nil => cases member
  | @snoc log op answer held before allowed isLegal induction =>
      rcases List.mem_append.mp member with earlier | last
      · obtain ⟨front, back, rfl, conforms, due⟩ := induction earlier
        exact ⟨front, back ++ [⟨op, answer⟩], by simp, conforms, due⟩
      · cases List.mem_singleton.mp last
        exact ⟨log, [], rfl, before, allowed.2⟩

theorem OrdinaryStatuses.front {asked : Option Nat} {front back : ProxyLog}
    (ordinary : OrdinaryStatuses asked (front ++ back)) : OrdinaryStatuses asked front :=
  ⟨fun exchange member => ordinary.answered exchange (List.mem_append_left back member),
    ordinary.mocked⟩

theorem terminal_values_checked (run : Runs handler representations host call log ending)
    (ordinary : OrdinaryStatuses (handler.setting representations host call).mocked log) :
    ∀ op, Writes log ending op → TerminalChecked op := by
  obtain ⟨conforms, stands⟩ := run.stands
  have checks : ∀ {before : ProxyLog} {op : ProxyOp},
      Monitor.Conforms Legal (proxyMonitor (handler.setting representations host call))
        before →
      OrdinaryStatuses (handler.setting representations host call).mocked before →
      Due (handler.setting representations host call)
        ((proxyMonitor (handler.setting representations host call)).state before) op →
      TerminalChecked op := fun conforms ordinary due =>
    due.checked (fun _ _ stage => seen_ordinary conforms ordinary stage) ordinary.mocked
  rintro op ((⟨answer, member⟩ | ⟨held, isWaiting | isDropped⟩) |
    ⟨held, recovery, isLeft, isRecovery, rfl⟩)
  · obtain ⟨before, after, rfl, conforming, due⟩ := exchange_due conforms member
    exact checks conforming ordinary.front due
  · subst isWaiting
    exact checks conforms ordinary stands.2
  · subst isDropped
    obtain ⟨before, conforming, allowed, after⟩ := stands
    refine checks conforming ?_ allowed.2
    rcases after with rfl | ⟨answer, _, rfl⟩
    · exact ordinary
    · exact ordinary.front
  · have fits : held.Fits := by
      cases ending with
      | waiting request =>
          cases isLeft
          exact stands.1.fits
      | dropped request =>
          cases isLeft
          obtain ⟨before, _, allowed, _⟩ := stands
          exact allowed.1.fits
      | returned result =>
          obtain ⟨result, owned⟩ := result
          cases isLeft
          cases result with
          | ok response => exact stands.owns.fits
          | error response => exact stands.answers.owns.fits
    exact (fits.recovery isRecovery).checked

end Runs

namespace ProxyScript

def answering (status : StatusCode) : ProxyScript where
  keys := [key 1]
  post := fun _ => .ok (response status (fun _ => none) [])
  poll := .error ()
  fixture := none
  attemptFinished := .ok ()

def answeringRun (status : StatusCode) : ProxyLog × ProxyEnding :=
  (answering status).replay .chat representations host
    (call "/v1/chat/completions" false) 20

theorem answeringRun_ordinary :
    (answeringRun ⟨404, by decide⟩).1.all (fun exchange =>
      (answeredStatus exchange.op exchange.answer).all fun status => status ≤ 599) =
        true :=
  rfl

/-- What closes the request and its attempt when the provider rejects it. -/
def rejection (status : StatusCode) : ProxyOp :=
  .requestAndAttemptFinished 1 (.failed (some status.code) "upstream_request_rejected" none)
    (.rejected status.code "upstream_request_rejected")

theorem terminal_values_checked_not_found : TerminalChecked (rejection ⟨404, by decide⟩) := by
  have asked : (answeringRun ⟨404, by decide⟩).1[8]? =
      some ⟨rejection ⟨404, by decide⟩, .ok ()⟩ := rfl
  refine terminal_values_checked (replay_runs (answering ⟨404, by decide⟩) .chat
    representations host (call "/v1/chat/completions" false) 20) ⟨?_, nofun⟩ _
    (.inl (.inl ⟨.ok (), List.mem_of_getElem? asked⟩))
  intro exchange member status isStatus
  have ordinary := List.all_eq_true.mp answeringRun_ordinary exchange member
  rw [isStatus] at ordinary
  exact of_decide_eq_true ordinary

/-- 600 is a status that the HTTP client delivers, and no row takes it. -/
theorem terminal_values_unchecked :
    ¬∀ (handler : Handler) (representations : Representations) (host : Proxy.Host)
      (call : ProxyCall) (log : ProxyLog) (ending : ProxyEnding),
      Runs handler representations host call log ending →
        ∀ op, Writes log ending op → TerminalChecked op := by
  intro always
  have asked : (answeringRun ⟨600, by decide⟩).1[8]? =
      some ⟨rejection ⟨600, by decide⟩, .ok ()⟩ := rfl
  have checked := always _ _ _ _ _ _ (replay_runs (answering ⟨600, by decide⟩) .chat
    representations host (call "/v1/chat/completions" false) 20) (rejection ⟨600, by decide⟩)
    (.inl (.inl ⟨.ok (), List.mem_of_getElem? asked⟩))
  have small := (checked.1.status 600 rfl).2
  omega

end ProxyScript

end NvidiaBuildLb.Gateway
