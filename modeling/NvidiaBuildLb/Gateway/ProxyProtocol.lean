import NvidiaBuildLb.Foundation.Monitor
import NvidiaBuildLb.Gateway.Eligibility
import NvidiaBuildLb.Gateway.Proxy

namespace NvidiaBuildLb.Gateway

open Foundation NvidiaBuildLb.Core

/-! The protocol a request keeps to on its way over the keys: which step may
come next, judged by what was asked and answered before. -/

/-- What is known of the attempt under way. -/
inductive Seen where
  | nothing
  | injected (kind : String)
  | unreadable
  | unreachable
  | answered (response : ProviderResponse) (policy : RuntimeRoutingPolicy)
  | polled (accepted answer : ProviderResponse)

namespace Seen

def accepted : Seen → Bool
  | .answered response _ => response.status.code = 202
  | .polled _ _ => true
  | _ => false

def status : Seen → Option Nat
  | .answered response _ => some response.status.code
  | .polled _ answer => some answer.status.code
  | _ => none

def governed (rows : Option (List RoutingPolicyRow)) : Seen → Seen
  | .answered response _ => .answered response (loadRoutingPolicy rows)
  | seen => seen

def poll (answer : ProviderResponse) : Seen → Seen
  | .answered response _ => .polled response answer
  | seen => seen

end Seen

/-- Recorded as a 429 that fails over. -/
def AttemptTerminal.rateLimited (terminal : AttemptTerminal) : Bool :=
  terminal.statusCode = some 429 &&
    terminal.errorClass = some "upstream_rate_limited"

def RequestTerminal.rateLimited (terminal : RequestTerminal) : Bool :=
  terminal.errorClass = some "upstream_rate_limited"

def Response.rateLimited : Response → Bool
  | .error status _ _ code _ =>
      status.code = 429 && code = "upstream_rate_limited"
  | _ => false

def OpenTerminal.attempt (terminal : OpenTerminal) : AttemptTerminal where
  outcome := terminal.outcome
  statusCode := terminal.statusCode
  errorClass := some terminal.errorClass
  cooldownAppliedUntil := none
  bytesOut := some (bytesColumn terminal.bytesOut)

structure Ending where
  keyId : Uuid
  seen : Seen
  terminal : AttemptTerminal

/-- An ending that leaves `all_attempts_rate_limited` as it is. -/
def Ending.keepsFlag (ending : Ending) : Bool :=
  ending.terminal.rateLimited ||
    match ending.seen with
    | .injected _ => true
    | _ => false

inductive Stage where
  | admitting
  | started
  | attempting (keyId : Uuid) (seen : Seen)
  | between
  | closed (request : RequestTerminal)

/-- The last write of an attempt, alone or with that of its request. -/
inductive FinalWrite where
  | attemptOnly
  | withRequest
  deriving DecidableEq

structure RequestProgress where
  stage : Stage
  /-- Granted, and neither released nor left to a task that releases it. -/
  permit : Bool
  keys : List Uuid
  endings : List Ending
  listed : Option Nat
  failed : Option FinalWrite
  /-- The start of an attempt could not be written. -/
  refused : Bool

namespace RequestProgress

def initial : RequestProgress where
  stage := .admitting
  permit := false
  keys := []
  endings := []
  listed := none
  failed := none
  refused := false

def see (progress : RequestProgress) (change : Seen → Seen) : RequestProgress :=
  match progress.stage with
  | .attempting keyId seen =>
      { progress with stage := .attempting keyId (change seen) }
  | _ => progress

def begin (progress : RequestProgress) (keyId : Uuid) : RequestProgress :=
  { progress with
    stage := .attempting keyId .nothing
    keys := progress.keys ++ [keyId] }

/-- The attempt under way, if there is one, ends like this. -/
def finish (progress : RequestProgress) (terminal : AttemptTerminal)
    (stage : Stage) : RequestProgress :=
  match progress.stage with
  | .attempting keyId seen =>
      { progress with
        stage
        endings := progress.endings ++ [{ keyId, seen, terminal }] }
  | _ => { progress with stage }

/-- What an answer adds to the progress of a request. -/
def after (progress : RequestProgress) (op : ProxyOp) (answer : op.Answer) :
    RequestProgress :=
  match op, answer with
  | .acquireDownstreamPermit, .ok acquired =>
      { progress with permit := acquired }
  | .releaseDownstreamPermit, .ok _ => { progress with permit := false }
  | .spawnPermitRelease, _ => { progress with permit := false }
  | .proxyRequestStarted, .ok _ => { progress with stage := .started }
  | .selectAndStartRequest, .ok (some keyId) => progress.begin keyId
  | .attemptStarted keyId, .ok _ => progress.begin keyId
  | .attemptStarted _, .error _ => { progress with refused := true }
  | .list, keys =>
      { progress with listed := progress.listed.or (some keys.length) }
  | .consumeLiveFailureFixture _, .ok (some kind) =>
      progress.see fun _ => .injected kind
  | .credential _, .error _ => progress.see fun _ => .unreadable
  | .post _ _ _ _, .ok response =>
      progress.see fun _ => .answered response (loadRoutingPolicy none)
  | .post _ _ _ _, .error _ => progress.see fun _ => .unreachable
  | .routingPolicies, rows =>
      progress.see fun
        | .answered response _ => .answered response (loadRoutingPolicy rows)
        | seen => seen
  | .poll _ _, .ok answer =>
      if answer.status.code = 202 then progress
      else progress.see fun
        | .answered response _ => .polled response answer
        | seen => seen
  | .attemptFinished _ terminal, .ok _ => progress.finish terminal .between
  | .attemptFinished _ _, .error _ =>
      { progress with failed := some .attemptOnly }
  | .requestAndAttemptFinished _ attempt request, .ok _ =>
      progress.finish attempt (.closed request)
  | .requestAndAttemptFinished _ _ _, .error _ =>
      { progress with failed := some .withRequest }
  | .proxyRequestFinished request, .ok _ =>
      { progress with stage := .closed request }
  | .requestAndOpenAttemptsFinished terminal, .ok _ =>
      progress.finish terminal.attempt (.closed terminal.request)
  | _, _ => progress

end RequestProgress

/-- The answers there can be: the selection leaves out what it is told to. -/
def Legal : ∀ op : ProxyOp, op.Answer → Prop
  | .selectFailoverKey attempted, answer =>
      ∀ keyId, answer = some keyId → keyId ∉ attempted
  | _, _ => True

theorem selectFailoverKey_legal (now : Timestamp) (profile : String)
    (attempted : List Uuid) (source : FailoverSource) :
    Legal (.selectFailoverKey attempted)
      (selectFailoverKey now profile attempted source) := by
  intro keyId selected
  cases source with
  | rows state ownerSeen =>
      obtain ⟨key, found, rfl⟩ := Option.map_eq_some_iff.mp selected
      simpa using List.find?_some found
  | unanswered => cases selected
  | memory vault =>
      obtain ⟨key, found, rfl⟩ := Option.map_eq_some_iff.mp selected
      have passes := List.find?_some found
      simp only [Bool.and_eq_true] at passes
      simpa using passes.1.1.1

/-- What a handler brings to the protocol: the status the mock provider is
asked for, whether one attempt is all there is, whether the answer is streamed,
and how much of a body is read. -/
structure Setting where
  parse : String → Option Json
  mocked : Option Nat
  single : Bool
  stream : Bool
  limit : Nat

def DropRecovery.EvidenceFailure (recovery : DropRecovery) : Prop :=
  recovery.outcome = .failed ∧ recovery.errorClass = "evidence_unavailable"

/-- What is owned is recorded as a failure of its evidence. -/
def Held.Armed (held : Held) : Prop :=
  ∃ recovery, held.recovery = some recovery ∧
    DropRecovery.EvidenceFailure recovery

/-- A label of an error as the tables have room for. -/
def LabelFits (label : Option String) : Prop :=
  ∀ text, label = some text → 1 ≤ text.length ∧ text.length ≤ 80

theorem fits_of_none {α : Type} {column : Option α} {fits : α → Prop} (empty : column = none) :
    ∀ value, column = some value → fits value := by
  rintro value rfl
  cases empty

structure OpenTerminalFits (terminal : OpenTerminal) : Prop where
  status : ∀ code, terminal.statusCode = some code → 100 ≤ code ∧ code ≤ 599
  label : LabelFits (some terminal.errorClass)
  ttfb : ∀ elapsed, terminal.ttfbMs = some elapsed → 0 ≤ elapsed
  other : terminal.errorClass ≠ "upstream_rate_limited"
  unsuccessful : terminal.outcome ≠ .succeeded

/-- Whatever is written when it is dropped, the tables take it. -/
structure Held.Fits (held : Held) : Prop where
  evidence : ∀ evidence, held.request = some evidence →
    OpenTerminalFits evidence.dropRecovery
  guard : ∀ guard, held = .guard guard → OpenTerminalFits guard.drop

section Protocol

variable (setting : Setting)

def Seen.broken (seen : Seen) : Bool :=
  match seen with
  | .answered response _ =>
      setting.stream && response.status.isSuccess &&
        mediaTypeIs "text/event-stream"
          ((response.headers "content-type").getD "application/json") &&
        (match primeStream setting.parse response.events .initial [] with
          | .error () => true
          | .ok _ => false)
  | _ => false

/-- The provider's 429, which fails over under the policy.  The mock provider
asks no policy; `count` are the attempts so far. -/
def rateLimits (count : Nat) (seen : Seen) : Bool :=
  match seen with
  | .answered response policy =>
      response.status.code = 429 &&
        policy.retryableStatuses.any fun status => status.toNat = 429
  | .nothing => setting.mocked = some 429 && count = 1
  | _ => false

/-- A status that the provider has given, if it is not one of the gateway's
own. -/
def StatusFrom (seen : Seen) (status : Nat) : Prop :=
  100 ≤ status ∧ (status ≤ 599 ∨ seen.status = some status ∨
    setting.mocked = some status)

structure Closing (progress : RequestProgress) (keyId : Uuid) (seen : Seen)
    (terminal : AttemptTerminal) : Prop where
  stage : progress.stage = .attempting keyId seen
  unfailed : progress.failed = none
  status : ∀ code, terminal.statusCode = some code →
    StatusFrom setting seen code
  label : LabelFits terminal.errorClass
  bytes : ∀ count, terminal.bytesOut = some count → 0 ≤ count
  rateLimited : terminal.rateLimited =
    rateLimits setting progress.keys.length seen
  succeeds : terminal.outcome = .succeeded → seen.accepted = true →
    ∃ accepted answer, seen = .polled accepted answer ∧
      terminal.statusCode = some answer.status.code

/-- The request ends as rate limited if all its attempts did; an injected
failure counts as none. -/
structure ClosingRequest (progress : RequestProgress) (seen : Seen)
    (attempt : AttemptTerminal) (request : RequestTerminal) : Prop where
  status : ∀ code, request.statusCode = some code →
    StatusFrom setting seen code
  label : LabelFits request.errorClass
  ttfb : ∀ elapsed, request.ttfbMs = some elapsed → 0 ≤ elapsed
  rateLimited : request.rateLimited =
    (progress.endings.all Ending.keepsFlag && attempt.rateLimited)
  succeeds : request.outcome = .succeeded → attempt.outcome = .succeeded

/-- A job that the provider has is given up on one condition only. -/
def Resumes (seen : Seen) : Prop :=
  seen.accepted = true → ∃ accepted answer, seen = .polled accepted answer ∧
    boundedResponseBytes setting.limit answer = .error .transport

/-- The requests that are due, stage by stage. -/
inductive Due (progress : RequestProgress) : ProxyOp → Prop where
  | acquire (stage : progress.stage = .admitting)
      (ungranted : progress.permit = false) :
      Due progress .acquireDownstreamPermit
  | select (stage : progress.stage = .admitting) :
      Due progress .selectAndStartRequest
  | start (stage : progress.stage = .admitting) :
      Due progress .proxyRequestStarted
  | initialKey (stage : progress.stage = .started) :
      Due progress .selectInitialKey
  | first (keyId : Uuid) (stage : progress.stage = .started)
      (unrefused : progress.refused = false) :
      Due progress (.attemptStarted keyId)
  | another (keyId : Uuid) (stage : progress.stage = .between)
      (unrefused : progress.refused = false)
      (fresh : keyId ∉ progress.keys) (several : setting.single = false)
      (room : progress.keys.length < max 1 (progress.listed.getD 1)) :
      Due progress (.attemptStarted keyId)
  | looks (op : ProxyOp) (calm : op = .list ∨ op = .now ∨ op = .elapsedMs) :
      Due progress op
  | failover (attempted : List Uuid) (all : attempted = progress.keys) :
      Due progress (.selectFailoverKey attempted)
  | serves (op : ProxyOp) (keyId : Uuid) (seen : Seen)
      (stage : progress.stage = .attempting keyId seen)
      (unfailed : progress.failed = none)
      (serving : op = .recordRequest keyId ∨
        (∃ retryAfter, op = .recordFailure keyId retryAfter) ∨
        op = .quarantine keyId ∨ op = .routingPolicies ∨ op = .body ∨
        op = .prime ∨ op = .next ∨ op = .pollDeadlinePassed ∨ op = .sleep ∨
        (∃ endpoint credential, op = .poll endpoint credential) ∨
        (∃ ttfbMs, op = .attemptResponseStarted keyId ttfbMs ∧ 0 ≤ ttfbMs)) :
      Due progress op
  | sends (op : ProxyOp) (keyId : Uuid)
      (stage : progress.stage = .attempting keyId .nothing)
      (unfailed : progress.failed = none)
      (sending : op = .recordAcceptedDownstreamUse ∨
        (op = .consumeLiveFailureFixture keyId ∧ progress.keys = [keyId]) ∨
        op = .credential keyId ∨
        ∃ endpoint credential body, op = .post keyId endpoint credential body) :
      Due progress op
  | attemptFinished (keyId : Uuid) (seen : Seen) (terminal : AttemptTerminal)
      (closing : Closing setting progress keyId seen terminal)
      (resumes : Resumes setting seen)
      (failed : terminal.outcome = .failed) :
      Due progress (.attemptFinished keyId terminal)
  | requestAndAttemptFinished (keyId : Uuid) (seen : Seen)
      (attempt : AttemptTerminal) (request : RequestTerminal)
      (closing : Closing setting progress keyId seen attempt)
      (with_request : ClosingRequest setting progress seen attempt request) :
      Due progress (.requestAndAttemptFinished keyId attempt request)
  | unstarted (request : RequestTerminal)
      (stage : progress.stage = .started)
      (isFailed : request = .failed 503 "no_eligible_upstream") :
      Due progress (.proxyRequestFinished request)
  | unsuited (request : RequestTerminal) (keyId : Uuid)
      (stage : progress.stage =
        .attempting keyId (.injected "after_first_frame"))
      (unfailed : progress.failed = none) (plain : setting.stream = false)
      (isFailed : request = .failed 500 "qa_fixture_contract_error") :
      Due progress (.proxyRequestFinished request)
  | unused (keyId : Uuid) (terminal : OpenTerminal)
      (stage : progress.stage = .attempting keyId .nothing)
      (unfailed : progress.failed = none)
      (fits : OpenTerminalFits terminal) (failed : terminal.outcome = .failed) :
      Due progress (.requestAndOpenAttemptsFinished terminal)
  | recovered (keyId : Uuid) (seen : Seen) (terminal : OpenTerminal)
      (stage : progress.stage = .attempting keyId seen)
      (afterFailure : progress.failed = some .withRequest)
      (fits : OpenTerminalFits terminal)
      (evidence : DropRecovery.EvidenceFailure terminal) :
      Due progress (.requestAndOpenAttemptsFinished terminal)
  | release (op : ProxyOp) (request : RequestTerminal)
      (stage : progress.stage = .closed request)
      (releasing : op = .releaseDownstreamPermit ∨ op = .spawnPermitRelease) :
      Due progress op
  | emits (frame : Bytes) : Due progress (.emit frame)

/-- What a handler owns covers what it has open: whoever drops it leaves a
task that closes the request and one that releases the permit. -/
structure Owns (held : Held) (progress : RequestProgress) : Prop where
  fits : held.Fits
  request : progress.stage = .started ∨ progress.stage = .between ∨
    (∃ keyId seen, progress.stage = .attempting keyId seen) →
      held.recovery.isSome = true
  permit : progress.permit = true → held.releases = true
  attemptOnly : progress.failed = some .attemptOnly →
    ∃ keyId seen, progress.stage = .attempting keyId seen ∧
      if seen.broken setting then
        held.recovery = some .handlerAbandoned
      else
        held.Armed
  withRequest : progress.failed = some .withRequest →
    held.Armed ∨ ∃ request, progress.stage = .closed request ∧
      request.outcome = .failed ∧
      request.errorClass = some "evidence_unavailable"

def proxyMonitor : Monitor Held ProxyOp ProxyOp.Answer RequestProgress where
  initial := .initial
  next := RequestProgress.after
  allows := fun progress held op =>
    Owns setting held progress ∧ Due setting progress op

/-- A client is told that every key is rate limited exactly where that is on
record. -/
structure Answers (response : Response) (held : Held) (progress : RequestProgress) :
    Prop where
  owns : Owns setting held progress
  rateLimited : response.rateLimited = true ↔
    ∃ request, progress.stage = .closed request ∧ request.rateLimited = true
  between : progress.stage = .between → progress.refused = true

end Protocol

end NvidiaBuildLb.Gateway
