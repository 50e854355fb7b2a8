import NvidiaBuildLb.Gateway.ProxyRuns

namespace NvidiaBuildLb.Gateway

open Foundation NvidiaBuildLb.Core

/-! When a client is told that every key is rate limited. -/

def evidenceFails (op : ProxyOp) (answer : op.Answer) : Bool :=
  match op, answer with
  | .selectAndStartRequest, .error _ => true
  | .proxyRequestStarted, .error _ => true
  | .attemptStarted _, .error _ => true
  | .attemptResponseStarted _ _, .error _ => true
  | .attemptFinished _ _, .error _ => true
  | .requestAndAttemptFinished _ _ _, .error _ => true
  | .proxyRequestFinished _, .error _ => true
  | .requestAndOpenAttemptsFinished _, .error _ => true
  | _, _ => false

def EvidenceSucceeds (log : ProxyLog) : Prop :=
  ∀ exchange ∈ log, evidenceFails exchange.op exchange.answer = false

def RuntimeRoutingPolicy.retriesRateLimit (policy : RuntimeRoutingPolicy) : Bool :=
  policy.retryableStatuses.any fun status => status.toNat = 429

namespace Ending

def injected (ending : Ending) : Bool :=
  match ending.seen with
  | .injected _ => true
  | _ => false

/-- The provider answered 429, and the policy in force then retries it.  The
mock provider's answer is known from the record of the attempt alone, and no
policy is asked for it. -/
def Retried (setting : Setting) (ending : Ending) : Prop :=
  match ending.seen with
  | .answered response policy =>
      response.status.code = 429 ∧ policy.retriesRateLimit = true
  | .nothing => setting.mocked = some 429 ∧ ending.terminal.rateLimited = true
  | _ => False

/-- The attempt ended in a 429 of the provider that the active policy
classifies as retryable; `active` is the policy at the time of the mock
provider's answer. -/
def Limited (setting : Setting) (active : RuntimeRoutingPolicy) (ending : Ending) : Prop :=
  ending.Retried setting ∧ (ending.seen = .nothing → active.retriesRateLimit = true)

end Ending

/-- At least one attempt was made, and every one ended so. -/
structure AllLimited (setting : Setting) (active : RuntimeRoutingPolicy)
    (progress : RequestProgress) : Prop where
  made : progress.keys ≠ []
  ended : progress.keys.length = progress.endings.length
  limited : ∀ ending ∈ progress.endings, ending.Limited setting active

/-- The last attempt is one that the handler takes for rate limited, and of the
others some may have been injected: one has, or the mock provider's answer is
one that the active policy does not retry. -/
structure Mistaken (setting : Setting) (active : RuntimeRoutingPolicy)
    (progress : RequestProgress) : Prop where
  ended : progress.keys.length = progress.endings.length
  last : ∃ front last, progress.endings = front ++ [last] ∧ last.Retried setting ∧
    ∀ ending ∈ front, ending.Retried setting ∨ ending.injected = true
  other : (∃ ending ∈ progress.endings, ending.injected = true) ∨
    ∃ ending ∈ progress.endings, ending.seen = .nothing ∧
      active.retriesRateLimit = false

/-- What is on record, stage by stage, where every write succeeds. -/
def OnRecord (progress : RequestProgress) : Prop :=
  match progress.stage with
  | .admitting => progress.keys = [] ∧ progress.endings = []
  | .started => progress.keys = [] ∧ progress.endings = []
  | .attempting _ _ => progress.keys.length = progress.endings.length + 1
  | .between => progress.keys.length = progress.endings.length
  | .closed request => request.rateLimited = true ↔
      progress.keys.length = progress.endings.length ∧
        ∃ front last, progress.endings = front ++ [last] ∧
          front.all Ending.keepsFlag = true ∧ last.terminal.rateLimited = true

structure Accounts (setting : Setting) (progress : RequestProgress) : Prop where
  unfailed : progress.failed = none
  unrefused : progress.refused = false
  course : OnRecord progress
  endings : ∀ ending ∈ progress.endings,
    ending.terminal.rateLimited = true ↔ ending.Retried setting

theorem retried_iff {setting : Setting} {keyId : Uuid} {seen : Seen}
    {terminal : AttemptTerminal} {count : Nat}
    (limits : terminal.rateLimited = rateLimits setting count seen) :
    terminal.rateLimited = true ↔ Ending.Retried setting ⟨keyId, seen, terminal⟩ := by
  cases seen with
  | answered response policy =>
      rw [limits]
      simp [rateLimits, Ending.Retried, RuntimeRoutingPolicy.retriesRateLimit]
  | nothing =>
      simp only [Ending.Retried]
      refine ⟨fun limited => ⟨?_, limited⟩, fun retried => retried.2⟩
      rw [limits] at limited
      simp only [rateLimits, Bool.and_eq_true, decide_eq_true_eq] at limited
      exact limited.1
  | injected kind => simp [limits, rateLimits, Ending.Retried]
  | unreadable => simp [limits, rateLimits, Ending.Retried]
  | unreachable => simp [limits, rateLimits, Ending.Retried]
  | polled accepted answer => simp [limits, rateLimits, Ending.Retried]

section Step

variable {setting : Setting} {progress : RequestProgress} {op : ProxyOp} {answer : op.Answer}

theorem see_unfailed (change : Seen → Seen) :
    (progress.see change).failed = progress.failed ∧
      (progress.see change).refused = progress.refused := by
  unfold RequestProgress.see
  split <;> exact ⟨rfl, rfl⟩

theorem finish_unfailed (terminal : AttemptTerminal) (stage : Stage) :
    (progress.finish terminal stage).failed = progress.failed ∧
      (progress.finish terminal stage).refused = progress.refused := by
  unfold RequestProgress.finish
  split <;> exact ⟨rfl, rfl⟩

theorem after_unfailed (succeeds : evidenceFails op answer = false) :
    (progress.after op answer).failed = progress.failed ∧
      (progress.after op answer).refused = progress.refused := by
  unfold RequestProgress.after
  split
  all_goals first
    | exact ⟨rfl, rfl⟩
    | exact see_unfailed _
    | exact finish_unfailed _ _
    | cases succeeds
  split
  · exact ⟨rfl, rfl⟩
  · exact see_unfailed _

theorem onRecord_begin {keyId : Uuid}
    (even : progress.keys.length = progress.endings.length) :
    OnRecord (progress.begin keyId) := by
  have length : (progress.keys ++ [keyId]).length = progress.keys.length + 1 := by simp
  exact length.trans (congrArg (· + 1) even)

theorem onRecord_see (change : Seen → Seen) (course : OnRecord progress) :
    OnRecord (progress.see change) ∧ (progress.see change).endings = progress.endings := by
  unfold RequestProgress.see
  split
  case h_1 keyId seen stage =>
      refine ⟨?_, rfl⟩
      rw [OnRecord, stage] at course
      exact course
  case h_2 => exact ⟨course, rfl⟩

theorem finish_attempting {keyId : Uuid} {seen : Seen} {terminal : AttemptTerminal}
    {next : Stage} (stage : progress.stage = .attempting keyId seen) :
    progress.finish terminal next = { progress with
      stage := next
      endings := progress.endings ++ [{ keyId, seen, terminal }] } := by
  rw [RequestProgress.finish, stage]

theorem endings_snoc {last : Ending}
    (earlier : ∀ ending ∈ progress.endings,
      ending.terminal.rateLimited = true ↔ ending.Retried setting)
    (isLast : last.terminal.rateLimited = true ↔ last.Retried setting) :
    ∀ ending ∈ progress.endings ++ [last],
      ending.terminal.rateLimited = true ↔ ending.Retried setting := by
  intro ending member
  rcases List.mem_append.mp member with before | isEnding
  · exact earlier ending before
  · cases List.mem_singleton.mp isEnding
    exact isLast

theorem closed_onRecord {before : List Ending} {last : Ending} {keys : List Uuid}
    {request : RequestTerminal} (length : keys.length = (before ++ [last]).length)
    (limited : request.rateLimited =
      (before.all Ending.keepsFlag && last.terminal.rateLimited)) :
    request.rateLimited = true ↔ keys.length = (before ++ [last]).length ∧
      ∃ front other, before ++ [last] = front ++ [other] ∧
        front.all Ending.keepsFlag = true ∧ other.terminal.rateLimited = true := by
  rw [limited, Bool.and_eq_true]
  constructor
  · rintro ⟨kept, isLast⟩
    exact ⟨length, before, last, rfl, kept, isLast⟩
  · rintro ⟨_, front, other, same, kept, isLast⟩
    obtain ⟨rfl, sameLast⟩ := List.append_inj' same rfl
    cases sameLast
    exact ⟨kept, isLast⟩

theorem accounts_finish {terminal : AttemptTerminal} {next : Stage}
    (accounts : Accounts setting progress) (due : Due setting progress op)
    (isFinish : Finishes op answer terminal next) :
    OnRecord (progress.finish terminal next) ∧
      ∀ ending ∈ (progress.finish terminal next).endings,
        ending.terminal.rateLimited = true ↔ ending.Retried setting := by
  obtain ⟨unfailed, _, course, endings⟩ := accounts
  cases isFinish with
  | alone keyId terminal =>
      obtain ⟨seen, closing, _, _⟩ := due_attemptFinished due
      rw [OnRecord, closing.stage] at course
      rw [finish_attempting closing.stage]
      refine ⟨?_, endings_snoc endings (retried_iff closing.rateLimited)⟩
      simpa [OnRecord] using course
  | withRequest keyId attempt request =>
      obtain ⟨seen, closing, closingRequest⟩ := due_requestAndAttemptFinished due
      rw [OnRecord, closing.stage] at course
      rw [finish_attempting closing.stage]
      refine ⟨?_, endings_snoc endings (retried_iff closing.rateLimited)⟩
      exact closed_onRecord (by simpa using course) closingRequest.rateLimited
  | withOpen terminal =>
      obtain ⟨fits, _, keyId, seen, stage, ⟨rfl, _⟩ | ⟨afterFailure, _⟩⟩ :=
        due_openAttemptsFinished due
      · have unlimited : terminal.attempt.rateLimited = false := by
          simp [AttemptTerminal.rateLimited, OpenTerminal.attempt, fits.other]
        have requestUnlimited : terminal.request.rateLimited = false := by
          simp [RequestTerminal.rateLimited, OpenTerminal.request, fits.other]
        rw [OnRecord, stage] at course
        rw [finish_attempting stage]
        refine ⟨?_, endings_snoc endings ?_⟩
        · refine closed_onRecord (by simpa using course) ?_
          rw [requestUnlimited, unlimited, Bool.and_false]
        · simp [Ending.Retried, unlimited]
      · rw [unfailed] at afterFailure
        cases afterFailure

theorem accounts_begin {keyId : Uuid} (accounts : Accounts setting progress)
    (due : Due setting progress op) (isBegin : Begins op answer keyId) :
    progress.keys.length = progress.endings.length := by
  have course := accounts.course
  rcases isBegin.stage due with stage | stage | stage
  · rw [OnRecord, stage] at course
    rw [course.1, course.2]
    rfl
  · rw [OnRecord, stage] at course
    rw [course.1, course.2]
    rfl
  · rw [OnRecord, stage] at course
    exact course

theorem accounts_start (accounts : Accounts setting progress)
    (due : Due setting progress .proxyRequestStarted) :
    OnRecord { progress with stage := .started } := by
  have course := accounts.course
  rw [OnRecord, due_start due] at course
  exact course

theorem accounts_close {request : RequestTerminal} (accounts : Accounts setting progress)
    (due : Due setting progress (.proxyRequestFinished request)) :
    OnRecord { progress with stage := .closed request } := by
  have course := accounts.course
  rcases due_proxyRequestFinished due with ⟨stage, isFailed⟩ | ⟨keyId, stage, _, _, isFailed⟩
  · rw [OnRecord, stage] at course
    refine iff_of_false (by simp [isFailed, RequestTerminal.rateLimited,
      RequestTerminal.failed]) ?_
    rintro ⟨_, front, last, same, _⟩
    rw [course.2] at same
    simp at same
  · rw [OnRecord, stage] at course
    refine iff_of_false (by simp [isFailed, RequestTerminal.rateLimited,
      RequestTerminal.failed]) ?_
    rintro ⟨length, _⟩
    have even : progress.keys.length = progress.endings.length := length
    omega

theorem accounts_step (accounts : Accounts setting progress)
    (due : Due setting progress op) (succeeds : evidenceFails op answer = false) :
    Accounts setting (progress.after op answer) := by
  obtain ⟨unfailed, unrefused⟩ :
      (progress.after op answer).failed = progress.failed ∧
        (progress.after op answer).refused = progress.refused :=
    after_unfailed succeeds
  have records : OnRecord (progress.after op answer) ∧
      ∀ ending ∈ (progress.after op answer).endings,
        ending.terminal.rateLimited = true ↔ ending.Retried setting := by
    cases after_moves progress op answer with
    | stays stage keys endings =>
        refine ⟨?_, endings ▸ accounts.endings⟩
        have course := accounts.course
        unfold OnRecord at course ⊢
        rw [stage, keys, endings]
        exact course
    | begins keyId isBegin same =>
        rw [same]
        exact ⟨onRecord_begin (accounts_begin accounts due isBegin), accounts.endings⟩
    | finishes terminal stage isFinish same =>
        rw [same]
        exact accounts_finish accounts due isFinish
    | sees change isSeen same =>
        obtain ⟨course, endings⟩ := onRecord_see change accounts.course
        rw [same, endings]
        exact ⟨course, accounts.endings⟩
    | starts isStart same =>
        subst isStart
        rw [same]
        exact ⟨accounts_start accounts due, accounts.endings⟩
    | closes request isClose same =>
        subst isClose
        rw [same]
        exact ⟨accounts_close accounts due, accounts.endings⟩
  exact ⟨unfailed.trans accounts.unfailed, unrefused.trans accounts.unrefused, records.1,
    records.2⟩

theorem accounts_of_conforms {log : ProxyLog}
    (conforms : Monitor.Conforms Legal (proxyMonitor setting) log)
    (succeeds : EvidenceSucceeds log) :
    Accounts setting ((proxyMonitor setting).state log) := by
  induction conforms with
  | nil => exact ⟨rfl, rfl, ⟨rfl, rfl⟩, fun _ member => by cases member⟩
  | @snoc log op answer held before allowed isLegal induction =>
      rw [Monitor.state_append]
      refine accounts_step (induction ?_) allowed.2 ?_
      · exact fun exchange member => succeeds exchange (List.mem_append_left _ member)
      · exact succeeds ⟨op, answer⟩ (by simp)

end Step

theorem keepsFlag_iff {setting : Setting} {ending : Ending}
    (recorded : ending.terminal.rateLimited = true ↔ ending.Retried setting) :
    ending.keepsFlag = true ↔ ending.Retried setting ∨ ending.injected = true := by
  rw [Ending.keepsFlag, Bool.or_eq_true, recorded]
  exact Iff.rfl

theorem injected_not_retried {setting : Setting} {ending : Ending}
    (isInjected : ending.injected = true) : ¬ending.Retried setting := by
  intro retried
  unfold Ending.injected at isInjected
  unfold Ending.Retried at retried
  split at isInjected
  case h_1 seen =>
      rw [seen] at retried
      exact retried
  case h_2 => cases isInjected

theorem closed_of_ended {setting : Setting} {progress : RequestProgress}
    {response : Response} {held : Held} (accounts : Accounts setting progress)
    (answers : Answers setting response held progress)
    (ended : progress.keys.length = progress.endings.length)
    (made : progress.endings ≠ []) : ∃ request, progress.stage = .closed request := by
  have course := accounts.course
  unfold OnRecord at course
  cases stage : progress.stage with
  | admitting =>
      rw [stage] at course
      exact absurd course.2 made
  | started =>
      rw [stage] at course
      exact absurd course.2 made
  | attempting keyId seen =>
      rw [stage] at course
      simp only at course
      omega
  | between =>
      cases accounts.unrefused.symm.trans (answers.between stage)
  | closed request => exact ⟨request, rfl⟩

/-- On record the client's answer is about the last attempt, and about those
before it that were not injected. -/
theorem closed_limited {setting : Setting} {progress : RequestProgress}
    {request : RequestTerminal} (accounts : Accounts setting progress)
    (closed : progress.stage = .closed request) :
    request.rateLimited = true ↔ progress.keys.length = progress.endings.length ∧
      ∃ front last, progress.endings = front ++ [last] ∧ last.Retried setting ∧
        ∀ ending ∈ front, ending.Retried setting ∨ ending.injected = true := by
  have course := accounts.course
  rw [OnRecord, closed] at course
  refine course.trans (and_congr_right fun _ => exists_congr fun front =>
    exists_congr fun last => and_congr_right fun same => ?_)
  have recorded := accounts.endings
  rw [same] at recorded
  rw [recorded last (by simp), List.all_eq_true, and_comm]
  refine and_congr_right fun _ => forall_congr' fun ending =>
    forall_congr' fun member => keepsFlag_iff (recorded ending ?_)
  exact List.mem_append_left _ member

theorem told_limited {setting : Setting} {progress : RequestProgress}
    {response : Response} {held : Held} (accounts : Accounts setting progress)
    (answers : Answers setting response held progress) :
    response.rateLimited = true ↔ progress.keys.length = progress.endings.length ∧
      ∃ front last, progress.endings = front ++ [last] ∧ last.Retried setting ∧
        ∀ ending ∈ front, ending.Retried setting ∨ ending.injected = true := by
  rw [answers.rateLimited]
  constructor
  · rintro ⟨request, closed, limited⟩
    exact (closed_limited accounts closed).mp limited
  · rintro ⟨ended, front, last, same, rest⟩
    obtain ⟨request, closed⟩ := closed_of_ended accounts answers ended (by simp [same])
    exact ⟨request, closed,
      (closed_limited accounts closed).mpr ⟨ended, front, last, same, rest⟩⟩

theorem AllLimited.told {setting : Setting} {active : RuntimeRoutingPolicy}
    {progress : RequestProgress} (all : AllLimited setting active progress) :
    ∃ front last, progress.endings = front ++ [last] ∧ last.Retried setting ∧
      ∀ ending ∈ front, ending.Retried setting ∨ ending.injected = true := by
  have made : progress.endings ≠ [] := by
    intro none
    have ended := all.ended
    rw [none, List.length_nil, List.length_eq_zero_iff] at ended
    exact all.made ended
  obtain ⟨front, last, same⟩ := List.eq_nil_or_concat' progress.endings |>.resolve_left made
  have limited := all.limited
  rw [same] at limited
  refine ⟨front, last, same, (limited last (by simp)).1, ?_⟩
  exact fun ending member => .inl (limited ending (List.mem_append_left _ member)).1

theorem Mistaken.not_all {setting : Setting} {active : RuntimeRoutingPolicy}
    {progress : RequestProgress} (mistaken : Mistaken setting active progress) :
    ¬AllLimited setting active progress := by
  intro all
  rcases mistaken.other with ⟨ending, member, isInjected⟩ | ⟨ending, member, mock, forgives⟩
  · exact injected_not_retried isInjected (all.limited ending member).1
  · have retries := (all.limited ending member).2 mock
    rw [forgives] at retries
    cases retries

section Told

variable {handler : Handler} {representations : Representations} {host : Proxy.Host}
  {call : ProxyCall} {log : ProxyLog} {ending : ProxyEnding} {response : Response}

/-- An attempt whose health write is refused ends as a failure of the evidence,
not in its 429. -/
theorem rate_limit_outcome_exact (active : RuntimeRoutingPolicy)
    (run : Runs handler representations host call log ending) (told : Told ending response)
    (succeeds : EvidenceSucceeds log) :
    (response.rateLimited = true ↔
      AllLimited (handler.setting representations host call) active (courseOf log)) ↔
    ¬Mistaken (handler.setting representations host call) active (courseOf log) := by
  obtain ⟨held, answers⟩ := run.answers told
  have accounts : Accounts (handler.setting representations host call) (courseOf log) :=
    accounts_of_conforms run.stands.1 succeeds
  have limited := told_limited accounts answers
  constructor
  · intro exact mistaken
    exact mistaken.not_all (exact.mp (limited.mpr ⟨mistaken.ended, mistaken.last⟩))
  · intro unmistaken
    refine ⟨fun isLimited => ?_, fun all => limited.mpr ⟨all.ended, all.told⟩⟩
    obtain ⟨ended, front, last, same, isLast, rest⟩ := limited.mp isLimited
    have natural : ∀ ending ∈ (courseOf log).endings, ending.injected = false := by
      intro ending member
      by_contra isInjected
      exact unmistaken ⟨ended, ⟨front, last, same, isLast, rest⟩,
        .inl ⟨ending, member, by simpa using isInjected⟩⟩
    have retried : ∀ ending ∈ (courseOf log).endings,
        ending.Retried (handler.setting representations host call) := by
      intro ending member
      have plain := natural ending member
      rw [same] at member
      rcases List.mem_append.mp member with before | isEnding
      · exact (rest ending before).resolve_right (by simp [plain])
      · cases List.mem_singleton.mp isEnding
        exact isLast
    refine ⟨?_, ended, fun ending member => ⟨retried ending member, fun mock => ?_⟩⟩
    · intro none
      rw [none, same] at ended
      simp at ended
    · by_contra forgives
      exact unmistaken ⟨ended, ⟨front, last, same, isLast, rest⟩,
        .inr ⟨ending, member, mock, by simpa using forgives⟩⟩

end Told

namespace ProxyScript

/-- Both keys are rate limited, but that the first attempt may be one of a
fixture. -/
def limiting (fixture : Option String) : ProxyScript where
  keys := [key 1, key 2]
  post := fun _ => .ok (response .tooManyRequests (fun _ => none) [])
  poll := .error ()
  fixture
  attemptFinished := .ok ()

def limitingRun (fixture : Option String) : ProxyLog × ProxyEnding :=
  (limiting fixture).replay .chat representations host
    (call "/v1/chat/completions" false) 20

theorem evidenceSucceeds_of_all {log : ProxyLog}
    (all : log.all (fun exchange => !evidenceFails exchange.op exchange.answer) = true) :
    EvidenceSucceeds log := by
  intro exchange member
  simpa using List.all_eq_true.mp all exchange member

theorem rate_limit_outcome_exact_limited :
    (Proxy.upstreamRateLimited.rateLimited = true ↔
      AllLimited (Handler.chat.setting representations host
        (call "/v1/chat/completions" false)) .builtIn (courseOf (limitingRun none).1)) ↔
    ¬Mistaken (Handler.chat.setting representations host
      (call "/v1/chat/completions" false)) .builtIn (courseOf (limitingRun none).1) :=
  rate_limit_outcome_exact .builtIn (replay_runs (limiting none) .chat representations host
    (call "/v1/chat/completions" false) 20) ⟨_, .inl rfl⟩ (evidenceSucceeds_of_all rfl)

/-- The first attempt ended in a transport failure of the fixture, and the
client is told that every key is rate limited. -/
theorem rate_limit_outcome_mistaken :
    ¬∀ (representations : Representations) (host : Proxy.Host) (call : ProxyCall)
      (active : RuntimeRoutingPolicy) (log : ProxyLog) (ending : ProxyEnding)
      (response : Response), Runs .chat representations host call log ending →
        Told ending response → EvidenceSucceeds log →
        (response.rateLimited = true ↔
          AllLimited (Handler.chat.setting representations host call) active
            (courseOf log)) := by
  intro always
  have exact := always representations host (call "/v1/chat/completions" false) .builtIn _ _
    Proxy.upstreamRateLimited (replay_runs (limiting (some "before_first_frame")) .chat
      representations host (call "/v1/chat/completions" false) 20) ⟨_, .inl rfl⟩
    (evidenceSucceeds_of_all rfl)
  have all := exact.mp rfl
  have first : (courseOf (limitingRun (some "before_first_frame")).1).endings[0]?.map
      Ending.injected = some true := rfl
  obtain ⟨ending, isFirst, isInjected⟩ := Option.map_eq_some_iff.mp first
  exact injected_not_retried isInjected
    (all.limited ending (List.mem_of_getElem? isFirst)).1

end ProxyScript

end NvidiaBuildLb.Gateway
