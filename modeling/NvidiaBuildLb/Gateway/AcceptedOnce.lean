import NvidiaBuildLb.Gateway.EvidenceFailures

namespace NvidiaBuildLb.Gateway

open Foundation NvidiaBuildLb.Core

/-! A job that the provider has accepted is not sent to it once more. -/

def accepts (op : ProxyOp) (answer : op.Answer) : Bool :=
  match op, answer with
  | .post _ _ _ _, .ok response => response.status.code = 202
  | _, _ => false

def ProxyOp.isPost : ProxyOp → Bool
  | .post _ _ _ _ => true
  | _ => false

def Accepted (log : ProxyLog) : Prop :=
  ∃ exchange ∈ log, accepts exchange.op exchange.answer = true

/-- The body of a polled answer breaks while it is read. -/
def breaks (limit : Nat) (op : ProxyOp) (answer : op.Answer) : Bool :=
  match op, answer with
  | .poll _ _, .ok answer => boundedResponseBytes limit answer = .error .transport
  | _, _ => false

/-- No other key is tried any more: one attempt is all there is, or every key
that was listed has had one. -/
def Spent (setting : Setting) (progress : RequestProgress) : Prop :=
  setting.single = true ∨
    ∃ count, progress.listed = some count ∧ max 1 count ≤ progress.keys.length

/-- A polled answer breaks only when no other key is left to try. -/
def BreaksLast (setting : Setting) (log : ProxyLog) : Prop :=
  ∀ front exchange back, log = front ++ exchange :: back →
    breaks setting.limit exchange.op exchange.answer = true →
      Spent setting (courseOf front)

/-- The answer that the provider gave in the end. -/
def EndedPolled (ending : Ending) : Prop :=
  ending.terminal.outcome = .succeeded ∧ ∃ accepted answer,
    ending.seen = .polled accepted answer ∧
      ending.terminal.statusCode = some answer.status.code

def ReadWhole (setting : Setting) (seen : Seen) : Prop :=
  ∀ accepted answer, seen = .polled accepted answer →
    boundedResponseBytes setting.limit answer ≠ .error .transport

/-- From the acceptance on the job is served, or given up for good, or the
request is closed. -/
def AfterAcceptance (setting : Setting) (progress : RequestProgress) : Prop :=
  match progress.stage with
  | .attempting _ seen => seen.accepted = true ∧
      (Spent setting progress ∨ ReadWhole setting seen)
  | .between => Spent setting progress
  | .closed request => request.outcome = .succeeded →
      ∃ ending ∈ progress.endings, EndedPolled ending
  | _ => False

section

variable {setting : Setting} {progress : RequestProgress}

theorem Spent.finish (spent : Spent setting progress) (terminal : AttemptTerminal)
    (stage : Stage) : Spent setting (progress.finish terminal stage) := by
  obtain ⟨keys, _, listed⟩ := finish_apart progress terminal stage
  unfold Spent
  rw [keys, listed]
  exact spent

theorem keys_after (progress : RequestProgress) (op : ProxyOp) (answer : op.Answer) :
    progress.keys.length ≤ (progress.after op answer).keys.length := by
  cases after_moves progress op answer with
  | stays stage keys endings => rw [keys]
  | begins keyId isBegin same =>
      rw [same, RequestProgress.begin, List.length_append]
      exact Nat.le_add_right _ _
  | finishes terminal stage isFinish same =>
      rw [same, (finish_apart progress terminal stage).1]
  | sees change isSeen same => rw [same, (see_apart progress change).1]
  | starts isStart same => rw [same]
  | closes request isClose same => rw [same]

theorem Spent.after (spent : Spent setting progress) (op : ProxyOp) (answer : op.Answer) :
    Spent setting (progress.after op answer) := by
  rcases spent with single | ⟨count, isListed, full⟩
  · exact .inl single
  refine .inr ⟨count, ?_, full.trans (keys_after progress op answer)⟩
  by_cases isList : op = .list
  · subst isList
    simp [RequestProgress.after, isListed]
  · rw [after_listed answer isList, isListed]

theorem Spent.no_attempt {keyId : Uuid} (spent : Spent setting progress)
    (between : progress.stage = .between) :
    ¬ Due setting progress (.attemptStarted keyId) := by
  intro due
  rcases (due_attemptStarted due).2 with started | ⟨_, _, several, room⟩
  · cases between.symm.trans started
  rcases spent with single | ⟨count, isListed, full⟩
  · cases several.symm.trans single
  · rw [isListed, Option.getD_some] at room
    omega

theorem afterAcceptance_stage_ne {stage : Stage}
    (after : AfterAcceptance setting progress)
    (early : stage = .admitting ∨ stage = .started) : progress.stage ≠ stage := by
  rintro rfl
  unfold AfterAcceptance at after
  rcases early with early | early <;>
    · rw [early] at after
      exact after

theorem Sees.accepted {op : ProxyOp} {answer : op.Answer} {before after : Seen}
    (sees : Sees op answer before after) (due : Due setting progress op) {keyId : Uuid}
    (stage : progress.stage = .attempting keyId before)
    (accepted : before.accepted = true)
    (breaksLast : breaks setting.limit op answer = true → Spent setting progress)
    (earlier : Spent setting progress ∨ ReadWhole setting before) :
    after.accepted = true ∧ (Spent setting progress ∨ ReadWhole setting after) := by
  have served : op.sends = false := by
    by_contra sends
    obtain ⟨key, unsent⟩ := due_sends due (by simpa using sends)
    cases stage.symm.trans unsent
    cases accepted
  cases sees with
  | same => exact ⟨accepted, earlier⟩
  | injected kind => cases served
  | unreadable => cases served
  | answered response => cases served
  | unreachable => cases served
  | ruled response policy rows =>
      refine ⟨accepted, .inr ?_⟩
      intro answered polled isPolled
      cases isPolled
  | polled first answer policy other =>
      refine ⟨rfl, ?_⟩
      by_cases broken : boundedResponseBytes setting.limit answer = .error .transport
      · exact .inl (breaksLast (decide_eq_true broken))
      · right
        intro _ polled same
        cases same
        exact broken

theorem endedPolled_snoc {keyId : Uuid} {seen : Seen} {terminal : AttemptTerminal}
    (closing : Closing setting progress keyId seen terminal)
    (accepted : seen.accepted = true) (succeeded : terminal.outcome = .succeeded) :
    ∃ ending ∈ progress.endings ++ [⟨keyId, seen, terminal⟩], EndedPolled ending := by
  obtain ⟨first, answer, isPolled, isStatus⟩ := closing.succeeds succeeded accepted
  exact ⟨⟨keyId, seen, terminal⟩, by simp, succeeded, first, answer, isPolled, isStatus⟩

theorem afterAcceptance_finish {op : ProxyOp} {answer : op.Answer}
    {terminal : AttemptTerminal} {stage : Stage}
    (after : AfterAcceptance setting progress) (due : Due setting progress op)
    (isFinish : Finishes op answer terminal stage) :
    AfterAcceptance setting (progress.finish terminal stage) := by
  cases isFinish with
  | alone keyId terminal =>
      obtain ⟨seen, closing, resumes, _⟩ := due_attemptFinished due
      rw [AfterAcceptance, closing.stage] at after
      rw [AfterAcceptance, finish_stage]
      rcases after.2 with spent | unbroken
      · exact spent.finish terminal .between
      · obtain ⟨first, answer, isPolled, broken⟩ := resumes after.1
        exact absurd broken (unbroken first answer isPolled)
  | withRequest keyId attempt request =>
      obtain ⟨seen, closing, closingRequest⟩ := due_requestAndAttemptFinished due
      rw [AfterAcceptance, closing.stage] at after
      rw [RequestProgress.finish, closing.stage]
      intro succeeded
      exact endedPolled_snoc closing after.1 (closingRequest.succeeds succeeded)
  | withOpen terminal =>
      obtain ⟨_, failed, _⟩ := due_openAttemptsFinished due
      rw [AfterAcceptance, finish_stage]
      intro succeeded
      rw [OpenTerminal.request, failed] at succeeded
      cases succeeded

theorem AfterAcceptance.no_begin {op : ProxyOp} {answer : op.Answer} {keyId : Uuid}
    (after : AfterAcceptance setting progress) (due : Due setting progress op) :
    ¬ Begins op answer keyId := by
  intro isBegin
  cases isBegin with
  | selected => exact afterAcceptance_stage_ne after (.inl rfl) (due_select due)
  | started keyId =>
      rcases (due_attemptStarted due).2 with started | ⟨between, _⟩
      · exact afterAcceptance_stage_ne after (.inr rfl) started
      · rw [AfterAcceptance, between] at after
        exact after.no_attempt between due

theorem afterAcceptance_step {op : ProxyOp} (answer : op.Answer)
    (after : AfterAcceptance setting progress) (due : Due setting progress op)
    (breaksLast : breaks setting.limit op answer = true → Spent setting progress) :
    AfterAcceptance setting (progress.after op answer) := by
  cases after_moves progress op answer with
  | stays stage keys endings =>
      rw [AfterAcceptance, stage, endings]
      cases isStage : progress.stage with
      | attempting keyId seen =>
          rw [AfterAcceptance, isStage] at after
          exact ⟨after.1, after.2.imp_left fun spent => spent.after op answer⟩
      | between =>
          rw [AfterAcceptance, isStage] at after
          exact after.after op answer
      | closed request =>
          rw [AfterAcceptance, isStage] at after
          exact after
      | admitting => exact absurd isStage (afterAcceptance_stage_ne after (.inl rfl))
      | started => exact absurd isStage (afterAcceptance_stage_ne after (.inr rfl))
  | begins keyId isBegin same => exact absurd isBegin (after.no_begin due)
  | finishes terminal stage isFinish same =>
      rw [same]
      exact afterAcceptance_finish after due isFinish
  | starts isStart same =>
      subst isStart
      exact absurd (due_start due) (afterAcceptance_stage_ne after (.inl rfl))
  | closes request isClose same =>
      subst isClose
      rcases due_proxyRequestFinished due with ⟨started, _⟩ | ⟨keyId, stage, _⟩
      · exact absurd started (afterAcceptance_stage_ne after (.inr rfl))
      · rw [AfterAcceptance, stage] at after
        cases after.1
  | sees change isSeen same =>
      cases isStage : progress.stage with
      | attempting keyId before =>
          have stage : (progress.after op answer).stage =
              .attempting keyId (change before) := by
            rw [same, RequestProgress.see, isStage]
          rcases after_attempting stage with ⟨isBegin, _⟩ | ⟨other, isOther, sees⟩
          · exact absurd isBegin (after.no_begin due)
          · cases isStage.symm.trans isOther
            rw [AfterAcceptance, isStage] at after
            rw [AfterAcceptance, stage]
            obtain ⟨accepted, known⟩ :=
              sees.accepted due isStage after.1 breaksLast after.2
            exact ⟨accepted, known.imp_left fun spent => spent.after op answer⟩
      | between =>
          have still : progress.see change = progress := by
            rw [RequestProgress.see, isStage]
          rw [same, still]
          exact after
      | closed request =>
          have still : progress.see change = progress := by
            rw [RequestProgress.see, isStage]
          rw [same, still]
          exact after
      | admitting => exact absurd isStage (afterAcceptance_stage_ne after (.inl rfl))
      | started => exact absurd isStage (afterAcceptance_stage_ne after (.inr rfl))

theorem afterAcceptance_accepts {op : ProxyOp} {answer : op.Answer}
    (due : Due setting progress op) (isAccepted : accepts op answer = true) :
    AfterAcceptance setting (progress.after op answer) := by
  cases op with
  | post served endpoint credential body =>
      cases answer with
      | error failure => cases isAccepted
      | ok response =>
          obtain ⟨keyId, stage⟩ := due_sends due rfl
          rw [RequestProgress.after, RequestProgress.see, stage]
          refine ⟨isAccepted, .inr ?_⟩
          intro accepted answer isPolled
          cases isPolled
  | _ => cases isAccepted

theorem BreaksLast.front {front back : ProxyLog}
    (breaksLast : BreaksLast setting (front ++ back)) : BreaksLast setting front := by
  intro before exchange after split broken
  refine breaksLast before exchange (after ++ back) ?_ broken
  rw [split, List.append_assoc, List.cons_append]

theorem afterAcceptance_of_conforms {log : ProxyLog}
    (conforms : Monitor.Conforms Legal (proxyMonitor setting) log)
    (breaksLast : BreaksLast setting log) (accepted : Accepted log) :
    AfterAcceptance setting ((proxyMonitor setting).state log) := by
  induction conforms with
  | nil =>
      obtain ⟨exchange, member, _⟩ := accepted
      cases member
  | @snoc log op answer held before allowed isLegal induction =>
      rw [Monitor.state_append]
      obtain ⟨exchange, member, isAccepted⟩ := accepted
      rcases List.mem_append.mp member with earlier | last
      · exact afterAcceptance_step answer
          (induction breaksLast.front ⟨exchange, earlier, isAccepted⟩) allowed.2
          (breaksLast log ⟨op, answer⟩ [] rfl)
      · cases List.mem_singleton.mp last
        exact afterAcceptance_accepts allowed.2 isAccepted

theorem AfterAcceptance.no_post {op : ProxyOp} (after : AfterAcceptance setting progress)
    (due : Due setting progress op) : op.isPost = false := by
  by_contra isPost
  have sends : op.sends = true := by
    cases op with
    | post served endpoint credential body => rfl
    | _ => exact absurd rfl isPost
  obtain ⟨keyId, stage⟩ := due_sends due sends
  rw [AfterAcceptance, stage] at after
  cases after.1

end

/-- Behind an accepted post there is no other, and no success but that of the
answer polled for it. -/
structure ExecutedOnce (waiting : ProxyOp → Prop) (observed : ProxyLog) (held : Held)
    (final : ProxyLog) : Prop where
  waits : Accepted observed → ∀ op, waiting op → op.isPost = false
  posts : ∀ front exchange back, final = front ++ exchange :: back →
    accepts exchange.op exchange.answer = true → ∀ later ∈ back, later.op.isPost = false
  outcome : Accepted final → ∀ request, durableRecord held (courseOf final) = some request →
    request.outcome = .succeeded → ∃ ending ∈ (courseOf final).endings, EndedPolled ending

section Gone

variable {handler : Handler} {representations : Representations} {host : Proxy.Host}
  {call : ProxyCall} {observed final : ProxyLog} {held : Held}

theorem posts_once {setting : Setting}
    (conforms : Monitor.Conforms Legal (proxyMonitor setting) final)
    (breaksLast : BreaksLast setting final) :
    ∀ front exchange back, final = front ++ exchange :: back →
      accepts exchange.op exchange.answer = true →
        ∀ later ∈ back, later.op.isPost = false := by
  induction conforms with
  | nil =>
      intro front exchange back same
      simp at same
  | @snoc log op answer held before allowed isLegal induction =>
      intro front exchange back same isAccepted later member
      rcases List.eq_nil_or_concat' back with rfl | ⟨middle, last, rfl⟩
      · cases member
      · rw [← List.cons_append, ← List.append_assoc] at same
        obtain ⟨rfl, isLast⟩ := List.append_inj' same rfl
        rcases List.mem_append.mp member with isMiddle | isEnd
        · exact induction breaksLast.front front exchange middle rfl isAccepted later isMiddle
        · cases List.mem_singleton.mp isEnd
          cases isLast
          have after := afterAcceptance_of_conforms before breaksLast.front
            ⟨exchange, by simp, isAccepted⟩
          exact after.no_post allowed.2

theorem accepted_executed_once
    (gone : Gone handler representations host call observed held final)
    (breaksLast : BreaksLast (handler.setting representations host call) final) :
    ExecutedOnce
      (fun op => Runs handler representations host call observed (.waiting (held, op)))
      observed held final := by
  obtain ⟨conforms, owns, served⟩ := gone.owns
  have conforming : Monitor.Conforms Legal
      (proxyMonitor (handler.setting representations host call)) final := by
    rcases served with rfl | ⟨op, answer, due, _, isLegal, rfl⟩
    · exact conforms
    · exact .snoc held conforms ⟨owns, due⟩ isLegal
  have earlier : BreaksLast (handler.setting representations host call) observed := by
    rcases served with rfl | ⟨op, answer, due, _, isLegal, rfl⟩
    · exact breaksLast
    · exact breaksLast.front
  refine ⟨?_, posts_once conforming breaksLast, ?_⟩
  · intro accepted op waiting
    have allowed := waiting.stands.2
    exact (afterAcceptance_of_conforms conforms earlier accepted).no_post allowed.2
  intro accepted request isRecord succeeded
  have after := afterAcceptance_of_conforms conforming breaksLast accepted
  have fits := owns.fits
  unfold durableRecord at isRecord
  split at isRecord
  case h_1 closing closed =>
      cases isRecord
      have unfolded : AfterAcceptance (handler.setting representations host call)
          (courseOf final) := after
      rw [AfterAcceptance, closed] at unfolded
      exact unfolded succeeded
  case h_2 =>
      obtain ⟨recovery, isRecovery, rfl⟩ := Option.map_eq_some_iff.mp isRecord
      have unsuccessful := (fits.recovery isRecovery).unsuccessful
      rw [OpenTerminal.request] at succeeded
      cases outcome : recovery.outcome with
      | succeeded => exact absurd outcome unsuccessful
      | failed => simp [outcome, AttemptOutcome.ofRequest] at succeeded
      | cancelled => simp [outcome, AttemptOutcome.ofRequest] at succeeded
      | abandonedAfterRestart => simp [outcome, AttemptOutcome.ofRequest] at succeeded

end Gone

namespace ProxyScript

def requestId : String := "00000000-0000-0000-0000-000000000000"

def jobAccepted : ProviderResponse :=
  { response ⟨202, by decide⟩
      (fun header => if header = "nvcf-reqid" then some requestId else none) [] with
    host := some "api.nvcf.nvidia.com" }

/-- A job that is accepted, and whose answer has this body. -/
def polledJob (body : List UpstreamEvent) : ProxyScript where
  keys := [key 1, key 2]
  post := fun _ => .ok jobAccepted
  poll := .ok (response .ok
    (fun header => if header = "content-type" then some "application/json" else none)
    body)
  fixture := none
  attemptFinished := .ok ()

def polledRun (body : List UpstreamEvent) (count : Nat) : ProxyLog × ProxyEnding :=
  (polledJob body).replay .multimodal representations host
    (call "/v1/embeddings" false) count

theorem breaksLast_of_all {setting : Setting} {log : ProxyLog}
    (all : log.all (fun exchange =>
      !breaks setting.limit exchange.op exchange.answer) = true) :
    BreaksLast setting log := by
  intro front exchange back split broken
  have whole := List.all_eq_true.mp all exchange (by simp [split])
  rw [broken] at whole
  cases whole

theorem accepted_executed_once_polled :
    ∃ held, ExecutedOnce
      (fun op => Runs .multimodal representations host (call "/v1/embeddings" false)
        (polledRun [] 20).1 (.waiting (held, op)))
      (polledRun [] 20).1 held (polledRun [] 20).1 :=
  ⟨_, accepted_executed_once
    (.returned _ (replay_runs (polledJob []) .multimodal representations host
      (call "/v1/embeddings" false) 20))
    (breaksLast_of_all rfl)⟩

/-- The answer that is polled breaks, and the job is sent once more with the
other key. -/
theorem accepted_executed_twice :
    ¬∀ (handler : Handler) (representations : Representations) (host : Proxy.Host)
      (call : ProxyCall) (observed final : ProxyLog) (held : Held),
      Gone handler representations host call observed held final →
        ExecutedOnce
          (fun op => Runs handler representations host call observed (.waiting (held, op)))
          observed held final := by
  intro always
  have once := always _ _ _ _ _ _ _ (.returned _ (replay_runs (polledJob [.failed])
    .multimodal representations host (call "/v1/embeddings" false) 30))
  have first : ((polledRun [.failed] 30).1[5]?.map fun exchange =>
      accepts exchange.op exchange.answer) = some true := rfl
  have second : ((polledRun [.failed] 30).1[17]?.map fun exchange =>
      exchange.op.isPost) = some true := rfl
  obtain ⟨accepted, isFirst, isAccepted⟩ := Option.map_eq_some_iff.mp first
  obtain ⟨later, isLater, isPost⟩ := Option.map_eq_some_iff.mp second
  obtain ⟨isIndex, isGet⟩ := List.getElem?_eq_some_iff.mp isFirst
  have split := (List.take_append_drop 5 (polledRun [.failed] 30).1).symm
  rw [List.drop_eq_getElem_cons isIndex, isGet] at split
  have behind : later ∈ (polledRun [.failed] 30).1.drop 6 := by
    apply List.mem_of_getElem? (i := 11)
    rw [List.getElem?_drop]
    exact isLater
  have unsent := once.posts _ accepted _ split isAccepted later behind
  rw [isPost] at unsent
  cases unsent

end ProxyScript

end NvidiaBuildLb.Gateway
