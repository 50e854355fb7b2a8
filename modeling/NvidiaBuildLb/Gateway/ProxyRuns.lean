import NvidiaBuildLb.Gateway.ProxyServed

namespace NvidiaBuildLb.Gateway

open Foundation NvidiaBuildLb.Core

/-! The runs of a request: any answers of the provider and of the database, in
any order, and the client may go away at any request that is waited for. -/

inductive Handler where
  | chat
  | multimodal
  deriving DecidableEq

namespace Handler

variable (handler : Handler) (representations : Representations) (host : Proxy.Host)
  (call : ProxyCall)

def routine : ProxyRoutine Response :=
  match handler with
  | .chat => Proxy.chatCompletions representations host call
  | .multimodal => Proxy.multimodal representations host call

def setting : Setting :=
  match handler with
  | .chat => Proxy.chatSetting representations host call
  | .multimodal => Proxy.multimodalSetting representations host call

end Handler

abbrev ProxyLog : Type := Log ProxyOp ProxyOp.Answer

abbrev ProxyEnding : Type :=
  Foundation.Ending (Held × ProxyOp) (Except Response Response × Held)

/-- How far a request may come, and what was asked and answered until then. -/
def Runs (handler : Handler) (representations : Representations) (host : Proxy.Host)
    (call : ProxyCall) : ProxyLog → ProxyEnding → Prop :=
  Reaches (recording Legal (fun op => op.awaits = true) Held) []
    (Proxy.serve representations (handler.routine representations host call) .nothing)

def courseOf (log : ProxyLog) : RequestProgress :=
  log.foldl (fun progress exchange => progress.after exchange.op exchange.answer) .initial

/-- The client is answered like this. -/
def Told (ending : ProxyEnding) (response : Response) : Prop :=
  ∃ held, ending = .returned (.ok response, held) ∨
    ending = .returned (.error response, held)

section

variable {handler : Handler} {representations : Representations} {host : Proxy.Host}
  {call : ProxyCall} {log : ProxyLog} {ending : ProxyEnding}

theorem Handler.walks :
    Walks (handler.setting representations host call)
      (Proxy.serve representations (handler.routine representations host call))
      (Answers (handler.setting representations host call)) .nothing .initial := by
  cases handler with
  | chat => exact Proxy.walks_serve_handler Proxy.walks_chatCompletions
  | multimodal => exact Proxy.walks_serve_handler Proxy.walks_multimodal

theorem Runs.stands (run : Runs handler representations host call log ending) :
    Monitor.Conforms Legal (proxyMonitor (handler.setting representations host call)) log ∧
      Monitor.Stands Legal (proxyMonitor (handler.setting representations host call))
        (Leaves (handler.setting representations host call))
        (Answers (handler.setting representations host call)) log ending :=
  Monitor.run _ Handler.walks run

theorem Runs.answers {response : Response}
    (run : Runs handler representations host call log ending) (told : Told ending response) :
    ∃ held, Answers (handler.setting representations host call) response held
      (courseOf log) := by
  have stands := run.stands.2
  obtain ⟨held, rfl | rfl⟩ := told
  · exact ⟨held, stands⟩
  · exact ⟨held, Leaves.answers stands⟩

end

/-- A handler is gone, and what it owned is dropped: it has returned, or its
client went away while it waited, and what it waited for was served or not. -/
inductive Gone (handler : Handler) (representations : Representations) (host : Proxy.Host)
    (call : ProxyCall) : ProxyLog → Held → ProxyLog → Prop where
  | returned {observed : ProxyLog} {held : Held} (result : Except Response Response)
      (run : Runs handler representations host call observed (.returned (result, held))) :
      Gone handler representations host call observed held observed
  | dropped {observed final : ProxyLog} {held : Held} (op : ProxyOp)
      (run : Runs handler representations host call observed (.waiting (held, op)))
      (waits : op.awaits = true)
      (after : After Legal (fun log op answer => log ++ [⟨op, answer⟩]) op observed
        final) :
      Gone handler representations host call observed held final

theorem Gone.owns {handler : Handler} {representations : Representations}
    {host : Proxy.Host} {call : ProxyCall} {observed final : ProxyLog} {held : Held}
    (gone : Gone handler representations host call observed held final) :
    Monitor.Conforms Legal (proxyMonitor (handler.setting representations host call))
        observed ∧
      Owns (handler.setting representations host call) held (courseOf observed) ∧
      (final = observed ∨ ∃ op answer,
        Due (handler.setting representations host call) (courseOf observed) op ∧
          op.awaits = true ∧ Legal op answer ∧ final = observed ++ [⟨op, answer⟩]) := by
  cases gone with
  | returned result run =>
      obtain ⟨conforms, stands⟩ := run.stands
      refine ⟨conforms, ?_, .inl rfl⟩
      cases result with
      | ok response => exact stands.owns
      | error response => exact stands.answers.owns
  | dropped op run waits after =>
      obtain ⟨conforms, stands⟩ := run.stands
      refine ⟨conforms, stands.1, ?_⟩
      rcases after with rfl | ⟨answer, isLegal, rfl⟩
      · exact .inl rfl
      · exact .inr ⟨op, answer, stands.2, waits, isLegal, rfl⟩

theorem courseOf_snoc (log : ProxyLog) (op : ProxyOp) (answer : op.Answer) :
    courseOf (log ++ [⟨op, answer⟩]) = (courseOf log).after op answer := by
  simp [courseOf]

/-- How an answer changes what is known of the attempt under way. -/
inductive Sees : ∀ op : ProxyOp, op.Answer → Seen → Seen → Prop where
  | same {op : ProxyOp} {answer : op.Answer} (seen : Seen) : Sees op answer seen seen
  | injected {keyId : Uuid} (kind : String) (seen : Seen) :
      Sees (.consumeLiveFailureFixture keyId) (.ok (some kind)) seen (.injected kind)
  | unreadable {keyId : Uuid} (seen : Seen) :
      Sees (.credential keyId) (.error ()) seen .unreadable
  | answered {keyId : Uuid} {endpoint credential : String} {body : PostBody}
      (response : ProviderResponse) (seen : Seen) :
      Sees (.post keyId endpoint credential body) (.ok response) seen
        (.answered response (loadRoutingPolicy none))
  | unreachable {keyId : Uuid} {endpoint credential : String} {body : PostBody}
      (seen : Seen) :
      Sees (.post keyId endpoint credential body) (.error ()) seen .unreachable
  | ruled (response : ProviderResponse) (policy : RuntimeRoutingPolicy)
      (rows : Option (List RoutingPolicyRow)) :
      Sees .routingPolicies rows (.answered response policy)
        (.answered response (loadRoutingPolicy rows))
  | polled {endpoint credential : String} (accepted answer : ProviderResponse)
      (policy : RuntimeRoutingPolicy) (other : answer.status.code ≠ 202) :
      Sees (.poll endpoint credential) (.ok answer) (.answered accepted policy)
        (.polled accepted answer)

/-- The requests whose answer begins an attempt. -/
inductive Begins : ∀ op : ProxyOp, op.Answer → Uuid → Prop where
  | selected (keyId : Uuid) : Begins .selectAndStartRequest (.ok (some keyId)) keyId
  | started (keyId : Uuid) : Begins (.attemptStarted keyId) (.ok ()) keyId

theorem see_attempting {change : Seen → Seen} {keyId : Uuid} {seen : Seen}
    (attempting : (RequestProgress.see progress change).stage = .attempting keyId seen) :
    ∃ before, progress.stage = .attempting keyId before ∧ change before = seen := by
  unfold RequestProgress.see at attempting
  split at attempting
  case h_1 key before isStage =>
      cases attempting
      exact ⟨before, isStage, rfl⟩
  case h_2 unattempted => exact absurd attempting (unattempted keyId seen)

theorem finish_stage {terminal : AttemptTerminal} {stage : Stage} :
    (RequestProgress.finish progress terminal stage).stage = stage := by
  unfold RequestProgress.finish
  split <;> rfl

theorem finish_apart (progress : RequestProgress) (terminal : AttemptTerminal)
    (stage : Stage) :
    (progress.finish terminal stage).keys = progress.keys ∧
      (progress.finish terminal stage).refused = progress.refused ∧
      (progress.finish terminal stage).listed = progress.listed := by
  unfold RequestProgress.finish
  split <;> exact ⟨rfl, rfl, rfl⟩

theorem see_apart (progress : RequestProgress) (change : Seen → Seen) :
    (progress.see change).keys = progress.keys ∧
      (progress.see change).listed = progress.listed := by
  unfold RequestProgress.see
  split <;> exact ⟨rfl, rfl⟩

theorem after_listed {progress : RequestProgress} {op : ProxyOp} (answer : op.Answer)
    (other : op ≠ .list) : (progress.after op answer).listed = progress.listed := by
  unfold RequestProgress.after
  split
  all_goals first
    | rfl
    | exact (see_apart progress _).2
    | exact (finish_apart progress _ _).2.2
    | exact absurd rfl other
    | skip
  split
  · rfl
  · exact (see_apart progress _).2

theorem after_attempting {op : ProxyOp} {answer : op.Answer} {keyId : Uuid} {seen : Seen}
    (attempting : (RequestProgress.after progress op answer).stage = .attempting keyId seen) :
    (Begins op answer keyId ∧ seen = .nothing) ∨
      ∃ before, progress.stage = .attempting keyId before ∧ Sees op answer before seen := by
  cases op with
  | selectAndStartRequest =>
      cases answer with
      | error failure => exact .inr ⟨seen, attempting, .same seen⟩
      | ok selected =>
          cases selected with
          | none => exact .inr ⟨seen, attempting, .same seen⟩
          | some first =>
              cases attempting
              exact .inl ⟨.selected keyId, rfl⟩
  | attemptStarted next =>
      cases answer with
      | error failure => exact .inr ⟨seen, attempting, .same seen⟩
      | ok started =>
          cases attempting
          exact .inl ⟨.started keyId, rfl⟩
  | consumeLiveFailureFixture served =>
      cases answer with
      | error failure => exact .inr ⟨seen, attempting, .same seen⟩
      | ok consumed =>
          cases consumed with
          | none => exact .inr ⟨seen, attempting, .same seen⟩
          | some kind =>
              obtain ⟨before, isStage, rfl⟩ := see_attempting attempting
              exact .inr ⟨before, isStage, .injected kind before⟩
  | credential served =>
      cases answer with
      | ok credential => exact .inr ⟨seen, attempting, .same seen⟩
      | error failure =>
          obtain ⟨before, isStage, rfl⟩ := see_attempting attempting
          exact .inr ⟨before, isStage, .unreadable before⟩
  | post served endpoint credential body =>
      cases answer with
      | ok response =>
          obtain ⟨before, isStage, rfl⟩ := see_attempting attempting
          exact .inr ⟨before, isStage, .answered response before⟩
      | error failure =>
          obtain ⟨before, isStage, rfl⟩ := see_attempting attempting
          exact .inr ⟨before, isStage, .unreachable before⟩
  | routingPolicies =>
      obtain ⟨before, isStage, changed⟩ := see_attempting attempting
      refine .inr ⟨before, isStage, ?_⟩
      cases before with
      | answered response policy => exact changed ▸ .ruled response policy answer
      | nothing => exact changed ▸ .same _
      | injected kind => exact changed ▸ .same _
      | unreadable => exact changed ▸ .same _
      | unreachable => exact changed ▸ .same _
      | polled accepted polled => exact changed ▸ .same _
  | poll endpoint credential =>
      cases answer with
      | error failure => exact .inr ⟨seen, attempting, .same seen⟩
      | ok answer =>
          by_cases pending : answer.status.code = 202
          case pos =>
              simp only [RequestProgress.after, if_pos pending] at attempting
              exact .inr ⟨seen, attempting, .same seen⟩
          case neg =>
              simp only [RequestProgress.after, if_neg pending] at attempting
              obtain ⟨before, isStage, changed⟩ := see_attempting attempting
              refine .inr ⟨before, isStage, ?_⟩
              cases before with
              | answered response policy =>
                  exact changed ▸ .polled response answer policy pending
              | nothing => exact changed ▸ .same _
              | injected kind => exact changed ▸ .same _
              | unreadable => exact changed ▸ .same _
              | unreachable => exact changed ▸ .same _
              | polled accepted polled => exact changed ▸ .same _
  | acquireDownstreamPermit =>
      cases answer <;> exact .inr ⟨seen, attempting, .same seen⟩
  | releaseDownstreamPermit =>
      cases answer <;> exact .inr ⟨seen, attempting, .same seen⟩
  | proxyRequestStarted =>
      cases answer with
      | error failure => exact .inr ⟨seen, attempting, .same seen⟩
      | ok started => cases attempting
  | proxyRequestFinished request =>
      cases answer with
      | error failure => exact .inr ⟨seen, attempting, .same seen⟩
      | ok finished => cases attempting
  | attemptFinished served terminal =>
      cases answer with
      | error failure => exact .inr ⟨seen, attempting, .same seen⟩
      | ok finished => cases finish_stage.symm.trans attempting
  | requestAndAttemptFinished served attempt request =>
      cases answer with
      | error failure => exact .inr ⟨seen, attempting, .same seen⟩
      | ok finished => cases finish_stage.symm.trans attempting
  | requestAndOpenAttemptsFinished terminal =>
      cases answer with
      | error failure => exact .inr ⟨seen, attempting, .same seen⟩
      | ok finished => cases finish_stage.symm.trans attempting
  | _ => exact .inr ⟨seen, attempting, .same seen⟩

/-- The requests whose answer ends an attempt, and what it leaves. -/
inductive Finishes : ∀ op : ProxyOp, op.Answer → AttemptTerminal → Stage → Prop where
  | alone (keyId : Uuid) (terminal : AttemptTerminal) :
      Finishes (.attemptFinished keyId terminal) (.ok ()) terminal .between
  | withRequest (keyId : Uuid) (attempt : AttemptTerminal) (request : RequestTerminal) :
      Finishes (.requestAndAttemptFinished keyId attempt request) (.ok ()) attempt
        (.closed request)
  | withOpen (terminal : OpenTerminal) :
      Finishes (.requestAndOpenAttemptsFinished terminal) (.ok ()) terminal.attempt
        (.closed terminal.request)

def ProxyOp.sends : ProxyOp → Bool
  | .consumeLiveFailureFixture _ => true
  | .credential _ => true
  | .post _ _ _ _ => true
  | _ => false

/-- The requests whose answer says something of the attempt under way. -/
def ProxyOp.sees : ProxyOp → Bool
  | .consumeLiveFailureFixture _ => true
  | .credential _ => true
  | .post _ _ _ _ => true
  | .routingPolicies => true
  | .poll _ _ => true
  | _ => false

/-- What an answer may do to the course of a request. -/
inductive Moves (op : ProxyOp) (answer : op.Answer) (before after : RequestProgress) :
    Prop where
  | stays (stage : after.stage = before.stage) (keys : after.keys = before.keys)
      (endings : after.endings = before.endings)
  | begins (keyId : Uuid) (isBegin : Begins op answer keyId)
      (same : after = before.begin keyId)
  | finishes (terminal : AttemptTerminal) (stage : Stage)
      (isFinish : Finishes op answer terminal stage)
      (same : after = before.finish terminal stage)
  | sees (change : Seen → Seen) (isSeen : op.sees = true) (same : after = before.see change)
  | starts (isStart : op = .proxyRequestStarted)
      (same : after = { before with stage := .started })
  | closes (request : RequestTerminal) (isClose : op = .proxyRequestFinished request)
      (same : after = { before with stage := .closed request })

theorem after_moves (progress : RequestProgress) (op : ProxyOp) (answer : op.Answer) :
    Moves op answer progress (progress.after op answer) := by
  cases op with
  | selectAndStartRequest =>
      cases answer with
      | error failure => exact .stays rfl rfl rfl
      | ok selected =>
          cases selected with
          | none => exact .stays rfl rfl rfl
          | some keyId => exact .begins keyId (.selected keyId) rfl
  | attemptStarted keyId =>
      cases answer with
      | error failure => exact .stays rfl rfl rfl
      | ok started => exact .begins keyId (.started keyId) rfl
  | consumeLiveFailureFixture served =>
      cases answer with
      | error failure => exact .stays rfl rfl rfl
      | ok consumed =>
          cases consumed with
          | none => exact .stays rfl rfl rfl
          | some kind => exact .sees _ rfl rfl
  | credential served =>
      cases answer with
      | ok credential => exact .stays rfl rfl rfl
      | error failure => exact .sees _ rfl rfl
  | post served endpoint credential body => cases answer <;> exact .sees _ rfl rfl
  | routingPolicies => exact .sees _ rfl rfl
  | poll endpoint credential =>
      cases answer with
      | error failure => exact .stays rfl rfl rfl
      | ok answer =>
          by_cases pending : answer.status.code = 202
          case pos =>
              simp only [RequestProgress.after, if_pos pending]
              exact .stays rfl rfl rfl
          case neg =>
              simp only [RequestProgress.after, if_neg pending]
              exact .sees _ rfl rfl
  | proxyRequestStarted =>
      cases answer with
      | error failure => exact .stays rfl rfl rfl
      | ok started => exact .starts rfl rfl
  | proxyRequestFinished request =>
      cases answer with
      | error failure => exact .stays rfl rfl rfl
      | ok finished => exact .closes request rfl rfl
  | attemptFinished served terminal =>
      cases answer with
      | error failure => exact .stays rfl rfl rfl
      | ok finished => exact .finishes terminal .between (.alone served terminal) rfl
  | requestAndAttemptFinished served attempt request =>
      cases answer with
      | error failure => exact .stays rfl rfl rfl
      | ok finished =>
          exact .finishes attempt (.closed request) (.withRequest served attempt request) rfl
  | requestAndOpenAttemptsFinished terminal =>
      cases answer with
      | error failure => exact .stays rfl rfl rfl
      | ok finished =>
          exact .finishes terminal.attempt (.closed terminal.request) (.withOpen terminal) rfl
  | acquireDownstreamPermit => cases answer <;> exact .stays rfl rfl rfl
  | releaseDownstreamPermit => cases answer <;> exact .stays rfl rfl rfl
  | _ => exact .stays rfl rfl rfl

section Due

variable {setting : Setting} {progress : RequestProgress}

theorem due_select (due : Due setting progress .selectAndStartRequest) :
    progress.stage = .admitting := by
  cases due with
  | select stage => exact stage
  | looks op calm => simp at calm
  | serves op keyId seen stage unfailed serving => simp at serving
  | sends op keyId stage unfailed sending => simp at sending
  | release op request stage releasing => simp at releasing

theorem due_start (due : Due setting progress .proxyRequestStarted) :
    progress.stage = .admitting := by
  cases due with
  | start stage => exact stage
  | looks op calm => simp at calm
  | serves op keyId seen stage unfailed serving => simp at serving
  | sends op keyId stage unfailed sending => simp at sending
  | release op request stage releasing => simp at releasing

theorem due_attemptStarted {keyId : Uuid} (due : Due setting progress (.attemptStarted keyId)) :
    progress.refused = false ∧ (progress.stage = .started ∨
      progress.stage = .between ∧ keyId ∉ progress.keys ∧ setting.single = false ∧
        progress.keys.length < max 1 (progress.listed.getD 1)) := by
  cases due with
  | first keyId stage unrefused => exact ⟨unrefused, .inl stage⟩
  | another keyId stage unrefused fresh several room =>
      exact ⟨unrefused, .inr ⟨stage, fresh, several, room⟩⟩
  | looks op calm => simp at calm
  | serves op keyId seen stage unfailed serving => simp at serving
  | sends op keyId stage unfailed sending => simp at sending
  | release op request stage releasing => simp at releasing

theorem due_attemptFinished {keyId : Uuid} {terminal : AttemptTerminal}
    (due : Due setting progress (.attemptFinished keyId terminal)) :
    ∃ seen, Closing setting progress keyId seen terminal ∧ Resumes setting seen ∧
      terminal.outcome = .failed := by
  cases due with
  | attemptFinished keyId seen terminal closing resumes failed =>
      exact ⟨seen, closing, resumes, failed⟩
  | looks op calm => simp at calm
  | serves op keyId seen stage unfailed serving => simp at serving
  | sends op keyId stage unfailed sending => simp at sending
  | release op request stage releasing => simp at releasing

theorem due_requestAndAttemptFinished {keyId : Uuid} {attempt : AttemptTerminal}
    {request : RequestTerminal}
    (due : Due setting progress (.requestAndAttemptFinished keyId attempt request)) :
    ∃ seen, Closing setting progress keyId seen attempt ∧
      ClosingRequest setting progress seen attempt request := by
  cases due with
  | requestAndAttemptFinished keyId seen attempt request closing with_request =>
      exact ⟨seen, closing, with_request⟩
  | looks op calm => simp at calm
  | serves op keyId seen stage unfailed serving => simp at serving
  | sends op keyId stage unfailed sending => simp at sending
  | release op request stage releasing => simp at releasing

theorem due_openAttemptsFinished {terminal : OpenTerminal}
    (due : Due setting progress (.requestAndOpenAttemptsFinished terminal)) :
    OpenTerminalFits terminal ∧ terminal.outcome = .failed ∧ ∃ keyId seen,
      progress.stage = .attempting keyId seen ∧
        (seen = .nothing ∧ progress.failed = none ∨
          progress.failed = some .withRequest ∧
            DropRecovery.EvidenceFailure terminal) := by
  cases due with
  | unused keyId terminal stage unfailed fits failed =>
      exact ⟨fits, failed, keyId, .nothing, stage, .inl ⟨rfl, unfailed⟩⟩
  | recovered keyId seen terminal stage afterFailure fits evidence =>
      exact ⟨fits, evidence.1, keyId, seen, stage, .inr ⟨afterFailure, evidence⟩⟩
  | looks op calm => simp at calm
  | serves op keyId seen stage unfailed serving => simp at serving
  | sends op keyId stage unfailed sending => simp at sending
  | release op request stage releasing => simp at releasing

theorem due_proxyRequestFinished {request : RequestTerminal}
    (due : Due setting progress (.proxyRequestFinished request)) :
    (progress.stage = .started ∧ request = .failed 503 "no_eligible_upstream") ∨
      ∃ keyId, progress.stage = .attempting keyId (.injected "after_first_frame") ∧
        progress.failed = none ∧ setting.stream = false ∧
        request = .failed 500 "qa_fixture_contract_error" := by
  cases due with
  | unstarted request stage isFailed => exact .inl ⟨stage, isFailed⟩
  | unsuited request keyId stage unfailed plain isFailed =>
      exact .inr ⟨keyId, stage, unfailed, plain, isFailed⟩
  | looks op calm => simp at calm
  | serves op keyId seen stage unfailed serving => simp at serving
  | sends op keyId stage unfailed sending => simp at sending
  | release op request stage releasing => simp at releasing

theorem due_sends {op : ProxyOp} (due : Due setting progress op) (sends : op.sends = true) :
    ∃ keyId, progress.stage = .attempting keyId .nothing := by
  cases due with
  | sends op keyId stage unfailed sending => exact ⟨keyId, stage⟩
  | looks op calm => rcases calm with rfl | rfl | rfl <;> cases sends
  | serves op keyId seen stage unfailed serving =>
      rcases serving with rfl | ⟨_, rfl⟩ | rfl | rfl | rfl | rfl | rfl | rfl | rfl |
        ⟨_, _, rfl⟩ | ⟨_, rfl, _⟩ <;> cases sends
  | release op request stage releasing => rcases releasing with rfl | rfl <;> cases sends
  | _ => cases sends

theorem due_sees {op : ProxyOp} (due : Due setting progress op) (isSeen : op.sees = true) :
    progress.failed = none := by
  cases due with
  | serves op keyId seen stage unfailed serving => exact unfailed
  | sends op keyId stage unfailed sending => exact unfailed
  | looks op calm => rcases calm with rfl | rfl | rfl <;> cases isSeen
  | release op request stage releasing => rcases releasing with rfl | rfl <;> cases isSeen
  | _ => cases isSeen

theorem Begins.stage {op : ProxyOp} {answer : op.Answer} {keyId : Uuid}
    (isBegin : Begins op answer keyId) (due : Due setting progress op) :
    progress.stage = .admitting ∨ progress.stage = .started ∨ progress.stage = .between := by
  cases isBegin with
  | selected => exact .inl (due_select due)
  | started keyId =>
      rcases due_attemptStarted due with ⟨_, started | ⟨between, _⟩⟩
      · exact .inr (.inl started)
      · exact .inr (.inr between)

end Due

theorem after_failed (progress : RequestProgress) (op : ProxyOp) (answer : op.Answer) :
    (progress.after op answer).failed = progress.failed ∨
      (progress.after op answer).stage = progress.stage ∧
        ((∃ keyId terminal, op = .attemptFinished keyId terminal) ∨
          ∃ keyId attempt request,
            op = .requestAndAttemptFinished keyId attempt request) := by
  have seen : ∀ change, (progress.see change).failed = progress.failed := by
    intro change
    unfold RequestProgress.see
    split <;> rfl
  have finished : ∀ terminal stage,
      (progress.finish terminal stage).failed = progress.failed := by
    intro terminal stage
    unfold RequestProgress.finish
    split <;> rfl
  unfold RequestProgress.after
  split
  all_goals first
    | exact .inl rfl
    | exact .inl (seen _)
    | exact .inl (finished _ _)
    | exact .inr ⟨rfl, .inl ⟨_, _, rfl⟩⟩
    | exact .inr ⟨rfl, .inr ⟨_, _, _, rfl⟩⟩
    | skip
  split
  · exact .inl rfl
  · exact .inl (seen _)

/-- How the provider and the database answer, where it differs from run to
run. -/
structure ProxyScript where
  keys : List KeySummary
  post : Uuid → Except Unit ProviderResponse
  poll : Except Unit ProviderResponse
  fixture : Option String
  attemptFinished : Except Unit Unit

namespace ProxyScript

def firstKey : Uuid := 1

def answers (script : ProxyScript) : ∀ op : ProxyOp, op.Answer
  | .acquireDownstreamPermit => .ok true
  | .selectAndStartRequest => .ok (some firstKey)
  | .selectInitialKey => some firstKey
  | .recordAcceptedDownstreamUse => .ok ()
  | .list => script.keys
  | .now => 0
  | .selectFailoverKey attempted =>
      (script.keys.map KeySummary.id).find? fun keyId => keyId ∉ attempted
  | .consumeLiveFailureFixture _ => .ok script.fixture
  | .credential _ => .ok "nvapi-sample"
  | .recordFailure _ _ => .ok none
  | .routingPolicies => none
  | .post keyId _ _ _ => script.post keyId
  | .pollDeadlinePassed => false
  | .poll _ _ => script.poll
  | .elapsedMs => 0
  | .spawnPermitRelease => ()
  | .sleep => ()
  | .body => ()
  | .prime => ()
  | .next => ()
  | .emit _ => ()
  | .attemptFinished _ _ => script.attemptFinished
  | .proxyRequestStarted => .ok ()
  | .attemptStarted _ => .ok ()
  | .requestAndAttemptFinished _ _ _ => .ok ()
  | .attemptResponseStarted _ _ => .ok ()
  | .proxyRequestFinished _ => .ok ()
  | .requestAndOpenAttemptsFinished _ => .ok ()
  | .releaseDownstreamPermit => .ok ()
  | .recordRequest _ => .ok ()
  | .quarantine _ => .ok ()

theorem answers_legal (script : ProxyScript) (op : ProxyOp) : Legal op (script.answers op) := by
  cases op with
  | selectFailoverKey attempted =>
      intro keyId found
      have unused := List.find?_some (p := fun keyId => decide (keyId ∉ attempted)) found
      exact of_decide_eq_true unused
  | _ => trivial

/-- The first requests of a run, and how far it comes with them. -/
def replay (script : ProxyScript) (handler : Handler) (representations : Representations)
    (host : Proxy.Host) (call : ProxyCall) (count : Nat) : ProxyLog × ProxyEnding :=
  Foundation.replay (fun _ => script.answers) count
    (Proxy.serve representations (handler.routine representations host call) .nothing) []

theorem replay_runs (script : ProxyScript) (handler : Handler)
    (representations : Representations) (host : Proxy.Host) (call : ProxyCall)
    (count : Nat) :
    Runs handler representations host call
      (script.replay handler representations host call count).1
      (script.replay handler representations host call count).2 :=
  replay_reaches (fun _ => script.answers_legal) count _ []

def representations : Representations where
  parse := fun _ => none
  validateChatResponse := fun _ => true
  normalizeModalityResponse := fun _ body contentType => some (body, contentType)
  mockModality := fun _ _ => ([], "application/json")
  mockResponse := fun _ => []
  mockFrames := fun _ => ([], [])

def host : Proxy.Host where
  database := true
  upstreamUrl := "https://integrate.api.nvidia.com"
  endpointFor := fun path _ => path

def call (path : String) (stream : Bool) : ProxyCall where
  path
  downstreamCredentialId := some 9
  contentType := "application/json"
  mockStatusHeader := none
  mockInvalidResponse := false
  body := []
  request := .object [("stream", .bool stream)]
  prepared := .object []

def response (status : StatusCode) (headers : String → Option String)
    (events : List UpstreamEvent) : ProviderResponse where
  status
  headers
  contentLength := none
  retryAfter := none
  host := none
  sameOrigin := fun _ => none
  events

def key (id : Uuid) : KeySummary where
  id
  label := "key"
  fingerprint := "sha256"
  enabled := true
  verified := true
  cooldownUntil := none
  requestCount := 0
  failureCount := 0

end ProxyScript

end NvidiaBuildLb.Gateway
