import NvidiaBuildLb.Gateway.ProxyRuns

namespace NvidiaBuildLb.Gateway

open Foundation NvidiaBuildLb.Core

/-! What is recorded of a request when the last write of an attempt fails. -/

/-- The record that lasts: the one that was written, or else that of the task
which the drop of the owner spawns. -/
def durableRecord (held : Held) (progress : RequestProgress) : Option RequestTerminal :=
  match progress.stage with
  | .closed request => some request
  | _ => held.recovery.map OpenTerminal.request

/-- An evidence failure, and reported as such. -/
def ReportsEvidence (held : Held) (progress : RequestProgress) : Prop :=
  ∃ request, durableRecord held progress = some request ∧ request.outcome = .failed ∧
    request.errorClass = some "evidence_unavailable"

/-- The attempt whose last write failed is one of a stream that broke before its
first frame, and was to be followed by another. -/
def BrokenStream (setting : Setting) (progress : RequestProgress) : Prop :=
  progress.failed = some .attemptOnly ∧
    ∃ keyId seen, progress.stage = .attempting keyId seen ∧ seen.broken setting = true

section

variable {setting : Setting} {progress : RequestProgress} {held : Held}

/-- The write of an end fails while its attempt is under way; after that the
request is closed with that failure, or not at all. -/
def FailsUnderway (progress : RequestProgress) : Prop :=
  progress.failed ≠ none → (∃ keyId seen, progress.stage = .attempting keyId seen) ∨
    ∃ terminal : OpenTerminal, progress.stage = .closed terminal.request ∧
      DropRecovery.EvidenceFailure terminal

theorem FailsUnderway.stage_ne {stage : Stage} (underway : FailsUnderway progress)
    (failed : progress.failed ≠ none)
    (early : stage = .admitting ∨ stage = .started ∨ stage = .between) :
    progress.stage ≠ stage := by
  rintro rfl
  rcases underway failed with ⟨keyId, seen, attempting⟩ | ⟨terminal, closed, _⟩
  · simp [attempting] at early
  · simp [closed] at early

theorem after_failed_write {op : ProxyOp} (answer : op.Answer)
    (underway : FailsUnderway progress) (failed : progress.failed ≠ none)
    (due : Due setting progress op) :
    (progress.after op answer).stage = progress.stage ∨
      progress.failed = some .withRequest ∧ ∃ terminal : OpenTerminal,
        (progress.after op answer).stage = .closed terminal.request ∧
          DropRecovery.EvidenceFailure terminal := by
  cases after_moves progress op answer with
  | stays stage keys endings => exact .inl stage
  | begins keyId isBegin same =>
      exact absurd rfl (underway.stage_ne failed (isBegin.stage due))
  | sees change isSeen same => exact absurd (due_sees due isSeen) failed
  | starts isStart same =>
      subst isStart
      exact absurd (due_start due) (underway.stage_ne failed (.inl rfl))
  | closes request isClose same =>
      subst isClose
      rcases due_proxyRequestFinished due with ⟨started, _⟩ | ⟨keyId, _, unfailed, _⟩
      · exact absurd started (underway.stage_ne failed (.inr (.inl rfl)))
      · exact absurd unfailed failed
  | finishes terminal stage isFinish same =>
      rw [same, finish_stage]
      cases isFinish with
      | alone keyId terminal =>
          obtain ⟨seen, closing, _⟩ := due_attemptFinished due
          exact absurd closing.unfailed failed
      | withRequest keyId attempt request =>
          obtain ⟨seen, closing, _⟩ := due_requestAndAttemptFinished due
          exact absurd closing.unfailed failed
      | withOpen terminal =>
          obtain ⟨_, _, keyId, seen, _, ⟨_, unfailed⟩ | ⟨isFailed, evidence⟩⟩ :=
            due_openAttemptsFinished due
          · exact absurd unfailed failed
          · exact .inr ⟨isFailed, terminal, rfl, evidence⟩

theorem failsUnderway_step {op : ProxyOp} (answer : op.Answer)
    (underway : FailsUnderway progress) (due : Due setting progress op) :
    FailsUnderway (progress.after op answer) := by
  intro failed
  by_cases unfailed : progress.failed = none
  case pos =>
      rcases after_failed progress op answer with same |
        ⟨same, ⟨keyId, terminal, rfl⟩ | ⟨keyId, attempt, request, rfl⟩⟩
      · exact absurd (same.trans unfailed) failed
      · obtain ⟨seen, closing, _⟩ := due_attemptFinished due
        exact .inl ⟨keyId, seen, same.trans closing.stage⟩
      · obtain ⟨seen, closing, _⟩ := due_requestAndAttemptFinished due
        exact .inl ⟨keyId, seen, same.trans closing.stage⟩
  case neg =>
      rcases after_failed_write answer underway unfailed due with same |
        ⟨_, terminal, closed, evidence⟩
      · rw [same]
        exact underway unfailed
      · exact .inr ⟨terminal, closed, evidence⟩

theorem failsUnderway_of_conforms {log : ProxyLog}
    (conforms : Monitor.Conforms Legal (proxyMonitor setting) log) :
    FailsUnderway ((proxyMonitor setting).state log) := by
  apply conforms.state
  · exact fun failed => absurd rfl failed
  · intro progress held op answer underway allowed _
    exact failsUnderway_step answer underway allowed.2

theorem reports_of_armed (armed : held.Armed)
    (unclosed : ∀ request, progress.stage ≠ .closed request) :
    ReportsEvidence held progress := by
  obtain ⟨recovery, isRecovery, outcome, isClass⟩ := armed
  refine ⟨recovery.request, ?_, ?_, congrArg some isClass⟩
  · unfold durableRecord
    split
    case h_1 request closed => exact absurd closed (unclosed request)
    case h_2 => rw [isRecovery, Option.map_some]
  · rw [OpenTerminal.request, outcome]
    rfl

theorem reports_of_closed {terminal : OpenTerminal}
    (closed : progress.stage = .closed terminal.request)
    (evidence : DropRecovery.EvidenceFailure terminal) : ReportsEvidence held progress := by
  refine ⟨terminal.request, ?_, ?_, congrArg some evidence.2⟩
  · rw [durableRecord, closed]
  · rw [OpenTerminal.request, evidence.1]
    rfl

theorem reports_iff (owns : Owns setting held progress) (underway : FailsUnderway progress)
    (failed : progress.failed ≠ none) :
    ReportsEvidence held progress ↔ ¬BrokenStream setting progress := by
  cases isFailed : progress.failed with
  | none => exact absurd isFailed failed
  | some write =>
      cases write with
      | attemptOnly =>
          obtain ⟨keyId, seen, stage, recovers⟩ := owns.attemptOnly isFailed
          have unclosed : ∀ request, progress.stage ≠ .closed request := by
            intro request closed
            cases stage.symm.trans closed
          cases broken : seen.broken setting with
          | true =>
              rw [if_pos broken] at recovers
              refine iff_of_false ?_ fun whole => whole ⟨isFailed, keyId, seen, stage, broken⟩
              rintro ⟨request, isRecord, _, isClass⟩
              rw [durableRecord, stage, recovers] at isRecord
              cases isRecord
              have other : "handler_abandoned" ≠ "evidence_unavailable" := by decide
              exact other (Option.some.inj isClass)
          | false =>
              rw [if_neg (by simp [broken])] at recovers
              refine iff_of_true (reports_of_armed recovers unclosed) ?_
              rintro ⟨_, other, otherSeen, isStage, isBroken⟩
              cases stage.symm.trans isStage
              rw [broken] at isBroken
              cases isBroken
      | withRequest =>
          refine iff_of_true ?_ ?_
          · rcases underway failed with ⟨keyId, seen, stage⟩ | ⟨terminal, closed, evidence⟩
            · have unclosed : ∀ request, progress.stage ≠ .closed request := by
                intro request closed
                cases stage.symm.trans closed
              refine reports_of_armed ?_ unclosed
              rcases owns.withRequest isFailed with armed | ⟨request, closed, _⟩
              · exact armed
              · exact absurd closed (unclosed request)
            · exact reports_of_closed closed evidence
          · rintro ⟨isAlone, _⟩
            cases isFailed.symm.trans isAlone

end

theorem evidence_failures_reported {handler : Handler} {representations : Representations}
    {host : Proxy.Host} {call : ProxyCall} {observed final : ProxyLog} {held : Held}
    (gone : Gone handler representations host call observed held final)
    (failed : (courseOf observed).failed ≠ none) :
    ReportsEvidence held (courseOf final) ↔
      ¬BrokenStream (handler.setting representations host call) (courseOf observed) := by
  obtain ⟨conforms, owns, served⟩ := gone.owns
  have underway : FailsUnderway (courseOf observed) := failsUnderway_of_conforms conforms
  have standing := reports_iff owns underway failed
  rcases served with rfl | ⟨op, answer, due, _, _, rfl⟩
  · exact standing
  rw [courseOf_snoc]
  rcases after_failed_write answer underway failed due with same |
    ⟨isFailed, terminal, closed, evidence⟩
  · refine Iff.trans ?_ standing
    rw [ReportsEvidence, ReportsEvidence, durableRecord, durableRecord, same]
  · refine iff_of_true (reports_of_closed closed evidence) ?_
    rintro ⟨isAlone, _⟩
    cases isFailed.symm.trans isAlone

namespace ProxyScript

/-- A stream that is over before its first frame, with another key to try. -/
def breaking (attemptFinished : Except Unit Unit) (contentType : String) : ProxyScript where
  keys := [key 1, key 2]
  post := fun _ => .ok (response .ok
    (fun header => if header = "content-type" then some contentType else none) [])
  poll := .error ()
  fixture := none
  attemptFinished

def breakingRun (contentType : String) : ProxyLog × ProxyEnding :=
  (breaking (.error ()) contentType).replay .chat representations host
    (call "/v1/chat/completions" true) 20

def breakingOwner (recovery : DropRecovery) : Held :=
  .evidence { terminal := false, permitAcquired := true, dropRecovery := recovery }

theorem breakingRun_gone : Gone .chat representations host
    (call "/v1/chat/completions" true) (breakingRun "text/event-stream").1
    (breakingOwner .handlerAbandoned) (breakingRun "text/event-stream").1 :=
  .returned (.ok Proxy.attemptUnavailable) (replay_runs (breaking (.error ())
    "text/event-stream") .chat representations host (call "/v1/chat/completions" true) 20)

theorem breakingRun_plain_gone : Gone .chat representations host
    (call "/v1/chat/completions" true) (breakingRun "application/json").1
    (breakingOwner (.evidenceFailure none 0)) (breakingRun "application/json").1 :=
  .returned (.ok Proxy.attemptUnavailable) (replay_runs (breaking (.error ())
    "application/json") .chat representations host (call "/v1/chat/completions" true) 20)

theorem evidence_failures_reported_plain :
    ReportsEvidence (breakingOwner (.evidenceFailure none 0))
      (courseOf (breakingRun "application/json").1) ↔
    ¬BrokenStream (Handler.chat.setting representations host
      (call "/v1/chat/completions" true))
      (courseOf (breakingRun "application/json").1) :=
  evidence_failures_reported breakingRun_plain_gone nofun

/-- The stream broke, its record failed, and what is recorded is that its
handler was abandoned. -/
theorem evidence_failure_mislabelled :
    ¬∀ (handler : Handler) (representations : Representations) (host : Proxy.Host)
      (call : ProxyCall) (observed final : ProxyLog) (held : Held),
      Gone handler representations host call observed held final →
        (courseOf observed).failed ≠ none → ReportsEvidence held (courseOf final) := by
  intro always
  obtain ⟨request, isRecord, _, isClass⟩ := always _ _ _ _ _ _ _ breakingRun_gone nofun
  have recorded : durableRecord (breakingOwner .handlerAbandoned)
      (courseOf (breakingRun "text/event-stream").1) =
        some (OpenTerminal.request DropRecovery.handlerAbandoned) :=
    rfl
  rw [recorded] at isRecord
  cases isRecord
  have other : "handler_abandoned" ≠ "evidence_unavailable" := by decide
  exact other (Option.some.inj isClass)

end ProxyScript

end NvidiaBuildLb.Gateway
