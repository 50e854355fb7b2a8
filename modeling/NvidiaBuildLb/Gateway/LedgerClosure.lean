import NvidiaBuildLb.Gateway.FailoverDiscipline

namespace NvidiaBuildLb.Gateway

open Foundation NvidiaBuildLb.Core

/-! Where every write succeeds, a request that is closed has no attempt open. -/

/-- The request is not closed, or all its attempts have ended. -/
def EndsWhole (rows : RequestRows) : Prop :=
  rows.request ≠ some .started → AllEnded rows.attempts

/-- No fixture that ends a stream is armed for a request without one. -/
def Suited (stream : Bool) (log : ProxyLog) : Prop :=
  stream = false → ∀ keyId,
    ⟨.consumeLiveFailureFixture keyId, .ok (some "after_first_frame")⟩ ∉ log

section

variable {setting : Setting} {progress : RequestProgress} {rows rows' : RequestRows}
  {log : ProxyLog}

theorem injected_of_conforms
    (conforms : Monitor.Conforms Legal (proxyMonitor setting) log) {keyId : Uuid}
    {kind : String} (stage : (courseOf log).stage = .attempting keyId (.injected kind)) :
    ∃ served, ⟨.consumeLiveFailureFixture served, .ok (some kind)⟩ ∈ log := by
  induction conforms generalizing keyId with
  | nil => cases stage
  | @snoc log op answer held before allowed isLegal induction =>
      rw [courseOf_snoc] at stage
      rcases after_attempting stage with ⟨_, unseen⟩ | ⟨earlier, isEarlier, sees⟩
      · cases unseen
      · cases sees with
        | same =>
            obtain ⟨served, member⟩ := induction isEarlier
            exact ⟨served, List.mem_append_left _ member⟩
        | injected => exact ⟨_, List.mem_append_right log (List.mem_singleton.mpr rfl)⟩

theorem EndsWhole.written {op : ProxyOp} {answer effect : op.Answer}
    (whole : EndsWhole rows) (inTurn : InTurn setting progress rows)
    (unrefused : progress.refused = false) (due : Due setting progress op)
    (suited : setting.stream = false →
      ∀ keyId, progress.stage ≠ .attempting keyId (.injected "after_first_frame"))
    (heard : effect = answer ∨ hides op answer = true)
    (succeeds : evidenceFails op answer = false)
    (wrote : rows.after op effect = some rows') : EndsWhole rows' := by
  cases recorded : op.records with
  | false =>
      obtain ⟨attempts, request⟩ := unrecorded_rows recorded wrote
      unfold EndsWhole
      rw [attempts, request]
      exact whole
  | true =>
  have isEffect : effect = answer := by
    rcases heard with same | hidden
    · exact same
    · have revealed : hides op answer = evidenceFails op answer := by
        cases op with
        | acquireDownstreamPermit => cases recorded
        | releaseDownstreamPermit => cases recorded
        | _ => rfl
      rw [revealed, succeeds] at hidden
      cases hidden
  subst isEffect
  cases op with
  | selectAndStartRequest =>
      cases effect with
      | error failure => cases succeeds
      | ok selected =>
          cases selected with
          | none =>
              obtain ⟨unborn, rfl⟩ := insertRequest_some wrote
              intro _
              change AllEnded rows.attempts
              rw [inTurn.ordered.unborn unborn]
              exact fun _ => nofun
          | some keyId =>
              obtain ⟨started, isStarted, rfl⟩ := Option.map_eq_some_iff.mp wrote
              obtain ⟨_, rfl⟩ := insertRequest_some isStarted
              exact fun closed => absurd rfl closed
  | proxyRequestStarted =>
      cases effect with
      | error failure => cases succeeds
      | ok started =>
          obtain ⟨_, rfl⟩ := insertRequest_some wrote
          exact fun closed => absurd rfl closed
  | attemptStarted keyId =>
      cases effect with
      | error failure => cases succeeds
      | ok started =>
          obtain ⟨requested, rfl⟩ := insertAttempt_some wrote
          exact fun closed => absurd requested closed
  | attemptFinished keyId terminal =>
      cases effect with
      | error failure => cases succeeds
      | ok finished =>
          obtain ⟨isNewest, request⟩ := finishAttempt_some wrote
          exact fun _ => finishNewest_ended inTurn.ordered.ended isNewest
  | requestAndAttemptFinished keyId attempt request =>
      cases effect with
      | error failure => cases succeeds
      | ok finished =>
          obtain ⟨between, isBetween, isFinish⟩ := Option.bind_eq_some_iff.mp wrote
          obtain ⟨isNewest, _⟩ := finishAttempt_some isBetween
          obtain ⟨_, rfl⟩ := finishRequest_some isFinish
          exact fun _ => finishNewest_ended inTurn.ordered.ended isNewest
  | proxyRequestFinished request =>
      cases effect with
      | error failure => cases succeeds
      | ok finished =>
          obtain ⟨_, rfl⟩ := finishRequest_some wrote
          intro _
          change AllEnded rows.attempts
          rcases due_proxyRequestFinished due with ⟨stage, _⟩ | ⟨keyId, stage, _, plain, _⟩
          · have same := inTurn.same unrefused (by rw [stage]; nofun)
            rw [inTurn.early (.inr stage)] at same
            rw [List.map_eq_nil_iff.mp same]
            exact fun _ => nofun
          · exact absurd stage (suited plain keyId)
  | requestAndOpenAttemptsFinished terminal =>
      cases effect with
      | error failure => cases succeeds
      | ok finished =>
          obtain ⟨_, rfl⟩ := finishRequest_some wrote
          exact fun _ => finishOpenAttempts_ended rows terminal
  | _ => cases recorded

theorem unrefused_of_succeeds (succeeds : EvidenceSucceeds log) :
    (courseOf log).refused = false := by
  induction log using List.reverseRecOn with
  | nil => rfl
  | append_singleton log exchange induction =>
      obtain ⟨op, answer⟩ := exchange
      have before := induction fun other member =>
        succeeds other (List.mem_append_left _ member)
      rw [courseOf_snoc, (after_unfailed (succeeds ⟨op, answer⟩ (by simp))).2]
      exact before

theorem endsWhole_of_conforms
    (conforms : Monitor.Conforms Legal (proxyMonitor setting) log)
    (succeeds : EvidenceSucceeds log) (suited : Suited setting.stream log)
    (recorded : Recorded log rows) : EndsWhole rows := by
  induction conforms generalizing rows with
  | nil =>
      cases recorded_nil recorded
      exact fun _ _ => nofun
  | @snoc log op answer held before allowed isLegal induction =>
      obtain ⟨earlier, effect, isEarlier, heard, wrote⟩ := recorded_snoc recorded
      have succeedsEarlier : EvidenceSucceeds log := fun other member =>
        succeeds other (List.mem_append_left _ member)
      have suitedEarlier : Suited setting.stream log := fun plain keyId member =>
        suited plain keyId (List.mem_append_left _ member)
      refine (induction succeedsEarlier suitedEarlier isEarlier).written
        (inTurn_of_conforms before isEarlier) (unrefused_of_succeeds succeedsEarlier) allowed.2
        ?_ heard (succeeds ⟨op, answer⟩ (by simp)) wrote
      intro plain keyId stage
      obtain ⟨served, member⟩ := injected_of_conforms before stage
      exact suitedEarlier plain served member

end

theorem closed_with_attempts {handler : Handler} {representations : Representations}
    {host : Proxy.Host} {call : ProxyCall} {log : ProxyLog} {rows : RequestRows}
    (leads : Leads handler representations host call log rows)
    (succeeds : EvidenceSucceeds log)
    (suited : Suited (handler.setting representations host call).stream log) :
    EndsWhole rows := by
  have conforms := leads.conforms
  cases leads with
  | underway ending run recorded => exact endsWhole_of_conforms conforms succeeds suited recorded
  | gone isGone recorded => exact endsWhole_of_conforms conforms succeeds suited recorded
  | @recovered _ _ _ before _ terminal isGone recorded left wrote =>
      obtain ⟨_, rfl⟩ := finishRequest_some wrote
      exact fun _ => finishOpenAttempts_ended before terminal

namespace ProxyScript

def injectsNothing : Exchange ProxyOp ProxyOp.Answer → Bool
  | ⟨.consumeLiveFailureFixture _, .ok (some _)⟩ => false
  | _ => true

theorem closed_with_attempts_limited :
    ∃ rows, rowsOf (limitingRun none).1 = some rows ∧
      rows.request = some (.ended .failed) ∧ EndsWhole rows :=
  ⟨_, rfl, rfl, closed_with_attempts
    (.underway _ (replay_runs (limiting none) .chat representations host
      (call "/v1/chat/completions" false) 20) ⟨_, did_self _, rfl⟩)
    (evidenceSucceeds_of_all rfl) (by
      intro plain keyId member
      have silent : (limitingRun none).1.all injectsNothing = true := rfl
      exact absurd (List.all_eq_true.mp silent _ member) (fun kept => by cases kept))⟩

/-- The fixture is armed for a stream, and the request is none. -/
theorem closed_without_attempt :
    ¬∀ (handler : Handler) (representations : Representations) (host : Proxy.Host)
      (call : ProxyCall) (log : ProxyLog) (rows : RequestRows),
      Leads handler representations host call log rows → EvidenceSucceeds log →
        EndsWhole rows := by
  intro always
  have rows : ∃ rows, rowsOf (limitingRun (some "after_first_frame")).1 = some rows ∧
      rows.request = some (.ended .failed) ∧
      rows.attempts = [{ keyId := 1, attemptNo := 1, outcome := .started, bytesOut := none }] :=
    ⟨_, rfl, rfl, rfl⟩
  obtain ⟨rows, isRows, closed, attempts⟩ := rows
  have whole := always .chat representations host (call "/v1/chat/completions" false) _ rows
    (.underway _ (replay_runs (limiting (some "after_first_frame")) .chat representations
      host (call "/v1/chat/completions" false) 20) ⟨_, did_self _, isRows⟩)
    (evidenceSucceeds_of_all rfl) (by rw [closed]; nofun)
  rw [attempts] at whole
  exact whole _ (List.mem_singleton.mpr rfl) rfl

end ProxyScript

end NvidiaBuildLb.Gateway
