import NvidiaBuildLb.Gateway.FailoverDiscipline

namespace NvidiaBuildLb.Gateway

open Foundation NvidiaBuildLb.Core

/-! What a request has open in the database is owned in the process. -/

/-- A permit is granted or a request started. -/
def takes (op : ProxyOp) (answer : op.Answer) : Bool :=
  match op, answer with
  | .acquireDownstreamPermit, .ok acquired => acquired
  | .selectAndStartRequest, .ok selected => selected.isSome
  | .proxyRequestStarted, .ok () => true
  | _, _ => false

/-- The handler was answered whatever grant or start the database committed. -/
def Learned (observed done : ProxyLog) : Prop :=
  ∀ (index : Nat) (exchange : Exchange ProxyOp ProxyOp.Answer),
    done[index]? = some exchange → takes exchange.op exchange.answer = true →
      observed[index]? = some exchange

/-- A task that releases the permit has been spawned. -/
def Spawned (log : ProxyLog) : Prop :=
  ∃ exchange ∈ log, exchange.op = .spawnPermitRelease

/-- The permit and the request are closed, or what is held and what was spawned
will close them. -/
structure Owned (observed : ProxyLog) (held : Held) (rows : RequestRows) : Prop where
  permit : rows.permit = .granted → held.releases = true ∨ Spawned observed
  request : rows.request = some .started → held.recovery.isSome = true

def Stage.isOpen : Stage → Bool
  | .started | .between | .attempting _ _ => true
  | .admitting | .closed _ => false

/-- What is open is known to be. -/
structure Known (log : ProxyLog) (rows : RequestRows) : Prop where
  permit : rows.permit = .granted → (courseOf log).permit = true ∨ Spawned log
  request : rows.request = some .started → (courseOf log).stage.isOpen = true

section

variable {setting : Setting} {progress : RequestProgress} {rows rows' : RequestRows}
  {log observed done : ProxyLog} {op : ProxyOp}

theorem Spawned.snoc (spawned : Spawned log) (exchange : Exchange ProxyOp ProxyOp.Answer) :
    Spawned (log ++ [exchange]) := by
  obtain ⟨earlier, member, isSpawn⟩ := spawned
  exact ⟨earlier, List.mem_append_left _ member, isSpawn⟩

theorem untaken_rows {effect : op.Answer} (untaken : takes op effect = false)
    (wrote : rows.after op effect = some rows') :
    (rows'.permit = .granted → rows.permit = .granted) ∧
      (rows'.request = some .started → rows.request = some .started) := by
  cases recorded : op.records with
  | false =>
      refine ⟨?_, fun started => (unrecorded_rows recorded wrote).2.symm.trans started⟩
      cases op with
      | acquireDownstreamPermit =>
          cases effect with
          | error failure =>
              cases wrote
              exact id
          | ok acquired =>
              cases acquired with
              | false =>
                  cases wrote
                  exact id
              | true => cases untaken
      | releaseDownstreamPermit =>
          cases effect with
          | error failure =>
              cases wrote
              exact id
          | ok released =>
              cases wrote
              intro granted
              by_contra other
              exact other ((if_neg other).symm.trans granted)
      | attemptResponseStarted keyId ttfbMs =>
          cases effect with
          | error failure =>
              cases wrote
              exact id
          | ok responded =>
              simp only [RequestRows.after] at wrote
              split at wrote
              case isTrue =>
                  cases wrote
                  exact id
              case isFalse => cases wrote
      | _ =>
          first
            | cases wrote
              exact id
            | cases recorded
  | true =>
      cases op with
      | selectAndStartRequest =>
          cases effect with
          | error failure =>
              cases wrote
              exact ⟨id, id⟩
          | ok selected =>
              cases selected with
              | none =>
                  obtain ⟨_, rfl⟩ := insertRequest_some wrote
                  exact ⟨id, nofun⟩
              | some keyId => cases untaken
      | proxyRequestStarted =>
          cases effect with
          | error failure =>
              cases wrote
              exact ⟨id, id⟩
          | ok started => cases untaken
      | attemptStarted keyId =>
          cases effect with
          | error failure =>
              cases wrote
              exact ⟨id, id⟩
          | ok started =>
              obtain ⟨_, rfl⟩ := insertAttempt_some wrote
              exact ⟨id, id⟩
      | attemptFinished keyId terminal =>
          cases effect with
          | error failure =>
              cases wrote
              exact ⟨id, id⟩
          | ok finished =>
              obtain ⟨attempts, _, rfl⟩ := Option.map_eq_some_iff.mp wrote
              exact ⟨id, id⟩
      | requestAndAttemptFinished keyId attempt request =>
          cases effect with
          | error failure =>
              cases wrote
              exact ⟨id, id⟩
          | ok finished =>
              obtain ⟨between, isBetween, isFinish⟩ := Option.bind_eq_some_iff.mp wrote
              obtain ⟨attempts, _, rfl⟩ := Option.map_eq_some_iff.mp isBetween
              obtain ⟨_, rfl⟩ := finishRequest_some isFinish
              exact ⟨id, nofun⟩
      | proxyRequestFinished request =>
          cases effect with
          | error failure =>
              cases wrote
              exact ⟨id, id⟩
          | ok finished =>
              obtain ⟨_, rfl⟩ := finishRequest_some wrote
              exact ⟨id, nofun⟩
      | requestAndOpenAttemptsFinished terminal =>
          cases effect with
          | error failure =>
              cases wrote
              exact ⟨id, id⟩
          | ok finished =>
              obtain ⟨_, rfl⟩ := finishRequest_some wrote
              exact ⟨id, nofun⟩
      | _ => cases recorded

theorem see_open (progress : RequestProgress) (change : Seen → Seen) :
    (progress.see change).stage.isOpen = progress.stage.isOpen ∧
      (progress.see change).permit = progress.permit := by
  unfold RequestProgress.see
  split
  case h_1 keyId seen stage =>
      rw [stage]
      exact ⟨rfl, rfl⟩
  case h_2 => exact ⟨rfl, rfl⟩

theorem finish_permit (progress : RequestProgress) (terminal : AttemptTerminal)
    (stage : Stage) : (progress.finish terminal stage).permit = progress.permit := by
  unfold RequestProgress.finish
  split <;> rfl

theorem after_open {answer effect : op.Answer} (heard : effect = answer ∨ hides op answer = true)
    (wrote : rows.after op effect = some rows') (started : rows'.request = some .started)
    (isOpen : progress.stage.isOpen = true) :
    (progress.after op answer).stage.isOpen = true := by
  cases op with
  | requestAndAttemptFinished keyId attempt request =>
      cases answer with
      | error failure => exact isOpen
      | ok finished =>
          cases heard.resolve_right nofun
          obtain ⟨between, _, isFinish⟩ := Option.bind_eq_some_iff.mp wrote
          obtain ⟨_, rfl⟩ := finishRequest_some isFinish
          cases started
  | proxyRequestFinished request =>
      cases answer with
      | error failure => exact isOpen
      | ok finished =>
          cases heard.resolve_right nofun
          obtain ⟨_, rfl⟩ := finishRequest_some wrote
          cases started
  | requestAndOpenAttemptsFinished terminal =>
      cases answer with
      | error failure => exact isOpen
      | ok finished =>
          cases heard.resolve_right nofun
          obtain ⟨_, rfl⟩ := finishRequest_some wrote
          cases started
  | attemptFinished keyId terminal =>
      cases answer with
      | error failure => exact isOpen
      | ok finished => exact congrArg Stage.isOpen finish_stage
  | _ =>
      cases after_moves progress _ answer with
      | stays stage keys endings =>
          rw [stage]
          exact isOpen
      | begins keyId isBegin same =>
          rw [same]
          rfl
      | finishes terminal stage isFinish same => cases isFinish
      | sees change isSeen same =>
          rw [same, (see_open progress change).1]
          exact isOpen
      | starts isStart same =>
          rw [same]
          rfl
      | closes request isClose same => cases isClose

theorem due_acquire (due : Due setting progress .acquireDownstreamPermit) :
    progress.permit = false := by
  cases due with
  | acquire stage ungranted => exact ungranted
  | looks op calm => simp at calm
  | serves op keyId seen stage unfailed serving => simp at serving
  | sends op keyId stage unfailed sending => simp at sending
  | release op request stage releasing => simp at releasing

theorem after_permit (progress : RequestProgress) {op : ProxyOp} (answer : op.Answer)
    (other : op ≠ .acquireDownstreamPermit ∧ op ≠ .releaseDownstreamPermit ∧
      op ≠ .spawnPermitRelease) :
    (progress.after op answer).permit = progress.permit := by
  obtain ⟨unacquired, unreleased, unspawned⟩ := other
  unfold RequestProgress.after
  split
  all_goals first
    | rfl
    | exact (see_open progress _).2
    | exact finish_permit progress _ _
    | exact absurd rfl unacquired
    | exact absurd rfl unreleased
    | exact absurd rfl unspawned
    | skip
  split
  · rfl
  · exact (see_open progress _).2

theorem taken_permit {effect : op.Answer} (other : op ≠ .acquireDownstreamPermit)
    (taken : takes op effect = true) (wrote : rows.after op effect = some rows') :
    rows'.permit = rows.permit := by
  cases op with
  | acquireDownstreamPermit => exact absurd rfl other
  | selectAndStartRequest =>
      cases effect with
      | error failure => cases taken
      | ok selected =>
          cases selected with
          | none => cases taken
          | some keyId =>
              obtain ⟨started, isStarted, rfl⟩ := Option.map_eq_some_iff.mp wrote
              obtain ⟨_, rfl⟩ := insertRequest_some isStarted
              rfl
  | proxyRequestStarted =>
      cases effect with
      | error failure => cases taken
      | ok started =>
          obtain ⟨_, rfl⟩ := insertRequest_some wrote
          rfl
  | _ => cases taken

theorem Known.permit_written {answer effect : op.Answer} (known : Known log rows)
    (due : Due setting (courseOf log) op) (heard : effect = answer ∨ hides op answer = true)
    (learned : takes op effect = true → effect = answer)
    (wrote : rows.after op effect = some rows') (granted : rows'.permit = .granted) :
    (courseOf (log ++ [⟨op, answer⟩])).permit = true ∨ Spawned (log ++ [⟨op, answer⟩]) := by
  rw [courseOf_snoc]
  by_cases isAcquire : op = .acquireDownstreamPermit
  case pos =>
      subst isAcquire
      cases taken : takes .acquireDownstreamPermit effect with
      | true =>
          cases learned taken
          cases answer with
          | error failure => cases taken
          | ok acquired => exact .inl taken
      | false =>
          rcases known.permit ((untaken_rows taken wrote).1 granted) with open_ | spawned
          · exact absurd open_ (by simp [due_acquire due])
          · exact .inr (spawned.snoc _)
  case neg =>
      have before : rows.permit = .granted := by
        cases taken : takes op effect with
        | true => exact (taken_permit isAcquire taken wrote).symm.trans granted
        | false => exact (untaken_rows taken wrote).1 granted
      rcases known.permit before with open_ | spawned
      · by_cases isRelease : op = .releaseDownstreamPermit
        case pos =>
            subst isRelease
            cases answer with
            | error failure => exact .inl open_
            | ok released =>
                cases heard.resolve_right nofun
                cases wrote
                rw [if_pos before] at granted
                cases granted
        case neg =>
            by_cases isSpawn : op = .spawnPermitRelease
            case pos =>
                subst isSpawn
                exact .inr ⟨_, List.mem_append_right log (List.mem_singleton.mpr rfl), rfl⟩
            case neg =>
                rw [after_permit _ answer ⟨isAcquire, isRelease, isSpawn⟩]
                exact .inl open_
      · exact .inr (spawned.snoc _)

theorem Known.request_written {answer effect : op.Answer} (known : Known log rows)
    (heard : effect = answer ∨ hides op answer = true)
    (learned : takes op effect = true → effect = answer)
    (wrote : rows.after op effect = some rows')
    (started : rows'.request = some .started) :
    (courseOf (log ++ [⟨op, answer⟩])).stage.isOpen = true := by
  rw [courseOf_snoc]
  cases taken : takes op effect with
  | false =>
      exact after_open heard wrote started
        (known.request ((untaken_rows taken wrote).2 started))
  | true =>
      cases learned taken
      cases op with
      | acquireDownstreamPermit =>
          have before : rows.request = some .started :=
            (unrecorded_rows rfl wrote).2.symm.trans started
          exact after_open heard wrote started (known.request before)
      | selectAndStartRequest =>
          cases answer with
          | error failure => cases taken
          | ok selected =>
              cases selected with
              | none => cases taken
              | some keyId => rfl
      | proxyRequestStarted =>
          cases answer with
          | error failure => cases taken
          | ok begun => rfl
      | _ => cases taken

theorem did_length (did : Did log done) : done.length = log.length := by
  induction did with
  | nil => rfl
  | snoc effect earlier heard induction =>
      rw [List.length_append, List.length_append, induction]
      rfl

theorem Learned.front {more : ProxyLog} {exchange : Exchange ProxyOp ProxyOp.Answer}
    (learned : Learned (log ++ more) (done ++ [exchange])) (did : Did log done) :
    Learned log done := by
  intro index earlier isDone taken
  have inside : index < done.length := by
    by_contra outside
    rw [List.getElem?_eq_none (by omega)] at isDone
    cases isDone
  have isHeard := learned index earlier
    (by rw [List.getElem?_append_left inside, isDone]) taken
  rw [did_length did] at inside
  rwa [List.getElem?_append_left inside] at isHeard

theorem Learned.last {more : ProxyLog} {effect : op.Answer}
    (learned : Learned (log ++ more) (done ++ [⟨op, effect⟩])) (did : Did log done)
    (taken : takes op effect = true) : more[0]? = some ⟨op, effect⟩ := by
  have isHeard := learned done.length ⟨op, effect⟩ (by simp) taken
  rw [did_length did, List.getElem?_append_right (Nat.le_refl _), Nat.sub_self] at isHeard
  exact isHeard

theorem known_of_conforms
    (conforms : Monitor.Conforms Legal (proxyMonitor setting) log) (did : Did log done)
    (learned : Learned log done) (isRows : rowsOf done = some rows) : Known log rows := by
  induction conforms generalizing rows done with
  | nil =>
      generalize isNil : ([] : ProxyLog) = whole at did
      cases did with
      | nil =>
          cases isRows
          exact ⟨nofun, nofun⟩
      | snoc effect earlier heard => simp at isNil
  | @snoc log op answer held before allowed isLegal induction =>
      obtain ⟨earlier, effect, rfl, isEarlier, heard⟩ := did_snoc did
      rw [rowsOf_snoc] at isRows
      obtain ⟨rowsBefore, isBefore, wrote⟩ := Option.bind_eq_some_iff.mp isRows
      have known := induction isEarlier (learned.front isEarlier) isBefore
      have last : takes op effect = true → effect = answer := by
        intro taken
        have same := learned.last isEarlier taken
        cases same
        rfl
      exact ⟨known.permit_written allowed.2 heard last wrote,
        known.request_written heard last wrote⟩

/-- What a handler owns closes what it knows to be open. -/
theorem Known.owned {held : Held} (known : Known log rows)
    (owns : Owns setting held (courseOf log)) : Owned log held rows where
  permit := fun granted => (known.permit granted).imp_left owns.permit
  request := by
    intro started
    have isOpen := known.request started
    apply owns.request
    cases stage : (courseOf log).stage with
    | admitting =>
        rw [stage] at isOpen
        cases isOpen
    | started => exact .inl rfl
    | attempting keyId seen => exact .inr (.inr ⟨keyId, seen, rfl⟩)
    | between => exact .inr (.inl rfl)
    | closed request =>
        rw [stage] at isOpen
        cases isOpen

end

/-- Wherever its handler is dropped, a request has an owner for all that is
open. -/
theorem nothing_orphaned {handler : Handler} {representations : Representations}
    {host : Proxy.Host} {call : ProxyCall} {observed final done : ProxyLog} {held : Held}
    {rows : RequestRows}
    (gone : Gone handler representations host call observed held final)
    (did : Did final done) (isRows : rowsOf done = some rows)
    (learned : Learned observed done) : Owned observed held rows := by
  obtain ⟨conforms, owns, rfl | ⟨op, answer, _, _, _, rfl⟩⟩ := gone.owns
  · exact (known_of_conforms conforms did learned isRows).owned owns
  · obtain ⟨earlier, effect, rfl, isEarlier, _⟩ := did_snoc did
    rw [rowsOf_snoc] at isRows
    obtain ⟨rowsBefore, isBefore, wrote⟩ := Option.bind_eq_some_iff.mp isRows
    rw [← List.append_nil observed] at learned
    have untaken : takes op effect = false := by
      by_contra taken
      have heard := learned.last isEarlier (by simpa using taken)
      cases heard
    obtain ⟨permit, request⟩ := untaken_rows untaken wrote
    have owned := (known_of_conforms conforms isEarlier (learned.front isEarlier)
      isBefore).owned owns
    exact ⟨fun granted => owned.permit (permit granted),
      fun started => owned.request (request started)⟩

namespace ProxyScript

/-- The client goes away before its request is posted, and what the handler owned
closes both rows. -/
theorem nothing_orphaned_limited :
    ∃ observed held rows, Owned observed held rows ∧
      rows.permit = .granted ∧ rows.request = some .started ∧
      held.releases = true ∧ held.recovery = some DropRecovery.handlerAbandoned ∧
      ∃ closed, rowsOf (observed ++
          [⟨.requestAndOpenAttemptsFinished DropRecovery.handlerAbandoned, .ok ()⟩,
            ⟨.releaseDownstreamPermit, .ok ()⟩]) = some closed ∧
        closed.permit = .released ∧ closed.request = some (.ended .failed) :=
  ⟨_, _, _, nothing_orphaned
    (.dropped _ (replay_runs (limiting none) .chat representations host
      (call "/v1/chat/completions" false) 6) rfl (.inl rfl)) (did_self _) rfl
      fun _ _ isDone _ => isDone, rfl, rfl, rfl, rfl, _, rfl, rfl, rfl⟩

/-- The permit is granted, and the client has gone away before the handler hears
of it. -/
theorem permit_orphaned :
    ¬∀ (handler : Handler) (representations : Representations) (host : Proxy.Host)
      (call : ProxyCall) (observed final done : ProxyLog) (held : Held) (rows : RequestRows),
      Gone handler representations host call observed held final → Did final done →
        rowsOf done = some rows → Owned observed held rows := by
  intro always
  have owned := always .chat representations host (call "/v1/chat/completions" false) []
    [⟨.acquireDownstreamPermit, .ok true⟩] [⟨.acquireDownstreamPermit, .ok true⟩] .nothing
    { permit := .granted, request := none, attempts := [] }
    (.dropped .acquireDownstreamPermit
      (replay_runs (limiting none) .chat representations host
        (call "/v1/chat/completions" false) 0) rfl (.inr ⟨.ok true, trivial, rfl⟩))
    (did_self _) rfl
  rcases owned.permit rfl with released | ⟨exchange, member, _⟩
  · cases released
  · cases member

end ProxyScript

end NvidiaBuildLb.Gateway
