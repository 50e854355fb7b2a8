import NvidiaBuildLb.Gateway.RequestRows
import NvidiaBuildLb.Core.Invariant

namespace NvidiaBuildLb.Gateway

open Foundation NvidiaBuildLb.Core

/-! The attempts of a request come one after another, each with a key of its
own, also where a write fails or its effect is not known. -/

theorem foldl_max_range' (count : Nat) : (List.range' 1 count).foldl max 0 = count := by
  induction count with
  | zero => rfl
  | succ count induction =>
      rw [List.range'_1_concat, List.foldl_append, induction]
      simp [Nat.add_comm]

/-- The attempts on record: distinct keys, numbered from one, and none open but
the last. -/
structure Ordered (rows : RequestRows) : Prop where
  unborn : rows.request = none → rows.attempts = []
  distinct : (rows.attempts.map AttemptEntry.keyId).Nodup
  numbered : rows.attempts.map AttemptEntry.attemptNo =
    List.range' 1 rows.attempts.length
  ended : AllEnded rows.attempts.dropLast

section Ordered

variable {rows rows' : RequestRows} {keyId : Uuid}

theorem Ordered.nextAttemptNo (ordered : Ordered rows) :
    rows.nextAttemptNo = rows.attempts.length + 1 := by
  rw [RequestRows.nextAttemptNo, ordered.numbered, foldl_max_range']

theorem Ordered.goes (ordered : Ordered rows) (goes : Goes rows.attempts rows'.attempts)
    (born : rows'.request = none → rows.request = none) : Ordered rows' where
  unborn := by
    intro unborn
    rw [ordered.unborn (born unborn)] at goes
    exact List.forall₂_nil_left_iff.mp goes
  distinct := by
    rw [goes.keys]
    exact ordered.distinct
  numbered := by
    rw [goes.numbers, ordered.numbered, goes.length_eq]
  ended := goes.dropLast.ended ordered.ended

theorem Ordered.first (none_yet : rows.attempts = []) (request : rows.request ≠ none) :
    Ordered (rows.addAttempt keyId 1) := by
  refine ⟨fun unborn => absurd unborn request, ?_, ?_, ?_⟩ <;>
    simp [RequestRows.addAttempt, none_yet, AllEnded]

theorem Ordered.next (ordered : Ordered rows) (request : rows.request ≠ none)
    (fresh : keyId ∉ rows.attempts.map AttemptEntry.keyId) (settled : AllEnded rows.attempts) :
    Ordered (rows.addAttempt keyId rows.nextAttemptNo) where
  unborn := fun unborn => absurd unborn request
  distinct := by
    have distinct := ordered.distinct
    simp only [RequestRows.addAttempt, List.map_append, List.map_cons, List.map_nil]
    rw [List.nodup_append]
    refine ⟨distinct, by simp, ?_⟩
    intro other member last isLast
    cases List.mem_singleton.mp isLast
    rintro rfl
    exact fresh member
  numbered := by
    have number := ordered.nextAttemptNo
    simp only [RequestRows.addAttempt, List.map_append, List.map_cons, List.map_nil,
      List.length_append, List.length_singleton]
    rw [ordered.numbered, List.range'_1_concat, number, Nat.add_comm]
  ended := by
    rw [RequestRows.addAttempt, List.dropLast_concat]
    exact settled

end Ordered

/-- The attempts on record are those of the course, unless an answer was lost. -/
structure InTurn (setting : Setting) (progress : RequestProgress) (rows : RequestRows) :
    Prop where
  ordered : Ordered rows
  early : progress.stage = .admitting ∨ progress.stage = .started → progress.keys = []
  same : progress.refused = false → progress.stage ≠ .admitting →
    rows.attempts.map AttemptEntry.keyId = progress.keys
  between : progress.stage = .between → progress.refused = false → AllEnded rows.attempts
  room : rows.attempts.length ≤ max 1 (progress.listed.getD 1)
  single : setting.single = true → rows.attempts.length ≤ 1

/-- The course goes on, and no attempt begins. -/
structure Calm (before after : RequestProgress) : Prop where
  keys : after.keys = before.keys
  refused : after.refused = false → before.refused = false
  stage : after.stage = .admitting ∨ after.stage = .started ∨ after.stage = .between →
    after.stage = before.stage
  admitting : before.stage = .admitting → after.stage = .admitting
  listed : max 1 (before.listed.getD 1) ≤ max 1 (after.listed.getD 1)

theorem calm_of_same {before after : RequestProgress} (keys : after.keys = before.keys)
    (refused : after.refused = before.refused) (stage : after.stage = before.stage)
    (listed : after.listed = before.listed) : Calm before after :=
  ⟨keys, fun unrefused => refused ▸ unrefused, fun _ => stage,
    fun admitting => stage.trans admitting, by rw [listed]⟩

theorem calm_refl (progress : RequestProgress) : Calm progress progress :=
  calm_of_same rfl rfl rfl rfl

theorem calm_see (progress : RequestProgress) (change : Seen → Seen) :
    Calm progress (progress.see change) := by
  unfold RequestProgress.see
  split
  case h_1 keyId seen stage =>
      refine ⟨rfl, id, ?_, ?_, Nat.le_refl _⟩
      · rintro (stage | stage | stage) <;> cases stage
      · rw [stage]
        nofun
  case h_2 => exact calm_refl progress

theorem calm_closed {progress : RequestProgress} {request : RequestTerminal}
    (begun : progress.stage ≠ .admitting) :
    Calm progress { progress with stage := .closed request } := by
  refine ⟨rfl, id, ?_, fun admitting => absurd admitting begun, Nat.le_refl _⟩
  rintro (stage | stage | stage) <;> cases stage

theorem calm_finish {progress : RequestProgress} {terminal : AttemptTerminal}
    {request : RequestTerminal} (begun : progress.stage ≠ .admitting) :
    Calm progress (progress.finish terminal (.closed request)) := by
  obtain ⟨keys, refused, listed⟩ := finish_apart progress terminal (.closed request)
  refine ⟨keys, fun unrefused => refused ▸ unrefused, ?_,
    fun admitting => absurd admitting begun, by rw [listed]⟩
  rw [finish_stage]
  rintro (stage | stage | stage) <;> cases stage

section InTurn

variable {setting : Setting} {progress progress' : RequestProgress}
  {rows rows' : RequestRows} {keyId : Uuid}

theorem InTurn.calm (inTurn : InTurn setting progress rows) (calm : Calm progress progress')
    (goes : Goes rows.attempts rows'.attempts)
    (born : rows'.request = none → rows.request = none) :
    InTurn setting progress' rows' := by
  have length := goes.length_eq
  refine ⟨inTurn.ordered.goes goes born, ?_, ?_, ?_, ?_, ?_⟩
  · intro early
    have stage : progress'.stage = progress.stage :=
      calm.stage (early.elim .inl fun started => .inr (.inl started))
    rw [stage] at early
    exact calm.keys.trans (inTurn.early early)
  · intro unrefused begun
    rw [goes.keys, calm.keys]
    exact inTurn.same (calm.refused unrefused) (mt calm.admitting begun)
  · intro between unrefused
    have stage := calm.stage (.inr (.inr between))
    exact goes.ended (inTurn.between (stage.symm.trans between) (calm.refused unrefused))
  · rw [← length]
    exact inTurn.room.trans calm.listed
  · intro single
    rw [← length]
    exact inTurn.single single

theorem InTurn.first (inTurn : InTurn setting progress rows)
    (unborn : rows.request = none) (admitting : progress.stage = .admitting)
    (heard : progress' = progress ∨ progress' = progress.begin keyId) :
    InTurn setting progress'
      ({ rows with request := some .started }.addAttempt keyId 1) := by
  have none_yet := inTurn.ordered.unborn unborn
  have keys := inTurn.early (.inl admitting)
  have one : ({ rows with request := some .started }.addAttempt keyId 1).attempts.length =
      1 := by
    simp [RequestRows.addAttempt, none_yet]
  refine ⟨Ordered.first none_yet nofun, ?_, ?_, ?_, ?_, fun _ => one.le⟩
  · rcases heard with rfl | rfl
    · exact inTurn.early
    · rintro (stage | stage) <;> cases stage
  · rcases heard with rfl | rfl
    · exact fun _ begun => absurd admitting begun
    · simp [RequestRows.addAttempt, RequestProgress.begin, none_yet, keys]
  · rcases heard with rfl | rfl
    · intro between
      cases admitting.symm.trans between
    · nofun
  · rw [one]
    exact Nat.le_max_left 1 _

theorem InTurn.next (inTurn : InTurn setting progress rows)
    (requested : rows.request ≠ none)
    (due : Due setting progress (.attemptStarted keyId))
    (heard : progress' = { progress with refused := true } ∨
      progress' = progress.begin keyId) :
    InTurn setting progress' (rows.addAttempt keyId rows.nextAttemptNo) := by
  obtain ⟨unrefused, started⟩ := due_attemptStarted due
  have begun : progress.stage ≠ .admitting := by
    rcases started with stage | ⟨stage, _⟩ <;>
      · rw [stage]
        nofun
  have same := inTurn.same unrefused begun
  have count : rows.attempts.length = progress.keys.length := by
    rw [← same, List.length_map]
  have settled : AllEnded rows.attempts := by
    rcases started with stage | ⟨stage, _⟩
    · have none_yet : rows.attempts = [] := by
        rw [inTurn.early (.inr stage)] at same
        exact List.map_eq_nil_iff.mp same
      rw [none_yet]
      exact fun _ => nofun
    · exact inTurn.between stage unrefused
  have fresh : keyId ∉ rows.attempts.map AttemptEntry.keyId := by
    rw [same]
    rcases started with stage | ⟨_, fresh, _⟩
    · rw [inTurn.early (.inr stage)]
      exact List.not_mem_nil
    · exact fresh
  have length : (rows.addAttempt keyId rows.nextAttemptNo).attempts.length =
      progress.keys.length + 1 := by
    rw [RequestRows.addAttempt, List.length_append, count, List.length_singleton]
  have listed : progress'.listed = progress.listed := by
    rcases heard with rfl | rfl <;> rfl
  refine ⟨inTurn.ordered.next requested fresh settled, ?_, ?_, ?_, ?_, ?_⟩
  · rcases heard with rfl | rfl
    · exact inTurn.early
    · rintro (stage | stage) <;> cases stage
  · rcases heard with rfl | rfl
    · nofun
    · intro _ _
      simp [RequestRows.addAttempt, RequestProgress.begin, same]
  · rcases heard with rfl | rfl
    · intro _ unrefused
      cases unrefused
    · nofun
  · rw [length, listed]
    rcases started with stage | ⟨_, _, _, room⟩
    · rw [inTurn.early (.inr stage)]
      exact Nat.le_max_left 1 _
    · exact room
  · intro single
    rw [length]
    rcases started with stage | ⟨_, _, several, _⟩
    · rw [inTurn.early (.inr stage)]
      rfl
    · cases single.symm.trans several

/-- The requests that write the rows of a request or of its attempts. -/
def ProxyOp.records : ProxyOp → Bool
  | .selectAndStartRequest => true
  | .proxyRequestStarted => true
  | .attemptStarted _ => true
  | .attemptFinished _ _ => true
  | .requestAndAttemptFinished _ _ _ => true
  | .proxyRequestFinished _ => true
  | .requestAndOpenAttemptsFinished _ => true
  | _ => false

theorem unrecorded_rows {op : ProxyOp} {effect : op.Answer} (unrecorded : op.records = false)
    (wrote : rows.after op effect = some rows') :
    rows'.attempts = rows.attempts ∧ rows'.request = rows.request := by
  unfold RequestRows.after at wrote
  split at wrote
  all_goals first
    | cases unrecorded
    | skip
  case h_1 =>
      split at wrote
      case isTrue =>
          cases wrote
          exact ⟨rfl, rfl⟩
      case isFalse => cases wrote
  case h_7 =>
      split at wrote
      case isTrue =>
          cases wrote
          exact ⟨rfl, rfl⟩
      case isFalse => cases wrote
  all_goals
    cases wrote
    exact ⟨rfl, rfl⟩

theorem unrecorded_calm {op : ProxyOp} (answer : op.Answer)
    (unrecorded : op.records = false) : Calm progress (progress.after op answer) := by
  unfold RequestProgress.after
  split
  all_goals first
    | exact calm_refl progress
    | exact calm_see progress _
    | exact calm_of_same rfl rfl rfl rfl
    | cases unrecorded
  · refine ⟨rfl, id, fun _ => rfl, id, ?_⟩
    cases listed : progress.listed with
    | none => exact Nat.le_max_left 1 _
    | some count => exact Nat.le_refl _
  · split
    · exact calm_refl progress
    · exact calm_see progress _

theorem insertRequest_some {outcome : Outcome RequestOutcome}
    (inserted : rows.insertRequest outcome = some rows') :
    rows.request = none ∧ rows' = { rows with request := some outcome } := by
  unfold RequestRows.insertRequest at inserted
  split at inserted
  case isTrue unborn =>
      cases inserted
      exact ⟨unborn, rfl⟩
  case isFalse => cases inserted

theorem insertAttempt_some (inserted : rows.insertAttempt keyId = some rows') :
    rows.request = some .started ∧ rows' = rows.addAttempt keyId rows.nextAttemptNo := by
  unfold RequestRows.insertAttempt at inserted
  split at inserted
  case isTrue requested =>
      cases inserted
      exact ⟨requested.1, rfl⟩
  case isFalse => cases inserted

theorem finishRequest_some {outcome : RequestOutcome}
    (finished : rows.finishRequest outcome = some rows') :
    rows.request = some .started ∧
      rows' = { rows with request := some (.ended outcome) } := by
  unfold RequestRows.finishRequest at finished
  split at finished
  case isTrue requested =>
      cases finished
      exact ⟨requested, rfl⟩
  case isFalse => cases finished

theorem finishAttempt_some {terminal : AttemptTerminal}
    (finished : rows.finishAttempt keyId terminal = some rows') :
    finishNewest keyId terminal rows.attempts = some rows'.attempts ∧
      rows'.request = rows.request := by
  obtain ⟨attempts, isNewest, rfl⟩ := Option.map_eq_some_iff.mp finished
  exact ⟨isNewest, rfl⟩

theorem InTurn.written {op : ProxyOp} {answer effect : op.Answer}
    (inTurn : InTurn setting progress rows)
    (due : Due setting progress op) (heard : effect = answer ∨ hides op answer = true)
    (wrote : rows.after op effect = some rows') :
    InTurn setting (progress.after op answer) rows' := by
  cases recorded : op.records with
  | false =>
      obtain ⟨attempts, request⟩ := unrecorded_rows recorded wrote
      refine inTurn.calm (unrecorded_calm answer recorded) ?_ fun unborn =>
        request.symm.trans unborn
      rw [attempts]
      exact goes_refl _
  | true =>
  cases op with
  | selectAndStartRequest =>
      have admitting := due_select due
      cases effect with
      | error failure =>
          cases wrote
          cases answer with
          | error other => exact inTurn
          | ok selected => rcases heard with isSame | hidden <;> contradiction
      | ok selected =>
          cases selected with
          | none =>
              obtain ⟨unborn, rfl⟩ := insertRequest_some wrote
              have still : InTurn setting progress
                  { rows with request := some (.ended .failed) } :=
                inTurn.calm (calm_refl progress) (goes_refl _) fun unborn => by cases unborn
              rcases heard with rfl | hidden
              · exact still
              · cases answer with
                | error other => exact still
                | ok other => cases hidden
          | some keyId =>
              obtain ⟨started, isStarted, rfl⟩ := Option.map_eq_some_iff.mp wrote
              obtain ⟨unborn, rfl⟩ := insertRequest_some isStarted
              refine inTurn.first unborn admitting ?_
              rcases heard with rfl | hidden
              · exact .inr rfl
              · cases answer with
                | error other => exact .inl rfl
                | ok other => cases hidden
  | proxyRequestStarted =>
      have admitting := due_start due
      cases effect with
      | error failure =>
          cases wrote
          cases answer with
          | error other => exact inTurn
          | ok started => rcases heard with isSame | hidden <;> contradiction
      | ok started =>
          obtain ⟨unborn, rfl⟩ := insertRequest_some wrote
          cases answer with
          | error other =>
              exact inTurn.calm (calm_refl progress) (goes_refl _) fun unborn => by cases unborn
          | ok heardStart =>
              have none_yet := inTurn.ordered.unborn unborn
              have keys := inTurn.early (.inl admitting)
              refine ⟨inTurn.ordered.goes (goes_refl _) (fun unborn => by cases unborn),
                fun _ => keys, ?_, (fun started => by cases started),
                inTurn.room, inTurn.single⟩
              intro _ _
              change rows.attempts.map AttemptEntry.keyId = progress.keys
              rw [none_yet, keys]
              rfl
  | attemptStarted keyId =>
      cases effect with
      | error failure =>
          cases wrote
          cases answer with
          | ok started => rcases heard with isSame | hidden <;> contradiction
          | error other =>
              refine inTurn.calm ⟨rfl, (fun unrefused => by cases unrefused), fun _ => rfl, id,
                Nat.le_refl _⟩ (goes_refl _) id
      | ok started =>
          obtain ⟨requested, rfl⟩ := insertAttempt_some wrote
          refine inTurn.next (by simp [requested]) due ?_
          cases answer with
          | error other => exact .inl rfl
          | ok heardStart => exact .inr rfl
  | attemptFinished keyId terminal =>
      obtain ⟨seen, closing, _⟩ := due_attemptFinished due
      cases effect with
      | error failure =>
          cases wrote
          cases answer with
          | ok finished => rcases heard with isSame | hidden <;> contradiction
          | error other =>
              exact inTurn.calm (calm_of_same rfl rfl rfl rfl) (goes_refl _) id
      | ok finished =>
          obtain ⟨isNewest, request⟩ := finishAttempt_some wrote
          have goes := finishNewest_goes isNewest
          have born : rows'.request = none → rows.request = none :=
            fun unborn => request.symm.trans unborn
          cases answer with
          | error other =>
              exact inTurn.calm (calm_of_same rfl rfl rfl rfl) goes born
          | ok heardFinish =>
              obtain ⟨keys, refused, listed⟩ := finish_apart progress terminal .between
              have begun : progress.stage ≠ .admitting := by
                simp [closing.stage]
              refine ⟨inTurn.ordered.goes goes born, ?_, ?_, ?_, ?_, ?_⟩
              · rw [RequestProgress.after, finish_stage]
                rintro (stage | stage) <;> cases stage
              · intro unrefused _
                rw [RequestProgress.after] at unrefused ⊢
                rw [goes.keys, keys]
                exact inTurn.same (refused.symm.trans unrefused) begun
              · exact fun _ _ => finishNewest_ended inTurn.ordered.ended isNewest
              · rw [RequestProgress.after, listed, ← goes.length_eq]
                exact inTurn.room
              · rw [← goes.length_eq]
                exact inTurn.single
  | requestAndAttemptFinished keyId attempt request =>
      obtain ⟨seen, closing, _⟩ := due_requestAndAttemptFinished due
      cases effect with
      | error failure =>
          cases wrote
          cases answer with
          | ok finished => rcases heard with isSame | hidden <;> contradiction
          | error other =>
              exact inTurn.calm (calm_of_same rfl rfl rfl rfl) (goes_refl _) id
      | ok finished =>
          obtain ⟨between, isBetween, isFinish⟩ := Option.bind_eq_some_iff.mp wrote
          obtain ⟨isNewest, _⟩ := finishAttempt_some isBetween
          obtain ⟨_, rfl⟩ := finishRequest_some isFinish
          have goes := finishNewest_goes isNewest
          cases answer with
          | error other =>
              exact inTurn.calm (calm_of_same rfl rfl rfl rfl) goes fun unborn => by cases unborn
          | ok heardFinish =>
              exact inTurn.calm (calm_finish (by simp [closing.stage])) goes
                fun unborn => by cases unborn
  | proxyRequestFinished request =>
      have begun : progress.stage ≠ .admitting := by
        rcases due_proxyRequestFinished due with ⟨stage, _⟩ | ⟨keyId, stage, _⟩ <;>
          · simp [stage]
      cases effect with
      | error failure =>
          cases wrote
          cases answer with
          | ok finished => rcases heard with isSame | hidden <;> contradiction
          | error other => exact inTurn
      | ok finished =>
          obtain ⟨_, rfl⟩ := finishRequest_some wrote
          cases answer with
          | error other =>
              exact inTurn.calm (calm_refl progress) (goes_refl _) fun unborn => by cases unborn
          | ok heardFinish =>
              exact inTurn.calm (calm_closed begun) (goes_refl _) fun unborn => by cases unborn
  | requestAndOpenAttemptsFinished terminal =>
      obtain ⟨_, _, keyId, seen, stage, _⟩ := due_openAttemptsFinished due
      have begun : progress.stage ≠ .admitting := by
        simp [stage]
      cases effect with
      | error failure =>
          cases wrote
          cases answer with
          | ok finished => rcases heard with isSame | hidden <;> contradiction
          | error other => exact inTurn
      | ok finished =>
          obtain ⟨_, rfl⟩ := finishRequest_some wrote
          have goes := finishOpenAttempts_goes rows terminal
          cases answer with
          | error other =>
              exact inTurn.calm (calm_refl progress) goes fun unborn => by cases unborn
          | ok heardFinish =>
              exact inTurn.calm (calm_finish begun) goes fun unborn => by cases unborn
  | _ => cases recorded

theorem inTurn_of_conforms {log : ProxyLog}
    (conforms : Monitor.Conforms Legal (proxyMonitor setting) log)
    (recorded : Recorded log rows) : InTurn setting (courseOf log) rows := by
  induction conforms generalizing rows with
  | nil =>
      cases recorded_nil recorded
      exact ⟨⟨fun _ => rfl, List.nodup_nil, rfl, fun _ => nofun⟩, fun _ => rfl,
        fun _ begun => absurd rfl begun, nofun, Nat.zero_le _, fun _ => Nat.zero_le _⟩
  | snoc held before allowed isLegal induction =>
      obtain ⟨earlier, effect, isEarlier, heard, wrote⟩ := recorded_snoc recorded
      rw [courseOf_snoc]
      exact (induction isEarlier).written allowed.2 heard wrote

end InTurn

section Rows

variable (handler : Handler) (representations : Representations) (host : Proxy.Host)
  (call : ProxyCall)

/-- The rows after a log: its handler is on its way, or is gone, or the task it
left has closed what was open. -/
inductive Leads : ProxyLog → RequestRows → Prop where
  | underway {log : ProxyLog} {rows : RequestRows} (ending : ProxyEnding)
      (run : Runs handler representations host call log ending)
      (recorded : Recorded log rows) : Leads log rows
  | gone {observed final : ProxyLog} {held : Held} {rows : RequestRows}
      (isGone : Gone handler representations host call observed held final)
      (recorded : Recorded final rows) : Leads final rows
  | recovered {observed final : ProxyLog} {held : Held} {rows rows' : RequestRows}
      (terminal : OpenTerminal)
      (isGone : Gone handler representations host call observed held final)
      (recorded : Recorded final rows) (left : held.recovery = some terminal)
      (wrote : rows.after (.requestAndOpenAttemptsFinished terminal) (.ok ()) =
        some rows') : Leads final rows'

/-- The attempts use different keys and have the numbers from one; there are no
more of them than keys are listed, one of an image or a video, and none is
started before the one before it has ended. -/
structure Disciplined (log : ProxyLog) (rows : RequestRows) : Prop where
  distinct : (rows.attempts.map AttemptEntry.keyId).Nodup
  numbered : rows.attempts.map AttemptEntry.attemptNo =
    List.range' 1 rows.attempts.length
  within : rows.attempts.length ≤ max 1 ((courseOf log).listed.getD 1)
  two : rows.attempts.length ≤ 2
  single : handler = .multimodal → Proxy.isGeneration call.path = true →
    rows.attempts.length ≤ 1
  ended : AllEnded rows.attempts.dropLast

end Rows

/-- Whenever the keys are listed, they are those of a vault that can be
loaded. -/
def Listings (log : ProxyLog) : Prop :=
  ∀ exchange ∈ log, ∀ keys : List KeySummary, exchange = ⟨.list, keys⟩ →
    ∃ vault : VaultFile, vault.Loadable ∧
      keys = (vault.keys.filter fun key => !key.retired).map summary

section

variable {handler : Handler} {representations : Representations} {host : Proxy.Host}
  {call : ProxyCall} {log : ProxyLog} {rows : RequestRows}

theorem Gone.conforms {observed final : ProxyLog} {held : Held}
    (gone : Gone handler representations host call observed held final) :
    Monitor.Conforms Legal (proxyMonitor (handler.setting representations host call))
      final := by
  obtain ⟨conforms, owns, rfl | ⟨op, answer, due, _, isLegal, rfl⟩⟩ := gone.owns
  · exact conforms
  · exact .snoc held conforms ⟨owns, due⟩ isLegal

theorem Leads.conforms (leads : Leads handler representations host call log rows) :
    Monitor.Conforms Legal (proxyMonitor (handler.setting representations host call)) log := by
  cases leads with
  | underway ending run recorded => exact run.stands.1
  | gone isGone recorded => exact isGone.conforms
  | recovered terminal isGone recorded left wrote => exact isGone.conforms

theorem Leads.recorded (leads : Leads handler representations host call log rows) :
    ∃ before, Recorded log before ∧ Goes before.attempts rows.attempts := by
  cases leads with
  | underway ending run recorded => exact ⟨rows, recorded, goes_refl _⟩
  | gone isGone recorded => exact ⟨rows, recorded, goes_refl _⟩
  | @recovered _ _ _ before _ terminal isGone recorded left wrote =>
      obtain ⟨_, rfl⟩ := finishRequest_some wrote
      exact ⟨before, recorded, finishOpenAttempts_goes before terminal⟩

theorem listed_two (listings : Listings log) : (courseOf log).listed.getD 1 ≤ 2 := by
  induction log using List.reverseRecOn with
  | nil => exact Nat.le_of_lt Nat.one_lt_two
  | append_singleton log exchange induction =>
      obtain ⟨op, answer⟩ := exchange
      have before := induction fun other member =>
        listings other (List.mem_append_left _ member)
      rw [courseOf_snoc]
      by_cases isList : op = .list
      case pos =>
          subst isList
          obtain ⟨vault, loadable, isKeys⟩ := listings ⟨.list, answer⟩ (by simp) answer rfl
          change (((courseOf log).listed.or (some answer.length)).getD 1) ≤ 2
          cases listed : (courseOf log).listed with
          | none =>
              rw [isKeys]
              simpa [Vault.activeCount, maxUpstreamKeys] using loadable.active
          | some count =>
              rw [listed] at before
              exact before
      case neg =>
          rw [after_listed answer isList]
          exact before

theorem failover_disciplined (leads : Leads handler representations host call log rows)
    (listings : Listings log) : Disciplined handler call log rows := by
  obtain ⟨before, recorded, goes⟩ := leads.recorded
  have inTurn := inTurn_of_conforms leads.conforms recorded
  have room : rows.attempts.length ≤ max 1 ((courseOf log).listed.getD 1) := by
    rw [← goes.length_eq]
    exact inTurn.room
  refine ⟨?_, ?_, room, room.trans ?_, ?_, goes.dropLast.ended inTurn.ordered.ended⟩
  · rw [goes.keys]
    exact inTurn.ordered.distinct
  · rw [goes.numbers, inTurn.ordered.numbered, goes.length_eq]
  · have two := listed_two listings
    omega
  · rintro rfl isGeneration
    rw [← goes.length_eq]
    exact inTurn.single isGeneration

end

namespace ProxyScript

def storedKey (id : Uuid) (fingerprint : String) : StoredKey where
  id
  label := fingerprint
  fingerprint
  nonce := ""
  ciphertext := ""
  enabled := true
  verified := true
  retired := false
  cooldownUntil := none
  requestCount := 0
  failureCount := 0

def twoKeys : VaultFile :=
  { VaultFile.empty with keys := [storedKey 1 "first", storedKey 2 "second"] }

def listedKeys : List KeySummary :=
  (twoKeys.keys.filter fun key => !key.retired).map summary

/-- Both keys of the vault are rate limited. -/
def listingRun : ProxyLog × ProxyEnding :=
  { limiting none with keys := listedKeys }.replay .chat representations host
    (call "/v1/chat/completions" false) 20

def listsOnly (keys : List KeySummary) (exchange : Exchange ProxyOp ProxyOp.Answer) : Bool :=
  match exchange with
  | ⟨.list, listed⟩ => listed = keys
  | _ => true

theorem listings_of_all (vault : VaultFile) {log : ProxyLog} (loadable : vault.Loadable)
    (all : log.all
      (listsOnly ((vault.keys.filter fun key => !key.retired).map summary)) = true) :
    Listings log := by
  rintro exchange member keys rfl
  exact ⟨vault, loadable, of_decide_eq_true (List.all_eq_true.mp all _ member)⟩

theorem failover_disciplined_limited :
    ∃ rows, rowsOf listingRun.1 = some rows ∧ rows.attempts.length = 2 ∧
      Disciplined .chat (call "/v1/chat/completions" false) listingRun.1 rows :=
  ⟨_, rfl, rfl, failover_disciplined
    (.underway _ (replay_runs { limiting none with keys := listedKeys } .chat
      representations host (call "/v1/chat/completions" false) 20)
      ⟨_, did_self _, rfl⟩)
    (listings_of_all twoKeys ⟨rfl, by decide, by decide⟩ rfl)⟩

end ProxyScript

end NvidiaBuildLb.Gateway
