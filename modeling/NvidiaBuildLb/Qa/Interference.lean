import NvidiaBuildLb.Qa.Invariant

namespace NvidiaBuildLb.Qa

open Foundation NvidiaBuildLb.Core Gateway Transaction

/-! No task disturbs a runner at its work, and each task knows enough whenever
it asks. -/

/-- What the others may do around a task. -/
structure Others (tag : Tag) (before after : QaWorld) : Prop where
  process : after.process = before.process
  persists : ∀ runId entry, before.database.entry runId = some entry →
    ∃ later, after.database.entry runId = some later ∧
      later.run.suite = entry.run.suite
  own : ∀ runId entry, tag.duty = .creation runId →
    before.database.entry runId = some entry →
    entry.run.suite ≠ .hermesE2e → after.database.entry runId = some entry

def claims : TaskSystem.Claims Tag (Unit × QaOp) QaWorld
    (Except String PUnit × Unit) where
  valid := Valid
  reached := fun tag world => tag.epoch ≤ world.process.epoch
  holds := fun tag world =>
    tag.duty = .recovery ∨ world.process.listening = true
  others := Others
  permits := fun tag request => Permitted tag request.2
  post := fun _ _ _ => True

namespace Others

variable {tag : Tag} {world between after : QaWorld}

theorem refl : Others tag world world :=
  ⟨rfl, fun _ entry found => ⟨entry, found, rfl⟩, fun _ _ _ found _ => found⟩

theorem trans (first : Others tag world between)
    (second : Others tag between after) : Others tag world after where
  process := second.process.trans first.process
  persists := fun runId entry found => by
    obtain ⟨middle, isMiddle, sameSuite⟩ := first.persists runId entry found
    obtain ⟨later, isLater, stillSame⟩ :=
      second.persists runId middle isMiddle
    exact ⟨later, isLater, stillSame.trans sameSuite⟩
  own := fun runId entry duty found notHermes =>
    second.own runId entry duty (first.own runId entry duty found notHermes)
      notHermes

theorem ofSuite {suites : Suite → Prop} {runId : Uuid}
    (others : Others tag world after) (holds : OfSuite suites runId world) :
    OfSuite suites runId after := by
  obtain ⟨entry, found, suits⟩ := holds
  obtain ⟨later, isLater, same⟩ := others.persists runId entry found
  exact ⟨later, isLater, same ▸ suits⟩

theorem atWork {knows : QaEntry → Prop} {runId : Uuid}
    (others : Others tag world after) (duty : tag.duty = .creation runId)
    (holds : AtWork runId knows world) : AtWork runId knows after := by
  obtain ⟨entry, found, isTraffic, running, holds⟩ := holds
  refine ⟨entry, others.own runId entry duty found ?_, isTraffic, running, holds⟩
  intro isHermes
  rw [isHermes] at isTraffic
  cases isTraffic

theorem quiet (others : Others tag world after) (quiet : Quiet tag world) :
    Quiet tag after :=
  ⟨quiet.1, others.process ▸ quiet.2⟩

theorem permitted {op : QaOp} (others : Others tag world after)
    (permitted : Permitted tag op world) : Permitted tag op after := by
  cases op with
  | preparePersistence => exact ⟨permitted.1, others.ofSuite permitted.2⟩
  | startQueuedRun => exact ⟨permitted.1, others.ofSuite permitted.2⟩
  | startCase => exact ⟨permitted.1, others.atWork permitted.1 permitted.2⟩
  | finishCase => exact ⟨permitted.1, others.atWork permitted.1 permitted.2⟩
  | finishRun => exact ⟨permitted.1, others.atWork permitted.1 permitted.2⟩
  | failRunningRun => exact permitted.imp_left others.quiet
  | closeInterruptedRuns => exact others.quiet permitted
  | interruptedPersistenceRuns => exact others.quiet permitted
  | resumePersistence =>
      exact ⟨others.quiet permitted.1, others.ofSuite permitted.2⟩
  | listen => exact others.quiet permitted
  | _ => exact permitted

end Others

theorem Change.suite {buildCommit : String} {traffic : Traffic} {op : QaOp}
    {entry changed : QaEntry}
    (change : Change buildCommit traffic op entry changed) :
    changed.run.suite = entry.run.suite := by
  cases change with
  | started => exact suite_start _
  | armed => exact suite_start _
  | prepared => exact suite_start _
  | _ => rfl

theorem persists_serve {op : QaOp} {luck : Luck} {world : QaWorld}
    {runId : Uuid} {entry : QaEntry}
    (found : world.database.entry runId = some entry) :
    ∃ later, (serve op luck world).2.database.entry runId = some later ∧
      later.run.suite = entry.run.suite := by
  cases (serve_effect op luck world).changes with
  | inl changes =>
      cases changes runId with
      | inl same => exact ⟨entry, same.trans found, rfl⟩
      | inr change =>
          obtain ⟨before, after, isBefore, isAfter, change⟩ := change
          rw [found] at isBefore
          cases isBefore
          exact ⟨after, isAfter, change.suite⟩
  | inr created =>
      obtain ⟨newId, -, -, -, -, -, created⟩ := created
      by_cases same : runId = newId
      · subst same
        have fresh := created.fresh
        rw [(QaDatabase.entry_eq_some.mp found).1] at fresh
        cases fresh
      · exact ⟨entry, (created.others same).trans found, rfl⟩

theorem moves_iff {op : Unit × QaOp} {world after : QaWorld}
    (moves : gateway.Moves op world after) :
    after = world ∨ ∃ luck, after = (serve op.2 luck world).2 := by
  cases moves with
  | inl answered =>
      obtain ⟨answer, luck, served⟩ := answered
      exact .inr ⟨luck, (congrArg Prod.snd served).symm⟩
  | inr dropped => exact dropped

theorem own_serve {tag other : Tag} {op : QaOp} {luck : Luck}
    {world : QaWorld} {runId : Uuid} {entry : QaEntry}
    (different : other ≠ tag) (sameEpoch : other.epoch = tag.epoch)
    (duty : other.duty = .creation runId)
    (listening : world.process.listening = true)
    (permitted : Permitted tag op world)
    (found : world.database.entry runId = some entry)
    (notHermes : entry.run.suite ≠ .hermesE2e) :
    (serve op luck world).2.database.entry runId = some entry := by
  have notOwn : tag.duty ≠ .creation runId := by
    intro same
    obtain ⟨epoch, duty⟩ := tag
    obtain ⟨otherEpoch, otherDuty⟩ := other
    simp only at same sameEpoch duty
    subst same sameEpoch duty
    exact different rfl
  have notQuiet : ¬ Quiet tag world := by
    intro quiet
    have silent := quiet.2
    rw [listening] at silent
    cases silent
  have isRun := QaDatabase.id_of_entry found
  cases (serve_effect op luck world).changes with
  | inr created =>
      obtain ⟨newId, suite, live, identity, requestId, rfl, created⟩ := created
      refine (created.others fun same => ?_).trans found
      exact notOwn (same ▸ permitted)
  | inl changes =>
      cases changes runId with
      | inl same => exact same.trans found
      | inr change =>
          exfalso
          obtain ⟨before, after, isBefore, -, change⟩ := change
          rw [found] at isBefore
          cases isBefore
          cases change with
          | started => exact notOwn (isRun ▸ permitted.1)
          | armed ofHermes => exact notHermes ofHermes
          | prepared => exact notOwn (isRun ▸ permitted.1)
          | caseStarted unfinished there =>
              obtain ⟨owns, between, isBetween, -, -, has⟩ := permitted
              exact notOwn (entry_of_case found isBetween there has ▸ owns)
          | caseFinished there =>
              obtain ⟨owns, between, isBetween, -, -, has⟩ := permitted
              exact notOwn (entry_of_case found isBetween there has ▸ owns)
          | runFinished => exact notOwn (isRun ▸ permitted.1)
          | casesClosed => exact notOwn (isRun ▸ permitted)
          | runClosed => exact notOwn (isRun ▸ permitted)
          | failed =>
              cases permitted with
              | inl quiet => exact notQuiet quiet
              | inr owns => exact notOwn (isRun ▸ owns)
          | interrupted => exact notQuiet permitted
          | resumed => exact notQuiet permitted.1
          | completedFailed ofHermes => exact notHermes ofHermes
          | completedPassed ofHermes => exact notHermes ofHermes

end NvidiaBuildLb.Qa
