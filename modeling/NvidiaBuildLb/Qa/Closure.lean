import NvidiaBuildLb.Qa.Verdict

namespace NvidiaBuildLb.Qa

open Foundation NvidiaBuildLb.Core Gateway Transaction

/-! Runs that are over.  The error path of `spawn` closes the cases and the run
with two statements, each of which may fail alone; everybody else does it with
one transaction. -/

/-- The statement on the run takes effect while a case is still open. -/
def HalfCloses (runId : Uuid) (before : QaTasks)
    (label : TaskLabel Tag (Unit × QaOp)) (after : QaTasks) : Prop :=
  (∃ tag, label = .answered tag ((), .closeRun runId) ∨
    label = .dropped tag ((), .closeRun runId)) ∧
    before.world.database.isActive runId = true ∧
    before.world.database.hasOpenCase runId = true ∧
    after.world.database.isActive runId = false

/-- The steps that do not half close a run. -/
def WholeStep (runId : Uuid) (before : QaTasks)
    (label : TaskLabel Tag (Unit × QaOp)) (after : QaTasks) : Prop :=
  gateway.Step before label after ∧ ¬ HalfCloses runId before label after

section Steps

variable {runId : Uuid} {world after : QaWorld} {entry : QaEntry}

theorem Change.ended {buildCommit : String} {traffic : Traffic} {op : QaOp}
    {changed : QaEntry}
    (change : Change buildCommit traffic op entry changed)
    (ended : entry.run.status.active = false) :
    changed.run.status.active = false := by
  cases change with
  | started queued | armed _ queued | prepared queued =>
      rw [queued] at ended
      cases ended
  | caseStarted | caseFinished | casesClosed => exact ended
  | runFinished | resumed =>
      rw [status_finish]
      split <;> rfl
  | _ => rfl

private theorem ended_serve {op : QaOp} {luck : Luck}
    (found : world.database.entry runId = some entry)
    (ended : entry.run.status.active = false) :
    ∃ later, (serve op luck world).2.database.entry runId = some later ∧
      later.run.status.active = false := by
  cases (serve_effect op luck world).changes with
  | inl changes =>
      cases changes runId with
      | inl same => exact ⟨entry, same.trans found, ended⟩
      | inr change =>
          obtain ⟨before, later, isBefore, isLater, change⟩ := change
          rw [found] at isBefore
          cases isBefore
          exact ⟨later, isLater, change.ended ended⟩
  | inr created =>
      obtain ⟨newId, -, -, -, -, -, created⟩ := created
      have different : runId ≠ newId := by
        intro same
        have fresh := created.fresh
        rw [← same, (QaDatabase.entry_eq_some.mp found).1] at fresh
        cases fresh
      exact ⟨entry, (created.others different).trans found, ended⟩

theorem Change.shut {buildCommit : String} {traffic : Traffic} {op : QaOp}
    {changed : QaEntry}
    (change : Change buildCommit traffic op entry changed) (sound : Sound entry)
    (shut : ∀ row ∈ entry.cases, row.status.open = false) :
    ∀ row ∈ changed.cases, row.status.open = false := by
  have mapped : ∀ {edit : QaCase → QaCase},
      (∀ row ∈ entry.cases, (edit row).status.open = false) →
        ∀ row ∈ entry.cases.map edit, row.status.open = false := by
    intro edit closes row member
    obtain ⟨old, isOld, rfl⟩ := List.mem_map.mp member
    exact closes old isOld
  cases change with
  | started | runFinished | runClosed => exact shut
  | armed ofHermes queued =>
      refine mapped fun row member => ?_
      rw [if_neg fun pending => ?_]
      · exact shut row member
      · have closed := shut row member
        rw [pending] at closed
        cases closed
  | prepared queued observed =>
      refine mapped fun row member => ?_
      rw [if_neg fun isObserved => ?_]
      · exact shut row member
      · have closed := shut row member
        rw [isObserved.2] at closed
        cases closed
  | caseStarted unfinished there =>
      refine mapped fun row member => ?_
      rw [if_neg fun same => ?_]
      · exact shut row member
      · have closed := shut row member
        rw [row.contract.mpr (unfinished row member same)] at closed
        cases closed
  | caseFinished there =>
      refine mapped fun row member => ?_
      rw [if_neg fun running => ?_]
      · exact shut row member
      · have closed := shut row member
        rw [running.2] at closed
        cases closed
  | casesClosed | failed | interrupted =>
      exact mapped fun row _ => open_closeOpen _ row
  | resumed running observed settled =>
      obtain ⟨row, member, -, isRunning⟩ := observed
      have closed := shut row member
      rw [isRunning] at closed
      cases closed
  | completedFailed ofHermes running failed =>
      refine mapped fun row member => ?_
      rw [if_neg fun isRunning => ?_]
      · exact shut row member
      · have closed := shut row member
        rw [isRunning] at closed
        cases closed
  | completedPassed ofHermes started passed expected verified seen finished =>
      intro row member
      rw [finished.2 (ofHermes ▸ sound.named) sound.distinct row member]
      rfl

private theorem entry_surrounds (surrounds : Surrounds world after) :
    after.database.entry runId = world.database.entry runId := by
  cases surrounds <;> rfl

private theorem halfClosed_surrounds (surrounds : Surrounds world after) :
    after.halfClosed = world.halfClosed := by
  cases surrounds <;> rfl

private theorem ended_along {tasks finish : QaTasks}
    {labels : List (TaskLabel Tag (Unit × QaOp))}
    (found : tasks.world.database.entry runId = some entry)
    (ended : entry.run.status.active = false)
    (later : Run gateway.Step tasks labels finish) :
    ∃ last, finish.world.database.entry runId = some last ∧
      last.run.status.active = false := by
  refine later.invariant (fun tasks => ∃ last,
    tasks.world.database.entry runId = some last ∧
      last.run.status.active = false) ?_ ⟨entry, found, ended⟩
  intro before label after holds step
  refine @step_keeps (fun world => ∃ last,
    world.database.entry runId = some last ∧
      last.run.status.active = false) _ _ _ ?_ ?_ step holds
  · intro op luck world holds
    obtain ⟨last, isLast, over_⟩ := holds
    exact ended_serve isLast over_
  · intro world after surrounds holds
    rw [entry_surrounds surrounds]
    exact holds

private theorem shut_serve {op : QaOp} {luck : Luck} (sound : Sound entry)
    (found : world.database.entry runId = some entry)
    (shut : ∀ row ∈ entry.cases, row.status.open = false) :
    ∃ later, (serve op luck world).2.database.entry runId = some later ∧
      ∀ row ∈ later.cases, row.status.open = false := by
  cases (serve_effect op luck world).changes with
  | inl changes =>
      cases changes runId with
      | inl same => exact ⟨entry, same.trans found, shut⟩
      | inr change =>
          obtain ⟨before, later, isBefore, isLater, change⟩ := change
          rw [found] at isBefore
          cases isBefore
          exact ⟨later, isLater, change.shut sound shut⟩
  | inr created =>
      obtain ⟨newId, -, -, -, -, -, created⟩ := created
      have different : runId ≠ newId := by
        intro same
        have fresh := created.fresh
        rw [← same, (QaDatabase.entry_eq_some.mp found).1] at fresh
        cases fresh
      exact ⟨entry, (created.others different).trans found, shut⟩

private theorem shut_step {tasks finish : QaTasks}
    {label : TaskLabel Tag (Unit × QaOp)} (sound : Sound entry)
    (found : tasks.world.database.entry runId = some entry)
    (shut : ∀ row ∈ entry.cases, row.status.open = false)
    (step : gateway.Step tasks label finish) :
    ∃ later, finish.world.database.entry runId = some later ∧
      ∀ row ∈ later.cases, row.status.open = false := by
  cases step.world with
  | inl same => exact ⟨entry, same ▸ found, shut⟩
  | inr other =>
      cases other with
      | inl moved =>
          obtain ⟨op, moves⟩ := moved
          cases moves_iff moves with
          | inl same => exact ⟨entry, same ▸ found, shut⟩
          | inr isServed =>
              obtain ⟨luck, same⟩ := isServed
              exact same ▸ shut_serve sound found shut
      | inr surrounds =>
          exact ⟨entry, (entry_surrounds surrounds).trans found, shut⟩

theorem QaDatabase.entry_closeCases {database : QaDatabase} {now : Micros}
    (found : (database.updateCases
      (fun row => row.runId = runId && row.status.open)
      (.close "qa_runner_failed" now)).entry runId = some entry) :
    ∀ row ∈ entry.cases, row.status.open = false := by
  rw [QaDatabase.entry_updateCases] at found
  obtain ⟨old, isOld, rfl⟩ := Option.map_eq_some_iff.mp found
  intro row member
  obtain ⟨before, isBefore, rfl⟩ := List.mem_map.mp member
  have ofRun : before.runId = runId := by
    rw [← (QaDatabase.entry_eq_some.mp isOld).2] at isBefore
    exact (QaDatabase.mem_casesOf.mp isBefore).2
  have closed := @open_closeOpen now "qa_runner_failed" before
  unfold QaCase.closeOpen at closed
  simp only [ofRun, decide_true, Bool.true_and]
  exact closed

/-- Once the cases of a run are closed, the second statement of the error path
does not half close it, whatever happens in between. -/
theorem not_half_closed {tasks later after : QaTasks}
    {labels : List (TaskLabel Tag (Unit × QaOp))}
    {label : TaskLabel Tag (Unit × QaOp)}
    (established : TaskSystem.Established gateway claims tasks)
    (found : tasks.world.database.entry runId = some entry)
    (shut : ∀ row ∈ entry.cases, row.status.open = false)
    (run : Run gateway.Step tasks labels later) :
    ¬ HalfCloses runId later label after := by
  induction run generalizing entry with
  | nil tasks =>
      rintro ⟨-, -, isOpen, -⟩
      obtain ⟨row, member, rowOpen⟩ : ∃ row ∈ tasks.world.database.casesOf runId,
          row.status.open = true := by
        simpa [QaDatabase.hasOpenCase] using isOpen
      rw [(QaDatabase.entry_eq_some.mp found).2] at member
      rw [shut row member] at rowOpen
      cases rowOpen
  | cons first rest induction =>
      obtain ⟨next, isNext, stillShut⟩ :=
        shut_step (established.world.sound runId entry found) found shut first
      exact induction (gateway_proof.step established first) isNext stillShut

private theorem halfClosed_new {op : QaOp} {luck : Luck}
    (whole : runId ∉ world.halfClosed)
    (marked : runId ∈ (serve op luck world).2.halfClosed) :
    op = .closeRun runId ∧ world.database.isActive runId = true ∧
      world.database.hasOpenCase runId = true ∧
      (serve op luck world).2.database.isActive runId = false := by
  by_cases closes : ∃ other, op = .closeRun other
  · obtain ⟨other, rfl⟩ := closes
    have database := @serveCloseRun_database world luck other
    change runId ∈ (serveCloseRun other luck world).2.halfClosed at marked
    unfold serveCloseRun at marked
    simp only [] at marked
    split at marked
    · rename_i isHalf
      simp only [Bool.and_eq_true, Bool.not_eq_eq_eq_not, Bool.not_true]
        at isHalf
      cases List.mem_cons.mp marked with
      | inl same =>
          subst same
          exact ⟨rfl, isHalf.1.1, isHalf.2, database ▸ isHalf.1.2⟩
      | inr before => exact absurd before whole
    · exact absurd marked whole
  · rw [(serve_effect op luck world).halfClosed fun other same =>
      closes ⟨other, same⟩] at marked
    exact absurd marked whole

private theorem whole_step {before finish : QaTasks}
    {label : TaskLabel Tag (Unit × QaOp)}
    (step : WholeStep runId before label finish)
    (whole : runId ∉ before.world.halfClosed) :
    runId ∉ finish.world.halfClosed := by
  obtain ⟨step, careful⟩ := step
  intro marked
  cases step with
  | started => exact whole marked
  | surrounded surrounds =>
      exact whole (halfClosed_surrounds surrounds ▸ marked)
  | @answered tag op next answer after waiting alive answers =>
      obtain ⟨luck, served⟩ := answers
      have isAfter : (serve op.2 luck before.world).2 = after :=
        congrArg Prod.snd served
      subst isAfter
      obtain ⟨closes, rest⟩ := halfClosed_new whole marked
      refine careful ⟨⟨tag, .inl ?_⟩, rest⟩
      exact congrArg (fun op => TaskLabel.answered tag ((), op)) closes
  | @dropped tag op next after waiting alive drops =>
      cases drops with
      | inl same => exact whole (same ▸ marked)
      | inr served =>
          obtain ⟨luck, rfl⟩ := served
          obtain ⟨closes, rest⟩ := halfClosed_new whole marked
          refine careful ⟨⟨tag, .inr ?_⟩, rest⟩
          exact congrArg (fun op => TaskLabel.dropped tag ((), op)) closes

private theorem isActive_of_entry
    (found : world.database.entry runId = some entry) :
    world.database.isActive runId = entry.run.status.active := by
  unfold QaDatabase.isActive
  rw [(QaDatabase.entry_eq_some.mp found).1]
  rfl

private theorem half_step {before finish : QaTasks}
    {label : TaskLabel Tag (Unit × QaOp)}
    (step : gateway.Step before label finish)
    (half : HalfCloses runId before label finish) :
    runId ∈ finish.world.halfClosed ∧
      ∃ entry, finish.world.database.entry runId = some entry ∧
        entry.run.status.active = false ∧
        ∃ row ∈ entry.cases, row.status.open = true := by
  obtain ⟨⟨tag, isClose⟩, active, open_, ended⟩ := half
  have served : ∃ luck,
      finish.world = (serve (.closeRun runId) luck before.world).2 := by
    cases step with
    | started => cases isClose <;> contradiction
    | surrounded => cases isClose <;> contradiction
    | answered waiting alive answers =>
        obtain ⟨luck, served⟩ := answers
        cases isClose with
        | inl same =>
            cases same
            exact ⟨luck, (congrArg Prod.snd served).symm⟩
        | inr same => cases same
    | dropped waiting alive drops =>
        cases isClose with
        | inl same => cases same
        | inr same =>
            cases same
            cases drops with
            | inl same =>
                rw [same, active] at ended
                cases ended
            | inr served => exact served
  obtain ⟨luck, same⟩ := served
  rw [same] at ended ⊢
  refine ⟨?_, ?_⟩
  · rw [serveCloseRun_database] at ended
    change runId ∈ (serveCloseRun runId luck before.world).2.halfClosed
    unfold serveCloseRun
    simp only []
    rw [if_pos (by rw [active, open_, ended]; rfl)]
    exact List.mem_cons_self
  · cases run : before.world.database.runs.find? runId with
    | none =>
        rw [QaDatabase.isActive, run] at active
        cases active
    | some row =>
        obtain ⟨entry, found⟩ : ∃ entry,
            before.world.database.entry runId = some entry :=
          ⟨_, QaDatabase.entry_of_find run⟩
        have inside : ∃ row ∈ entry.cases, row.status.open = true := by
          rw [← (QaDatabase.entry_eq_some.mp found).2]
          simpa [QaDatabase.hasOpenCase] using open_
        cases (serve_effect (.closeRun runId) luck before.world).changes with
        | inr created =>
            obtain ⟨newId, _, _, _, _, impossible, -⟩ := created
            cases impossible
        | inl changes =>
            cases changes runId with
            | inl unchanged =>
                rw [isActive_of_entry (unchanged.trans found),
                  ← isActive_of_entry found, active] at ended
                cases ended
            | inr change =>
                obtain ⟨first, later, isFirst, isLater, change⟩ := change
                rw [found] at isFirst
                cases isFirst
                rw [isActive_of_entry isLater] at ended
                cases change with
                | runClosed => exact ⟨_, isLater, ended, inside⟩

private theorem halfClosed_step {before finish : QaTasks}
    {label : TaskLabel Tag (Unit × QaOp)}
    (step : gateway.Step before label finish)
    (marked : runId ∈ before.world.halfClosed) :
    runId ∈ finish.world.halfClosed := by
  refine @step_keeps (fun world => runId ∈ world.halfClosed) _ _ _ ?_ ?_ step
    marked
  · exact fun _ _ _ already => halfClosed_serve already
  · intro world after surrounds already
    rw [halfClosed_surrounds surrounds]
    exact already

theorem whole_run {tasks finish : QaTasks}
    {labels : List (TaskLabel Tag (Unit × QaOp))}
    (run : Run gateway.Step tasks labels finish)
    (whole : runId ∉ finish.world.halfClosed) :
    Run (WholeStep runId) tasks labels finish := by
  induction run with
  | nil tasks => exact .nil tasks
  | @cons start label middle labels finish first rest induction =>
      refine .cons ⟨first, fun half => whole ?_⟩ (induction whole)
      exact rest.invariant (fun tasks => runId ∈ tasks.world.halfClosed)
        (fun marked step => halfClosed_step step marked) (half_step first half).1

end Steps

/-- As long as the error path of `spawn` does not half close it, a run that is
over has no open case, and never again; a step that half closes the run leaves
one. -/
theorem cases_end_with_run {traffic : Traffic} {settings : Settings}
    {runId : Uuid} {tasks later : QaTasks}
    {labels more : List (TaskLabel Tag (Unit × QaOp))}
    (run : Run (WholeStep runId) (TaskSystem.idle (.fresh traffic settings))
      labels tasks)
    (further : Run (WholeStep runId) tasks more later) :
    (∀ entry, tasks.world.database.entry runId = some entry →
      entry.run.status.active = false →
        (∀ row ∈ entry.cases, row.status.open = false) ∧
        ∃ last, later.world.database.entry runId = some last ∧
          last.run.status.active = false ∧
          ∀ row ∈ last.cases, row.status.open = false) ∧
    ∀ label after, gateway.Step tasks label after →
      HalfCloses runId tasks label after →
        ∃ entry, after.world.database.entry runId = some entry ∧
          entry.run.status.active = false ∧
          ∃ row ∈ entry.cases, row.status.open = true := by
  have unmarked : ∀ {labels finish},
      Run (WholeStep runId) (TaskSystem.idle (.fresh traffic settings)) labels
        finish → runId ∉ finish.world.halfClosed := by
    intro labels finish run
    refine run.invariant (fun tasks => runId ∉ tasks.world.halfClosed)
      (fun whole step => whole_step step whole) ?_
    exact List.not_mem_nil
  have closed : ∀ {labels finish},
      Run (WholeStep runId) (TaskSystem.idle (.fresh traffic settings)) labels
        finish → ∀ entry, finish.world.database.entry runId = some entry →
          Closed entry := by
    intro labels finish run entry found
    have reached : Reached traffic settings finish :=
      ⟨labels, run.mono fun step => step.1⟩
    exact reached.established.world.closed runId entry found (unmarked run)
  constructor
  · intro entry found ended
    obtain ⟨last, isLast, over_⟩ :=
      ended_along found ended (further.mono fun step => step.1)
    exact ⟨closed run entry found ended, last, isLast, over_,
      closed (run.append further) last isLast over_⟩
  · exact fun label after step half => (half_step step half).2

/-- The error path itself, where both of its statements take effect. -/
theorem cases_end_with_run_sample :
    ∃ tasks : QaTasks, Reached Sample.traffic Sample.settings tasks ∧
      ∃ entry, tasks.world.database.entry Sample.runId = some entry ∧
        entry.run.status = .failed ∧ entry.cases.length = 6 ∧
        ∀ row ∈ entry.cases, row.status.open = false := by
  obtain ⟨tasks, reached, shown⟩ := @reached_of_unfolds Sample.traffic
    Sample.settings
    (Sample.failing ++ .replicate 2
      (.answers (.creation Sample.runId) Sample.luck))
    (fun tasks =>
      tasks.world.halfClosed = [] &&
        (tasks.world.database.entry Sample.runId).any fun entry =>
          entry.run.status = .failed && entry.cases.length = 6)
    (by decide +kernel)
  simp only [Bool.and_eq_true, decide_eq_true_eq, Option.any_eq_true] at shown
  obtain ⟨unmarked, entry, found, failed, six⟩ := shown
  refine ⟨tasks, reached, entry, found, failed, six, ?_⟩
  obtain ⟨labels, run⟩ := reached
  have whole : Sample.runId ∉ tasks.world.halfClosed := by
    rw [unmarked]
    exact List.not_mem_nil
  exact ((cases_end_with_run (whole_run run whole) (.nil tasks)).1 entry found
    (by rw [failed]; rfl)).1

/-- The statement on the cases fails, the one on the run does not. -/
theorem cases_left_open :
    ¬ ∀ tasks : QaTasks, Reached Sample.traffic Sample.settings tasks →
      ∀ runId entry, tasks.world.database.entry runId = some entry →
        entry.run.status.active = false →
          ∀ row ∈ entry.cases, row.status.open = false := by
  intro always
  obtain ⟨tasks, reached, shown⟩ := @reached_of_unfolds Sample.traffic
    Sample.settings
    (Sample.failing ++
      [.answers (.creation Sample.runId) Sample.refusing,
        .answers (.creation Sample.runId) Sample.luck])
    (fun tasks => (tasks.world.database.entry Sample.runId).any fun entry =>
      entry.run.status = .failed &&
        entry.cases.any fun row => row.status = .pending)
    (by decide +kernel)
  simp only [Option.any_eq_true, Bool.and_eq_true, decide_eq_true_eq,
    List.any_eq_true] at shown
  obtain ⟨entry, found, failed, row, member, pending⟩ := shown
  have closed := always tasks reached _ entry found (by rw [failed]; rfl) row
    member
  rw [pending] at closed
  cases closed

end NvidiaBuildLb.Qa
