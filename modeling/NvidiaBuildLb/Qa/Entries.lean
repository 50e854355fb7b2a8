import NvidiaBuildLb.Qa.CompletionChanges

namespace NvidiaBuildLb.Qa

open Foundation NvidiaBuildLb.Core Gateway Transaction

/-! A run with its cases, and what each request may make of it. -/

structure QaEntry where
  run : QaRun
  cases : List QaCase

def QaDatabase.entry (database : QaDatabase) (runId : Uuid) : Option QaEntry :=
  (database.runs.find? runId).map fun run => ⟨run, database.casesOf runId⟩

namespace QaDatabase

variable {database : QaDatabase} {runId : Uuid}

theorem entry_eq_some {entry : QaEntry} :
    database.entry runId = some entry ↔
      database.runs.find? runId = some entry.run ∧
        database.casesOf runId = entry.cases := by
  obtain ⟨run, rows⟩ := entry
  simp [entry, Option.map_eq_some_iff]

theorem entry_of_find {run : QaRun}
    (found : database.runs.find? runId = some run) :
    database.entry runId = some ⟨run, database.casesOf runId⟩ :=
  entry_eq_some.mpr ⟨found, rfl⟩

theorem id_of_entry {entry : QaEntry}
    (found : database.entry runId = some entry) : entry.run.id = runId :=
  Table.key_of_find? (entry_eq_some.mp found).1

theorem mem_casesOf {row : QaCase} :
    row ∈ database.casesOf runId ↔
      row ∈ database.cases.rows ∧ row.runId = runId := by
  simp [casesOf]

theorem casesOf_updateCases (choose : QaCase → Bool) (edit : CaseEdit) :
    (database.updateCases choose edit).casesOf runId =
      (database.casesOf runId).map fun row =>
        if choose row then edit.apply row else row := by
  have keeps : ∀ row : QaCase,
      (if choose row then edit.apply row else row).runId = row.runId := by
    intro row
    split
    · exact edit.runId row
    · rfl
  change List.filter _ (List.map _ database.cases.rows) = _
  rw [List.filter_map]
  refine congrArg₂ List.map rfl (List.filter_congr fun row _ => ?_)
  exact congrArg (fun id => decide (id = runId)) (keeps row)

theorem entry_updateCases (choose : QaCase → Bool) (edit : CaseEdit) :
    (database.updateCases choose edit).entry runId =
      (database.entry runId).map fun entry => { entry with
        cases := entry.cases.map fun row =>
          if choose row then edit.apply row else row } := by
  unfold entry
  rw [casesOf_updateCases]
  change (database.runs.find? runId).map _ = _
  cases database.runs.find? runId with
  | none => rfl
  | some run => rfl

theorem entry_updateRuns (choose : QaRun → Bool) (edit : RunEdit) :
    (database.updateRuns choose edit).entry runId =
      (database.entry runId).map fun entry => { entry with
        run := if choose entry.run then edit.apply entry.run else entry.run } := by
  unfold entry updateRuns
  rw [Table.find?_update]
  cases database.runs.find? runId with
  | none => rfl
  | some run => rfl

end QaDatabase

/-- `UPDATE .. WHERE status IN ('pending','running')` on a case. -/
def QaCase.closeOpen (errorCode : String) (now : Micros) (row : QaCase) :
    QaCase :=
  if row.status.open then row.close errorCode now else row

/-- How a case of a resumed persistence run ends. -/
def QaCase.resumed (verdict : String → Bool) (row after : QaCase) : Prop :=
  after.id = row.id ∧ after.runId = row.runId ∧ after.name = row.name ∧
    if row.name = "restart_observed" ∧ row.status = .running then
      after.status = .passed
    else if row.status = .pending then
      after.status = if verdict row.name then .passed else .failed
    else
      after = row

/-- What one request makes of a run. -/
inductive Change (buildCommit : String) (traffic : Traffic) :
    QaOp → QaEntry → QaEntry → Prop where
  | started {entry : QaEntry} {now : Micros}
      (queued : entry.run.status = .queued) :
      Change buildCommit traffic (.startQueuedRun entry.run.id) entry
        { entry with run := entry.run.start now }
  | armed {entry : QaEntry} {now : Micros} {evidence : Evidence}
      (ofHermes : entry.run.suite = .hermesE2e)
      (queued : entry.run.status = .queued) :
      Change buildCommit traffic (.armHermes entry.run.id) entry {
        run := entry.run.start now
        cases := entry.cases.map fun row =>
          if row.status = .pending then (CaseEdit.arm evidence now).apply row
          else row }
  | prepared {entry : QaEntry} {now : Micros} {evidence : Evidence}
      (queued : entry.run.status = .queued)
      (observed : ∃ row ∈ entry.cases,
        row.name = "restart_observed" ∧ row.status = .pending) :
      Change buildCommit traffic (.preparePersistence entry.run.id) entry {
        run := entry.run.start now
        cases := entry.cases.map fun row =>
          if row.name = "restart_observed" ∧ row.status = .pending then
            (CaseEdit.arm evidence now).apply row
          else row }
  | caseStarted {entry : QaEntry} {now : Micros} {runId caseId : Uuid}
      (unfinished : ∀ row ∈ entry.cases, row.id = caseId →
        row.finishedAt = none)
      (there : ∃ row ∈ entry.cases, row.id = caseId) :
      Change buildCommit traffic (.startCase runId caseId) entry { entry with
        cases := entry.cases.map fun row =>
          if row.id = caseId then row.start now else row }
  | caseFinished {entry : QaEntry} {now : Micros} {runId caseId : Uuid}
      {passed : Bool} {evidence : Evidence}
      (there : ∃ row ∈ entry.cases, row.id = caseId) :
      Change buildCommit traffic (.finishCase runId caseId passed evidence)
        entry { entry with
        cases := entry.cases.map fun row =>
          if row.id = caseId ∧ row.status = .running then
            row.finish passed evidence now
          else row }
  | runFinished {entry : QaEntry} {now : Micros} {passed : Bool}
      (running : entry.run.status = .running) :
      Change buildCommit traffic (.finishRun entry.run.id passed) entry
        { entry with run := entry.run.finish passed now }
  | casesClosed {entry : QaEntry} {now : Micros} :
      Change buildCommit traffic (.closeCases entry.run.id) entry { entry with
        cases := entry.cases.map (QaCase.closeOpen "qa_runner_failed" now) }
  | runClosed {entry : QaEntry} {now : Micros}
      (active : entry.run.status.active = true) :
      Change buildCommit traffic (.closeRun entry.run.id) entry
        { entry with run := entry.run.close now }
  | failed {entry : QaEntry} {now : Micros} {errorCode : String}
      (active : entry.run.status.active = true) :
      Change buildCommit traffic (.failRunningRun entry.run.id errorCode)
        entry {
        run := entry.run.close now
        cases := entry.cases.map (QaCase.closeOpen errorCode now) }
  | interrupted {entry : QaEntry} {now : Micros} {errorCode : String}
      (interrupted : entry.run.interrupted = true) :
      Change buildCommit traffic .closeInterruptedRuns entry {
        run := entry.run.close now
        cases := entry.cases.map (QaCase.closeOpen errorCode now) }
  | resumed {entry : QaEntry} {now : Micros} {rows : List QaCase}
      {verdict : String → Bool}
      (running : entry.run.status = .running)
      (observed : ∃ row ∈ entry.cases,
        row.name = "restart_observed" ∧ row.status = .running)
      (settled : List.Forall₂ (QaCase.resumed verdict) entry.cases rows) :
      Change buildCommit traffic (.resumePersistence entry.run.id) entry {
        run := entry.run.finish (entry.cases.all fun row =>
          row.status ≠ .pending || verdict row.name) now
        cases := rows }
  | completedFailed {entry : QaEntry} {now : Micros} {evidence : Evidence}
      {input : HermesCompletion} {requestId : Uuid}
      (ofHermes : entry.run.suite = .hermesE2e)
      (running : entry.run.status = .running)
      (failed : input.status = "failed") :
      Change buildCommit traffic
        (.completeHermes entry.run.id input requestId) entry {
        run := entry.run.finish false now
        cases := entry.cases.map fun row =>
          if row.status = .running then row.finish false evidence now
          else row }
  | completedPassed {entry : QaEntry} {now startedAt : Micros}
      {input : HermesCompletion} {requestId : Uuid} {rows : List QaCase}
      {reported : Reported} {secretScan : SecretScanEvidence}
      {correlated : List CorrelatedRequest} {database : QaDatabase}
      (ofHermes : entry.run.suite = .hermesE2e)
      (started : entry.run.startedAt = some startedAt)
      (passed : input.status = "passed")
      (expected : entry.run.status =
        expectedRun (input.recovers entry.run.status))
      (verified : Verified database buildCommit entry.run.deploymentCommit
        startedAt input reported secretScan correlated)
      (seen : database.traffic = traffic)
      (finished : rows.map QaCase.name = entry.cases.map QaCase.name ∧
        ((∀ row ∈ entry.cases, row.name ∈ Suite.hermesE2e.cases) →
          (entry.cases.map QaCase.name).Nodup →
            ∀ row ∈ rows, row.status = .passed))
      (isLive : entry.run.live = true ∧
        entry.run.providerIdentity = .nvidiaHosted) :
      Change buildCommit traffic
        (.completeHermes entry.run.id input requestId) entry {
        run := entry.run.finish true now
        cases := rows }

/-- Every run stays as it is or changes as the request may change it. -/
def Changes (buildCommit : String) (op : QaOp) (before after : QaDatabase) :
    Prop :=
  ∀ runId, after.entry runId = before.entry runId ∨
    ∃ entry changed, before.entry runId = some entry ∧
      after.entry runId = some changed ∧
      Change buildCommit before.traffic op entry changed

section Transactions

variable {buildCommit : String} {op : QaOp} {before after : QaDatabase}

theorem Changes.refl : Changes buildCommit op before before :=
  fun _ => .inl rfl

theorem Changes.of_map {edit : QaEntry → QaEntry}
    (mapped : ∀ runId, after.entry runId = (before.entry runId).map edit)
    (step : ∀ runId entry, before.entry runId = some entry →
      edit entry = entry ∨
        Change buildCommit before.traffic op entry (edit entry)) :
    Changes buildCommit op before after := by
  intro runId
  cases found : before.entry runId with
  | none =>
      refine .inl ?_
      rw [mapped, found]
      rfl
  | some entry =>
      have edited : after.entry runId = some (edit entry) := by
        rw [mapped, found]
        rfl
      cases step runId entry found with
      | inl same => exact .inl (by rw [edited, same])
      | inr change => exact .inr ⟨entry, edit entry, rfl, edited, change⟩

theorem QaDatabase.runId_of_entry {runId : Uuid} {entry : QaEntry}
    (found : before.entry runId = some entry) {row : QaCase}
    (member : row ∈ entry.cases) : row.runId = runId := by
  rw [← (entry_eq_some.mp found).2] at member
  exact (mem_casesOf.mp member).2

theorem QaEntry.unchanged {entry : QaEntry} {run : QaRun}
    {edit : QaCase → QaCase} (sameRun : run = entry.run)
    (sameRows : ∀ row ∈ entry.cases, edit row = row) :
    QaEntry.mk run (entry.cases.map edit) = entry := by
  obtain ⟨_, rows⟩ := entry
  subst sameRun
  exact congrArg (QaEntry.mk run)
    (Eq.trans (List.map_congr_left sameRows) (List.map_id _))

theorem Changes.of_updateRuns {choose : QaRun → Bool} {edit : RunEdit}
    (step : ∀ runId entry, before.entry runId = some entry →
      choose entry.run = true → Change buildCommit before.traffic op entry
        { entry with run := edit.apply entry.run }) :
    Changes buildCommit op before (before.updateRuns choose edit) := by
  refine .of_map (fun _ => QaDatabase.entry_updateRuns _ _) ?_
  intro runId entry found
  cases chosen : choose entry.run with
  | false => exact .inl rfl
  | true => exact .inr (step runId entry found chosen)

theorem Changes.of_updateCases {choose : QaCase → Bool}
    {edit : CaseEdit}
    (step : ∀ runId entry, before.entry runId = some entry →
      (∃ row ∈ entry.cases, choose row = true) →
        Change buildCommit before.traffic op entry { entry with
          cases := entry.cases.map fun row =>
            if choose row then edit.apply row else row }) :
    Changes buildCommit op before (before.updateCases choose edit) := by
  refine .of_map (fun _ => QaDatabase.entry_updateCases _ _) ?_
  intro runId entry found
  by_cases chosen : ∃ row ∈ entry.cases, choose row = true
  · exact .inr (step runId entry found chosen)
  · refine .inl (QaEntry.unchanged rfl fun row member => ?_)
    exact if_neg fun is => chosen ⟨row, member, is⟩

theorem Changes.of_updates {chooseCase : QaCase → Bool}
    {editCase : CaseEdit} {chooseRun : QaRun → Bool} {editRun : RunEdit}
    (step : ∀ runId entry, before.entry runId = some entry →
      let changed : QaEntry := {
        run := if chooseRun entry.run then editRun.apply entry.run
          else entry.run
        cases := entry.cases.map fun row =>
          if chooseCase row then editCase.apply row else row }
      changed = entry ∨
        Change buildCommit before.traffic op entry changed) :
    Changes buildCommit op before
      ((before.updateCases chooseCase editCase).updateRuns chooseRun
        editRun) := by
  refine .of_map (fun runId => ?_) step
  rw [QaDatabase.entry_updateRuns, QaDatabase.entry_updateCases,
    Option.map_map]
  rfl

theorem Changes.of_named {runId : Uuid} {wanted : QaCase → Bool}
    {qualifies : QaRun → Bool} {editCase : CaseEdit} {editRun : RunEdit}
    (step : ∀ entry, before.entry runId = some entry →
      let changed : QaEntry := {
        run := if qualifies entry.run then editRun.apply entry.run
          else entry.run
        cases := entry.cases.map fun row =>
          if wanted row then editCase.apply row else row }
      changed = entry ∨
        Change buildCommit before.traffic op entry changed) :
    Changes buildCommit op before
      ((before.updateCases (fun row => row.runId = runId && wanted row)
        editCase).updateRuns (fun run => run.id = runId && qualifies run)
        editRun) := by
  refine .of_updates fun other entry found => ?_
  by_cases same : other = runId
  · subst same
    have isRun := QaDatabase.id_of_entry found
    have rows : (entry.cases.map fun row =>
        if (decide (row.runId = other) && wanted row) = true then
          editCase.apply row else row) = entry.cases.map fun row =>
        if wanted row = true then editCase.apply row else row := by
      refine List.map_congr_left fun row member => ?_
      rw [QaDatabase.runId_of_entry found member]
      simp
    simp only [rows, isRun, decide_true, Bool.true_and]
    exact step entry found
  · refine .inl (QaEntry.unchanged ?_ fun row member => ?_)
    · simp [QaDatabase.id_of_entry found, same]
    · simp [QaDatabase.runId_of_entry found member, same]

variable {runId caseId : Uuid} {now : Micros}

theorem changes_startQueuedRun :
    Changes buildCommit (.startQueuedRun runId) before
      (before.updateRuns (fun run => run.id = runId && run.status = .queued)
        (.start now)) := by
  refine .of_updateRuns fun other entry found chosen => ?_
  simp only [Bool.and_eq_true, decide_eq_true_eq] at chosen
  obtain ⟨rfl, queued⟩ := chosen
  exact .started queued

theorem changes_finishRun {passed : Bool} :
    Changes buildCommit (.finishRun runId passed) before
      (before.updateRuns (fun run => run.id = runId && run.status = .running)
        (.finish passed now)) := by
  refine .of_updateRuns fun other entry found chosen => ?_
  simp only [Bool.and_eq_true, decide_eq_true_eq] at chosen
  obtain ⟨rfl, running⟩ := chosen
  exact .runFinished running

theorem changes_closeRun :
    Changes buildCommit (.closeRun runId) before
      (before.updateRuns (fun run => run.id = runId && run.status.active)
        (.close now)) := by
  refine .of_updateRuns fun other entry found chosen => ?_
  simp only [Bool.and_eq_true, decide_eq_true_eq] at chosen
  obtain ⟨rfl, active⟩ := chosen
  exact .runClosed active

theorem changes_startCase
    (unfinished : ∀ row ∈ before.cases.rows, row.id = caseId →
      row.finishedAt = none) :
    Changes buildCommit (.startCase runId caseId) before
      (before.updateCases (fun row => row.id = caseId) (.start now)) := by
  refine .of_updateCases fun other entry found chosen => ?_
  obtain ⟨row, member, isCase⟩ := chosen
  simp only [decide_eq_true_eq] at isCase ⊢
  refine .caseStarted (fun row member => ?_) ⟨row, member, isCase⟩
  rw [← (QaDatabase.entry_eq_some.mp found).2] at member
  exact unfinished row (QaDatabase.mem_casesOf.mp member).1

theorem changes_finishCase {passed : Bool} {evidence : Evidence} :
    Changes buildCommit (.finishCase runId caseId passed evidence) before
      (before.updateCases
        (fun row => row.id = caseId && row.status = .running)
        (.finish passed evidence now)) := by
  refine .of_updateCases fun other entry found chosen => ?_
  obtain ⟨row, member, isCase⟩ := chosen
  simp only [Bool.and_eq_true, decide_eq_true_eq] at isCase ⊢
  exact .caseFinished ⟨row, member, isCase.1⟩

theorem changes_closeCases :
    Changes buildCommit (.closeCases runId) before
      (before.updateCases (fun row => row.runId = runId && row.status.open)
        (.close "qa_runner_failed" now)) := by
  refine .of_updateCases fun other entry found chosen => ?_
  obtain ⟨row, member, isCase⟩ := chosen
  simp only [Bool.and_eq_true, decide_eq_true_eq] at isCase
  have isRun : other = runId :=
    (QaDatabase.runId_of_entry found member).symm.trans isCase.1
  subst isRun
  have rows : (entry.cases.map fun row =>
      if (decide (row.runId = other) && row.status.open) = true then
        (CaseEdit.close "qa_runner_failed" now).apply row else row) =
      entry.cases.map (QaCase.closeOpen "qa_runner_failed" now) := by
    refine List.map_congr_left fun row member => ?_
    rw [QaDatabase.runId_of_entry found member]
    simp only [decide_true, Bool.true_and]
    rfl
  rw [rows, ← QaDatabase.id_of_entry found]
  exact .casesClosed

theorem changes_armHermes {run : QaRun}
    (isRun : before.runs.find? runId = some run)
    (ofHermes : run.suite = .hermesE2e) (queued : run.status = .queued)
    {evidence : Evidence} :
    Changes buildCommit (.armHermes runId) before
      ((before.updateCases
        (fun row => row.runId = runId && row.status = .pending)
        (.arm evidence now)).updateRuns (fun run => run.id = runId)
        (.start now)) := by
  have named := @Changes.of_named buildCommit (.armHermes runId) before runId
    (fun row => row.status = .pending) (fun _ => true)
    (.arm evidence now) (.start now) ?_
  · simpa using named
  · intro entry found
    have same := (QaDatabase.entry_eq_some.mp found).1.symm.trans isRun
    cases same
    rw [← QaDatabase.id_of_entry found]
    simp only [decide_eq_true_eq, if_true]
    exact .inr (.armed ofHermes queued)

theorem changes_preparePersistence {run : QaRun}
    (isRun : before.runs.find? runId = some run) (queued : run.status = .queued)
    {evidence : Evidence}
    (one : before.cases.count (fun row => row.runId = runId &&
      row.name = "restart_observed" && row.status = .pending) = 1) :
    Changes buildCommit (.preparePersistence runId) before
      ((before.updateCases
        (fun row => row.runId = runId && row.name = "restart_observed" &&
          row.status = .pending)
        (.arm evidence now)).updateRuns (fun run => run.id = runId)
        (.start now)) := by
  have named := @Changes.of_named buildCommit (.preparePersistence runId) before
    runId (fun row => row.name = "restart_observed" && row.status = .pending)
    (fun _ => true) (.arm evidence now) (.start now) ?_
  · simpa [Bool.and_assoc] using named
  · intro entry found
    have same := (QaDatabase.entry_eq_some.mp found).1.symm.trans isRun
    cases same
    have observed : ∃ row ∈ entry.cases,
        row.name = "restart_observed" ∧ row.status = .pending := by
      have some : 0 < before.cases.count (fun row => row.runId = runId &&
          row.name = "restart_observed" && row.status = .pending) := by omega
      obtain ⟨row, member, chosen⟩ := List.countP_pos_iff.mp some
      simp only [Bool.and_eq_true, decide_eq_true_eq] at chosen
      refine ⟨row, ?_, chosen.1.2, chosen.2⟩
      rw [← (QaDatabase.entry_eq_some.mp found).2]
      exact QaDatabase.mem_casesOf.mpr ⟨member, chosen.1.1⟩
    rw [← QaDatabase.id_of_entry found]
    simp only [Bool.and_eq_true, decide_eq_true_eq, if_true]
    exact .inr (.prepared queued observed)

theorem changes_failRunningRun {errorCode : String}
    (active : before.isActive runId = true) :
    Changes buildCommit (.failRunningRun runId errorCode) before
      ((before.updateCases (fun row => row.runId = runId && row.status.open)
        (.close errorCode now)).updateRuns
        (fun run => run.id = runId && run.status.active) (.close now)) := by
  refine .of_named fun entry found => ?_
  have isActive : entry.run.status.active = true := by
    simpa [QaDatabase.isActive, (QaDatabase.entry_eq_some.mp found).1]
      using active
  rw [← QaDatabase.id_of_entry found]
  simp only [isActive, if_true]
  exact .inr (.failed isActive)

private theorem mem_interruptedRuns {entry : QaEntry}
    (found : before.entry runId = some entry) :
    runId ∈ before.interruptedRuns ↔ entry.run.interrupted = true := by
  have isRun := (QaDatabase.entry_eq_some.mp found).1
  simp only [QaDatabase.interruptedRuns, List.mem_map, List.mem_filter]
  constructor
  · intro listed
    obtain ⟨run, ⟨member, interrupted⟩, rfl⟩ := listed
    have same := Table.find?_eq_some_iff.mpr ⟨member, rfl⟩
    rw [isRun] at same
    cases same
    exact interrupted
  · intro interrupted
    exact ⟨entry.run, ⟨Table.mem_of_find? isRun, interrupted⟩,
      Table.key_of_find? isRun⟩

theorem changes_closeInterruptedRuns :
    Changes buildCommit .closeInterruptedRuns before
      ((before.updateCases
        (fun row => row.runId ∈ before.interruptedRuns && row.status.open)
        (.close "gateway_restarted_during_qa" now)).updateRuns
        QaRun.interrupted (.close now)) := by
  refine .of_updates fun runId entry found => ?_
  have listed := mem_interruptedRuns found
  cases interrupted : entry.run.interrupted with
  | false =>
      refine .inl (QaEntry.unchanged (by simp) fun row member => ?_)
      rw [interrupted] at listed
      rw [QaDatabase.runId_of_entry found member]
      simp [listed]
  | true =>
      rw [interrupted] at listed
      have rows : (entry.cases.map fun row =>
          if (decide (row.runId ∈ before.interruptedRuns) &&
              row.status.open) = true then
            (CaseEdit.close "gateway_restarted_during_qa" now).apply row
          else row) = entry.cases.map
            (QaCase.closeOpen "gateway_restarted_during_qa" now) := by
        refine List.map_congr_left fun row member => ?_
        rw [QaDatabase.runId_of_entry found member]
        simp only [listed, decide_true, Bool.true_and]
        rfl
      simp only [rows, if_true]
      exact .inr (.interrupted interrupted)

private def settleEdit (start finish : PersistenceSnapshot) (now : Micros)
    (row : QaCase) (item : Uuid × String) : QaCase :=
  if row.id = item.1 && row.status = .pending then
    (CaseEdit.settle (persistenceCase start finish item.2)
      (.persistence item.2 start finish) now).apply row
  else
    row

private theorem casesOf_settled {start finish : PersistenceSnapshot}
    (items : List (Uuid × String)) (database : QaDatabase) :
    (database.settled start finish now items).casesOf runId =
        (database.casesOf runId).map
          (fun row => items.foldl (settleEdit start finish now) row) ∧
      (database.settled start finish now items).runs = database.runs := by
  induction items generalizing database with
  | nil => exact ⟨(List.map_id _).symm, rfl⟩
  | cons item rest induction =>
      obtain ⟨rows, runs⟩ := induction (database.updateCases
        (fun row => row.id = item.1 && row.status = .pending)
        (.settle (persistenceCase start finish item.2)
          (.persistence item.2 start finish) now))
      refine ⟨rows.trans ?_, runs⟩
      rw [QaDatabase.casesOf_updateCases, List.map_map]
      rfl

private theorem foldl_settleEdit {start finish : PersistenceSnapshot}
    (items : List (Uuid × String)) (row : QaCase)
    (named : ∀ item ∈ items, item.1 = row.id → item.2 = row.name) :
    let after := items.foldl (settleEdit start finish now) row
    after.id = row.id ∧ after.runId = row.runId ∧ after.name = row.name ∧
      if row.status = .pending ∧ row.id ∈ items.map Prod.fst then
        after.status =
          if persistenceCase start finish row.name then .passed else .failed
      else
        after = row := by
  have fixed : ∀ (rest : List (Uuid × String)) (row : QaCase),
      row.status ≠ .pending →
        rest.foldl (settleEdit start finish now) row = row := by
    intro rest row settled
    induction rest with
    | nil => rfl
    | cons item rest induction =>
        rw [List.foldl_cons, show settleEdit start finish now row item = row by
          simp [settleEdit, settled]]
        exact induction
  induction items with
  | nil => simp
  | cons item rest induction =>
      have later := induction fun other member =>
        named other (List.mem_cons_of_mem _ member)
      by_cases pending : row.status = .pending
      · by_cases isRow : item.1 = row.id
        · have isName := named item List.mem_cons_self isRow
          have edited : settleEdit start finish now row item =
              (CaseEdit.settle (persistenceCase start finish row.name)
                (.persistence row.name start finish) now).apply row := by
            simp [settleEdit, pending, isRow, isName]
          have settled : ((CaseEdit.settle
              (persistenceCase start finish row.name)
              (.persistence row.name start finish) now).apply row).status =
              if persistenceCase start finish row.name then .passed
              else .failed := rfl
          have over_ : ((CaseEdit.settle
              (persistenceCase start finish row.name)
              (.persistence row.name start finish) now).apply row).status ≠
              .pending := by
            rw [settled]
            split <;> decide
          simp only [List.foldl_cons, edited]
          rw [fixed rest _ over_]
          refine ⟨rfl, rfl, rfl, ?_⟩
          rw [if_pos ⟨pending, by simp [isRow]⟩]
          exact settled
        · have same : settleEdit start finish now row item = row := by
            simp [settleEdit, Ne.symm isRow]
          simp only [List.foldl_cons, same, List.map_cons, List.mem_cons,
            Ne.symm isRow, false_or]
          exact later
      · have same : settleEdit start finish now row item = row := by
          simp [settleEdit, pending]
        simp only [List.foldl_cons, same, pending, false_and, if_false]
          at later ⊢
        exact later

/-- What the first update of a resumption does to a case. -/
private def observe (runId : Uuid) (document : Evidence) (now : Micros)
    (row : QaCase) : QaCase :=
  if row.runId = runId && row.name = "restart_observed" &&
      row.status = .running then
    row.finish true document now
  else
    row

private theorem observe_spec (runId : Uuid) (document : Evidence)
    (now : Micros) (row : QaCase) :
    (observe runId document now row).id = row.id ∧
      (observe runId document now row).runId = row.runId ∧
      (observe runId document now row).name = row.name ∧
      ((observe runId document now row).status = .pending ↔
        row.status = .pending) ∧
      (row.status = .pending → observe runId document now row = row) := by
  unfold observe
  split
  · rename_i chosen
    simp only [Bool.and_eq_true, decide_eq_true_eq] at chosen
    simp [QaCase.finish, chosen.2]
  · simp

private theorem pending_observed {document : Evidence} :
    ((((before.updateCases (fun row => row.runId = runId &&
      row.name = "restart_observed" && row.status = .running)
      (.finish true document now)).casesOf runId).filter fun row =>
        row.status = .pending).map fun row => (row.id, row.name)) =
      ((before.casesOf runId).filter fun row => row.status = .pending).map
        fun row => (row.id, row.name) := by
  rw [QaDatabase.casesOf_updateCases, List.filter_map, List.map_map]
  refine congrArg₂ List.map ?_ (List.filter_congr fun row _ => ?_)
  · funext row
    have spec := observe_spec runId document now row
    exact Prod.ext spec.1 spec.2.2.1
  · exact decide_eq_decide.mpr (observe_spec runId document now row).2.2.2.1

theorem eq_of_id {left right : QaCase}
    (isLeft : left ∈ before.cases.rows) (isRight : right ∈ before.cases.rows)
    (same : left.id = right.id) : left = right := by
  have found := Table.find?_eq_some_iff.mpr ⟨isLeft, same⟩
  rw [Table.find?_eq_some_iff.mpr ⟨isRight, rfl⟩] at found
  cases found
  rfl

private theorem settle_observe {start finish : PersistenceSnapshot}
    {document : Evidence} {row : QaCase} (member : row ∈ before.casesOf runId) :
    QaCase.resumed (persistenceCase start finish) row
      ((((before.casesOf runId).filter fun row =>
        row.status = .pending).map fun row => (row.id, row.name)).foldl
          (settleEdit start finish now) (observe runId document now row)) := by
  obtain ⟨sameId, sameRun, sameName, pending, unpending⟩ :=
    observe_spec runId document now row
  have named : ∀ item ∈ ((before.casesOf runId).filter fun row =>
      row.status = .pending).map fun row => (row.id, row.name),
      item.1 = (observe runId document now row).id →
        item.2 = (observe runId document now row).name := by
    intro item isItem same
    obtain ⟨other, isOther, rfl⟩ := List.mem_map.mp isItem
    have isRow := eq_of_id
      (QaDatabase.mem_casesOf.mp (List.mem_filter.mp isOther).1).1
      (QaDatabase.mem_casesOf.mp member).1 (same.trans sameId)
    rw [sameName, ← isRow]
  obtain ⟨finalId, finalRun, finalName, final⟩ :=
    @foldl_settleEdit now start finish _ (observe runId document now row) named
  refine ⟨finalId.trans sameId, finalRun.trans sameRun,
    finalName.trans sameName, ?_⟩
  by_cases isPending : row.status = .pending
  · have listed : (observe runId document now row).id ∈
        (((before.casesOf runId).filter fun row =>
          row.status = .pending).map fun row => (row.id, row.name)).map
          Prod.fst := by
      rw [sameId, List.map_map]
      exact List.mem_map.mpr
        ⟨row, List.mem_filter.mpr ⟨member, by simpa using isPending⟩, rfl⟩
    rw [if_pos ⟨pending.mpr isPending, listed⟩, sameName] at final
    rw [if_neg (by simp [isPending]), if_pos isPending]
    exact final
  · rw [if_neg fun both => isPending (pending.mp both.1)] at final
    rw [final, if_neg isPending]
    have isRun := (QaDatabase.mem_casesOf.mp member).2
    by_cases chosen : row.name = "restart_observed" ∧ row.status = .running
    · rw [if_pos chosen]
      simp [observe, isRun, chosen, QaCase.finish]
    · rw [if_neg chosen]
      unfold observe
      rw [if_neg]
      simpa [isRun] using chosen

private theorem settle_other {start finish : PersistenceSnapshot}
    {other : Uuid} {row : QaCase} (member : row ∈ before.casesOf other)
    (different : other ≠ runId) :
    (((before.casesOf runId).filter fun row =>
      row.status = .pending).map fun row => (row.id, row.name)).foldl
        (settleEdit start finish now) row = row := by
  have absent : ∀ item ∈ ((before.casesOf runId).filter fun row =>
      row.status = .pending).map (fun row => (row.id, row.name)),
      item.1 ≠ row.id := by
    intro item isItem same
    obtain ⟨found, isFound, rfl⟩ := List.mem_map.mp isItem
    have isFound := QaDatabase.mem_casesOf.mp (List.mem_filter.mp isFound).1
    have isRow := QaDatabase.mem_casesOf.mp member
    have sameRow := eq_of_id isFound.1 isRow.1 same
    exact different (isRow.2.symm.trans (sameRow ▸ isFound.2))
  have final := (@foldl_settleEdit now start finish _ row
    fun item isItem same => absurd same (absent item isItem)).2.2.2
  rw [if_neg] at final
  · exact final
  · intro listed
    obtain ⟨item, isItem, same⟩ := List.mem_map.mp listed.2
    exact absent item isItem same

theorem changes_resumePersistence {current : PersistenceSnapshot}
    (resumed : Resumed runId current now before after) :
    Changes buildCommit (.resumePersistence runId) before after := by
  obtain ⟨⟨run, isRun, running⟩, ⟨witness, isWitness, observedRow⟩, baseline,
    document, rfl⟩ := resumed
  simp only [pending_observed]
  intro other
  obtain ⟨rows, sameRuns⟩ := @casesOf_settled other now baseline current
    (((before.casesOf runId).filter fun row => row.status = .pending).map
      fun row => (row.id, row.name))
    (before.updateCases (fun row => row.runId = runId &&
      row.name = "restart_observed" && row.status = .running)
      (.finish true document now))
  rw [QaDatabase.casesOf_updateCases, List.map_map] at rows
  change _ = before.runs at sameRuns
  rw [QaDatabase.entry_updateRuns]
  unfold QaDatabase.entry
  rw [rows, sameRuns]
  by_cases same : other = runId
  · subst same
    have isId := Table.key_of_find? isRun
    rw [isRun]
    refine .inr ⟨_, _, rfl, rfl, ?_⟩
    simp only [isId, running, decide_true, Bool.and_self, if_true]
    have flag : (!(((before.casesOf other).filter fun row =>
        row.status = .pending).map fun row => (row.id, row.name)).any
          fun item => !persistenceCase baseline current item.2) =
        (before.casesOf other).all fun row => row.status ≠ .pending ||
          persistenceCase baseline current row.name := by
      rw [List.any_map, List.any_filter, List.not_any_eq_all_not]
      refine congrArg _ (funext fun row => ?_)
      simp [Bool.not_and]
    rw [flag]
    have resumed := @Change.resumed buildCommit before.traffic
      ⟨run, before.casesOf other⟩ now _ (persistenceCase baseline current)
      running ⟨witness, isWitness, observedRow⟩
      (List.forall₂_map_right_iff.mpr (List.forall₂_same.mpr
        fun row member => @settle_observe before other now baseline current
          document row member))
    rw [isId] at resumed
    exact resumed
  · refine .inl ?_
    cases found : before.runs.find? other with
    | none => rfl
    | some row =>
        have isId := Table.key_of_find? found
        refine congrArg some (@QaEntry.unchanged ⟨row, _⟩ _ _ ?_ ?_)
        · simp [isId, same]
        · intro row member
          have ofOther := (QaDatabase.mem_casesOf.mp member).2
          rw [Function.comp_apply, if_neg (by simp [ofOther, same])]
          exact settle_other member same

end Transactions

end NvidiaBuildLb.Qa
