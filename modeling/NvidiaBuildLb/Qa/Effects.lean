import NvidiaBuildLb.Qa.Entries

namespace NvidiaBuildLb.Qa

open Foundation NvidiaBuildLb.Core Gateway Transaction

/-! What each request makes of the whole database. -/

section Completions

variable {runId : Uuid} {recovering : Bool} {now : Micros}
  {verdicts : List (String × Bool × Evidence)} {before after : QaDatabase}

theorem Finishes.frame
    (finishes : Finishes runId recovering now verdicts before after) :
    after.runs = before.runs ∧ after.audits = before.audits ∧
      (∀ other, other ≠ runId → after.casesOf other = before.casesOf other) ∧
      (after.casesOf runId).map QaCase.name =
        (before.casesOf runId).map QaCase.name := by
  induction finishes with
  | nil => exact ⟨rfl, rfl, fun _ _ => rfl, rfl⟩
  | @cons name passed evidence rest before after one later induction =>
      obtain ⟨runs, audits, others, names⟩ := induction
      refine ⟨runs, audits, fun other different => ?_, ?_⟩
      · rw [others other different, QaDatabase.casesOf_updateCases]
        refine Eq.trans (List.map_congr_left fun row member => ?_)
          (List.map_id _)
        exact if_neg (by
          simp [(QaDatabase.mem_casesOf.mp member).2, different])
      · rw [names, QaDatabase.casesOf_updateCases, List.map_map]
        refine List.map_congr_left fun row _ => ?_
        rw [Function.comp_apply]
        split <;> rfl

private theorem eq_of_name {rows : List QaCase}
    (distinct : (rows.map QaCase.name).Nodup) {left right : QaCase}
    (isLeft : left ∈ rows) (isRight : right ∈ rows)
    (same : left.name = right.name) : left = right :=
  List.inj_on_of_nodup_map distinct isLeft isRight same

/-- The induction is on the verdicts still to write; a case whose verdict is
written is not touched again, unless by a verdict of the same name. -/
private theorem Finishes.passed
    (finishes : Finishes runId recovering now verdicts before after)
    (all : ∀ verdict ∈ verdicts, verdict.2.1 = true)
    (distinct : ((before.casesOf runId).map QaCase.name).Nodup) :
    ∀ row ∈ after.casesOf runId,
      (row.name ∈ verdicts.map Prod.fst → row.status = .passed) ∧
        (row.name ∉ verdicts.map Prod.fst → row ∈ before.casesOf runId) := by
  induction finishes with
  | nil => exact fun row member => ⟨fun impossible => (by cases impossible),
      fun _ => member⟩
  | @cons name passed evidence rest before after one later induction =>
      intro row member
      have isPassed : passed = true := all _ List.mem_cons_self
      let chosen : QaCase → Bool := fun row => row.runId = runId &&
        row.name = name && row.status = expectedCase recovering
      have edited := @QaDatabase.casesOf_updateCases before runId chosen
        (.finish passed evidence now)
      have names : ((before.updateCases chosen
          (.finish passed evidence now)).casesOf runId).map QaCase.name =
          (before.casesOf runId).map QaCase.name := by
        rw [edited, List.map_map]
        refine List.map_congr_left fun row _ => ?_
        rw [Function.comp_apply]
        split <;> rfl
      obtain ⟨written, unwritten⟩ := induction
        (fun verdict isLater => all verdict (List.mem_cons_of_mem _ isLater))
        (names ▸ distinct) row member
      have source : row.name ∉ rest.map Prod.fst →
          ∃ old ∈ before.casesOf runId, row.name = old.name ∧
            row = if chosen old then old.finish passed evidence now
              else old := by
        intro absent
        have inEdited := unwritten absent
        rw [edited] at inEdited
        obtain ⟨old, isOld, rfl⟩ := List.mem_map.mp inEdited
        refine ⟨old, isOld, ?_, rfl⟩
        split <;> rfl
      obtain ⟨target, isTarget, isChosen⟩ :=
        List.countP_pos_iff.mp (Nat.lt_of_lt_of_eq Nat.zero_lt_one one.symm)
      have targetFacts : target.runId = runId ∧ target.name = name := by
        simp only [Bool.and_eq_true, decide_eq_true_eq] at isChosen
        exact isChosen.1
      constructor
      · intro listed
        by_cases isLater : row.name ∈ rest.map Prod.fst
        · exact written isLater
        · have isName : row.name = name := by
            cases List.mem_cons.mp listed with
            | inl same => exact same
            | inr later => exact absurd later isLater
          obtain ⟨old, isOld, sameName, rfl⟩ := source isLater
          have isTargetRow := eq_of_name distinct isOld
            (QaDatabase.mem_casesOf.mpr ⟨isTarget, targetFacts.1⟩)
            ((sameName.symm.trans isName).trans targetFacts.2.symm)
          rw [if_pos (isTargetRow ▸ isChosen), isPassed]
          rfl
      · intro absent
        simp only [List.map_cons, List.mem_cons, not_or] at absent
        obtain ⟨old, isOld, sameName, rfl⟩ := source absent.2
        rw [if_neg]
        · exact isOld
        · intro isChosenOld
          simp only [chosen, Bool.and_eq_true, decide_eq_true_eq] at isChosenOld
          exact absent.1 (sameName.trans isChosenOld.1.2)

private theorem verdicts_passed {input : HermesCompletion} {clientId : Uuid}
    {secretScan : SecretScanEvidence} {correlated : List CorrelatedRequest}
    (scanned : ScanVerified before input) (clean : secretScan.totalMatches = 0) :
    ∀ verdict ∈ input.verdicts clientId secretScan correlated,
      verdict.2.1 = true := by
  obtain ⟨doctor, marker, tool, correlation, rehearsal⟩ :=
    scanned.verifications
  simp [HermesCompletion.verdicts, doctor, marker, tool, correlation, rehearsal,
    clean]

theorem changes_completeHermes {context : CompletionContext}
    {input : HermesCompletion} {requestId audit : Uuid}
    (completed : Completed context input before audit after) :
    Changes context.buildCommit (.completeHermes context.runId input requestId)
      before after := by
  cases completed with
  | again => exact .refl
  | failed run found ofHermes running failed =>
      refine .of_named fun entry isEntry => ?_
      have same := (QaDatabase.entry_eq_some.mp isEntry).1.symm.trans found
      cases same
      rw [← QaDatabase.id_of_entry isEntry]
      simp only [running, decide_true, decide_eq_true_eq, if_true]
      exact .inr (.completedFailed ofHermes running failed)
  | passed run startedAt reported secretScan correlated cased found ofHermes
      isLive started passed expected verified finishes =>
      obtain ⟨runs, audits, others, names⟩ := finishes.frame
      intro other
      change (QaDatabase.updateRuns cased _ _).entry other = _ ∨
        ∃ _ _, _ ∧ (QaDatabase.updateRuns cased _ _).entry other = _ ∧ _
      rw [QaDatabase.entry_updateRuns]
      unfold QaDatabase.entry
      rw [runs]
      by_cases same : other = context.runId
      · subst same
        have isId := Table.key_of_find? found
        rw [found]
        refine .inr ⟨_, _, rfl, rfl, ?_⟩
        simp only [isId, ← expected, decide_true, Bool.and_self, if_true]
        have change := @Change.completedPassed context.buildCommit
          before.traffic ⟨run, before.casesOf context.runId⟩ context.now
          startedAt input requestId _ reported secretScan correlated before
          ofHermes started passed expected verified rfl ⟨names, fun named distinct =>
            fun row member => ((finishes.passed
              (verdicts_passed verified.scanned verified.scan.2) distinct)
              row member).1 ?_⟩ isLive
        · rw [isId] at change
          exact change
        · have listed : row.name ∈ (before.casesOf context.runId).map
              QaCase.name :=
            names ▸ List.mem_map_of_mem member
          obtain ⟨old, isOld, sameName⟩ := List.mem_map.mp listed
          exact sameName ▸ named old isOld
      · refine .inl ?_
        rw [others other same]
        cases isRow : before.runs.find? other with
        | none => rfl
        | some row =>
            have isId := Table.key_of_find? isRow
            refine congrArg some (congrArg₂ QaEntry.mk (if_neg ?_) rfl)
            simp [isId, same]

end Completions

/-- The foreign key of `qa_cases`. -/
def QaDatabase.Linked (database : QaDatabase) : Prop :=
  ∀ row ∈ database.cases.rows, row.runId ∈ database.runs.rows.map QaRun.id

/-- The audits of accepted completions of a run. -/
def QaDatabase.acceptances (database : QaDatabase) (runId : Uuid) :
    List AuditEvent :=
  database.audits.filter fun event =>
    event.action = "qa.hermes.complete" && event.resourceId = some runId &&
      event.outcome = "succeeded" &&
      match event.detail with
      | .completed .. => true
      | _ => false

section Links

variable {before after : QaDatabase}

private theorem keys_updateRuns (choose : QaRun → Bool) (edit : RunEdit) :
    (before.updateRuns choose edit).runs.rows.map QaRun.id =
      before.runs.rows.map QaRun.id := by
  change (before.runs.rows.map _).map QaRun.id = _
  rw [List.map_map]
  refine List.map_congr_left fun run _ => ?_
  change QaRun.id (if choose run = true then edit.apply run else run) = run.id
  split
  · exact edit.id run
  · rfl

private theorem linked_updateRuns {choose : QaRun → Bool} {edit : RunEdit}
    (linked : before.Linked) : (before.updateRuns choose edit).Linked := by
  intro row member
  rw [keys_updateRuns]
  exact linked row member

private theorem linked_updateCases {choose : QaCase → Bool} {edit : CaseEdit}
    (linked : before.Linked) : (before.updateCases choose edit).Linked := by
  intro row member
  obtain ⟨old, isOld, rfl⟩ := List.mem_map.mp member
  change QaCase.runId (if choose old = true then edit.apply old else old) ∈ _
  split
  · rw [edit.runId]
    exact linked old isOld
  · exact linked old isOld

private theorem linked_settled {start finish : PersistenceSnapshot}
    {now : Micros} (items : List (Uuid × String)) (linked : before.Linked) :
    (before.settled start finish now items).Linked := by
  induction items generalizing before with
  | nil => exact linked
  | cons item rest induction => exact induction (linked_updateCases linked)

private theorem Finishes.linked {runId : Uuid} {recovering : Bool}
    {now : Micros} {verdicts : List (String × Bool × Evidence)}
    (finishes : Finishes runId recovering now verdicts before after)
    (linked : before.Linked) : after.Linked := by
  induction finishes with
  | nil => exact linked
  | cons one later induction => exact induction (linked_updateCases linked)

theorem Created.linked {runId : Uuid} (created : Created runId before after)
    (linked : before.Linked) : after.Linked := by
  obtain ⟨run, isRun, -, runs, rows, cases, -, all⟩ := created.added
  intro row member
  rw [cases] at member
  rw [runs, List.map_append, List.mem_append]
  cases List.mem_append.mp member with
  | inl old => exact .inl (linked row old)
  | inr new =>
      refine .inr ?_
      rw [(all row new).1, ← isRun]
      exact List.mem_singleton.mpr rfl

private theorem casesOf_created {runId : Uuid} {rows : List QaCase}
    (cases : after.cases.rows = before.cases.rows ++ rows)
    (all : ∀ row ∈ rows, row.runId = runId ∧ row.status = .pending)
    (other : Uuid) :
    after.casesOf other = before.casesOf other ++
      if other = runId then rows else [] := by
  unfold QaDatabase.casesOf
  rw [cases, List.filter_append]
  refine congrArg _ ?_
  split
  · rename_i same
    exact List.filter_eq_self.mpr fun row member => by
      simp [(all row member).1, same]
  · rename_i different
    exact List.filter_eq_nil_iff.mpr fun row member => by
      simp [(all row member).1, Ne.symm different]

theorem Created.others {runId other : Uuid}
    (created : Created runId before after) (different : other ≠ runId) :
    after.entry other = before.entry other := by
  obtain ⟨run, isRun, -, runs, rows, cases, -, all⟩ := created.added
  unfold QaDatabase.entry
  rw [casesOf_created cases all, if_neg different, List.append_nil]
  refine congrArg _ ?_
  unfold Table.find?
  rw [runs, List.find?_append]
  simp [isRun, Ne.symm different]

theorem Created.entry {runId : Uuid} (created : Created runId before after)
    (linked : before.Linked) :
    ∃ entry, after.entry runId = some entry ∧ entry.run.status = .queued ∧
      entry.cases.map QaCase.name = entry.run.suite.cases ∧
      ∀ row ∈ entry.cases, row.status = .pending := by
  obtain ⟨run, isRun, queued, runs, rows, cases, names, all⟩ := created.added
  have absent : ∀ old ∈ before.runs.rows, old.id ≠ runId := by
    have fresh := created.fresh
    unfold Table.find? at fresh
    rw [List.find?_eq_none] at fresh
    intro old member same
    exact fresh old member (by simpa using same)
  have noCase : before.casesOf runId = [] := by
    refine List.filter_eq_nil_iff.mpr fun row member ofRun => ?_
    simp only [decide_eq_true_eq] at ofRun
    obtain ⟨old, isOld, same⟩ := List.mem_map.mp (linked row member)
    exact absent old isOld (same.trans ofRun)
  refine ⟨⟨run, rows⟩, ?_, queued, names, fun row member =>
    (all row member).2⟩
  refine QaDatabase.entry_eq_some.mpr ⟨?_, ?_⟩
  · have fresh := created.fresh
    unfold Table.find? at fresh ⊢
    rw [runs, List.find?_append, fresh, Option.none_or]
    simp [isRun]
  · rw [casesOf_created cases all, if_pos rfl, noCase, List.nil_append]

end Links

/-- A transaction leaves the rows alone or commits what its specification
says; whoever asked may not hear of it. -/
theorem commit_cases {α : Type} {body : QaTransaction α} {world : QaWorld}
    {spec : α → QaDatabase → Prop}
    (ensures : Ensures (fun rows => rows = world.database) body spec)
    (luck : Luck) :
    (commit luck body world).2.process = world.process ∧
      (commit luck body world).2.halfClosed = world.halfClosed ∧
      ((commit luck body world).2.database = world.database ∨
        ∃ value, spec value (commit luck body world).2.database) ∧
      ∀ value, (commit luck body world).1 = .ok value →
        spec value (commit luck body world).2.database := by
  refine ⟨rfl, rfl, ?_, fun value answered => ?_⟩
  · change (body.transact luck.refuses world.database).2 = world.database ∨
      ∃ value, spec value (body.transact luck.refuses world.database).2
    cases ended : (body.transact luck.refuses world.database).1 with
    | error error => exact .inl (transact_error ended)
    | ok value => exact .inr ⟨value, ensures.transact rfl ended⟩
  · change spec value (body.transact luck.refuses world.database).2
    refine ensures.transact rfl ?_
    unfold commit at answered
    simp only [] at answered
    split at answered
    · cases ended : (body.transact luck.refuses world.database).1 with
      | error error => rw [ended] at answered; cases answered
      | ok other => rw [ended] at answered; cases answered
    · exact answered

theorem ensures_select {α : Type} {context : String} {query : QaDatabase → α}
    {before : QaDatabase} :
    Ensures (fun rows => rows = before) (select context query)
      fun value after => value = query before ∧ after = before := by
  refine Ensures.execute fun rows answer rows' same answered => ?_
  cases answered
  exact ⟨congrArg query same, same⟩

theorem ensures_selectOne {α : Type} {context : String}
    {query : QaDatabase → Option α} {before : QaDatabase} :
    Ensures (fun rows => rows = before) (selectOne context query)
      fun value after => query before = some value ∧ after = before := by
  refine Ensures.execute fun rows answer rows' same answered => ?_
  obtain ⟨value, found, pair⟩ := Option.map_eq_some_iff.mp answered
  cases pair
  exact ⟨same ▸ found, same⟩

/-- What an answer, heard or not, makes of the world. -/
structure Effect (op : QaOp) (world after : QaWorld) : Prop where
  process : after.process = world.process ∨ op = .listen ∧
    after.process = { world.process with listening := true }
  changes : Changes world.process.settings.buildCommit op world.database
      after.database ∨
    ∃ runId suite live identity requestId,
      op = .createQaRun runId suite live identity requestId ∧
        Created runId world.database after.database
  linked : world.database.Linked → after.database.Linked
  halfClosed : (∀ runId, op ≠ .closeRun runId) →
    after.halfClosed = world.halfClosed

private theorem Effect.of_commit {α : Type} {op : QaOp}
    {body : QaTransaction α} {world : QaWorld}
    {spec : α → QaDatabase → Prop}
    (ensures : Ensures (fun rows => rows = world.database) body spec)
    (changes : ∀ value after, spec value after →
      Changes world.process.settings.buildCommit op world.database after)
    (linked : ∀ value after, spec value after → world.database.Linked →
      after.Linked) (luck : Luck) :
    Effect op world (commit luck body world).2 := by
  obtain ⟨process, halfClosed, database, -⟩ := commit_cases ensures luck
  refine ⟨.inl process, .inl ?_, ?_, fun _ => halfClosed⟩
  · cases database with
    | inl same => exact same ▸ .refl
    | inr committed =>
        obtain ⟨value, holds⟩ := committed
        exact changes value _ holds
  · cases database with
    | inl same => exact same ▸ id
    | inr committed =>
        obtain ⟨value, holds⟩ := committed
        exact linked value _ holds

private theorem Effect.of_read {α : Type} {op : QaOp}
    {body : QaTransaction α} {world : QaWorld} {fact : α → Prop}
    (ensures : Ensures (fun rows => rows = world.database) body
      fun value after => fact value ∧ after = world.database) (luck : Luck) :
    Effect op world (commit luck body world).2 :=
  .of_commit ensures (fun _ _ holds => holds.2 ▸ .refl)
    (fun _ _ holds => holds.2 ▸ id) luck

private theorem Effect.same {op : QaOp} {world : QaWorld} :
    Effect op world world :=
  ⟨.inl rfl, .inl .refl, id, fun _ => rfl⟩

theorem serve_effect (op : QaOp) (luck : Luck) (world : QaWorld) :
    Effect op world (serve op luck world).2 := by
  cases op with
  | createQaRun runId suite live identity requestId =>
      obtain ⟨process, halfClosed, database, -⟩ :=
        commit_cases ensures_createQaRun luck
      refine ⟨.inl process, ?_, ?_, fun _ => halfClosed⟩
      · cases database with
        | inl same => exact .inl (same ▸ .refl)
        | inr committed =>
            obtain ⟨_, created⟩ := committed
            exact .inr ⟨runId, suite, live, identity, requestId, rfl, created⟩
      · cases database with
        | inl same => exact same ▸ id
        | inr committed =>
            obtain ⟨_, created⟩ := committed
            exact created.linked
  | qaRun => exact .of_read ensures_select luck
  | loadRunMode => exact .of_read ensures_selectOne luck
  | settings => exact .same
  | preparePersistence runId =>
      refine .of_commit ensures_preparePersistence ?_ ?_ luck
      · rintro _ _ ⟨⟨run, found, queued⟩, one, rfl⟩
        exact changes_preparePersistence found queued one
      · rintro _ _ ⟨-, -, rfl⟩ linked
        exact linked_updateRuns (linked_updateCases linked)
  | armHermes runId =>
      refine .of_commit ensures_armHermes ?_ ?_ luck
      · rintro _ _ ⟨⟨run, found, ofHermes, -, queued⟩, rfl⟩
        exact changes_armHermes found ofHermes queued
      · rintro _ _ ⟨-, rfl⟩ linked
        exact linked_updateRuns (linked_updateCases linked)
  | startQueuedRun runId =>
      refine .of_commit ensures_startQueuedRun ?_ ?_ luck
      · rintro _ _ ⟨-, rfl⟩
        exact changes_startQueuedRun
      · rintro _ _ ⟨-, rfl⟩ linked
        exact linked_updateRuns linked
  | exerciseTraffic => exact .same
  | loadCases => exact .of_read ensures_select luck
  | startCase runId caseId =>
      refine .of_commit ensures_startCase ?_ ?_ luck
      · rintro _ _ ⟨unfinished, rfl⟩
        exact changes_startCase unfinished
      · rintro _ _ ⟨-, rfl⟩ linked
        exact linked_updateCases linked
  | evaluateCase => exact .same
  | finishCase runId caseId passed evidence =>
      refine .of_commit ensures_finishCase ?_ ?_ luck
      · rintro _ _ rfl
        exact changes_finishCase
      · rintro _ _ rfl linked
        exact linked_updateCases linked
  | finishRun runId passed =>
      refine .of_commit ensures_finishRun ?_ ?_ luck
      · rintro _ _ rfl
        exact changes_finishRun
      · rintro _ _ rfl linked
        exact linked_updateRuns linked
  | closeCases runId =>
      refine .of_commit ensures_closeCases ?_ ?_ luck
      · rintro _ _ rfl
        exact changes_closeCases
      · rintro _ _ rfl linked
        exact linked_updateCases linked
  | closeRun runId =>
      have closed : Effect (.closeRun runId) world
          (commit luck (closeRun runId luck.now) world).2 := by
        refine .of_commit ensures_closeRun ?_ ?_ luck
        · rintro _ _ rfl
          exact changes_closeRun
        · rintro _ _ rfl linked
          exact linked_updateRuns linked
      change Effect (.closeRun runId) world (serveCloseRun runId luck world).2
      unfold serveCloseRun
      simp only []
      split
      · exact ⟨closed.process, closed.changes, closed.linked,
          fun other => absurd rfl (other runId)⟩
      · exact closed
  | sleep => exact .same
  | failRunningRun runId errorCode =>
      refine .of_commit ensures_failRunningRun ?_ ?_ luck
      · rintro _ _ (rfl | ⟨active, rfl⟩)
        · exact .refl
        · exact changes_failRunningRun active
      · rintro _ _ (rfl | ⟨active, rfl⟩) linked
        · exact linked
        · exact linked_updateRuns (linked_updateCases linked)
  | completeHermes runId input requestId =>
      refine .of_commit ensures_completeHermes ?_ ?_ luck
      · intro audit after completed
        exact changes_completeHermes completed
      · intro audit after completed linked
        cases completed with
        | again => exact linked
        | failed =>
            exact @linked_updateRuns (QaDatabase.updateCases _ _ _) _ _
              (linked_updateCases linked)
        | passed run startedAt reported secretScan correlated cased found
            ofHermes isLive started passed expected verified finishes =>
            exact @linked_updateRuns cased _ _ (finishes.linked linked)
  | closeInterruptedRuns =>
      refine .of_commit ensures_closeInterruptedRuns ?_ ?_ luck
      · rintro _ _ rfl
        exact changes_closeInterruptedRuns
      · rintro _ _ rfl linked
        exact linked_updateRuns (linked_updateCases linked)
  | interruptedPersistenceRuns => exact .of_read ensures_select luck
  | resumePersistence runId =>
      refine .of_commit ensures_resumePersistence ?_ ?_ luck
      · intro _ after resumed
        exact changes_resumePersistence resumed
      · intro _ after resumed linked
        obtain ⟨baseline, document, rfl⟩ := resumed.settled
        exact linked_updateRuns (linked_settled _ (linked_updateCases linked))
  | listen => exact ⟨.inr ⟨rfl, rfl⟩, .inl .refl, id, fun _ => rfl⟩

end NvidiaBuildLb.Qa
