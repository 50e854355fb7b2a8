import NvidiaBuildLb.Qa.Runner

namespace NvidiaBuildLb.Qa

open Foundation NvidiaBuildLb.Core Gateway Transaction

/-! What each transaction does to the rows when it commits. -/

namespace Known

variable {α β : Type} {before : QaDatabase}

theorem through (middle : α → QaDatabase → Prop) {first : QaTransaction α}
    {next : α → QaTransaction β} {post : β → QaDatabase → Prop}
    (begins : Ensures (fun rows => rows = before) first middle)
    (continues : ∀ value state, middle value state →
      Ensures (fun rows => rows = state) (next value) post) :
    Ensures (fun rows => rows = before) (first >>= next) post := by
  refine Ensures.bind middle begins fun value => ?_
  intro session result after holds ran
  exact continues value session.rows holds session result after rfl ran

theorem bind (fact : α → Prop) (state : α → QaDatabase)
    {first : QaTransaction α} {next : α → QaTransaction β}
    {post : β → QaDatabase → Prop}
    (begins : Ensures (fun rows => rows = before) first
      fun value rows => fact value ∧ rows = state value)
    (continues : ∀ value, fact value →
      Ensures (fun rows => rows = state value) (next value) post) :
    Ensures (fun rows => rows = before) (first >>= next) post :=
  through _ begins fun value _ holds => holds.2 ▸ continues value holds.1

theorem pure {value : α} {post : α → QaDatabase → Prop}
    (holds : post value before) :
    Ensures (fun rows => rows = before) (Pure.pure value : QaTransaction α)
      post :=
  Ensures.pure fun _ same => same ▸ holds

theorem guarded {condition : Bool} {error : String} {next : QaTransaction β}
    {post : β → QaDatabase → Prop}
    (continues : condition = false →
      Ensures (fun rows => rows = before) next post) :
    Ensures (fun rows => rows = before)
      (refuseIf condition error >>= fun _ => next) post := by
  refine Ensures.bind (fun _ rows => condition = false ∧ rows = before)
    (Ensures.refuseIf fun rows same passed => ⟨passed, same⟩) fun _ => ?_
  intro session result after holds ran
  exact continues holds.1 session result after holds.2 ran

theorem selected {context : String} {query : QaDatabase → α}
    {next : α → QaTransaction β} {post : β → QaDatabase → Prop}
    (continues : Ensures (fun rows => rows = before) (next (query before))
      post) :
    Ensures (fun rows => rows = before) (select context query >>= next) post := by
  refine bind (fun value => value = query before) (fun _ => before)
    (Ensures.execute ?_) ?_
  · intro rows answer rows' same answered
    cases answered
    exact ⟨congrArg query same, same⟩
  · intro value same
    exact same ▸ continues

theorem selectedOne {context : String} {query : QaDatabase → Option α}
    {next : α → QaTransaction β} {post : β → QaDatabase → Prop}
    (continues : ∀ value, query before = some value →
      Ensures (fun rows => rows = before) (next value) post) :
    Ensures (fun rows => rows = before) (selectOne context query >>= next)
      post := by
  refine bind (fun value => query before = some value) (fun _ => before)
    (Ensures.execute ?_) continues
  intro rows answer rows' same answered
  obtain ⟨value, found, pair⟩ := Option.map_eq_some_iff.mp answered
  cases pair
  exact ⟨same ▸ found, same⟩

theorem required {context : String} {value : Option α}
    {next : α → QaTransaction β} {post : β → QaDatabase → Prop}
    (continues : ∀ found, value = some found →
      Ensures (fun rows => rows = before) (next found) post) :
    Ensures (fun rows => rows = before) (require context value >>= next)
      post := by
  refine bind (fun found => value = some found) (fun _ => before) ?_ continues
  cases value with
  | none => exact Ensures.bail context
  | some found => exact pure ⟨rfl, rfl⟩

theorem updatedCases {context : String} {choose : QaCase → Bool}
    {edit : CaseEdit} {next : Nat → QaTransaction β}
    {post : β → QaDatabase → Prop}
    (continues : Ensures
      (fun rows => rows = before.updateCases choose edit)
      (next (before.cases.count choose)) post) :
    Ensures (fun rows => rows = before)
      (updateCases context choose edit >>= next) post := by
  refine bind (fun affected => affected = before.cases.count choose)
    (fun _ => before.updateCases choose edit) (Ensures.execute ?_) ?_
  · intro rows answer rows' same answered
    cases answered
    exact ⟨same ▸ rfl, same ▸ rfl⟩
  · intro affected same
    exact same ▸ continues

theorem updatedRuns {context : String} {choose : QaRun → Bool}
    {edit : RunEdit} {next : Nat → QaTransaction β}
    {post : β → QaDatabase → Prop}
    (continues : Ensures
      (fun rows => rows = before.updateRuns choose edit)
      (next (before.runs.count choose)) post) :
    Ensures (fun rows => rows = before)
      (updateRuns context choose edit >>= next) post := by
  refine bind (fun affected => affected = before.runs.count choose)
    (fun _ => before.updateRuns choose edit) (Ensures.execute ?_) ?_
  · intro rows answer rows' same answered
    cases answered
    exact ⟨same ▸ rfl, same ▸ rfl⟩
  · intro affected same
    exact same ▸ continues

theorem audited {event : AuditEvent} {post : Uuid → QaDatabase → Prop}
    (holds : post event.id
      { before with audits := before.audits ++ [event] }) :
    Ensures (fun rows => rows = before) (insertAudit event) post := by
  apply Ensures.execute
  intro rows answer rows' same answered
  cases answered
  exact same ▸ holds

end Known

section Transactions

variable {before : QaDatabase} {runId caseId : Uuid} {now : Micros}

theorem ensures_startQueuedRun :
    Ensures (fun rows => rows = before) (startQueuedRun runId now)
      fun _ after =>
        before.runs.count (fun run => run.id = runId && run.status = .queued) =
            1 ∧
          after = before.updateRuns
            (fun run => run.id = runId && run.status = .queued)
            (.start now) := by
  refine Known.updatedRuns ?_
  refine Ensures.refuseIf fun rows same one => ⟨?_, same⟩
  simpa using one

theorem ensures_armHermes :
    Ensures (fun rows => rows = before) (armHermes runId now) fun _ after =>
      (∃ run, before.runs.find? runId = some run ∧ run.suite = .hermesE2e ∧
        run.live = true ∧ run.status = .queued) ∧
        after = (before.updateCases
          (fun row => row.runId = runId && row.status = .pending)
          (.arm (.armed hermesQaTimeoutSeconds) now)).updateRuns
          (fun run => run.id = runId) (.start now) := by
  refine Known.selectedOne fun run found => ?_
  refine Known.guarded fun isLive => Known.guarded fun isQueued => ?_
  refine Known.updatedCases (Known.guarded fun _ => Known.updatedRuns ?_)
  refine Known.pure ⟨⟨run, found, ?_⟩, rfl⟩
  simpa [and_assoc] using And.intro isLive isQueued

theorem ensures_preparePersistence {snapshot : PersistenceSnapshot} :
    Ensures (fun rows => rows = before) (preparePersistence runId snapshot now)
      fun _ after =>
        (∃ run, before.runs.find? runId = some run ∧ run.status = .queued) ∧
          before.cases.count (fun row => row.runId = runId &&
            row.name = "restart_observed" && row.status = .pending) = 1 ∧
          after = (before.updateCases
            (fun row => row.runId = runId && row.name = "restart_observed" &&
              row.status = .pending)
            (.arm (.baseline snapshot) now)).updateRuns
            (fun run => run.id = runId) (.start now) := by
  refine Known.selectedOne fun run found => ?_
  refine Known.guarded fun isQueued => Known.selected ?_
  refine Known.guarded fun _ => Known.updatedCases ?_
  refine Known.guarded fun one => Known.updatedRuns (Known.pure ?_)
  exact ⟨⟨run, found, by simpa using isQueued⟩, by simpa using one, rfl⟩

theorem ensures_startCase :
    Ensures (fun rows => rows = before) (startCase caseId now) fun _ after =>
      (∀ row ∈ before.cases.rows, row.id = caseId → row.finishedAt = none) ∧
        after = before.updateCases (fun row => row.id = caseId)
          (.start now) := by
  refine Ensures.execute fun rows answer rows' same answered => ?_
  subst same
  split at answered
  · cases answered
  · rename_i unfinished
    cases answered
    refine ⟨fun row member isCase => ?_, rfl⟩
    simp only [List.any_eq_true, not_exists, not_and] at unfinished
    have open_ := unfinished row member
    simpa [isCase] using open_

theorem ensures_finishCase {passed : Bool} {evidence : Evidence} :
    Ensures (fun rows => rows = before) (finishCase caseId passed evidence now)
      fun _ after => after = before.updateCases
        (fun row => row.id = caseId && row.status = .running)
        (.finish passed evidence now) :=
  Known.updatedCases (Known.pure rfl)

theorem ensures_finishRun {passed : Bool} :
    Ensures (fun rows => rows = before) (finishRun runId passed now)
      fun _ after => after = before.updateRuns
        (fun run => run.id = runId && run.status = .running)
        (.finish passed now) :=
  Known.updatedRuns (Known.pure rfl)

theorem ensures_closeCases :
    Ensures (fun rows => rows = before) (closeCases runId now) fun _ after =>
      after = before.updateCases
        (fun row => row.runId = runId && row.status.open)
        (.close "qa_runner_failed" now) :=
  Known.updatedCases (Known.pure rfl)

theorem ensures_closeRun :
    Ensures (fun rows => rows = before) (closeRun runId now) fun _ after =>
      after = before.updateRuns
        (fun run => run.id = runId && run.status.active) (.close now) :=
  Known.updatedRuns (Known.pure rfl)

theorem ensures_failRunningRun {errorCode : String} :
    Ensures (fun rows => rows = before) (failRunningRun runId errorCode now)
      fun _ after => after = before ∨
        before.isActive runId = true ∧
          after = (before.updateCases
            (fun row => row.runId = runId && row.status.open)
            (.close errorCode now)).updateRuns
            (fun run => run.id = runId && run.status.active)
            (.close now) := by
  refine Known.selected ?_
  split
  · rename_i active
    exact Known.updatedCases (Known.updatedRuns
      (Known.pure (.inr ⟨active, rfl⟩)))
  · exact Known.pure (.inl rfl)

theorem ensures_closeInterruptedRuns :
    Ensures (fun rows => rows = before) (closeInterruptedRuns now)
      fun _ after => after = (before.updateCases
        (fun row => row.runId ∈ before.interruptedRuns && row.status.open)
        (.close "gateway_restarted_during_qa" now)).updateRuns
        QaRun.interrupted (.close now) := by
  refine Known.bind (fun _ => True) (fun _ =>
    before.updateCases
      (fun row => row.runId ∈ before.interruptedRuns && row.status.open)
      (.close "gateway_restarted_during_qa" now)) ?_ ?_
  · refine Ensures.execute fun rows answer rows' same answered => ?_
    cases answered
    exact ⟨trivial, same ▸ rfl⟩
  · intro _ _
    exact Known.updatedRuns (Known.pure rfl)

theorem ensures_insertCases (items : List (Uuid × String))
    (before : QaDatabase) :
    Ensures (fun rows => rows = before) (insertCases runId items)
      fun _ after => after.runs = before.runs ∧
        after.audits = before.audits ∧
        ∃ added : List QaCase,
          after.cases.rows = before.cases.rows ++ added ∧
            added.map QaCase.name = items.map Prod.snd ∧
            ∀ row ∈ added, row.runId = runId ∧ row.status = .pending := by
  induction items generalizing before with
  | nil => exact Known.pure ⟨rfl, rfl, [], by simp⟩
  | cons item rest induction =>
      refine Known.through (fun _ rows => ∃ row : QaCase,
        row.runId = runId ∧ row.name = item.2 ∧ row.status = .pending ∧
          rows.runs = before.runs ∧ rows.audits = before.audits ∧
          rows.cases.rows = before.cases.rows ++ [row]) (Ensures.execute ?_) ?_
      · intro rows answer rows' same inserted
        obtain ⟨cases, added, pair⟩ := Option.map_eq_some_iff.mp inserted
        cases pair
        subst same
        exact ⟨_, rfl, rfl, rfl, rfl, rfl, (Table.insert?_eq_some added).2⟩
      · intro _ state holds
        obtain ⟨row, isRun, named, pending, runs, audits, rows⟩ := holds
        refine (induction state).weaken (fun _ same => same) ?_
        intro _ after inserted
        obtain ⟨sameRuns, sameAudits, added, appended, names, all⟩ := inserted
        refine ⟨sameRuns.trans runs, sameAudits.trans audits, row :: added,
          ?_, ?_, ?_⟩
        · rw [appended, rows, List.append_assoc, List.singleton_append]
        · rw [List.map_cons, List.map_cons, names, named]
        · intro other member
          cases List.mem_cons.mp member with
          | inl isRow => exact isRow ▸ ⟨isRun, pending⟩
          | inr later => exact all other later

/-- A new run is queued and has all the cases of its suite. -/
structure Created (runId : Uuid) (before after : QaDatabase) : Prop where
  fresh : before.runs.find? runId = none
  added : ∃ run : QaRun, run.id = runId ∧ run.status = .queued ∧
    after.runs.rows = before.runs.rows ++ [run] ∧
    ∃ rows : List QaCase, after.cases.rows = before.cases.rows ++ rows ∧
      rows.map QaCase.name = run.suite.cases ∧
      ∀ row ∈ rows, row.runId = runId ∧ row.status = .pending
  audited : ∃ event : AuditEvent, event.action = "qa.run.create" ∧
    after.audits = before.audits ++ [event]

theorem ensures_createQaRun {buildCommit : String} {suite : Suite}
    {live : Bool} {providerIdentity : ProviderIdentity} {requestId : Uuid}
    {caseIds : Nat → Uuid} {auditId : Uuid} :
    Ensures (fun rows => rows = before)
      (createQaRun buildCommit runId suite live providerIdentity requestId
        caseIds auditId now)
      fun _ after => Created runId before after := by
  refine Known.guarded fun _ => Known.guarded fun _ => Known.selected ?_
  refine Known.guarded fun _ => ?_
  refine Known.through (fun _ rows =>
    before.runs.find? runId = none ∧ rows.cases = before.cases ∧
      rows.audits = before.audits ∧ ∃ run : QaRun, run.id = runId ∧
        run.status = .queued ∧ run.suite = suite ∧
        rows.runs.rows = before.runs.rows ++ [run]) (Ensures.execute ?_) ?_
  · intro rows answer rows' same inserted
    obtain ⟨runs, added, pair⟩ := Option.map_eq_some_iff.mp inserted
    cases pair
    subst same
    obtain ⟨fresh, appended⟩ := Table.insert?_eq_some added
    exact ⟨fresh, rfl, rfl, _, rfl, rfl, rfl, appended⟩
  · intro _ state holds
    obtain ⟨fresh, sameCases, sameAudits, run, isRun, queued, ofSuite, runs⟩ :=
      holds
    refine Known.through _ (ensures_insertCases _ state) fun _ later inserted => ?_
    obtain ⟨laterRuns, laterAudits, rows, appended, names, all⟩ := inserted
    refine Known.audited ⟨fresh, ⟨run, isRun, queued, ?_, rows, ?_, ?_, all⟩, ?_⟩
    · rw [laterRuns, runs]
    · rw [appended, sameCases]
    · rw [names, ofSuite, List.map_map]
      exact List.zipIdx_map_fst 0 suite.cases
    · exact ⟨_, rfl, by rw [laterAudits, sameAudits]⟩

def QaDatabase.settled (start finish : PersistenceSnapshot) (now : Micros)
    (database : QaDatabase) (items : List (Uuid × String)) : QaDatabase :=
  items.foldl (fun rows item =>
    rows.updateCases (fun row => row.id = item.1 && row.status = .pending)
      (.settle (persistenceCase start finish item.2)
        (.persistence item.2 start finish) now)) database

theorem ensures_settlePersistenceCases {start finish : PersistenceSnapshot}
    (items : List (Uuid × String)) (failed : Bool) (before : QaDatabase) :
    Ensures (fun rows => rows = before)
      (settlePersistenceCases start finish now items failed)
      fun value after =>
        value = (failed ||
          items.any fun item => !persistenceCase start finish item.2) ∧
          after = before.settled start finish now items := by
  induction items generalizing failed before with
  | nil => exact Known.pure ⟨by simp, rfl⟩
  | cons item rest induction =>
      obtain ⟨caseId, name⟩ := item
      refine Known.updatedCases ?_
      intro session value after same ran
      obtain ⟨isFailed, settled⟩ := induction _ _ session value after same ran
      refine ⟨?_, settled⟩
      rw [isFailed, List.any_cons, Bool.or_assoc]

/-- A persistence run that resumed in another process. -/
structure Resumed (runId : Uuid) (current : PersistenceSnapshot) (now : Micros)
    (before after : QaDatabase) : Prop where
  running : ∃ run, before.runs.find? runId = some run ∧ run.status = .running
  restarted : ∃ row ∈ before.casesOf runId,
    row.name = "restart_observed" ∧ row.status = .running
  settled : ∃ baseline document,
    let observed := before.updateCases
      (fun row => row.runId = runId && row.name = "restart_observed" &&
        row.status = .running) (.finish true document now)
    let items := ((observed.casesOf runId).filter fun row =>
      row.status = .pending).map fun row => (row.id, row.name)
    after = (observed.settled baseline current now items).updateRuns
      (fun run => run.id = runId && run.status = .running)
      (.finish (!items.any fun item =>
        !persistenceCase baseline current item.2) now)

theorem ensures_resumePersistence {current : PersistenceSnapshot} :
    Ensures (fun rows => rows = before) (resumePersistence runId current now)
      fun _ after => Resumed runId current now before after := by
  refine Known.selectedOne fun run found => Known.guarded fun isRunning => ?_
  refine Known.selectedOne fun evidence observed => ?_
  obtain ⟨row, isRow, rfl⟩ := Option.map_eq_some_iff.mp observed
  have member := List.mem_of_find?_eq_some isRow
  have chosen := List.find?_some isRow
  simp only [Bool.and_eq_true, decide_eq_true_eq] at chosen
  split
  · rename_i baseline isBaseline
    refine Known.guarded fun other => ?_
    have changed : decide (baseline.ownerId ≠ current.ownerId) = true := by
      simpa using other
    simp only [changed]
    refine Known.updatedCases (Known.selected ?_)
    refine Known.through _ (ensures_settlePersistenceCases _ _ _)
      fun failed state settled => ?_
    obtain ⟨isFailed, rfl⟩ := settled
    refine Known.updatedRuns (Known.pure ?_)
    exact {
      running := ⟨run, found, by simpa using isRunning⟩
      restarted := ⟨row, member, chosen⟩
      settled := ⟨baseline, _, by rw [isFailed, Bool.not_true, Bool.false_or]⟩ }
  · exact Ensures.bail _

end Transactions

end NvidiaBuildLb.Qa
