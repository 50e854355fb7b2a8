import NvidiaBuildLb.Qa.Effects

namespace NvidiaBuildLb.Qa

open Foundation NvidiaBuildLb.Core Gateway Transaction

/-! What is true of every run and its cases, and that a request keeps it when
the task that makes it knows enough. -/

structure Sound (entry : QaEntry) : Prop where
  named : ∀ row ∈ entry.cases, row.name ∈ entry.run.suite.cases
  distinct : (entry.cases.map QaCase.name).Nodup
  passed : entry.run.status = .passed →
    ∀ row ∈ entry.cases, row.status = .passed
  queued : entry.run.status = .queued →
    (∀ row ∈ entry.cases, row.status = .pending) ∨
      ∀ row ∈ entry.cases, row.status.open = false
  observed : entry.run.suite = .persistence →
    ∀ row ∈ entry.cases, row.name = "restart_observed" →
      row.status = .running → ∀ other ∈ entry.cases,
        other.name ≠ "restart_observed" → other.status = .pending
  armed : entry.run.suite = .hermesE2e → entry.run.status = .running →
    ∀ row ∈ entry.cases, row.status ≠ .pending

/-- A run that is over has no open case. -/
def Closed (entry : QaEntry) : Prop :=
  entry.run.status.active = false → ∀ row ∈ entry.cases, row.status.open = false

structure Valid (world : QaWorld) : Prop where
  linked : world.database.Linked
  sound : ∀ runId entry, world.database.entry runId = some entry → Sound entry
  closed : ∀ runId entry, world.database.entry runId = some entry →
    runId ∉ world.halfClosed → Closed entry

def OfSuite (suites : Suite → Prop) (runId : Uuid) (world : QaWorld) : Prop :=
  ∃ entry, world.database.entry runId = some entry ∧ suites entry.run.suite

/-- The runner is at work on the cases of its run. -/
def AtWork (runId : Uuid) (knows : QaEntry → Prop) (world : QaWorld) : Prop :=
  ∃ entry, world.database.entry runId = some entry ∧
    trafficSuite entry.run.suite = true ∧ entry.run.status = .running ∧
    knows entry

/-- The verdict of a runner is backed by its cases. -/
def Backed (passed : Bool) (entry : QaEntry) : Prop :=
  ∀ row ∈ entry.cases, row.status.open = false ∧
    (passed = true → row.status = .passed)

def HasCase (caseId : Uuid) (entry : QaEntry) : Prop :=
  ∃ row ∈ entry.cases, row.id = caseId

def Quiet (tag : Tag) (world : QaWorld) : Prop :=
  tag.duty = .recovery ∧ world.process.listening = false

def Permitted (tag : Tag) (op : QaOp) (world : QaWorld) : Prop :=
  match op with
  | .closeInterruptedRuns | .interruptedPersistenceRuns | .listen =>
      Quiet tag world
  | .resumePersistence runId =>
      Quiet tag world ∧ OfSuite (· = .persistence) runId world
  | .failRunningRun runId _ => Quiet tag world ∨ tag.duty = .creation runId
  | .createQaRun runId .. | .armHermes runId | .closeCases runId
  | .closeRun runId => tag.duty = .creation runId
  | .preparePersistence runId =>
      tag.duty = .creation runId ∧ OfSuite (· = .persistence) runId world
  | .startQueuedRun runId =>
      tag.duty = .creation runId ∧
        OfSuite (fun suite => trafficSuite suite = true) runId world
  | .startCase runId caseId | .finishCase runId caseId _ _ =>
      tag.duty = .creation runId ∧ AtWork runId (HasCase caseId) world
  | .finishRun runId passed =>
      tag.duty = .creation runId ∧ AtWork runId (Backed passed) world
  | _ => True

section Entries

variable {entry : QaEntry} {now : Micros}

private theorem Sound.edited {run : QaRun} {edit : QaCase → QaCase}
    (sound : Sound entry) (suite : run.suite = entry.run.suite)
    (names : ∀ row, (edit row).name = row.name)
    (passed : run.status = .passed →
      ∀ row ∈ entry.cases, (edit row).status = .passed)
    (queued : run.status = .queued →
      (∀ row ∈ entry.cases, (edit row).status = .pending) ∨
        ∀ row ∈ entry.cases, (edit row).status.open = false)
    (observed : run.suite = .persistence →
      ∀ row ∈ entry.cases, row.name = "restart_observed" →
        (edit row).status = .running → ∀ other ∈ entry.cases,
          other.name ≠ "restart_observed" → (edit other).status = .pending)
    (armed : run.suite = .hermesE2e → run.status = .running →
      ∀ row ∈ entry.cases, (edit row).status ≠ .pending) :
    Sound ⟨run, entry.cases.map edit⟩ where
  named := by
    intro row member
    obtain ⟨old, isOld, rfl⟩ := List.mem_map.mp member
    rw [names, suite]
    exact sound.named old isOld
  distinct := by
    have same : (entry.cases.map edit).map QaCase.name =
        entry.cases.map QaCase.name := by
      rw [List.map_map]
      exact List.map_congr_left fun row _ => names row
    exact same ▸ sound.distinct
  passed := fun isPassed row member => by
    obtain ⟨old, isOld, rfl⟩ := List.mem_map.mp member
    exact passed isPassed old isOld
  queued := fun isQueued => by
    cases queued isQueued with
    | inl pending =>
        refine .inl fun row member => ?_
        obtain ⟨old, isOld, rfl⟩ := List.mem_map.mp member
        exact pending old isOld
    | inr closed =>
        refine .inr fun row member => ?_
        obtain ⟨old, isOld, rfl⟩ := List.mem_map.mp member
        exact closed old isOld
  observed := fun isPersistence row member named running other isOther => by
    obtain ⟨old, isOld, rfl⟩ := List.mem_map.mp member
    obtain ⟨oldOther, isOldOther, rfl⟩ := List.mem_map.mp isOther
    rw [names] at named ⊢
    exact observed isPersistence old isOld named running oldOther isOldOther
  armed := fun isHermes running row member => by
    obtain ⟨old, isOld, rfl⟩ := List.mem_map.mp member
    exact armed isHermes running old isOld

private theorem Sound.moved {run : QaRun} (sound : Sound entry)
    (suite : run.suite = entry.run.suite)
    (passed : run.status = .passed →
      ∀ row ∈ entry.cases, row.status = .passed)
    (queued : run.status ≠ .queued)
    (armed : run.suite = .hermesE2e → run.status = .running →
      ∀ row ∈ entry.cases, row.status ≠ .pending) :
    Sound ⟨run, entry.cases⟩ where
  named := suite ▸ sound.named
  distinct := sound.distinct
  passed := passed
  queued := fun isQueued => absurd isQueued queued
  observed := fun isPersistence =>
    sound.observed (suite.symm.trans isPersistence)
  armed := armed

@[simp] theorem status_start {run : QaRun}
    (active : run.status.active = true) :
    (run.start now).status = .running := by
  unfold QaRun.start
  rw [dif_pos (run.contract.mp active)]

@[simp] theorem suite_start (run : QaRun) :
    (run.start now).suite = run.suite :=
  (RunEdit.start now).suite run

@[simp] theorem status_finish (run : QaRun) (passed : Bool) :
    (run.finish passed now).status = if passed then .passed else .failed :=
  rfl

@[simp] theorem status_close (run : QaRun) :
    (run.close now).status = .failed :=
  rfl

@[simp] theorem open_closeOpen (errorCode : String) (row : QaCase) :
    (row.closeOpen errorCode now).status.open = false := by
  unfold QaCase.closeOpen
  split
  · rfl
  · rename_i closed
    simpa using closed

@[simp] theorem name_closeOpen (errorCode : String) (row : QaCase) :
    (row.closeOpen errorCode now).name = row.name := by
  unfold QaCase.closeOpen
  split <;> rfl

theorem closeOpen_of_closed {errorCode : String} {row : QaCase}
    (closed : row.status.open = false) : row.closeOpen errorCode now = row := by
  unfold QaCase.closeOpen
  rw [closed]
  rfl

private theorem Sound.closedCases {errorCode : String} {run : QaRun}
    (sound : Sound entry) (suite : run.suite = entry.run.suite)
    (passed : run.status = .passed → entry.run.status = .passed) :
    Sound ⟨run, entry.cases.map (QaCase.closeOpen errorCode now)⟩ := by
  have unopened : ∀ row : QaCase,
      (row.closeOpen errorCode now).status ≠ .pending ∧
        (row.closeOpen errorCode now).status ≠ .running := by
    intro row
    have closed := @open_closeOpen now errorCode row
    constructor <;> intro status <;> rw [status] at closed <;> cases closed
  refine sound.edited suite (name_closeOpen errorCode) ?_ ?_ ?_ ?_
  · intro isPassed row member
    have status := sound.passed (passed isPassed) row member
    rw [closeOpen_of_closed (by rw [status]; rfl)]
    exact status
  · exact fun _ => .inr fun row _ => open_closeOpen errorCode row
  · exact fun _ row _ _ running => absurd running (unopened row).2
  · exact fun _ _ row _ => (unopened row).1

/-- What the request relies on. -/
def Suits (op : QaOp) (entry : QaEntry) : Prop :=
  match op with
  | .startQueuedRun _ => trafficSuite entry.run.suite = true
  | .preparePersistence _ | .resumePersistence _ =>
      entry.run.suite = .persistence
  | .startCase .. | .finishCase .. =>
      trafficSuite entry.run.suite = true ∧ entry.run.status = .running
  | .finishRun _ passed =>
      trafficSuite entry.run.suite = true ∧ Backed passed entry
  | _ => True

private theorem not_hermes {suite : Suite} (traffic : trafficSuite suite = true) :
    suite ≠ .hermesE2e ∧ suite ≠ .persistence := by
  cases suite <;> simp_all [trafficSuite]

private theorem status_arm {evidence : Evidence} {row : QaCase}
    (pending : row.status = .pending) :
    ((CaseEdit.arm evidence now).apply row).status = .running := by
  have unfinished := row.contract.mp (by rw [pending]; rfl)
  change (row.start now).status = .running
  unfold QaCase.start
  rw [dif_pos unfinished]

private theorem name_resumed {verdict : String → Bool}
    {old rows : List QaCase}
    (settled : List.Forall₂ (QaCase.resumed verdict) old rows) :
    rows.map QaCase.name = old.map QaCase.name := by
  induction settled with
  | nil => rfl
  | cons resumed rest induction =>
      rw [List.map_cons, List.map_cons, induction, resumed.2.2.1]

private theorem mem_resumed {verdict : String → Bool} {old rows : List QaCase}
    (settled : List.Forall₂ (QaCase.resumed verdict) old rows) {row : QaCase}
    (member : row ∈ rows) : ∃ before ∈ old, QaCase.resumed verdict before row := by
  induction settled with
  | nil => cases member
  | cons resumed rest induction =>
      cases List.mem_cons.mp member with
      | inl same => exact ⟨_, List.mem_cons_self, same ▸ resumed⟩
      | inr later =>
          obtain ⟨before, isBefore, holds⟩ := induction later
          exact ⟨before, List.mem_cons_of_mem _ isBefore, holds⟩

private theorem status_resumed {verdict : String → Bool} {rows : List QaCase}
    (sound : Sound entry) (ofPersistence : entry.run.suite = .persistence)
    (observed : ∃ row ∈ entry.cases,
      row.name = "restart_observed" ∧ row.status = .running)
    (settled : List.Forall₂ (QaCase.resumed verdict) entry.cases rows) :
    ∀ row ∈ rows, row.status.open = false ∧
      ((entry.cases.all fun row =>
        row.status ≠ .pending || verdict row.name) = true →
        row.status = .passed) := by
  obtain ⟨witness, isWitness, isNamed, running⟩ := observed
  intro row member
  obtain ⟨old, isOld, -, -, -, becomes⟩ := mem_resumed settled member
  by_cases isRestart : old.name = "restart_observed"
  · have same : old = witness :=
      List.inj_on_of_nodup_map sound.distinct isOld isWitness
        (isRestart.trans isNamed.symm)
    rw [same, if_pos ⟨isNamed, running⟩] at becomes
    rw [becomes]
    exact ⟨rfl, fun _ => rfl⟩
  · have pending := sound.observed ofPersistence witness isWitness isNamed
      running old isOld isRestart
    rw [if_neg fun both => isRestart both.1, if_pos pending] at becomes
    rw [becomes]
    constructor
    · split <;> rfl
    · intro all
      have positive := List.all_eq_true.mp all old isOld
      simp only [pending, ne_eq, not_true_eq_false, decide_false,
        Bool.false_or] at positive
      rw [if_pos positive]

theorem Sound.change {buildCommit : String} {traffic : Traffic} {op : QaOp}
    {changed : QaEntry} (sound : Sound entry)
    (change : Change buildCommit traffic op entry changed)
    (suits : Suits op entry) : Sound changed := by
  cases change with
  | @started _ now queued =>
      have running := @status_start now entry.run (by rw [queued]; rfl)
      refine sound.moved (suite_start _) ?_ ?_ ?_
      · intro passed
        rw [running] at passed
        cases passed
      · rw [running]
        decide
      · intro isHermes
        exact absurd ((suite_start _).symm.trans isHermes)
          (not_hermes suits).1
  | @armed _ now evidence ofHermes queued =>
      have running := @status_start now entry.run (by rw [queued]; rfl)
      refine sound.edited (suite_start _) ?_ ?_ ?_ ?_ ?_
      · intro row
        split
        · exact (CaseEdit.arm evidence now).name row
        · rfl
      · intro passed
        rw [running] at passed
        cases passed
      · intro isQueued
        rw [running] at isQueued
        cases isQueued
      · intro isPersistence
        rw [suite_start, ofHermes] at isPersistence
        cases isPersistence
      · intro _ _ row _
        split
        · rename_i pending
          rw [status_arm pending]
          decide
        · assumption
  | @prepared _ now evidence queued observed =>
      have running := @status_start now entry.run (by rw [queued]; rfl)
      have allPending : ∀ row ∈ entry.cases, row.status = .pending := by
        cases sound.queued queued with
        | inl pending => exact pending
        | inr closed =>
            obtain ⟨row, member, -, pending⟩ := observed
            have isClosed := closed row member
            rw [pending] at isClosed
            cases isClosed
      refine sound.edited (suite_start _) ?_ ?_ ?_ ?_ ?_
      · intro row
        split
        · exact (CaseEdit.arm evidence now).name row
        · rfl
      · intro passed
        rw [running] at passed
        cases passed
      · intro isQueued
        rw [running] at isQueued
        cases isQueued
      · intro _ row _ _ _ other isOther notRestart
        rw [if_neg fun both => notRestart both.1]
        exact allPending other isOther
      · intro isHermes
        rw [suite_start, suits] at isHermes
        cases isHermes
  | @caseStarted _ now runId caseId unfinished there =>
      obtain ⟨isTraffic, isRunning⟩ := suits
      refine sound.edited rfl ?_ ?_ ?_ ?_ ?_
      · intro row
        split
        · exact (CaseEdit.start now).name row
        · rfl
      · intro passed
        rw [isRunning] at passed
        cases passed
      · intro isQueued
        rw [isRunning] at isQueued
        cases isQueued
      · exact fun isPersistence =>
          absurd isPersistence (not_hermes isTraffic).2
      · exact fun isHermes => absurd isHermes (not_hermes isTraffic).1
  | caseFinished there =>
      obtain ⟨isTraffic, isRunning⟩ := suits
      refine sound.edited rfl ?_ ?_ ?_ ?_ ?_
      · intro row
        split <;> rfl
      · intro passed
        rw [isRunning] at passed
        cases passed
      · intro isQueued
        rw [isRunning] at isQueued
        cases isQueued
      · exact fun isPersistence =>
          absurd isPersistence (not_hermes isTraffic).2
      · exact fun isHermes => absurd isHermes (not_hermes isTraffic).1
  | @runFinished _ now passed running =>
      obtain ⟨isTraffic, backed⟩ := suits
      refine sound.moved rfl ?_ ?_ ?_
      · intro isPassed row member
        refine (backed row member).2 ?_
        cases passed with
        | true => rfl
        | false => cases isPassed
      · rw [status_finish]
        split <;> decide
      · exact fun isHermes => absurd isHermes (not_hermes isTraffic).1
  | casesClosed => exact sound.closedCases rfl id
  | runClosed active =>
      refine sound.moved rfl ?_ ?_ ?_
      · intro passed
        cases passed
      · rw [status_close]
        decide
      · intro _ running
        cases running
  | failed active =>
      refine sound.closedCases rfl fun passed => ?_
      cases passed
  | interrupted isInterrupted =>
      refine sound.closedCases rfl fun passed => ?_
      cases passed
  | @resumed _ now rows verdict running observed settled =>
      have names := name_resumed settled
      have ends := status_resumed sound suits observed settled
      refine {
        named := fun row member => ?_
        distinct := names ▸ sound.distinct
        passed := fun passed row member => (ends row member).2 ?_
        queued := fun queued => ?_
        observed := fun _ row member _ isRunning => ?_
        armed := fun isHermes => ?_ }
      · have listed : row.name ∈ entry.cases.map QaCase.name :=
          names ▸ List.mem_map_of_mem member
        obtain ⟨old, isOld, same⟩ := List.mem_map.mp listed
        exact same ▸ sound.named old isOld
      · rw [status_finish] at passed
        split at passed
        · assumption
        · cases passed
      · rw [status_finish] at queued
        split at queued <;> cases queued
      · have closed := (ends row member).1
        rw [isRunning] at closed
        cases closed
      · change entry.run.suite = _ at isHermes
        rw [suits] at isHermes
        cases isHermes
  | @completedFailed _ now evidence input requestId ofHermes running failed =>
      refine sound.edited rfl ?_ ?_ ?_ ?_ ?_
      · intro row
        split <;> rfl
      · intro passed
        cases passed
      · intro queued
        cases queued
      · intro isPersistence
        change entry.run.suite = _ at isPersistence
        rw [ofHermes] at isPersistence
        cases isPersistence
      · intro _ isRunning
        cases isRunning
  | @completedPassed _ now startedAt input requestId rows reported secretScan
      correlated database ofHermes started passed expected verified seen
      finished =>
      have all := finished.2 (ofHermes ▸ sound.named) sound.distinct
      refine {
        named := fun row member => ?_
        distinct := finished.1 ▸ sound.distinct
        passed := fun _ => all
        queued := fun queued => by cases queued
        observed := fun isPersistence => ?_
        armed := fun _ running => by cases running }
      · have listed : row.name ∈ entry.cases.map QaCase.name :=
          finished.1 ▸ List.mem_map_of_mem member
        obtain ⟨old, isOld, same⟩ := List.mem_map.mp listed
        exact same ▸ sound.named old isOld
      · change entry.run.suite = _ at isPersistence
        rw [ofHermes] at isPersistence
        cases isPersistence

theorem Change.closed {buildCommit : String} {traffic : Traffic} {op : QaOp}
    {changed : QaEntry} (change : Change buildCommit traffic op entry changed)
    (sound : Sound entry)
    (suits : Suits op entry)
    (careful : ∀ runId, op = .closeRun runId →
      ∀ row ∈ entry.cases, row.status.open = false) : Closed changed := by
  cases change with
  | started queued =>
      intro over_
      rw [status_start (by rw [queued]; rfl)] at over_
      cases over_
  | armed ofHermes queued =>
      intro over_
      rw [status_start (by rw [queued]; rfl)] at over_
      cases over_
  | prepared queued observed =>
      intro over_
      rw [status_start (by rw [queued]; rfl)] at over_
      cases over_
  | caseStarted unfinished there =>
      intro over_
      change entry.run.status.active = false at over_
      rw [suits.2] at over_
      cases over_
  | caseFinished there =>
      intro over_
      change entry.run.status.active = false at over_
      rw [suits.2] at over_
      cases over_
  | runFinished running => exact fun _ row member => (suits.2 row member).1
  | casesClosed =>
      intro _ row member
      obtain ⟨old, -, rfl⟩ := List.mem_map.mp member
      exact open_closeOpen _ old
  | runClosed active => exact fun _ => careful _ rfl
  | failed active =>
      intro _ row member
      obtain ⟨old, -, rfl⟩ := List.mem_map.mp member
      exact open_closeOpen _ old
  | interrupted isInterrupted =>
      intro _ row member
      obtain ⟨old, -, rfl⟩ := List.mem_map.mp member
      exact open_closeOpen _ old
  | resumed running observed settled =>
      exact fun _ row member =>
        (status_resumed sound suits observed settled row member).1
  | completedFailed ofHermes running failed =>
      intro _ row member
      obtain ⟨old, isOld, rfl⟩ := List.mem_map.mp member
      split
      · rfl
      · rename_i notRunning
        have notPending := sound.armed ofHermes running old isOld
        cases status : old.status <;> simp_all [CaseStatus.open]
  | completedPassed ofHermes started passed expected verified seen finished =>
      intro _ row member
      rw [finished.2 (ofHermes ▸ sound.named) sound.distinct row member]
      rfl

end Entries

section Worlds

variable {world : QaWorld} {luck : Luck} {tag : Tag}

theorem serveCloseRun_database (runId : Uuid) :
    (serve (.closeRun runId) luck world).2.database =
      (commit luck (closeRun runId luck.now) world).2.database := by
  change (serveCloseRun runId luck world).2.database = _
  unfold serveCloseRun
  simp only []
  split <;> rfl

theorem halfClosed_serve {op : QaOp} {runId : Uuid}
    (already : runId ∈ world.halfClosed) :
    runId ∈ (serve op luck world).2.halfClosed := by
  by_cases closes : ∃ other, op = .closeRun other
  · obtain ⟨other, rfl⟩ := closes
    change runId ∈ (serveCloseRun other luck world).2.halfClosed
    unfold serveCloseRun
    simp only []
    split
    · exact List.mem_cons_of_mem _ already
    · exact already
  · rw [(serve_effect op luck world).halfClosed fun other same =>
      closes ⟨other, same⟩]
    exact already

private theorem closeRun_careful {runId : Uuid} {entry changed : QaEntry}
    (before : world.database.entry runId = some entry)
    (active : entry.run.status.active = true)
    (after : (serve (.closeRun runId) luck world).2.database.entry runId =
      some changed)
    (ended : changed.run.status.active = false)
    (whole : runId ∉ (serve (.closeRun runId) luck world).2.halfClosed) :
    ∀ row ∈ entry.cases, row.status.open = false := by
  change runId ∉ (serveCloseRun runId luck world).2.halfClosed at whole
  rw [serveCloseRun_database] at after
  obtain ⟨isBefore, casesBefore⟩ := QaDatabase.entry_eq_some.mp before
  have isAfter := (QaDatabase.entry_eq_some.mp after).1
  unfold serveCloseRun at whole
  simp only [QaDatabase.isActive, isBefore, isAfter, Option.map_some,
    Option.getD_some, active, ended, Bool.not_false, Bool.true_and] at whole
  split at whole
  · exact absurd List.mem_cons_self whole
  · rename_i noOpen
    intro row member
    rw [← casesBefore] at member
    simp only [QaDatabase.hasOpenCase, List.any_eq_true, not_exists, not_and,
      Bool.not_eq_true] at noOpen
    exact noOpen row member

theorem entry_of_case {left right : Uuid} {entry other : QaEntry}
    {caseId : Uuid} (isLeft : world.database.entry left = some entry)
    (isRight : world.database.entry right = some other)
    (inLeft : HasCase caseId entry) (inRight : HasCase caseId other) :
    left = right := by
  obtain ⟨row, member, isCase⟩ := inLeft
  obtain ⟨row', member', isCase'⟩ := inRight
  rw [← (QaDatabase.entry_eq_some.mp isLeft).2] at member
  rw [← (QaDatabase.entry_eq_some.mp isRight).2] at member'
  obtain ⟨inTable, ofLeft⟩ := QaDatabase.mem_casesOf.mp member
  obtain ⟨inTable', ofRight⟩ := QaDatabase.mem_casesOf.mp member'
  have same := eq_of_id inTable inTable' (isCase.trans isCase'.symm)
  rw [← ofLeft, same, ofRight]

private theorem suits_of_permitted {op : QaOp} {runId : Uuid}
    {entry changed : QaEntry} {buildCommit : String} {traffic : Traffic}
    (found : world.database.entry runId = some entry)
    (permitted : Permitted tag op world)
    (change : Change buildCommit traffic op entry changed) : Suits op entry := by
  have isRun := QaDatabase.id_of_entry found
  cases change with
  | started queued =>
      obtain ⟨-, other, isOther, suits⟩ := permitted
      rw [isRun, found] at isOther
      cases isOther
      exact suits
  | prepared queued observed =>
      obtain ⟨-, other, isOther, suits⟩ := permitted
      rw [isRun, found] at isOther
      cases isOther
      exact suits
  | caseStarted unfinished there =>
      obtain ⟨-, other, isOther, isTraffic, running, has⟩ := permitted
      have same := entry_of_case found isOther there has
      subst same
      rw [found] at isOther
      cases isOther
      exact ⟨isTraffic, running⟩
  | caseFinished there =>
      obtain ⟨-, other, isOther, isTraffic, running, has⟩ := permitted
      have same := entry_of_case found isOther there has
      subst same
      rw [found] at isOther
      cases isOther
      exact ⟨isTraffic, running⟩
  | runFinished running =>
      obtain ⟨-, other, isOther, isTraffic, -, backed⟩ := permitted
      rw [isRun, found] at isOther
      cases isOther
      exact ⟨isTraffic, backed⟩
  | resumed running observed settled =>
      obtain ⟨-, other, isOther, suits⟩ := permitted
      rw [isRun, found] at isOther
      cases isOther
      exact suits
  | _ => trivial

theorem Valid.serve {op : QaOp} (valid : Valid world)
    (permitted : Permitted tag op world) :
    Valid (serve op luck world).2 := by
  have effect := serve_effect op luck world
  have each : ∀ runId changed,
      (Qa.serve op luck world).2.database.entry runId = some changed →
        Sound changed ∧ (runId ∉ (Qa.serve op luck world).2.halfClosed →
          Closed changed) := by
    intro runId changed found
    have unchanged : (Qa.serve op luck world).2.database.entry runId =
        world.database.entry runId → Sound changed ∧
          (runId ∉ (Qa.serve op luck world).2.halfClosed →
            Closed changed) := by
      intro same
      rw [same] at found
      exact ⟨valid.sound runId changed found, fun whole =>
        valid.closed runId changed found fun already =>
          whole (halfClosed_serve already)⟩
    cases effect.changes with
    | inl changes =>
        cases changes runId with
        | inl same => exact unchanged same
        | inr change =>
            obtain ⟨entry, after, before, isAfter, change⟩ := change
            rw [isAfter] at found
            cases found
            have sound := valid.sound runId entry before
            have suits := suits_of_permitted before permitted change
            refine ⟨sound.change change suits, fun whole =>
              change.closed sound suits ?_⟩
            intro other same
            subst same
            cases change with
            | runClosed active =>
                have isRun := QaDatabase.id_of_entry before
                rw [isRun] at isAfter whole
                exact closeRun_careful before active isAfter rfl whole
    | inr created =>
        obtain ⟨newId, suite, live, identity, requestId, isCreate, created⟩ :=
          created
        by_cases same : runId = newId
        · subst same
          obtain ⟨entry, isEntry, queued, names, pending⟩ :=
            created.entry valid.linked
          rw [isEntry] at found
          cases found
          refine ⟨?_, fun _ over_ => ?_⟩
          · refine {
              named := fun row member =>
                names ▸ List.mem_map_of_mem member
              distinct := names ▸ Suite.cases_nodup _
              passed := fun passed => ?_
              queued := fun _ => .inl pending
              observed := fun _ row member _ running => ?_
              armed := fun _ running => ?_ }
            · rw [queued] at passed
              cases passed
            · rw [pending row member] at running
              cases running
            · rw [queued] at running
              cases running
          · rw [queued] at over_
            cases over_
        · exact unchanged (created.others same)
  exact ⟨effect.linked valid.linked, fun runId entry found =>
    (each runId entry found).1, fun runId entry found =>
      (each runId entry found).2⟩

end Worlds

end NvidiaBuildLb.Qa
