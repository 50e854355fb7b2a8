import NvidiaBuildLb.Qa.Interference

namespace NvidiaBuildLb.Qa

open Foundation NvidiaBuildLb.Core Gateway Transaction Routine

/-! Each program, proved alone among the others. -/

abbrev Does {α : Type} (tag : Tag) (pre : QaWorld → Prop)
    (routine : QaRoutine α) (post : α → QaWorld → Prop) : Prop :=
  Meets (claims.contract gateway tag) (fun _ => pre) routine
    (fun value _ => post value) (fun _ _ => True)

section Requests

variable {tag : Tag} {op : QaOp} {pre : QaWorld → Prop}

theorem does_response (post : op.Answer → QaWorld → Prop)
    (permitted : ∀ world, pre world → Permitted tag op world)
    (stable : ∀ {world after}, Others tag world after → pre world → pre after)
    (served : ∀ luck world, Valid world → pre world →
      post (serve op luck world).1 (serve op luck world).2) :
    Does tag pre (response op) post := by
  intro held world before
  refine wp_ask.mpr ⟨permitted world before, fun _ _ => trivial, ?_⟩
  intro answer after answers
  obtain ⟨between, moved, ⟨valid, -⟩, luck, same⟩ := answers
  have holds := served luck between valid (stable moved before)
  rw [same] at holds
  exact holds

theorem does_call {post : op.Value → QaWorld → Prop}
    (permitted : ∀ world, pre world → Permitted tag op world)
    (stable : ∀ {world after}, Others tag world after → pre world → pre after)
    (served : ∀ luck world value, Valid world → pre world →
      (serve op luck world).1 = .ok value →
        post value (serve op luck world).2) :
    Does tag pre (call op) post := by
  refine Meets.bind (does_response
    (fun answer world => ∀ value, answer = .ok value → post value world)
    permitted stable
    fun luck world valid before value => served luck world value valid before) ?_
  intro answer held world holds
  cases answer with
  | ok value => exact holds value rfl
  | error error => exact trivial

theorem does_keep
    (permitted : ∀ world, pre world → Permitted tag op world)
    (stable : ∀ {world after}, Others tag world after → pre world → pre after)
    (keeps : ∀ luck world, pre world → pre (serve op luck world).2) :
    Does tag pre (call op) fun _ => pre :=
  does_call permitted stable fun luck world _ _ before _ =>
    keeps luck world before

theorem does_anyway
    (permitted : ∀ world, pre world → Permitted tag op world)
    (stable : ∀ {world after}, Others tag world after → pre world → pre after) :
    Does tag pre (call op) fun _ _ => True :=
  does_call permitted stable fun _ _ _ _ _ _ => trivial

theorem does_ignore (permitted : ∀ world, Permitted tag op world) :
    Does tag (fun _ => True) (ignore op) fun _ _ => True :=
  Meets.bind (does_response (fun _ _ => True) (fun world _ => permitted world)
    (fun _ holds => holds) fun _ _ _ _ => trivial) fun _ _ _ _ => trivial

theorem does_attempt {α : Type} {routine : QaRoutine α}
    (holds : Does tag pre routine fun _ _ => True) :
    Does tag pre (Routine.attempt routine : QaRoutine (Except String α))
      fun _ _ => True :=
  (Meets.attempt holds).consequence (fun _ _ holds => holds)
    (fun _ _ _ _ => trivial) fun _ _ holds => holds

theorem does_bail {α : Type} {error : String} {post : α → QaWorld → Prop} :
    Does tag pre (bail error) post :=
  fun _ _ _ => trivial

end Requests

theorem AtWork.mono {runId : Uuid} {knows knows' : QaEntry → Prop}
    {world : QaWorld} (atWork : AtWork runId knows world)
    (weaker : ∀ entry, knows entry → knows' entry) :
    AtWork runId knows' world := by
  obtain ⟨entry, found, isTraffic, running, holds⟩ := atWork
  exact ⟨entry, found, isTraffic, running, weaker entry holds⟩

/-- What is still to run is there, and the rest has its verdict. -/
structure Progress (items : List (Uuid × String)) (failed : Bool)
    (entry : QaEntry) : Prop where
  there : ∀ item ∈ items, HasCase item.1 entry
  ended : ∀ row ∈ entry.cases, row.id ∈ items.map Prod.fst ∨
    row.status.open = false ∧ (failed = false → row.status = .passed)

structure Turn (caseId : Uuid) (items : List (Uuid × String)) (failed : Bool)
    (entry : QaEntry) : Prop where
  progress : Progress items failed entry
  running : ∀ row ∈ entry.cases, row.id = caseId → row.status = .running

section Cases

variable {entry : QaEntry} {now : Micros} {caseId : Uuid} {name : String}
  {rest : List (Uuid × String)} {failed : Bool}

private theorem hasCase_edited {edit : QaCase → QaCase} {wanted : Uuid}
    (keeps : ∀ row, (edit row).id = row.id) (has : HasCase wanted entry) :
    HasCase wanted { entry with cases := entry.cases.map edit } := by
  obtain ⟨row, member, isCase⟩ := has
  exact ⟨edit row, List.mem_map_of_mem member, (keeps row).trans isCase⟩

private theorem Progress.started
    (progress : Progress ((caseId, name) :: rest) failed entry)
    (unfinished : ∀ row ∈ entry.cases, row.id = caseId →
      row.finishedAt = none) :
    Turn caseId ((caseId, name) :: rest) failed { entry with
      cases := entry.cases.map fun row =>
        if row.id = caseId then row.start now else row } := by
  have keeps : ∀ row : QaCase,
      (if row.id = caseId then row.start now else row).id = row.id := by
    intro row
    split
    · exact (CaseEdit.start now).id row
    · rfl
  refine ⟨⟨fun item member => hasCase_edited keeps (progress.there item member),
    ?_⟩, ?_⟩
  · intro row member
    obtain ⟨old, isOld, rfl⟩ := List.mem_map.mp member
    by_cases isCase : old.id = caseId
    · refine .inl ?_
      rw [keeps, isCase]
      exact List.mem_cons_self
    · rw [if_neg isCase]
      exact progress.ended old isOld
  · intro row member isCase
    obtain ⟨old, isOld, rfl⟩ := List.mem_map.mp member
    rw [keeps] at isCase
    rw [if_pos isCase]
    unfold QaCase.start
    rw [dif_pos (unfinished old isOld isCase)]

private theorem Turn.finished {passed : Bool} {evidence : Evidence}
    (turn : Turn caseId ((caseId, name) :: rest) failed entry) :
    Progress rest (failed || !passed) { entry with
      cases := entry.cases.map fun row =>
        if row.id = caseId ∧ row.status = .running then
          row.finish passed evidence now
        else row } := by
  have keeps : ∀ row : QaCase,
      (if row.id = caseId ∧ row.status = .running then
        row.finish passed evidence now else row).id = row.id := by
    intro row
    split <;> rfl
  constructor
  · intro item member
    exact hasCase_edited keeps
      (turn.progress.there item (List.mem_cons_of_mem _ member))
  · intro row member
    obtain ⟨old, isOld, rfl⟩ := List.mem_map.mp member
    rw [keeps]
    by_cases isCase : old.id = caseId
    · rw [if_pos ⟨isCase, turn.running old isOld isCase⟩]
      refine .inr ⟨by cases passed <;> rfl, fun good => ?_⟩
      cases passed with
      | true => rfl
      | false => simp at good
    · rw [if_neg fun both => isCase both.1]
      cases turn.progress.ended old isOld with
      | inl listed =>
          cases List.mem_cons.mp listed with
          | inl same => exact absurd same isCase
          | inr later => exact .inl later
      | inr done =>
          refine .inr ⟨done.1, fun good => done.2 ?_⟩
          exact (Bool.or_eq_false_iff.mp good).1

private theorem Progress.backed (progress : Progress [] failed entry) :
    Backed (!failed) entry := by
  intro row member
  cases progress.ended row member with
  | inl listed => cases listed
  | inr done => exact ⟨done.1, fun good => done.2 (by simpa using good)⟩

end Cases

section Runner

variable {tag : Tag} {runId : Uuid} {world : QaWorld} {luck : Luck}

private theorem ofSuite_loaded {value : Suite × Bool × ProviderIdentity}
    (answered : (serve (.loadRunMode runId) luck world).1 = .ok value) :
    OfSuite (· = value.1) runId (serve (.loadRunMode runId) luck world).2 := by
  obtain ⟨found, same⟩ :=
    (commit_cases ensures_selectOne luck).2.2.2 value answered
  obtain ⟨run, isRun, mode⟩ := Option.bind_eq_some_iff.mp found
  split at mode
  · cases mode
    change ∃ entry, (commit luck (loadRunMode runId) world).2.database.entry
      runId = some entry ∧ _
    unfold loadRunMode
    rw [same]
    exact ⟨_, QaDatabase.entry_of_find isRun, rfl⟩
  · cases mode

private theorem atWork_started {value : PUnit}
    (suits : OfSuite (fun suite => trafficSuite suite = true) runId world)
    (answered : (serve (.startQueuedRun runId) luck world).1 = .ok value) :
    AtWork runId (fun _ => True)
      (serve (.startQueuedRun runId) luck world).2 := by
  obtain ⟨one, same⟩ :=
    (commit_cases ensures_startQueuedRun luck).2.2.2 value answered
  obtain ⟨entry, found, isTraffic⟩ := suits
  obtain ⟨run, isRun, chosen⟩ := (Table.count_eq_one_iff fun run chosen => by
    simp only [Bool.and_eq_true, decide_eq_true_eq] at chosen
    exact chosen.1).mp one
  have sameRun : entry.run = run := Option.some.inj
    ((QaDatabase.entry_eq_some.mp found).1.symm.trans isRun)
  refine ⟨{ entry with run := entry.run.start luck.now }, ?_, ?_, ?_, trivial⟩
  · change (commit luck (startQueuedRun runId luck.now) world).2.database.entry
      runId = _
    rw [same, QaDatabase.entry_updateRuns, found, Option.map_some, sameRun,
      if_pos chosen]
    rfl
  · exact (suite_start entry.run).symm ▸ isTraffic
  · refine status_start ?_
    simp only [Bool.and_eq_true, decide_eq_true_eq] at chosen
    rw [sameRun, chosen.2]
    rfl

private theorem atWork_loaded {failed : Bool} {items : List (Uuid × String)}
    (atWork : AtWork runId (fun _ => True) world)
    (answered : (serve (.loadCases runId) luck world).1 = .ok items) :
    AtWork runId (Progress items failed)
      (serve (.loadCases runId) luck world).2 := by
  obtain ⟨isItems, same⟩ :=
    (commit_cases ensures_select luck).2.2.2 items answered
  obtain ⟨entry, found, isTraffic, running, -⟩ := atWork
  have isCases := (QaDatabase.entry_eq_some.mp found).2
  refine ⟨entry, ?_, isTraffic, running, ⟨fun item member => ?_, fun row member =>
    .inl ?_⟩⟩
  · change (commit luck (loadCases runId) world).2.database.entry runId = _
    unfold loadCases
    rw [same]
    exact found
  · rw [isItems, isCases] at member
    obtain ⟨row, isRow, rfl⟩ := List.mem_map.mp member
    exact ⟨row, isRow, rfl⟩
  · rw [isItems, isCases, List.map_map]
    exact List.mem_map_of_mem member

private theorem atWork_caseStarted {caseId : Uuid} {name : String}
    {rest : List (Uuid × String)} {failed : Bool} {value : PUnit}
    (atWork : AtWork runId (Progress ((caseId, name) :: rest) failed) world)
    (answered : (serve (.startCase runId caseId) luck world).1 = .ok value) :
    AtWork runId (Turn caseId ((caseId, name) :: rest) failed)
      (serve (.startCase runId caseId) luck world).2 := by
  obtain ⟨unfinished, same⟩ :=
    (commit_cases ensures_startCase luck).2.2.2 value answered
  obtain ⟨entry, found, isTraffic, running, progress⟩ := atWork
  have turned := @Progress.started _ luck.now _ _ _ _ progress
    fun row member isCase => by
      rw [← (QaDatabase.entry_eq_some.mp found).2] at member
      exact unfinished row (QaDatabase.mem_casesOf.mp member).1 isCase
  refine ⟨_, ?_, ?_, ?_, turned⟩
  · change (commit luck (startCase caseId luck.now) world).2.database.entry
      runId = _
    rw [same, QaDatabase.entry_updateCases, found, Option.map_some]
    simp only [decide_eq_true_eq]
    rfl
  · exact isTraffic
  · exact running

private theorem atWork_caseFinished {caseId : Uuid} {name : String}
    {rest : List (Uuid × String)} {failed passed : Bool} {evidence : Evidence}
    {value : PUnit}
    (atWork : AtWork runId (Turn caseId ((caseId, name) :: rest) failed) world)
    (answered : (serve (.finishCase runId caseId passed evidence) luck
      world).1 = .ok value) :
    AtWork runId (Progress rest (failed || !passed))
      (serve (.finishCase runId caseId passed evidence) luck world).2 := by
  have same := (commit_cases ensures_finishCase luck).2.2.2 value answered
  obtain ⟨entry, found, isTraffic, running, turn⟩ := atWork
  have ended := @Turn.finished _ luck.now _ _ _ _ passed evidence turn
  refine ⟨_, ?_, ?_, ?_, ended⟩
  · change (commit luck (finishCase caseId passed evidence
      luck.now) world).2.database.entry runId = _
    rw [same, QaDatabase.entry_updateCases, found, Option.map_some]
    simp only [Bool.and_eq_true, decide_eq_true_eq]
    rfl
  · exact isTraffic
  · exact running

private theorem does_executeCase (duty : tag.duty = .creation runId)
    (error : Option String) (caseId : Uuid) (name : String)
    (rest : List (Uuid × String)) (failed : Bool) :
    Does tag (AtWork runId (Progress ((caseId, name) :: rest) failed))
      (executeCase runId error caseId name failed)
      fun failed => AtWork runId (Progress rest failed) := by
  have there : ∀ {turn : QaEntry → Prop},
      (∀ entry, turn entry → HasCase caseId entry) → ∀ world,
        AtWork runId turn world →
          tag.duty = .creation runId ∧ AtWork runId (HasCase caseId) world :=
    fun has _ atWork => ⟨duty, atWork.mono has⟩
  refine Meets.bind (does_call
    (there fun _ progress => progress.there _ List.mem_cons_self)
    (fun others atWork => others.atWork duty atWork)
    fun _ _ _ _ atWork answered => atWork_caseStarted atWork answered) ?_
  intro _
  refine Meets.bind (does_response
    (fun _ => AtWork runId (Turn caseId ((caseId, name) :: rest) failed))
    (fun _ _ => trivial) (fun others atWork => others.atWork duty atWork)
    fun _ _ _ atWork => atWork) ?_
  intro result
  cases result with
  | ok found =>
      refine Meets.bind (does_call
        (there fun _ turn => turn.progress.there _ List.mem_cons_self)
        (fun others atWork => others.atWork duty atWork)
        fun _ _ _ _ atWork answered =>
          atWork_caseFinished atWork answered) fun _ => ?_
      exact fun _ _ holds => holds
  | error reason =>
      refine Meets.bind (does_call
        (there fun _ turn => turn.progress.there _ List.mem_cons_self)
        (fun others atWork => others.atWork duty atWork)
        fun _ _ _ _ atWork answered =>
          atWork_caseFinished atWork answered) fun _ => ?_
      exact fun _ _ holds => holds

private theorem does_executeCases (duty : tag.duty = .creation runId)
    (error : Option String) (items : List (Uuid × String)) (failed : Bool) :
    Does tag (AtWork runId (Progress items failed))
      (executeCases runId error items failed)
      fun failed => AtWork runId (Progress [] failed) := by
  induction items generalizing failed with
  | nil => exact fun _ _ holds => holds
  | cons item rest induction =>
      obtain ⟨caseId, name⟩ := item
      refine Meets.bind (does_executeCase duty error caseId name rest failed) ?_
      exact fun failed => induction failed

private theorem does_trafficError (duty : tag.duty = .creation runId)
    (suite : Suite) (live mockProvider : Bool) :
    Does tag (AtWork runId fun _ => True)
      (trafficError runId suite live mockProvider)
      fun _ => AtWork runId fun _ => True := by
  unfold trafficError
  split
  · refine Meets.bind (does_response (fun _ => AtWork runId fun _ => True)
      (fun _ _ => trivial) (fun others atWork => others.atWork duty atWork)
      fun _ _ _ atWork => atWork) fun result => ?_
    cases result <;> exact fun _ _ holds => holds
  · split <;> exact fun _ _ holds => holds

private theorem does_executeTraffic (duty : tag.duty = .creation runId)
    (suite : Suite) (live mockProvider : Bool) :
    Does tag (OfSuite (fun suite => trafficSuite suite = true) runId)
      (executeTraffic runId suite live mockProvider) fun _ _ => True := by
  refine Meets.bind (does_call (fun _ suits => ⟨duty, suits⟩)
    (fun others suits => others.ofSuite suits)
    fun _ _ _ _ suits answered => atWork_started suits answered) fun _ => ?_
  refine Meets.bind (does_trafficError duty suite live mockProvider) ?_
  intro error
  refine Meets.bind (does_call (fun _ _ => trivial)
    (fun others atWork => others.atWork duty atWork)
    fun _ _ _ _ atWork answered =>
      @atWork_loaded _ _ _ error.isSome _ atWork answered) fun items => ?_
  refine Meets.bind (does_executeCases duty error items error.isSome) ?_
  intro failed
  exact does_anyway
    (fun _ atWork => ⟨duty, atWork.mono fun _ progress => progress.backed⟩)
    fun others atWork => others.atWork duty atWork

private theorem does_execute (duty : tag.duty = .creation runId) :
    Does tag (fun _ => True) (execute runId) fun _ _ => True := by
  refine Meets.bind (does_call (fun _ _ => trivial) (fun _ holds => holds)
    fun _ _ _ _ _ answered => ofSuite_loaded answered) ?_
  intro mode
  obtain ⟨suite, live, providerIdentity⟩ := mode
  refine Meets.bind (does_keep (fun _ _ => trivial)
    (fun others suits => others.ofSuite suits) fun _ _ suits => suits) ?_
  intro settings
  split
  · exact does_bail
  · split
    · exact does_bail
    · split
      · rename_i ofPersistence
        subst ofPersistence
        exact Meets.bind (does_anyway (fun _ suits => ⟨duty, suits⟩)
          fun others suits => others.ofSuite suits) fun _ _ _ _ => trivial
      · rename_i notPersistence
        split
        · split
          · exact does_bail
          · exact Meets.bind (does_anyway (fun _ _ => duty)
              fun others suits => others.ofSuite suits) fun _ _ _ _ => trivial
        · rename_i notHermes
          refine Meets.bind (Meets.strengthen
            (does_executeTraffic duty suite live settings.mockProvider) ?_)
            fun _ _ _ _ => trivial
          intro _ world suits
          obtain ⟨entry, found, ofSuite⟩ := suits
          refine ⟨entry, found, ?_⟩
          rw [ofSuite]
          cases suite with
          | persistence => exact absurd rfl notPersistence
          | hermesE2e => exact absurd rfl notHermes
          | _ => rfl

private theorem does_spawn (duty : tag.duty = .creation runId) :
    Does tag (fun _ => True) (spawn runId) fun _ _ => True := by
  refine Meets.bind (does_attempt (does_execute duty)) ?_
  intro ended
  cases ended with
  | ok timer =>
      cases timer with
      | none => exact fun _ _ _ => trivial
      | some timer =>
          refine Meets.bind (does_anyway (fun _ _ => trivial) fun _ holds => holds) fun _ => ?_
          exact does_ignore fun _ => .inr duty
  | error error =>
      refine Meets.bind (does_ignore fun _ => duty) fun _ => ?_
      exact does_ignore fun _ => duty

theorem does_createQaRunRequest (duty : tag.duty = .creation runId)
    (input : QaRunInput) (requestId : Uuid) :
    Does tag (fun _ => True) (createQaRunRequest runId input requestId)
      fun _ _ => True := by
  refine Meets.bind (does_anyway (fun _ _ => trivial) fun _ holds => holds) fun settings => ?_
  split
  · exact does_bail
  · split
    · exact does_bail
    · split
      · exact does_bail
      · split
        · exact does_bail
        · refine Meets.bind (does_anyway (fun _ _ => duty) fun _ holds => holds) fun _ => ?_
          refine Meets.bind (does_anyway (fun _ _ => trivial) fun _ holds => holds) fun found => ?_
          cases found with
          | none => exact does_bail
          | some run => exact does_spawn duty

theorem does_completeHermesQaRun (input : HermesCompletion)
    (requestId : Uuid) :
    Does tag (fun _ => True) (completeHermesQaRun runId input requestId)
      fun _ _ => True := by
  refine Meets.bind (does_anyway (fun _ _ => trivial) fun _ holds => holds) fun _ => ?_
  refine Meets.bind (does_anyway (fun _ _ => trivial) fun _ holds => holds) fun found => ?_
  cases found with
  | none => exact does_bail
  | some run => exact fun _ _ _ => trivial

private theorem quiet_served {op : QaOp} (other : op ≠ .listen)
    (quiet : Quiet tag world) : Quiet tag (serve op luck world).2 := by
  refine ⟨quiet.1, ?_⟩
  cases (serve_effect op luck world).process with
  | inl same => rw [same, quiet.2]
  | inr listens => exact absurd listens.1 other

private theorem ofSuite_served {op : QaOp} {suites : Suite → Prop}
    (suits : OfSuite suites runId world) :
    OfSuite suites runId (serve op luck world).2 := by
  obtain ⟨entry, found, holds⟩ := suits
  obtain ⟨later, isLater, same⟩ := @persists_serve op luck _ _ _ found
  exact ⟨later, isLater, same ▸ holds⟩

/-- What recovery knows of the runs it has listed and not yet resumed. -/
private def Listed (tag : Tag) (runs : List Uuid) (world : QaWorld) : Prop :=
  Quiet tag world ∧ ∀ runId ∈ runs, OfSuite (· = .persistence) runId world

private theorem Others.listed {after : QaWorld} {runs : List Uuid}
    (others : Others tag world after) (listed : Listed tag runs world) :
    Listed tag runs after :=
  ⟨others.quiet listed.1, fun runId member =>
    others.ofSuite (listed.2 runId member)⟩

private theorem listed_served {op : QaOp} {runs : List Uuid}
    (other : op ≠ .listen) (listed : Listed tag runs world) :
    Listed tag runs (serve op luck world).2 :=
  ⟨quiet_served other listed.1, fun runId member =>
    ofSuite_served (listed.2 runId member)⟩

private theorem listed_interrupted {runs : List Uuid} (quiet : Quiet tag world)
    (answered : (serve .interruptedPersistenceRuns luck world).1 = .ok runs) :
    Listed tag runs (serve .interruptedPersistenceRuns luck world).2 := by
  refine ⟨quiet_served (by simp) quiet, fun runId member => ?_⟩
  obtain ⟨isRuns, same⟩ :=
    (commit_cases ensures_select luck).2.2.2 runs answered
  rw [isRuns] at member
  obtain ⟨run, isRun, rfl⟩ := List.mem_map.mp member
  simp only [List.mem_filter, Bool.and_eq_true, decide_eq_true_eq] at isRun
  refine ofSuite_served ⟨_, QaDatabase.entry_of_find ?_, isRun.2.2⟩
  exact Table.find?_eq_some_iff.mpr ⟨isRun.1, rfl⟩

private theorem does_resumeRuns (runs : List Uuid) :
    Does tag (Listed tag runs)
      (Routine.each runs fun runId => do
        match ← response (.resumePersistence runId) with
        | .ok _ => Pure.pure ()
        | .error _ => call (.failRunningRun runId "persistence_resume_failed"))
      fun _ => Listed tag [] := by
  refine Meets.each (fun runs _ => Listed tag runs) ?_ runs
  intro runId rest
  refine Meets.bind (does_response (fun _ => Listed tag rest)
    (fun _ listed => ⟨listed.1, listed.2 runId List.mem_cons_self⟩)
    (fun others listed => others.listed listed)
    fun _ _ _ listed => listed_served (by simp) ⟨listed.1, fun other member =>
      listed.2 other (List.mem_cons_of_mem _ member)⟩) ?_
  intro resumed
  cases resumed with
  | ok value => exact fun _ _ listed => listed
  | error error =>
      exact does_keep (fun _ listed => .inl listed.1)
        (fun others listed => others.listed listed)
        fun _ _ listed => listed_served (by simp) listed

private theorem does_recoverInterruptedRuns :
    Does tag (Quiet tag) recoverInterruptedRuns fun _ => Quiet tag := by
  refine Meets.bind (does_keep (fun _ quiet => quiet)
    (fun others quiet => others.quiet quiet)
    fun _ _ quiet => quiet_served (by simp) quiet) fun _ => ?_
  refine Meets.bind (does_call (fun _ quiet => quiet)
    (fun others quiet => others.quiet quiet)
    fun _ _ _ _ quiet answered => listed_interrupted quiet answered) ?_
  intro runs
  exact (does_resumeRuns runs).consequence (fun _ _ listed => listed)
    (fun _ _ _ listed => listed.1) fun _ _ holds => holds

theorem does_start : Does tag (Quiet tag) start fun _ _ => True :=
  Meets.bind does_recoverInterruptedRuns fun _ =>
    does_anyway (fun _ quiet => quiet) fun others quiet => others.quiet quiet

end Runner

end NvidiaBuildLb.Qa
