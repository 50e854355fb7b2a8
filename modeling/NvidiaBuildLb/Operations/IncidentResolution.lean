import NvidiaBuildLb.Operations.IncidentAnswers

namespace NvidiaBuildLb.Operations

open Foundation NvidiaBuildLb.Core Gateway Transaction

/-! The time of resolution over whole histories of an incident. -/

inductive IncidentStep where
  | create (input : CreateIncident) (draws : Draws)
      (surroundings : Surroundings)
  | change (call : IncidentCall)

namespace IncidentStep

def next (step : IncidentStep) (database : IncidentDatabase) :
    IncidentDatabase :=
  match step with
  | .create input draws surroundings =>
      (createIncident input draws surroundings database).2
  | .change call => (call.run database).2

/-- The clock that the operation reads for the time of a resolution. -/
def time : IncidentStep → Micros
  | .create _ draws _ => micros draws.utcNow
  | .change call =>
      match call.mutation with
      | .update _ => call.draws.transactionNow
      | .message _ _ => micros call.draws.utcNow

end IncidentStep

def statusOf (id : Uuid) (database : IncidentDatabase) :
    Option IncidentStatus :=
  (database.incidents.find? id).map fun row => row.status

/-- The step took the incident from not resolved to resolved, or created it
resolved. -/
def Resolves (id : Uuid) (before after : IncidentDatabase) : Prop :=
  statusOf id before ≠ some .resolved ∧ statusOf id after = some .resolved

instance (incident : Uuid) (before after : IncidentDatabase) :
    Decidable (Resolves incident before after) :=
  inferInstanceAs (Decidable (_ ∧ _))

def finalDatabase (start : IncidentDatabase) (steps : List IncidentStep) :
    IncidentDatabase :=
  steps.foldl (fun database step => step.next database) start

def lastResolution (id : Uuid) (start : IncidentDatabase) :
    List IncidentStep → Option Micros
  | [] => none
  | step :: rest =>
      (lastResolution id (step.next start) rest).or
        (if Resolves id start (step.next start) then some step.time else none)

def TracksResolution (id : Uuid) (start : IncidentDatabase)
    (steps : List IncidentStep) : Prop :=
  ∀ row, (finalDatabase start steps).incidents.find? id = some row →
    (row.resolvedAt = none ↔ row.status ≠ .resolved) ∧
      (row.status = .resolved →
        row.resolvedAt = lastResolution id start steps)

/-- A message that says resolved once more, at another time than the one the
incident has. -/
def Restamps (id : Uuid) (database : IncidentDatabase) (step : IncidentStep) :
    Prop :=
  ∃ call message row, step = .change call ∧ call.id = id ∧
    call.mutation = .message "resolved" message ∧
    call.unhindered = true ∧ (call.applied database).isSome = true ∧
    database.incidents.find? id = some row ∧ row.status = .resolved ∧
    row.resolvedAt ≠ some (micros call.draws.utcNow)

@[simp] theorem finalDatabase_snoc (start : IncidentDatabase)
    (steps : List IncidentStep) (step : IncidentStep) :
    finalDatabase start (steps ++ [step]) =
      step.next (finalDatabase start steps) := by
  simp [finalDatabase]

theorem lastResolution_snoc (id : Uuid) (start : IncidentDatabase)
    (steps : List IncidentStep) (step : IncidentStep) :
    lastResolution id start (steps ++ [step]) =
      (if Resolves id (finalDatabase start steps)
          (finalDatabase start (steps ++ [step])) then
        some step.time
      else
        none).or (lastResolution id start steps) := by
  induction steps generalizing start with
  | nil =>
      simp only [List.nil_append, lastResolution, Option.none_or,
        Option.or_none]
      rfl
  | cons head rest induction =>
      simp only [List.cons_append, lastResolution, induction]
      rw [Option.or_assoc]
      rfl

/-- What one step can do to the incident under an identifier. -/
inductive IncidentChange (id : Uuid) (database : IncidentDatabase) :
    IncidentStep → Prop
  | unchanged
      (same : (step.next database).incidents.find? id =
        database.incidents.find? id) :
      IncidentChange id database step
  | created (row : IncidentRow)
      (fresh : database.incidents.find? id = none)
      (fields : input.fields draws = some row.toIncidentFields)
      (after : ((IncidentStep.create input draws surroundings).next
        database).incidents.find? id = some row) :
      IncidentChange id database (.create input draws surroundings)
  | changed (before row : IncidentRow)
      (target : call.id = id)
      (goesThrough : call.unhindered = true ∧
        (call.applied database).isSome = true)
      (found : database.incidents.find? id = some before)
      (fields : call.edit before = some row.toIncidentFields)
      (after : ((IncidentStep.change call).next database).incidents.find? id =
        some row) :
      IncidentChange id database (.change call)

private theorem change_of_call (call : IncidentCall) (id : Uuid)
    (database : IncidentDatabase) :
    IncidentChange id database (.change call) := by
  by_cases goesThrough : ∃ changed, call.unhindered = true ∧
      call.applied database = some changed
  · obtain ⟨changed, free, applied⟩ := goesThrough
    have left : (IncidentStep.change call).next database = changed :=
      (IncidentCall.run_of_applied free applied).1
    obtain ⟨-, ⟨before, row, found, edited, after⟩, others⟩ :=
      IncidentCall.applied_eq_some applied
    by_cases target : call.id = id
    · subst target
      refine .changed before row rfl ⟨free, ?_⟩ found edited ?_
      · rw [applied]
        rfl
      · rw [left]
        exact after
    · apply IncidentChange.unchanged
      rw [left]
      exact others id (Ne.symm target)
  · have kept : ∀ changed, call.unhindered = true →
        call.applied database ≠ some changed :=
      fun changed free applied => goesThrough ⟨changed, free, applied⟩
    obtain ⟨error, ran⟩ := IncidentCall.run_of_not_applied kept
    apply IncidentChange.unchanged
    simp only [IncidentStep.next, ran]

private theorem change_of_create (input : CreateIncident) (draws : Draws)
    (surroundings : Surroundings) (id : Uuid) (database : IncidentDatabase) :
    IncidentChange id database (.create input draws surroundings) := by
  have stays : (IncidentStep.create input draws surroundings).next database =
        database ∨
      ∃ audit after, (createIncidentBody input draws).transact
          surroundings.refuses database = (.ok audit, after) ∧
        (IncidentStep.create input draws surroundings).next database =
          after := by
    simp only [IncidentStep.next, createIncident, mutate]
    split
    · exact .inl rfl
    · split
      · rename_i error unchanged ran
        have back := transact_error (congrArg Prod.fst ran)
        rw [ran] at back
        exact .inl back
      · rename_i audit after ran
        split
        · exact .inl rfl
        · exact .inr ⟨audit, after, ran, rfl⟩
        · exact .inr ⟨audit, after, ran, rfl⟩
  rcases stays with same | ⟨audit, after, ran, left⟩
  · exact .unchanged (congrArg
      (fun rows : IncidentDatabase => rows.incidents.find? id) same)
  · simp only [createIncidentBody, insertIncident, insertIncidentUpdate,
      insertIncidentAudit, transact_eq_ok, bind_eq_ok, execute_eq_ok,
      Option.bind_eq_bind, Option.bind_eq_some_iff] at ran
    obtain ⟨session, ⟨incident, between, ⟨-, rows, ⟨row, ⟨fields, made, checked⟩,
      inserted⟩, rfl⟩, done, between', ⟨-, rows', ⟨update, -, updates, -,
      isRows'⟩, rfl⟩, -, rows'', isRows'', rfl⟩, rfl⟩ := ran
    cases isRows'
    cases isRows''
    split at inserted
    · cases inserted
    · obtain ⟨incidents, isInserted, isRows⟩ :=
        Option.bind_eq_some_iff.mp inserted
      cases isRows
      have found := Table.find?_insert isInserted id
      have fresh := (Table.insert?_eq_some isInserted).1
      by_cases target : row.id = id
      · rw [if_pos target] at found
        refine .created row (target ▸ fresh) ?_ ?_
        · rw [made, IncidentFields.check_eq_some.mp checked]
        · rw [left]
          exact found
      · rw [if_neg target] at found
        apply IncidentChange.unchanged
        rw [left]
        exact found

theorem incidentChange (id : Uuid) (database : IncidentDatabase)
    (step : IncidentStep) : IncidentChange id database step := by
  cases step with
  | create input draws surroundings =>
      exact change_of_create input draws surroundings id database
  | change call => exact change_of_call call id database

private theorem statusOf_eq {id : Uuid} {database : IncidentDatabase}
    {row : IncidentRow} (found : database.incidents.find? id = some row) :
    statusOf id database = some row.status := by
  simp [statusOf, found]

theorem ofText_resolved {text : String} :
    IncidentStatus.ofText text = some .resolved ↔ text = "resolved" := by
  constructor
  · intro parsed
    unfold IncidentStatus.ofText at parsed
    split at parsed <;> first | rfl | cases parsed
  · intro isResolved
    rw [isResolved]
    rfl

private theorem edit_resolved {call : IncidentCall} {before row : IncidentRow}
    (fields : call.edit before = some row.toIncidentFields)
    (resolved : row.status = .resolved) :
    (before.status ≠ .resolved →
      row.resolvedAt = some (IncidentStep.change call).time) ∧
    (before.status = .resolved →
      row.resolvedAt = before.resolvedAt ∨
      row.resolvedAt = some (micros call.draws.utcNow) ∧
        ∃ message, call.mutation = .message "resolved" message) := by
  obtain ⟨id, mutation, requestId, draws, surroundings⟩ := call
  cases mutation with
  | update patch =>
      simp only [IncidentCall.edit, IncidentPatch.apply, Option.bind_eq_bind,
        Option.bind_eq_some_iff, Option.some.injEq] at fields
      obtain ⟨status, after, severity, -, isRow⟩ := fields
      have isStatus : status = .resolved := by
        rw [← resolved, ← isRow]
      simp only [← isRow]
      unfold IncidentPatch.statusAfter at after
      cases given : patch.status with
      | none =>
          rw [given] at after
          cases after
          exact ⟨fun open_ => absurd isStatus open_, fun _ => .inl rfl⟩
      | some text =>
          rw [given] at after
          have isText := ofText_resolved.mp (isStatus ▸ after)
          simp only [if_pos isText]
          constructor
          · intro open_
            have unset : before.resolvedAt = none := by
              rw [← Option.not_isSome_iff_eq_none, before.resolvedAt_isSome]
              exact open_
            rw [unset]
            rfl
          · intro closed
            obtain ⟨since, isSince⟩ := Option.isSome_iff_exists.mp
              (before.resolvedAt_isSome.mpr closed)
            left
            rw [isSince]
            rfl
  | message text message =>
      simp only [IncidentCall.edit, messageEdit, Option.bind_eq_bind,
        Option.bind_eq_some_iff, Option.some.injEq] at fields
      obtain ⟨status, after, isRow⟩ := fields
      have isStatus : status = .resolved := by
        rw [← resolved, ← isRow]
      have isText := ofText_resolved.mp (isStatus ▸ after)
      subst isText
      simp only [← isRow]
      exact ⟨fun _ => rfl, fun _ => .inr ⟨rfl, message, rfl⟩⟩

variable {id : Uuid} {start : IncidentDatabase} {steps : List IncidentStep}
  {step : IncidentStep}

private theorem null_iff (row : IncidentRow) :
    row.resolvedAt = none ↔ row.status ≠ .resolved := by
  rw [← Option.not_isSome_iff_eq_none, row.resolvedAt_isSome]

theorem tracksResolution_snoc (tracks : TracksResolution id start steps)
    (kept : ¬ Restamps id (finalDatabase start steps) step) :
    TracksResolution id start (steps ++ [step]) := by
  intro row found
  refine ⟨null_iff row, fun resolved => ?_⟩
  have afterStatus := statusOf_eq found
  rw [resolved] at afterStatus
  rw [lastResolution_snoc]
  rw [finalDatabase_snoc] at found
  cases incidentChange id (finalDatabase start steps) step with
  | unchanged same =>
      rw [same] at found
      have notMoved : ¬ Resolves id (finalDatabase start steps)
          (finalDatabase start (steps ++ [step])) := by
        intro moves
        exact moves.1 ((statusOf_eq found).trans (congrArg some resolved))
      rw [if_neg notMoved, Option.none_or]
      exact (tracks row found).2 resolved
  | created created fresh fields after =>
      rename_i input draws surroundings
      rw [found] at after
      cases after
      have moved : Resolves id (finalDatabase start steps)
          (finalDatabase start
            (steps ++ [.create input draws surroundings])) := by
        refine ⟨?_, afterStatus⟩
        simp [statusOf, fresh]
      rw [if_pos moved, Option.some_or]
      simp only [CreateIncident.fields, Option.bind_eq_bind,
        Option.bind_eq_some_iff, Option.some.injEq] at fields
      obtain ⟨status, isStatus, severity, -, isRow⟩ := fields
      have isResolved : status = .resolved := by
        rw [← resolved, ← isRow]
      have isText := ofText_resolved.mp (isResolved ▸ isStatus)
      simp [← isRow, isText, IncidentStep.time]
  | changed before changed target goesThrough wasThere fields after =>
      rename_i call
      rw [found] at after
      cases after
      obtain ⟨opens, closes⟩ := edit_resolved fields resolved
      by_cases wasResolved : before.status = .resolved
      · have notMoved : ¬ Resolves id (finalDatabase start steps)
            (finalDatabase start (steps ++ [.change call])) := by
          intro moves
          exact moves.1
            ((statusOf_eq wasThere).trans (congrArg some wasResolved))
        rw [if_neg notMoved, Option.none_or,
          ← (tracks before wasThere).2 wasResolved]
        rcases closes wasResolved with same | ⟨isNow, message, isMessage⟩
        · exact same
        · by_contra different
          refine kept ⟨call, message, before, rfl, target, isMessage,
            goesThrough.1, goesThrough.2, wasThere, wasResolved, ?_⟩
          intro already
          exact different (isNow.trans already.symm)
      · have moved : Resolves id (finalDatabase start steps)
            (finalDatabase start (steps ++ [.change call])) := by
          refine ⟨?_, afterStatus⟩
          rw [statusOf_eq wasThere]
          exact fun same => wasResolved (Option.some.inj same)
        rw [if_pos moved, Option.some_or]
        exact opens wasResolved

theorem not_tracksResolution_snoc (tracks : TracksResolution id start steps)
    (restamps : Restamps id (finalDatabase start steps) step) :
    ¬ TracksResolution id start (steps ++ [step]) := by
  obtain ⟨call, message, before, rfl, target, isMessage, free, applies, found,
    wasResolved, different⟩ := restamps
  obtain ⟨changed, applied⟩ := Option.isSome_iff_exists.mp applies
  obtain ⟨-, ⟨other, row, isOther, edited, after⟩, -⟩ :=
    IncidentCall.applied_eq_some applied
  rw [target] at isOther after
  rw [found] at isOther
  cases isOther
  have left : (IncidentStep.change call).next (finalDatabase start steps) =
      changed :=
    (IncidentCall.run_of_applied free applied).1
  have rowFields : row.status = .resolved ∧
      row.resolvedAt = some (micros call.draws.utcNow) := by
    simp only [IncidentCall.edit, isMessage, messageEdit,
      IncidentStatus.ofText, Option.bind_eq_bind, Option.bind_some,
      Option.some.injEq] at edited
    rw [← edited]
    exact ⟨rfl, rfl⟩
  intro still
  have foundAfter : (finalDatabase start
      (steps ++ [.change call])).incidents.find? id = some row := by
    rw [finalDatabase_snoc, left]
    exact after
  have recorded := (still row foundAfter).2 rowFields.1
  have notMoved : ¬ Resolves id (finalDatabase start steps)
      (finalDatabase start (steps ++ [.change call])) := by
    intro moves
    exact moves.1 ((statusOf_eq found).trans (congrArg some wasResolved))
  rw [lastResolution_snoc, if_neg notMoved, Option.none_or,
    ← (tracks before found).2 wasResolved, rowFields.2] at recorded
  exact different recorded.symm

/-- Along a whole history from before the incident exists, the time follows the
resolution in every state exactly when no step restamps it. -/
theorem resolution_tracked_iff (id : Uuid) (start : IncidentDatabase)
    (fresh : start.incidents.find? id = none) (steps : List IncidentStep) :
    (∀ done rest, steps = done ++ rest → TracksResolution id start done) ↔
      ∀ done step rest, steps = done ++ step :: rest →
        ¬ Restamps id (finalDatabase start done) step := by
  constructor
  · intro always done step rest split restamps
    refine not_tracksResolution_snoc (always done (step :: rest) split)
      restamps (always (done ++ [step]) rest ?_)
    simp [split]
  · intro never done
    induction done using List.reverseRecOn with
    | nil =>
        intro rest _ row found
        simp [finalDatabase, fresh] at found
    | append_singleton done step induction =>
        intro rest split
        have here : steps = done ++ step :: rest := by
          simp [split]
        exact tracksResolution_snoc (induction (step :: rest) here)
          (never done step rest here)

def noIncidents : IncidentDatabase where
  incidents := .empty
  updates := .empty
  audits := []

def drawsAt (time : Micros) (number : Nat) : Draws where
  transactionNow := time
  utcNow := time * 1000
  incidentId := 1
  updateId := BitVec.ofNat 128 number
  auditId := BitVec.ofNat 128 number

def resolvedMessage (time : Micros) (number : Nat) : IncidentStep :=
  .change {
    id := 1
    mutation := .message "resolved" "Fixed."
    requestId := 1
    draws := drawsAt time number
    surroundings := quiet }

def resolvedTwice : List IncidentStep := [
  .create {
    slug := "outage"
    title := "Outage"
    status := "investigating"
    severity := "minor"
    isPublic := true
    publicMessage := "Looking."
    requestId := 1 } (drawsAt 5 1) quiet,
  resolvedMessage 10 2,
  resolvedMessage 20 3]

theorem resolution_tracked_iff_resolvedTwice :
    (∀ done rest, resolvedTwice = done ++ rest →
      TracksResolution 1 noIncidents done) ↔
    ∀ done step rest, resolvedTwice = done ++ step :: rest →
      ¬ Restamps 1 (finalDatabase noIncidents done) step :=
  resolution_tracked_iff 1 noIncidents rfl resolvedTwice

theorem resolution_not_always_tracked :
    ¬ ∀ id start, start.incidents.find? id = none →
      ∀ steps, TracksResolution id start steps := by
  intro always
  have shown : ((finalDatabase noIncidents resolvedTwice).incidents.find?
      1).map (fun row => (row.status, row.resolvedAt)) =
        some (.resolved, some 20) := by
    decide +kernel
  obtain ⟨row, found, isRow⟩ := Option.map_eq_some_iff.mp shown
  have tracked := (always 1 noIncidents rfl resolvedTwice row found).2
    (congrArg Prod.fst isRow)
  have last : lastResolution 1 noIncidents resolvedTwice = some 10 := by
    decide +kernel
  rw [last, show row.resolvedAt = some 20 from congrArg Prod.snd isRow]
    at tracked
  cases tracked

end NvidiaBuildLb.Operations
