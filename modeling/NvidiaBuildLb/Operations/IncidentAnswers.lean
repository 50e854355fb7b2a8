import NvidiaBuildLb.Operations.Incidents

namespace NvidiaBuildLb.Operations

open Foundation NvidiaBuildLb.Core Gateway Transaction

/-! The listing shows an incident exactly when fewer than a hundred stand
before it. -/

theorem pageKey_nodup (incidents : Table fun row : IncidentRow => row.id) :
    (incidents.rows.map IncidentRow.pageKey).Nodup := by
  have ids := incidents.nodup
  have narrower : incidents.rows.map (fun row => row.id) =
      (incidents.rows.map IncidentRow.pageKey).map fun key =>
        BitVec.ofNat 128 (ofLex key).2 := by
    rw [List.map_map]
    apply List.map_congr_left
    intro row _
    simp [IncidentRow.pageKey, pageKey]
  rw [narrower] at ids
  exact ids.of_map

/-- The incidents that the listing puts before one. -/
def newerThan (incidents : Table fun row : IncidentRow => row.id)
    (row : IncidentRow) : Nat :=
  incidents.count fun other => row.pageKey < other.pageKey

private theorem page_find_iff
    (incidents : Table fun row : IncidentRow => row.id) (id : Uuid)
    (row : IncidentRow) :
    (Keyset.page IncidentRow.pageKey none 100 incidents.rows).find?
        (fun row => row.id = id) = some row ↔
      incidents.find? id = some row ∧ newerThan incidents row < 100 := by
  have shown : ∀ row : IncidentRow,
      row ∈ Keyset.page IncidentRow.pageKey none 100 incidents.rows ↔
        row ∈ incidents.rows ∧ newerThan incidents row < 100 := by
    intro row
    rw [Keyset.mem_page_iff (pageKey_nodup incidents)]
    simp [newerThan, Table.count]
  constructor
  · intro found
    obtain ⟨member, few⟩ := (shown row).mp (List.mem_of_find?_eq_some found)
    have isId : row.id = id := by
      simpa using List.find?_some found
    exact ⟨Table.find?_eq_some_iff.mpr ⟨member, isId⟩, few⟩
  · rintro ⟨found, few⟩
    obtain ⟨member, isId⟩ := Table.find?_eq_some_iff.mp found
    have onPage := (shown row).mpr ⟨member, few⟩
    cases first : (Keyset.page IncidentRow.pageKey none 100
        incidents.rows).find? (fun row => row.id = id) with
    | none =>
        have absent := List.find?_eq_none.mp first row onPage
        simp [isId] at absent
    | some other =>
        have otherMember :=
          ((shown other).mp (List.mem_of_find?_eq_some first)).1
        have otherId : other.id = id := by
          simpa using List.find?_some first
        rw [← found]
        exact (Table.find?_eq_some_iff.mpr ⟨otherMember, otherId⟩).symm

theorem incidents_find_iff (surroundings : Surroundings)
    (database : IncidentDatabase) (id : Uuid) (item : Incident) :
    (∃ listed, incidents surroundings database = .ok listed ∧
      listed.find? (fun item => item.row.id = id) = some item) ↔
    surroundings.refusesListing = false ∧
    surroundings.refusesUpdates = false ∧
    ∃ row, (surroundings.beforeListing database).incidents.find? id =
        some row ∧
      newerThan (surroundings.beforeListing database).incidents row < 100 ∧
      item = ⟨row, incidentUpdates
        (surroundings.beforeUpdates (surroundings.beforeListing database))
        row.id⟩ := by
  have attached : ∀ (updated : IncidentDatabase) (rows : List IncidentRow),
      (attachUpdates updated rows).find? (fun item => item.row.id = id) =
        (rows.find? fun row => row.id = id).map fun row =>
          ⟨row, incidentUpdates updated row.id⟩ := by
    intro updated rows
    rw [attachUpdates, List.find?_map]
    rfl
  have found := page_find_iff
    (surroundings.beforeListing database).incidents id
  simp only [incidents]
  cases surroundings.refusesListing with
  | true => simp
  | false =>
      generalize Keyset.page IncidentRow.pageKey none 100
        (surroundings.beforeListing database).incidents.rows = rows at found ⊢
      cases rows with
      | nil =>
          have absent : ∀ row,
              ¬ ((surroundings.beforeListing database).incidents.find? id =
                  some row ∧
                newerThan (surroundings.beforeListing database).incidents row <
                  100) := by
            intro row isShown
            cases (found row).mpr isShown
          simp only [Bool.false_eq_true, if_false, List.isEmpty_nil, if_true]
          constructor
          · intro ⟨listed, isListed, isFirst⟩
            cases isListed
            cases isFirst
          · intro ⟨_, _, row, present, few, _⟩
            exact absurd ⟨present, few⟩ (absent row)
      | cons head tail =>
          cases surroundings.refusesUpdates with
          | true => simp
          | false =>
              simp only [Bool.false_eq_true, if_false, List.isEmpty_cons,
                Except.ok.injEq, exists_eq_left', attached,
                Option.map_eq_some_iff, true_and, found, and_assoc]
              simp only [@eq_comm _ _ item]

/-! The two mutations of an incident that exists, as one kind of call, and what
becomes of the answer of a call that committed. -/

inductive IncidentMutation where
  | update (patch : IncidentPatch)
  | message (status message : String)
  deriving DecidableEq, Repr

structure IncidentCall where
  id : Uuid
  mutation : IncidentMutation
  requestId : Uuid
  draws : Draws
  surroundings : Surroundings

namespace IncidentCall

def body (call : IncidentCall) : IncidentTransaction Uuid :=
  match call.mutation with
  | .update patch =>
      updateIncidentBody call.id patch call.requestId call.draws
  | .message status message =>
      createIncidentUpdateBody call.id status message call.requestId call.draws

def run (call : IncidentCall) (database : IncidentDatabase) :
    Except String (Incident × Uuid) × IncidentDatabase :=
  match call.mutation with
  | .update patch =>
      updateIncident call.id patch call.requestId call.draws call.surroundings
        database
  | .message status message =>
      createIncidentUpdate call.id status message call.requestId call.draws
        call.surroundings database

def edit (call : IncidentCall) (row : IncidentRow) : Option IncidentFields :=
  match call.mutation with
  | .update patch => patch.apply call.draws row
  | .message status _ => messageEdit status call.draws row

def post (call : IncidentCall) (updates : Table IncidentUpdateRow.id) :
    Option (Table IncidentUpdateRow.id) :=
  match call.mutation with
  | .update _ => some updates
  | .message status message =>
      (incidentUpdateRow call.draws call.id status message).bind updates.insert?

def audit (call : IncidentCall) : IncidentAudit where
  id := call.draws.auditId
  action :=
    match call.mutation with
    | .update _ => "incident.update"
    | .message _ _ => "incident.message.create"
  resourceKind := "incident"
  resourceId := some call.id
  requestId := some call.requestId
  outcome := "succeeded"
  detail :=
    match call.mutation with
    | .update patch =>
        .updated patch.title.isSome patch.status.isSome patch.severity.isSome
          patch.isPublic.isSome
    | .message status _ => .message status
  createdAt := call.draws.transactionNow

def applied (call : IncidentCall) (database : IncidentDatabase) :
    Option IncidentDatabase := do
  let before ← database.incidents.find? call.id
  let row ← (call.edit before).bind IncidentFields.check
  let updates ← call.post database.updates
  some {
    incidents := database.incidents.put row
    updates
    audits := database.audits ++ [call.audit] }

def statements (call : IncidentCall) : Nat :=
  match call.mutation with
  | .update _ => 2
  | .message _ _ => 3

/-- No server error comes before the commit, and the commit takes effect. -/
def unhindered (call : IncidentCall) : Bool :=
  !call.surroundings.refusesBegin &&
    (List.range call.statements).all (fun index =>
      !call.surroundings.refuses index) &&
    call.surroundings.commit ≠ .refused

theorem transact_eq_ok_iff (call : IncidentCall) (refuses : Nat → Bool)
    (database changed : IncidentDatabase) (audit : Uuid) :
    call.body.transact refuses database = (.ok audit, changed) ↔
      ((List.range call.statements).all fun index => !refuses index) = true ∧
        call.draws.auditId = audit ∧
        call.applied database = some changed := by
  obtain ⟨id, mutation, requestId, draws, surroundings⟩ := call
  rw [transact_eq_ok]
  cases mutation with
  | update patch =>
      simp only [body, updateIncidentBody, updateIncidentRow,
        insertIncidentAudit, bind_eq_ok, execute_eq_ok, refuseIf_eq_ok,
        applied, edit, post, statements]
      cases found : database.incidents.find? id with
      | none => simp
      | some before =>
          cases edited : (patch.apply draws before).bind
              IncidentFields.check with
          | none => simp [edited]
          | some row =>
              simp [edited, IncidentCall.audit, List.range_succ, and_assoc]
  | message status message =>
      simp only [body, createIncidentUpdateBody, updateIncidentRow,
        insertIncidentAudit, insertIncidentUpdate, bind_eq_ok, execute_eq_ok,
        refuseIf_eq_ok, applied, edit, post, statements]
      cases found : database.incidents.find? id with
      | none => simp
      | some before =>
          cases edited : (messageEdit status draws before).bind
              IncidentFields.check with
          | none => simp [edited]
          | some row =>
              cases posted :
                  (incidentUpdateRow draws id status message).bind
                    database.updates.insert? with
              | none =>
                  cases made : incidentUpdateRow draws id status message with
                  | none => simp [edited]
                  | some update =>
                      have refused : database.updates.insert? update = none := by
                        rw [made] at posted
                        exact posted
                      simp [edited, refused]
              | some updates =>
                  obtain ⟨update, made, inserted⟩ :=
                    Option.bind_eq_some_iff.mp posted
                  simp [edited, made, inserted, IncidentCall.audit,
                    List.range_succ, and_assoc]

private theorem run_eq_mutate (call : IncidentCall)
    (database : IncidentDatabase) :
    ∃ beginning committing missing,
      call.run database =
        mutate beginning committing missing call.body call.id
          call.surroundings database := by
  obtain ⟨id, mutation, requestId, draws, surroundings⟩ := call
  cases mutation with
  | update patch => exact ⟨_, _, _, rfl⟩
  | message status message => exact ⟨_, _, _, rfl⟩

theorem run_of_not_applied {call : IncidentCall} {database : IncidentDatabase}
    (kept : ∀ changed, call.unhindered = true →
      call.applied database ≠ some changed) :
    ∃ error, call.run database = (.error error, database) := by
  obtain ⟨beginning, committing, missing, same⟩ := run_eq_mutate call database
  rw [same]
  unfold mutate
  split
  · exact ⟨_, rfl⟩
  · rename_i begins
    split
    · rename_i error unchanged ran
      have back := transact_error (congrArg Prod.fst ran)
      rw [ran] at back
      exact ⟨error, congrArg _ back⟩
    · rename_i audit changed ran
      obtain ⟨accepted, -, applied⟩ :=
        (call.transact_eq_ok_iff _ database changed audit).mp ran
      split
      · exact ⟨_, rfl⟩
      · rename_i commit
        refine absurd applied (kept changed ?_)
        simp [unhindered, begins, accepted, commit]
      · rename_i commit
        refine absurd applied (kept changed ?_)
        simp [unhindered, begins, accepted, commit]

theorem run_of_applied {call : IncidentCall}
    {database changed : IncidentDatabase} (free : call.unhindered = true)
    (applied : call.applied database = some changed) :
    (call.run database).2 = changed ∧
      ∀ item audit, (call.run database).1 = .ok (item, audit) ↔
        call.surroundings.commit = .committed ∧ call.draws.auditId = audit ∧
          ∃ listed, incidents call.surroundings changed = .ok listed ∧
            listed.find? (fun item => item.row.id = call.id) = some item := by
  obtain ⟨beginning, committing, missing, same⟩ := run_eq_mutate call database
  simp only [unhindered, Bool.and_eq_true, Bool.not_eq_true',
    decide_eq_true_eq] at free
  have ran := (call.transact_eq_ok_iff call.surroundings.refuses database changed
    call.draws.auditId).mpr ⟨free.1.2, rfl, applied⟩
  rw [same]
  unfold mutate
  rw [free.1.1, if_neg Bool.false_ne_true, ran]
  cases commit : call.surroundings.commit with
  | refused => exact absurd commit free.2
  | unanswered => simp
  | committed =>
      refine ⟨rfl, ?_⟩
      intro item audit
      cases listing : incidents call.surroundings changed with
      | error error => simp [listing, Bind.bind, Except.bind]
      | ok listed =>
          cases found : listed.find? fun item => item.row.id = call.id with
          | none => simp [listing, Bind.bind, Except.bind, found]
          | some shown =>
              simp [listing, Bind.bind, Except.bind, found, and_comm]

/-- An error changes nothing, and an answer is the incident that was changed. -/
def Atomic (call : IncidentCall) (database : IncidentDatabase) : Prop :=
  match call.run database with
  | (.error _, after) => after = database
  | (.ok (item, audit), after) =>
      audit = call.audit.id ∧ after.audits = database.audits ++ [call.audit] ∧
      item.row.id = call.id ∧
      (call.surroundings.beforeListing after).incidents.find? call.id =
        some item.row ∧
      (∃ before row, database.incidents.find? call.id = some before ∧
        call.edit before = some row.toIncidentFields ∧
        after.incidents.find? call.id = some row) ∧
      ∀ other, other ≠ call.id →
        after.incidents.find? other = database.incidents.find? other

/-- Once the change is in, its commit is confirmed, both queries of the listing
are answered, and fewer than a hundred incidents stand before the one asked
for. -/
def Answerable (call : IncidentCall) (database : IncidentDatabase) : Prop :=
  ∀ changed, call.unhindered = true → call.applied database = some changed →
    call.surroundings.commit = .committed ∧
    call.surroundings.refusesListing = false ∧
    call.surroundings.refusesUpdates = false ∧
    ∃ row, (call.surroundings.beforeListing changed).incidents.find? call.id =
        some row ∧
      newerThan (call.surroundings.beforeListing changed).incidents row < 100

theorem edit_id {call : IncidentCall} {before : IncidentRow}
    {after : IncidentFields} (edited : call.edit before = some after) :
    after.id = before.id := by
  obtain ⟨id, mutation, requestId, draws, surroundings⟩ := call
  cases mutation with
  | update patch =>
      simp only [edit, IncidentPatch.apply, Option.bind_eq_bind,
        Option.bind_eq_some_iff] at edited
      obtain ⟨status, -, severity, -, isAfter⟩ := edited
      cases isAfter
      rfl
  | message status message =>
      simp only [edit, messageEdit, Option.bind_eq_bind,
        Option.bind_eq_some_iff] at edited
      obtain ⟨status, -, isAfter⟩ := edited
      cases isAfter
      rfl

theorem applied_eq_some {call : IncidentCall}
    {database changed : IncidentDatabase}
    (applied : call.applied database = some changed) :
    changed.audits = database.audits ++ [call.audit] ∧
    (∃ before row, database.incidents.find? call.id = some before ∧
      call.edit before = some row.toIncidentFields ∧
      changed.incidents.find? call.id = some row) ∧
    ∀ other, other ≠ call.id →
      changed.incidents.find? other = database.incidents.find? other := by
  simp only [IncidentCall.applied, Option.bind_eq_bind,
    Option.bind_eq_some_iff] at applied
  obtain ⟨before, found, row, ⟨fields, edited, checked⟩, updates, -, isChanged⟩ :=
    applied
  cases isChanged
  have rowFields := IncidentFields.check_eq_some.mp checked
  have beforeId := Table.key_of_find? found
  have rowId : row.id = call.id := by
    rw [rowFields, edit_id edited]
    exact beforeId
  refine ⟨rfl, ⟨before, row, found, rowFields ▸ edited, ?_⟩, ?_⟩
  · rw [Table.find?_put, if_pos rowId]
  · intro other different
    rw [Table.find?_put, if_neg (rowId ▸ different.symm)]

theorem answerable_of_atomic {call : IncidentCall}
    {database : IncidentDatabase} (atomic : call.Atomic database) :
    call.Answerable database := by
  intro changed free applied
  obtain ⟨left, answered⟩ := run_of_applied free applied
  unfold Atomic at atomic
  split at atomic
  · rename_i error after ran
    rw [ran] at left
    have audits := (applied_eq_some applied).1
    rw [← left, show after = database from atomic] at audits
    simp at audits
  · rename_i item audit after ran
    obtain ⟨committed, -, listing⟩ := (answered item audit).mp (by rw [ran])
    obtain ⟨listed, updated, row, found, few, -⟩ :=
      (incidents_find_iff _ _ _ _).mp listing
    exact ⟨committed, listed, updated, row, found, few⟩

theorem atomic_of_answerable {call : IncidentCall}
    {database : IncidentDatabase} (answerable : call.Answerable database) :
    call.Atomic database := by
  by_cases goesThrough : ∃ changed, call.unhindered = true ∧
      call.applied database = some changed
  · obtain ⟨changed, free, applied⟩ := goesThrough
    obtain ⟨left, answered⟩ := run_of_applied free applied
    obtain ⟨committed, listed, updated, row, found, few⟩ :=
      answerable changed free applied
    have listing := (incidents_find_iff call.surroundings changed call.id
      ⟨row, _⟩).mpr ⟨listed, updated, row, found, few, rfl⟩
    have ran := (answered _ _).mpr ⟨committed, rfl, listing⟩
    obtain ⟨audits, edited, others⟩ := applied_eq_some applied
    have isRun : call.run database = (.ok (_, call.draws.auditId), changed) :=
      Prod.ext ran left
    have rowId := Table.key_of_find? found
    unfold Atomic
    rw [isRun]
    exact ⟨rfl, audits, rowId, found, edited, others⟩
  · have kept : ∀ changed, call.unhindered = true →
        call.applied database ≠ some changed :=
      fun changed free applied => goesThrough ⟨changed, free, applied⟩
    obtain ⟨error, ran⟩ := run_of_not_applied kept
    unfold Atomic
    rw [ran]

theorem atomic_iff_answerable (call : IncidentCall)
    (database : IncidentDatabase) :
    call.Atomic database ↔ call.Answerable database :=
  ⟨answerable_of_atomic, atomic_of_answerable⟩

end IncidentCall

/-- Slugs of different lengths. -/
def crowdedSlug (number : Nat) : String :=
  String.ofList (List.replicate (min number 119 + 1) 'a')

private theorem crowdedSlug_allowed (number : Nat) :
    slugAllowed (crowdedSlug number) = true := by
  have letters : ∀ character ∈ List.replicate (min number 119 + 1) 'a',
      (character == '-') = false := by
    intro character member
    rw [List.eq_of_mem_replicate member]
    decide
  have short : min number 119 + 1 ≤ 120 := by omega
  unfold slugAllowed crowdedSlug List.splitOn
  rw [String.toList_ofList, List.splitOnP_eq_singleton letters]
  simp [short]

def crowdedRow (number : Nat) : IncidentRow where
  id := BitVec.ofNat 128 number
  slug := crowdedSlug number
  title := "Outage"
  status := .investigating
  severity := .minor
  isPublic := false
  startedAt := number
  resolvedAt := none
  createdAt := number
  updatedAt := number
  checked := by
    have title : "Outage".length = 6 := by decide
    simp [IncidentFields.allowed, crowdedSlug_allowed, title]

def crowdedDatabase : IncidentDatabase where
  incidents := {
    rows := (List.range 101).map crowdedRow
    nodup := by
      rw [List.map_map]
      refine List.nodup_range.map_on ?_
      intro left leftBound right rightBound same
      have sameNumber := congrArg BitVec.toNat same
      simp only [Function.comp, crowdedRow, BitVec.toNat_ofNat] at sameNumber
      rw [List.mem_range] at leftBound rightBound
      omega }
  updates := .empty
  audits := []

def quiet : Surroundings where
  refusesBegin := false
  refuses := fun _ => false
  commit := .committed
  beforeListing := id
  refusesListing := false
  beforeUpdates := id
  refusesUpdates := false

def crowdedCall : IncidentCall where
  id := 0
  mutation := .message "identified" "Found it."
  requestId := 1
  draws := {
    transactionNow := 200
    utcNow := 200000
    incidentId := 2
    updateId := 3
    auditId := 4 }
  surroundings := quiet

theorem incident_call_not_always_atomic :
    ¬ ∀ call database, IncidentCall.Atomic call database := by
  intro always
  have answerable := IncidentCall.answerable_of_atomic
    (always crowdedCall crowdedDatabase)
  have applies : (crowdedCall.applied crowdedDatabase).isSome = true := by
    decide +kernel
  obtain ⟨changed, applied⟩ := Option.isSome_iff_exists.mp applies
  obtain ⟨-, -, -, row, found, few⟩ := answerable changed rfl applied
  have crowded : ((crowdedCall.applied crowdedDatabase).all fun changed =>
      (changed.incidents.find? 0).all fun row =>
        100 ≤ newerThan changed.incidents row) = true := by
    decide +kernel
  rw [applied] at crowded
  simp only [Option.all_some] at crowded
  rw [show changed.incidents.find? 0 = some row from found] at crowded
  simp only [Option.all_some, decide_eq_true_eq] at crowded
  exact absurd few (Nat.not_lt.mpr crowded)

end NvidiaBuildLb.Operations
