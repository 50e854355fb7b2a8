import NvidiaBuildLb.Hermes.AdminPages
import NvidiaBuildLb.Hermes.Records

namespace NvidiaBuildLb.Hermes

open Foundation NvidiaBuildLb.Core Gateway Operations

/-! Which requests of the gateway the helper counts as those of a phase. -/

structure RequestItem where
  requestId : Uuid
  clientId : Option Uuid
  outcome : String
  startedAt : Timestamp
  finishedAt : Option Timestamp
  attempts : Option (List RequestAttemptRow)

/-- A receipt with its times. -/
structure TimedReceipt extends RequestReceipt where
  startedAt : Timestamp
  finishedAt : Timestamp
  deriving DecidableEq, Repr

def requestFromRow (row : ProxyRequestRow) (attempts : Option (List RequestAttemptRow)) :
    RequestItem where
  requestId := row.requestId
  clientId := row.downstreamCredentialId
  outcome := outcomeText row.outcome
  startedAt := fromMicros row.startedAt
  finishedAt := row.finishedAt.map fromMicros
  attempts := attempts

/-- The tables that the two endpoints read. -/
structure RequestTables where
  requests : Table ProxyRequestRow.requestId
  attempts : Table RequestAttemptRow.id
  upstreamKeys : Table UpstreamKeyRow.id

/-- The attempts of a request, joined with their keys. -/
def RequestTables.attemptsOf (tables : RequestTables) (id : Uuid) : List RequestAttemptRow :=
  tables.attempts.rows.filter fun attempt =>
    attempt.requestId = id && (tables.upstreamKeys.find? attempt.keyId).isSome

def RequestTables.request (tables : RequestTables) (id : Uuid) : Option RequestItem :=
  (tables.requests.find? id).map fun row =>
    requestFromRow row (some (tables.attemptsOf id))

def noFilters : RequestFilters where
  requestId := none
  clientId := none
  profile := none
  outcome := none
  endpoint := none
  since := none
  until_ := none

inductive CorrelationFailure where
  | missingClient
  | page (failure : PageFailure)
  | detail (id : Uuid)
  | notTerminal
  | uncorrelated
  deriving DecidableEq, Repr

def CorrelationFailure.message : CorrelationFailure → Option String
  | .missingClient => some "Hermes request correlation requires a client ID"
  | .page _ => none
  | .detail _ => none
  | .notTerminal => some "correlated Hermes request is not terminal"
  | .uncorrelated =>
      some "Hermes requests could not be correlated to the active downstream client"

section Correlation

variable (clientId : Uuid) (startedAt finishedAt : Timestamp) (stage : String)

def isCorrelated (item : RequestItem) : Bool :=
  item.clientId = some clientId && startedAt ≤ item.startedAt &&
    item.startedAt ≤ finishedAt &&
      item.finishedAt.any fun finished => finished ≤ finishedAt

/-- The oldest item of the page is from before the phase. -/
def reachesBack (items : List RequestItem) : Bool :=
  (items.map RequestItem.startedAt).min?.any fun oldest => oldest < startedAt

def receiptOf (detail : Option RequestItem) (item : RequestItem) :
    Except CorrelationFailure TimedReceipt :=
  match detail with
  | none => .error (.detail item.requestId)
  | some detail =>
      match item.finishedAt with
      | none => .error .notTerminal
      | some finished => .ok {
          requestId := item.requestId
          attemptCount := (detail.attempts.getD []).length
          outcome := item.outcome
          stage
          startedAt := item.startedAt
          finishedAt := finished }

/-- `(started_at,request_id)`. -/
def receiptKey (receipt : TimedReceipt) : PageKey :=
  pageKey receipt.startedAt receipt.requestId

def sortReceipts (receipts : List TimedReceipt) : List TimedReceipt :=
  receipts.mergeSort fun left right => receiptKey left ≤ receiptKey right

/-- The detail request of an item, by its index, may get lost. -/
def fetchReceipt (details : Nat → RequestTables) (lost : Nat → Bool)
    (entry : RequestItem × Nat) : Except CorrelationFailure TimedReceipt :=
  receiptOf stage
    (if lost entry.2 then none else (details entry.2).request entry.1.requestId) entry.1

def acceptReceipts (receipts : List TimedReceipt) :
    Except CorrelationFailure (List TimedReceipt) :=
  if (sortReceipts receipts).any fun receipt => receipt.outcome ≠ "succeeded" then
    .error .uncorrelated
  else
    .ok (sortReceipts receipts)

def correlate (details : Nat → RequestTables) (lost : Nat → Bool)
    (filtered : List RequestItem) : Except CorrelationFailure (List TimedReceipt) := do
  let receipts ← filtered.zipIdx.mapM (fetchReceipt stage details lost)
  acceptReceipts receipts

end Correlation

/-- What the reads of one correlation find, and which of them get lost. -/
structure CorrelationReads where
  lists : Nat → RequestTables
  details : Nat → RequestTables
  lostList : Nat → Bool
  lostDetail : Nat → Bool

/-- With no fuel left the pages are still being read. -/
def correlatedRequests (text : CursorText) (reads : CorrelationReads)
    (clientId : Option Uuid) (startedAt finishedAt : Timestamp) (stage : String)
    (fuel : Nat) : Option (Except CorrelationFailure (List TimedReceipt)) :=
  match clientId with
  | none => some (.error .missingClient)
  | some clientId =>
      let pages := Keyset.gather
        (fun index before => getPage
          (listRequests text noFilters (reads.lists index).requests)
          (reads.lostList index) before)
        (fun rows => (rows.map fun row => requestFromRow row none).filter
          (isCorrelated clientId startedAt finishedAt))
        (fun rows => reachesBack startedAt (rows.map fun row => requestFromRow row none))
        fuel 0 none []
      match pages with
      | none => none
      | some (.error failure) => some (.error (.page failure))
      | some (.ok filtered) =>
          some (correlate stage reads.details reads.lostDetail filtered)

section Exact

variable {text : CursorText} {reads : CorrelationReads} {clientId : Uuid}
  {startedAt finishedAt : Timestamp} {stage : String}

def isOfPhase (clientId : Uuid) (startedAt finishedAt : Timestamp) (row : ProxyRequestRow) :
    Bool :=
  isCorrelated clientId startedAt finishedAt (requestFromRow row none)

def receiptOfRow (attempts : Uuid → Nat) (stage : String) (row : ProxyRequestRow) :
    TimedReceipt where
  requestId := row.requestId
  attemptCount := attempts row.requestId
  outcome := outcomeText row.outcome
  stage
  startedAt := fromMicros row.startedAt
  finishedAt := fromMicros (row.finishedAt.getD 0)

structure Steady (reads : CorrelationReads) (clientId : Uuid)
    (startedAt finishedAt : Timestamp) (attempts : Uuid → Nat)
    (phase : List ProxyRequestRow) : Prop where
  listed : ∀ index, ((reads.lists index).requests.rows.filter
    (isOfPhase clientId startedAt finishedAt)).Perm phase
  known : ∀ index, ∀ row ∈ phase,
    ((reads.details index).requests.find? row.requestId).isSome = true
  attempted : ∀ index, ∀ row ∈ phase,
    ((reads.details index).attemptsOf row.requestId).length = attempts row.requestId

private theorem reachesBack_iff {items : List RequestItem} :
    reachesBack startedAt items = true ↔ ∃ item ∈ items, item.startedAt < startedAt := by
  unfold reachesBack
  rw [Option.any_eq_true]
  constructor
  · rintro ⟨oldest, isOldest, earlier⟩
    obtain ⟨item, member, rfl⟩ := List.mem_map.mp (List.min?_mem isOldest)
    exact ⟨item, member, of_decide_eq_true earlier⟩
  · rintro ⟨item, member, earlier⟩
    have listed : item.startedAt ∈ items.map RequestItem.startedAt :=
      List.mem_map_of_mem member
    cases isOldest : (items.map RequestItem.startedAt).min? with
    | none =>
        rw [List.min?_eq_none_iff.mp isOldest] at listed
        cases listed
    | some oldest =>
        have least := (List.min?_eq_some_iff.mp isOldest).2 _ listed
        exact ⟨oldest, rfl, decide_eq_true (least.trans_lt earlier)⟩

private theorem filter_map_rows (rows : List ProxyRequestRow) :
    (rows.map fun row => requestFromRow row none).filter
        (isCorrelated clientId startedAt finishedAt) =
      (rows.filter (isOfPhase clientId startedAt finishedAt)).map fun row =>
        requestFromRow row none :=
  List.filter_map

theorem isOfPhase_iff {row : ProxyRequestRow} :
    isOfPhase clientId startedAt finishedAt row = true ↔
      row.downstreamCredentialId = some clientId ∧ startedAt ≤ fromMicros row.startedAt ∧
        fromMicros row.startedAt ≤ finishedAt ∧
          ∃ finished, row.finishedAt = some finished ∧ fromMicros finished ≤ finishedAt := by
  simp only [isOfPhase, isCorrelated, Bool.and_eq_true, decide_eq_true_eq,
    Option.any_eq_true, and_assoc]
  simp [requestFromRow]

/-- The plain list handler over the tables of a read. -/
private abbrev servedAt (text : CursorText) (reads : CorrelationReads) (index : Nat) :
    ListQuery → Except ListError (List ProxyRequestRow × Option String) :=
  listRequests text noFilters (reads.lists index).requests

private abbrev pagesRead (text : CursorText) (reads : CorrelationReads) (count : Nat) :
    Keyset.Reading ProxyRequestRow String ListError :=
  follow (fun _ => some 100) (servedAt text reads) count

private theorem noFilters_selects (row : ProxyRequestRow) :
    noFilters.selects row = true :=
  rfl

private theorem filter_noFilters (rows : List ProxyRequestRow) :
    rows.filter noFilters.selects = rows :=
  List.filter_eq_self.mpr fun row _ => noFilters_selects row

private theorem visited_listed {count : Nat} {row : ProxyRequestRow}
    (member : row ∈ (pagesRead text reads count).visited) :
    ∃ index, row ∈ (reads.lists index).requests.rows := by
  obtain ⟨index, -, before, items, continuation, served, shown⟩ :=
    Keyset.served_of_mem_visited member
  exact ⟨index, List.mem_of_mem_filter (mem_of_listPage served shown)⟩

private theorem same_row {rows : Table ProxyRequestRow.requestId}
    {left right : ProxyRequestRow} (isLeft : left ∈ rows.rows) (isRight : right ∈ rows.rows)
    (same : rowKey ProxyRequestRow.startedAt ProxyRequestRow.requestId left =
      rowKey ProxyRequestRow.startedAt ProxyRequestRow.requestId right) : left = right := by
  have identifiers : left.requestId = right.requestId := by
    have second := congrArg (fun key => (ofLex key).2) same
    exact BitVec.eq_of_toNat_eq second
  exact List.inj_on_of_nodup_map rows.nodup isLeft isRight identifiers

section Pages

variable {attempts : Uuid → Nat} {phase : List ProxyRequestRow}
  (steady : Steady reads clientId startedAt finishedAt attempts phase)
  (roundTrips : ∀ index, ∀ row ∈ (reads.lists index).requests.rows,
    text.RoundTrips "requests" (fromMicros row.startedAt, row.requestId))

include steady

private theorem mem_phase_iff (index : Nat) (row : ProxyRequestRow) :
    row ∈ phase ↔ row ∈ (reads.lists index).requests.rows ∧
      isOfPhase clientId startedAt finishedAt row = true := by
  rw [← (steady.listed index).mem_iff, List.mem_filter]

private theorem phase_nodup : phase.Nodup :=
  (steady.listed 0).nodup_iff.mp ((reads.lists 0).requests.nodup.of_map.filter _)

include roundTrips

/-- The pages that were read have all of the phase, though the older ones were
left unread. -/
private theorem phase_visited {count : Nat}
    (gathered : Keyset.Gathered (fun rows => reachesBack startedAt
      (rows.map fun row => requestFromRow row none)) (pagesRead text reads count))
    {row : ProxyRequestRow} (member : row ∈ phase) :
    row ∈ (pagesRead text reads count).visited := by
  have complete := @listRequests_completeWalk text (fun _ => some 100) noFilters
    (fun index => (reads.lists index).requests) (fun _ => ⟨by decide, by decide⟩) roundTrips
  have present : ∀ earlier < count,
      rowKey ProxyRequestRow.startedAt ProxyRequestRow.requestId row ∈
        (((reads.lists earlier).requests.rows.filter noFilters.selects)).map
          (rowKey ProxyRequestRow.startedAt ProxyRequestRow.requestId) := by
    intro earlier _
    rw [filter_noFilters]
    exact List.mem_map_of_mem ((mem_phase_iff steady earlier row).mp member).1
  have visited : rowKey ProxyRequestRow.startedAt ProxyRequestRow.requestId row ∈
      (pagesRead text reads count).visited.map
        (rowKey ProxyRequestRow.startedAt ProxyRequestRow.requestId) := by
    cases gathered with
    | ended position =>
        apply List.count_pos_iff.mp
        rw [complete.complete count position _ present]
        exact Nat.one_pos
    | sated cursor shown position wasShown sates =>
        obtain ⟨above, completeAbove⟩ := listRequests_aboveCursor noFilters
          (fun _ => ⟨by decide, by decide⟩) roundTrips position
        obtain ⟨item, isItem, earlier⟩ := reachesBack_iff.mp sates
        obtain ⟨older, isOlder, rfl⟩ := List.mem_map.mp isItem
        -- The phase starts after a row that is above the cursor.
        refine completeAbove _ present (behindCursor_of_le (above older
          (wasShown older isOlder)) ?_)
        have starts := (isOfPhase_iff.mp ((mem_phase_iff steady 0 row).mp member).2).2.1
        have before : older.startedAt < row.startedAt := by
          have times : fromMicros older.startedAt < fromMicros row.startedAt :=
            lt_of_lt_of_le earlier starts
          exact Int.lt_of_mul_lt_mul_right times (by decide)
        exact (Prod.Lex.toLex_lt_toLex.mpr (.inl before)).le
  obtain ⟨other, isVisited, same⟩ := List.mem_map.mp visited
  obtain ⟨index, isListed⟩ := visited_listed isVisited
  rw [same_row ((mem_phase_iff steady index row).mp member).1 isListed same.symm]
  exact isVisited

private theorem kept_perm {count : Nat}
    (gathered : Keyset.Gathered (fun rows => reachesBack startedAt
      (rows.map fun row => requestFromRow row none)) (pagesRead text reads count)) :
    ((pagesRead text reads count).visited.filter
      (isOfPhase clientId startedAt finishedAt)).Perm phase := by
  have complete := @listRequests_completeWalk text (fun _ => some 100) noFilters
    (fun index => (reads.lists index).requests) (fun _ => ⟨by decide, by decide⟩) roundTrips
  have distinct : ((pagesRead text reads count).visited.filter
      (isOfPhase clientId startedAt finishedAt)).Nodup :=
    (complete.once count).of_map.filter _
  apply (List.perm_ext_iff_of_nodup distinct (phase_nodup steady)).mpr
  intro row
  rw [List.mem_filter]
  constructor
  · rintro ⟨isVisited, isPhase⟩
    obtain ⟨index, isListed⟩ := visited_listed isVisited
    exact (mem_phase_iff steady index row).mpr ⟨isListed, isPhase⟩
  · intro member
    exact ⟨phase_visited steady roundTrips gathered member,
      ((mem_phase_iff steady 0 row).mp member).2⟩

end Pages

section Receipts

variable {attempts : Uuid → Nat} {phase : List ProxyRequestRow}
  (steady : Steady reads clientId startedAt finishedAt attempts phase)

include steady

private theorem receiptOf_row {row : ProxyRequestRow} (member : row ∈ phase) (index : Nat) :
    receiptOf stage ((reads.details index).request row.requestId) (requestFromRow row none) =
      .ok (receiptOfRow attempts stage row) := by
  obtain ⟨found, isFound⟩ := Option.isSome_iff_exists.mp (steady.known index row member)
  obtain ⟨-, -, -, finished, isFinished, -⟩ :=
    isOfPhase_iff.mp ((mem_phase_iff steady 0 row).mp member).2
  simp only [receiptOf, RequestTables.request, isFound, Option.map_some, requestFromRow,
    isFinished, Option.getD_some, steady.attempted index row member, receiptOfRow]

private theorem receipts_ok {kept : List ProxyRequestRow} (inPhase : ∀ row ∈ kept, row ∈ phase)
    {start : Nat} {receipts : List TimedReceipt}
    (collected : ((kept.map fun row => requestFromRow row none).zipIdx start).mapM
      (fetchReceipt stage reads.details reads.lostDetail) = .ok receipts) :
    receipts = kept.map (receiptOfRow attempts stage) := by
  induction kept generalizing start receipts with
  | nil =>
      cases collected
      rfl
  | cons row rest induction =>
      rw [List.map_cons, List.zipIdx_cons, List.mapM_cons] at collected
      obtain ⟨receipt, isReceipt, collected⟩ := ok_of_bind collected
      obtain ⟨others, areOthers, collected⟩ := ok_of_bind collected
      cases collected
      have first : receipt = receiptOfRow attempts stage row := by
        unfold fetchReceipt at isReceipt
        cases lost : reads.lostDetail start with
        | true =>
            simp only [lost, if_true] at isReceipt
            cases isReceipt
        | false =>
            simp only [lost] at isReceipt
            exact Except.ok.inj (isReceipt.symm.trans
              (receiptOf_row steady (inPhase row List.mem_cons_self) start))
      rw [first, List.map_cons, induction (fun other member =>
        inPhase other (List.mem_cons_of_mem _ member)) areOthers]

private theorem receipts_collected {kept : List ProxyRequestRow}
    (inPhase : ∀ row ∈ kept, row ∈ phase) (received : ∀ index, reads.lostDetail index = false)
    (start : Nat) :
    ((kept.map fun row => requestFromRow row none).zipIdx start).mapM
      (fetchReceipt stage reads.details reads.lostDetail) =
      .ok (kept.map (receiptOfRow attempts stage)) := by
  induction kept generalizing start with
  | nil => rfl
  | cons row rest induction =>
      have first : fetchReceipt stage reads.details reads.lostDetail
          (requestFromRow row none, start) = .ok (receiptOfRow attempts stage row) := by
        rw [fetchReceipt, received start]
        exact receiptOf_row steady (inPhase row List.mem_cons_self) start
      have others := induction (fun other member =>
        inPhase other (List.mem_cons_of_mem _ member)) (start + 1)
      simp only [List.map_cons, List.zipIdx_cons, List.mapM_cons, first, others]
      rfl

end Receipts

private theorem succeeded_iff {outcome : Outcome RequestOutcome} :
    outcomeText outcome = "succeeded" ↔ outcome = .ended .succeeded := by
  cases outcome with
  | started => simp [outcomeText]
  | ended outcome => cases outcome <;> simp [outcomeText]

private theorem sortReceipts_pairwise {receipts : List TimedReceipt}
    (distinct : (receipts.map fun receipt => receipt.requestId).Nodup) :
    (sortReceipts receipts).Pairwise fun left right => receiptKey left < receiptKey right := by
  have ordered : (sortReceipts receipts).Pairwise fun left right =>
      decide (receiptKey left ≤ receiptKey right) = true := by
    apply List.pairwise_mergeSort
    · intro first second third firstSecond secondThird
      exact decide_eq_true
        ((of_decide_eq_true firstSecond).trans (of_decide_eq_true secondThird))
    · intro left right
      simpa using le_total (receiptKey left) (receiptKey right)
  have apart : (sortReceipts receipts).Pairwise fun left right =>
      left.requestId ≠ right.requestId :=
    List.pairwise_map.mp
      (((List.mergeSort_perm receipts _).map _).nodup_iff.mpr distinct)
  refine (ordered.and apart).imp ?_
  rintro left right ⟨below, different⟩
  refine lt_of_le_of_ne (of_decide_eq_true below) fun same => different ?_
  exact BitVec.eq_of_toNat_eq (congrArg (fun key => (ofLex key).2) same)

/-- The receipts of a phase: each of its requests once, by the time they
started. -/
structure PhaseReceipts (attempts : Uuid → Nat) (stage : String)
    (phase : List ProxyRequestRow) (receipts : List TimedReceipt) : Prop where
  exact_ : receipts.Perm (phase.map (receiptOfRow attempts stage))
  ascending : receipts.Pairwise fun left right => receiptKey left < receiptKey right
  succeeded : ∀ row ∈ phase, row.outcome = .ended .succeeded

private theorem acceptReceipts_rows {attempts : Uuid → Nat} (rows : List ProxyRequestRow) :
    acceptReceipts (rows.map (receiptOfRow attempts stage)) =
      if ∀ row ∈ rows, row.outcome = .ended .succeeded then
        .ok (sortReceipts (rows.map (receiptOfRow attempts stage)))
      else
        .error .uncorrelated := by
  have rejects : (sortReceipts (rows.map (receiptOfRow attempts stage))).any
      (fun receipt => receipt.outcome ≠ "succeeded") = true ↔
        ¬ ∀ row ∈ rows, row.outcome = .ended .succeeded := by
    rw [List.any_eq_true, not_forall]
    constructor
    · rintro ⟨receipt, member, failed⟩
      obtain ⟨row, isRow, rfl⟩ := List.mem_map.mp (List.mem_mergeSort.mp member)
      refine ⟨row, fun succeeded => of_decide_eq_true failed ?_⟩
      exact succeeded_iff.mpr (succeeded isRow)
    · rintro ⟨row, failed⟩
      obtain ⟨isRow, failed⟩ := Classical.not_imp.mp failed
      refine ⟨receiptOfRow attempts stage row,
        List.mem_mergeSort.mpr (List.mem_map_of_mem isRow), decide_eq_true ?_⟩
      exact fun succeeded => failed (succeeded_iff.mp succeeded)
  unfold acceptReceipts
  by_cases all : ∀ row ∈ rows, row.outcome = .ended .succeeded
  · rw [if_pos all, if_neg (fun failed => rejects.mp failed all)]
  · rw [if_neg all, if_pos (rejects.mpr all)]

private theorem correlate_ok {attempts : Uuid → Nat} {phase kept : List ProxyRequestRow}
    (steady : Steady reads clientId startedAt finishedAt attempts phase)
    (perm : kept.Perm phase) {receipts : List TimedReceipt}
    (correlated : correlate stage reads.details reads.lostDetail
      (kept.map fun row => requestFromRow row none) = .ok receipts) :
    PhaseReceipts attempts stage phase receipts := by
  have inPhase : ∀ row ∈ kept, row ∈ phase := fun row member => perm.mem_iff.mp member
  obtain ⟨collected, isCollected, correlated⟩ := ok_of_bind correlated
  cases receipts_ok steady inPhase isCollected
  rw [acceptReceipts_rows] at correlated
  split at correlated
  · rename_i succeeded
    cases correlated
    refine ⟨(List.mergeSort_perm _ _).trans (perm.map _), ?_,
      fun row member => succeeded row (perm.mem_iff.mpr member)⟩
    apply sortReceipts_pairwise
    rw [List.map_map]
    have distinct : (phase.map ProxyRequestRow.requestId).Nodup :=
      ((steady.listed 0).map _).nodup_iff.mp
        ((reads.lists 0).requests.nodup.sublist (List.filter_sublist.map _))
    exact (perm.map _).nodup_iff.mpr distinct
  · cases correlated

private theorem correlate_received {attempts : Uuid → Nat} {phase kept : List ProxyRequestRow}
    (steady : Steady reads clientId startedAt finishedAt attempts phase)
    (perm : kept.Perm phase) (received : ∀ index, reads.lostDetail index = false) :
    if ∀ row ∈ phase, row.outcome = .ended .succeeded then
      ∃ receipts, correlate stage reads.details reads.lostDetail
        (kept.map fun row => requestFromRow row none) = .ok receipts
    else
      correlate stage reads.details reads.lostDetail
        (kept.map fun row => requestFromRow row none) = .error .uncorrelated := by
  have inPhase : ∀ row ∈ kept, row ∈ phase := fun row member => perm.mem_iff.mp member
  have collected := @receipts_collected reads clientId startedAt finishedAt stage attempts
    phase steady kept inPhase received 0
  have same : (∀ row ∈ kept, row.outcome = .ended .succeeded) ↔
      ∀ row ∈ phase, row.outcome = .ended .succeeded := by
    simp only [perm.mem_iff]
  unfold correlate
  rw [collected]
  simp only [Bind.bind, Except.bind, acceptReceipts_rows, same]
  split
  · exact ⟨_, rfl⟩
  · rfl

/-- The loop over the plain handler. -/
private abbrev plainPages (text : CursorText) (reads : CorrelationReads) (clientId : Uuid)
    (startedAt finishedAt : Timestamp) (fuel : Nat) :
    Option (Except ListError (List RequestItem)) :=
  Keyset.gather
    (fun index before => servedAt text reads index { limit := some 100, before })
    (fun rows => (rows.map fun row => requestFromRow row none).filter
      (isCorrelated clientId startedAt finishedAt))
    (fun rows => reachesBack startedAt (rows.map fun row => requestFromRow row none))
    fuel 0 none []

section Plain

variable {attempts : Uuid → Nat} {phase : List ProxyRequestRow}
  (roundTrips : ∀ index, ∀ row ∈ (reads.lists index).requests.rows,
    text.RoundTrips "requests" (fromMicros row.startedAt, row.requestId))

include roundTrips

private theorem plainPages_ok (steady : Steady reads clientId startedAt finishedAt attempts phase)
    {fuel : Nat} {filtered : List RequestItem}
    (gathered : plainPages text reads clientId startedAt finishedAt fuel =
      some (.ok filtered)) :
    ∃ kept : List ProxyRequestRow, kept.Perm phase ∧
      filtered = kept.map fun row => requestFromRow row none := by
  obtain ⟨count, -, isFiltered, ends⟩ := Keyset.gather_ok (fun front back => by
    rw [List.map_append, List.filter_append]) rfl gathered
  rw [filter_map_rows] at isFiltered
  exact ⟨_, kept_perm steady roundTrips ends, isFiltered⟩

private theorem plainPages_ends {fuel : Nat}
    (ended : (pagesRead text reads fuel).position = .ended) :
    ∃ filtered, plainPages text reads clientId startedAt finishedAt fuel =
      some (.ok filtered) := by
  have complete := @listRequests_completeWalk text (fun _ => some 100) noFilters
    (fun index => (reads.lists index).requests) (fun _ => ⟨by decide, by decide⟩) roundTrips
  cases running : plainPages text reads clientId startedAt finishedAt fuel with
  | none =>
      obtain ⟨cursor, isNext⟩ := Keyset.gather_none rfl running
      rw [Nat.zero_add] at isNext
      cases isNext.symm.trans ended
  | some result =>
      cases result with
      | ok filtered => exact ⟨filtered, rfl⟩
      | error error =>
          obtain ⟨count, -, refused⟩ := Keyset.gather_error rfl running
          exact absurd refused (complete.accepted count error)

end Plain

/-- What the helper counts as the requests of a phase, whatever else happens to
the tables while it reads: exactly the client's requests of the phase, and it
fails when one of them did not succeed. -/
theorem correlated_requests_exact {attempts : Uuid → Nat} {phase : List ProxyRequestRow}
    (steady : Steady reads clientId startedAt finishedAt attempts phase)
    (roundTrips : ∀ index, ∀ row ∈ (reads.lists index).requests.rows,
      text.RoundTrips "requests" (fromMicros row.startedAt, row.requestId)) :
    (∀ fuel receipts, correlatedRequests text reads (some clientId) startedAt finishedAt stage
        fuel = some (.ok receipts) → PhaseReceipts attempts stage phase receipts) ∧
    ((∀ index, reads.lostList index = false) → (∀ index, reads.lostDetail index = false) →
      ∀ additions : List PageKey, (∀ count before,
        (follow (fun _ => some 100) (fun index =>
          listRequests text noFilters (reads.lists index).requests) (count + 1)).position =
            .next before →
        ∀ row ∈ (reads.lists (count + 1)).requests.rows,
          requestKey row ∉ (reads.lists count).requests.rows.map requestKey →
          behindCursor text "requests" before (requestKey row) = true →
            requestKey row ∈ additions) →
      ∃ fuel, if ∀ row ∈ phase, row.outcome = .ended .succeeded then
          ∃ receipts, correlatedRequests text reads (some clientId) startedAt finishedAt stage
            fuel = some (.ok receipts)
        else
          correlatedRequests text reads (some clientId) startedAt finishedAt stage fuel =
            some (.error .uncorrelated)) := by
  constructor
  · intro fuel receipts correlated
    unfold correlatedRequests at correlated
    simp only at correlated
    split at correlated
    · cases correlated
    · cases correlated
    · rename_i filtered gathered
      obtain ⟨kept, perm, rfl⟩ := plainPages_ok roundTrips steady
        (Keyset.gather_of_answers (fun _ _ _ decoded => getPage_ok decoded) gathered)
      exact correlate_ok steady perm (Option.some.inj correlated)
  · intro listsReceived detailsReceived additions added
    have complete := @listRequests_completeWalk text (fun _ => some 100) noFilters
      (fun index => (reads.lists index).requests) (fun _ => ⟨by decide, by decide⟩) roundTrips
    obtain ⟨fuel, ended⟩ := complete.ends additions (by
      intro count before isNext row isRow isNew isBehind
      rw [filter_noFilters] at isRow isNew
      exact added count before isNext row isRow isNew isBehind)
    refine ⟨fuel, ?_⟩
    obtain ⟨filtered, gathered⟩ :=
      @plainPages_ends text reads clientId startedAt finishedAt roundTrips fuel ended
    obtain ⟨kept, perm, rfl⟩ := plainPages_ok roundTrips steady gathered
    have decoded := Keyset.gather_of_answers (fun index before page served =>
      (listsReceived index ▸ getPage_of_ok served : getPage
        (servedAt text reads index) (reads.lostList index) before = .ok page)) gathered
    have results := @correlate_received reads clientId startedAt finishedAt stage attempts
      phase kept steady perm detailsReceived
    unfold correlatedRequests
    simp only [decoded]
    split
    · rename_i succeeded
      rw [if_pos succeeded] at results
      obtain ⟨receipts, correlated⟩ := results
      exact ⟨receipts, congrArg some correlated⟩
    · rename_i failed
      rw [if_neg failed] at results
      exact congrArg some results

end Exact

namespace CorrelationSample

def document (id : Uuid) : Json :=
  .object [
    ("at", .string "2026-07-21T12:00:00Z"),
    ("id", .string (twinId id)),
    ("kind", .string "requests"),
    ("version", .number (.posInt 1))]

def text : CursorText :=
  { twinText with
    fromSlice := fun bytes =>
      if bytes = encodeUtf8 (plainJson (document 1)).toList then
        some (document 1)
      else if bytes = encodeUtf8 (plainJson (document 2)).toList then
        some (document 2)
      else
        none }

def row (id client : Uuid) : ProxyRequestRow where
  id
  requestId := id
  ownerId := none
  downstreamCredentialId := some client
  endpoint := "/v1/chat/completions"
  profileId := "z-ai/glm-5.2"
  stream := false
  modality := "text"
  outcome := .ended .succeeded
  statusCode := some 200
  errorClass := none
  durationMs := some 1
  ttfbMs := none
  failoverCount := 0
  startedAt := twinTime / 1000
  finishedAt := some (twinTime / 1000 + 1000)
  contract := by simp

def tables : RequestTables where
  requests := { rows := [row 1 7, row 2 8], nodup := by decide }
  attempts := .empty
  upstreamKeys := .empty

def reads : CorrelationReads where
  lists := fun _ => tables
  details := fun _ => tables
  lostList := fun _ => false
  lostDetail := fun _ => false

private theorem steady :
    Steady reads 7 twinTime (twinTime + 1000000) (fun _ => 0) [row 1 7] := by
  have listed : tables.requests.rows.filter (isOfPhase 7 twinTime (twinTime + 1000000)) =
      [row 1 7] := by
    decide
  have known : (tables.requests.find? 1).isSome = true := by
    decide
  refine ⟨fun _ => List.Perm.of_eq listed, ?_, fun _ _ _ => rfl⟩
  intro _ row member
  cases List.mem_singleton.mp member
  exact known

private theorem roundTrips : ∀ index, ∀ row ∈ (reads.lists index).requests.rows,
    text.RoundTrips "requests" (fromMicros row.startedAt, row.requestId) := by
  have different : encodeUtf8 (plainJson (document 2)).toList ≠
      encodeUtf8 (plainJson (document 1)).toList := by
    decide +kernel
  intro index other present
  rcases List.mem_pair.mp present with rfl | rfl
  · have isDocument : cursorJson text "requests"
        (fromMicros (row 1 7).startedAt, (row 1 7).requestId) = document 1 :=
      rfl
    refine ⟨?_, rfl, rfl⟩
    rw [isDocument]
    simp [text, twinText]
  · have isDocument : cursorJson text "requests"
        (fromMicros (row 2 8).startedAt, (row 2 8).requestId) = document 2 :=
      rfl
    refine ⟨?_, rfl, rfl⟩
    rw [isDocument]
    simp only [text, twinText, if_neg different, if_true]

theorem correlated_requests_exact_once :
    ∃ fuel receipts, correlatedRequests text reads (some 7) twinTime (twinTime + 1000000)
        "marker" fuel = some (.ok receipts) ∧
      PhaseReceipts (fun _ => 0) "marker" [row 1 7] receipts := by
  obtain ⟨exact_, ends⟩ := @correlated_requests_exact text reads 7 twinTime
    (twinTime + 1000000) "marker" _ _ steady roundTrips
  obtain ⟨fuel, finishes⟩ := ends (fun _ => rfl) (fun _ => rfl) [] (by
    intro count before _ row isRow isNew
    exact absurd (List.mem_map_of_mem isRow) isNew)
  rw [if_pos (by decide)] at finishes
  obtain ⟨receipts, correlated⟩ := finishes
  exact ⟨fuel, receipts, correlated, exact_ fuel receipts correlated⟩

end CorrelationSample

end NvidiaBuildLb.Hermes
