import NvidiaBuildLb.Gateway.Ledger

namespace NvidiaBuildLb.Gateway

open Foundation NvidiaBuildLb.Core

/-! A request ends once: no writer of the ledger touches the end that another
one has committed, whatever the order of their statements. -/

def ProxyRequestRow.KeepsEnd (row row' : ProxyRequestRow) : Prop :=
  row.outcome ≠ .started → row'.outcome = row.outcome ∧
    row'.statusCode = row.statusCode ∧ row'.errorClass = row.errorClass

def RequestAttemptRow.KeepsPlace (row row' : RequestAttemptRow) : Prop :=
  row'.requestId = row.requestId ∧ row'.profileId = row.profileId ∧
    row'.keyId = row.keyId

def ledgerKeeps : ∀ key, LedgerRow key → LedgerRow key → Prop
  | .request _, row, row' => row.val.KeepsEnd row'.val
  | .attempt _, row, row' => row.val.KeepsPlace row'.val
  | .receipt _ _, _, _ => True

def ledgerSuccession : Succession LedgerRow :=
  .keeping ledgerKeeps
    (by
      intro key row
      cases key with
      | request requestId => exact fun _ => ⟨rfl, rfl, rfl⟩
      | attempt id => exact ⟨rfl, rfl, rfl⟩
      | receipt profileId keyId => trivial)
    (by
      intro key first second third earlier later
      cases key with
      | request requestId =>
          intro ended
          obtain ⟨outcome, status, class_⟩ := earlier ended
          obtain ⟨outcome', status', class_'⟩ := later (outcome ▸ ended)
          exact ⟨outcome'.trans outcome, status'.trans status,
            class_'.trans class_⟩
      | attempt id =>
          exact ⟨later.1.trans earlier.1, later.2.1.trans earlier.2.1,
            later.2.2.trans earlier.2.2⟩
      | receipt profileId keyId => trivial)

section Respects

variable {next : Nat → LedgerScript}

theorem updateRequests_respects
    {qualifies : LedgerRows → ProxyRequestRow → Bool}
    {change : LedgerRows → ProxyRequestRow → ProxyRequestRow}
    {keeps : ∀ rows row, (change rows row).requestId = row.requestId}
    (kept : ∀ rows row, qualifies rows row = true →
      row.KeepsEnd (change rows row))
    (rest : ∀ affected, (next affected).Respects ledgerSuccession) :
    (updateRequests qualifies change keeps next).Respects ledgerSuccession := by
  refine ⟨?_, rest⟩
  intro rows key current row edited before isBefore
  subst isBefore
  cases key with
  | request requestId =>
      simp only [requestEdit] at edited
      split at edited
      · rename_i qualified
        cases edited
        exact ⟨_, rfl, kept rows before.val qualified⟩
      · cases edited
  | attempt id => cases edited
  | receipt profileId keyId => cases edited

theorem updateAttempts_respects
    {qualifies : LedgerRows → RequestAttemptRow → Bool}
    {change : RequestAttemptRow → RequestAttemptRow}
    {keeps : ∀ row, (change row).id = row.id}
    (kept : ∀ row : RequestAttemptRow, row.KeepsPlace (change row))
    (rest : ∀ affected, (next affected).Respects ledgerSuccession) :
    (updateAttempts qualifies change keeps next).Respects ledgerSuccession := by
  refine ⟨?_, rest⟩
  intro rows key current row edited before isBefore
  subst isBefore
  cases key with
  | request requestId => cases edited
  | attempt id =>
      simp only [attemptEdit] at edited
      split at edited
      · cases edited
        exact ⟨_, rfl, kept before.val⟩
      · cases edited
  | receipt profileId keyId => cases edited

theorem insertRequest_respects {row : ProxyRequestRow}
    (rest : ∀ affected, (next affected).Respects ledgerSuccession) :
    (insertRequest row next).Respects ledgerSuccession := by
  refine ⟨?_, rest⟩
  intro rows key current inserted edited before isBefore
  subst isBefore
  cases key <;> cases edited

theorem insertAttempt_respects {row : LedgerRows → Option RequestAttemptRow}
    (rest : ∀ affected, (next affected).Respects ledgerSuccession) :
    (insertAttempt row next).Respects ledgerSuccession := by
  refine ⟨?_, rest⟩
  intro rows key current inserted edited before isBefore
  subst isBefore
  cases key <;> cases edited

theorem persistReceipt_respects {profileId : String} {keyId : Uuid}
    {now : Micros} {rest : LedgerScript}
    (respects : rest.Respects ledgerSuccession) :
    (persistReceipt profileId keyId now rest).Respects ledgerSuccession := by
  refine ⟨?_, fun _ => respects⟩
  intro rows key current row edited before isBefore
  cases key with
  | request requestId => cases edited
  | attempt id => cases edited
  | receipt profileId keyId => exact ⟨row, rfl, trivial⟩

theorem exactlyOne_respects {text : String} {rest : LedgerScript}
    (respects : rest.Respects ledgerSuccession) (affected : Nat) :
    (exactlyOne text rest affected).Respects ledgerSuccession := by
  unfold exactlyOne
  split
  · exact respects
  · trivial

theorem finishRequest_respects {requestId : Uuid} {now : Micros}
    {terminal : RequestTerminal}
    (rest : ∀ affected, (next affected).Respects ledgerSuccession) :
    (finishRequest requestId now terminal next).Respects ledgerSuccession := by
  refine updateRequests_respects ?_ rest
  intro rows row qualified ended
  simp only [Bool.and_eq_true, decide_eq_true_eq] at qualified
  exact absurd qualified.2 ended

theorem abandonRequests_respects {now : Micros}
    (rest : ∀ affected, (next affected).Respects ledgerSuccession) :
    (abandonRequests now next).Respects ledgerSuccession := by
  refine updateRequests_respects ?_ rest
  intro rows row qualified ended
  simp only [Bool.and_eq_true, Option.isNone_iff_eq_none] at qualified
  exact absurd (row.contract.mpr qualified.1) ended

theorem LedgerCall.script_respects (call : LedgerCall) :
    call.script.Respects ledgerSuccession := by
  cases call with
  | proxyRequestStarted request now =>
      exact insertRequest_respects (exactlyOne_respects trivial)
  | attemptStarted attempt now =>
      exact insertAttempt_respects (exactlyOne_respects trivial)
  | attemptResponseStarted requestId keyId ownerId ttfbMs =>
      exact updateAttempts_respects (fun _ => ⟨rfl, rfl, rfl⟩)
        (exactlyOne_respects trivial)
  | attemptFinished requestId keyId ownerId now terminal =>
      exact updateAttempts_respects (fun _ => ⟨rfl, rfl, rfl⟩)
        (exactlyOne_respects trivial)
  | attemptReceiptPersisted profileId keyId now =>
      exact persistReceipt_respects trivial
  | proxyRequestFinished requestId now terminal =>
      exact finishRequest_respects (exactlyOne_respects trivial)
  | requestAndAttemptFinished requestId keyId ownerId now attempt request =>
      intro rows
      dsimp only
      split
      · trivial
      · refine updateAttempts_respects (fun _ => ⟨rfl, rfl, rfl⟩)
          (exactlyOne_respects ?_)
        split
        · exact persistReceipt_respects
            (finishRequest_respects (exactlyOne_respects trivial))
        · exact finishRequest_respects (exactlyOne_respects trivial)
  | proxyRequestAndOpenAttemptsFinished requestId ownerId now terminal =>
      refine updateAttempts_respects (fun _ => ⟨rfl, rfl, rfl⟩) fun _ => ?_
      exact finishRequest_respects (exactlyOne_respects trivial)
  | cleanupStaleProxyRequests now =>
      exact abandonRequests_respects fun _ => trivial
  | cleanupStaleAttempts now =>
      exact updateAttempts_respects (fun _ => ⟨rfl, rfl, rfl⟩) fun _ => trivial
  | registerOwner now =>
      refine updateAttempts_respects (fun _ => ⟨rfl, rfl, rfl⟩) fun _ => ?_
      refine abandonRequests_respects fun _ => ?_
      refine updateAttempts_respects (fun _ => ⟨rfl, rfl, rfl⟩) fun _ => ?_
      exact updateRequests_respects (fun _ _ _ _ => ⟨rfl, rfl, rfl⟩)
        fun _ => trivial

end Respects

theorem newestAttempt_mem {rows : List RequestAttemptRow}
    {newest : RequestAttemptRow} (found : newestAttempt rows = some newest) :
    newest ∈ rows := by
  induction rows generalizing newest with
  | nil => cases found
  | cons row rest induction =>
      unfold newestAttempt at found
      split at found
      · rename_i other isOther
        split at found
        · cases found
          exact List.mem_cons_of_mem row (induction isOther)
        · cases found
          exact List.mem_cons_self
      · cases found
        exact List.mem_cons_self

theorem LedgerRows.newestOpenAttempt_mem {rows : LedgerRows}
    {requestId keyId ownerId : Uuid} {row : RequestAttemptRow}
    (found : rows.newestOpenAttempt requestId keyId ownerId = some row) :
    row ∈ rows.attempts.rows ∧ row.requestId = requestId ∧
      row.keyId = keyId := by
  have member := newestAttempt_mem found
  rw [List.mem_filter] at member
  have qualified := member.2
  simp only [Bool.and_eq_true, decide_eq_true_eq] at qualified
  exact ⟨member.1, qualified.1.1⟩

theorem LedgerRows.get_attempt {rows : LedgerRows} {row : RequestAttemptRow}
    (member : row ∈ rows.attempts.rows) :
    rows.get (.attempt row.id) = some ⟨row, rfl⟩ :=
  Table.lookup_eq_some_iff.mpr (Table.find?_eq_some_iff.mpr ⟨member, rfl⟩)

theorem attemptEdit_write {qualifies : LedgerRows → RequestAttemptRow → Bool}
    {change : RequestAttemptRow → RequestAttemptRow}
    {keeps : ∀ row, (change row).id = row.id} {rows : LedgerRows}
    {write : Write LedgerRow}
    (edited : attemptEdit qualifies change keeps rows write.key write.before =
      some write.row) :
    ∃ id, ∃ before row : LedgerRow (.attempt id),
      write = { key := .attempt id, before := some before, row } ∧
        qualifies rows before.val = true ∧ row.val = change before.val := by
  obtain ⟨key, before, row⟩ := write
  cases key with
  | request requestId => cases edited
  | receipt profileId keyId => cases edited
  | attempt id =>
      cases before with
      | none => cases edited
      | some before =>
          simp only [attemptEdit] at edited
          split at edited
          · rename_i qualified
            exact ⟨id, before, row, rfl, qualified,
              congrArg Subtype.val (Option.some.inj edited).symm⟩
          · cases edited

theorem requestEdit_write {qualifies : LedgerRows → ProxyRequestRow → Bool}
    {change : LedgerRows → ProxyRequestRow → ProxyRequestRow}
    {keeps : ∀ rows row, (change rows row).requestId = row.requestId}
    {rows : LedgerRows} {write : Write LedgerRow}
    (edited : requestEdit qualifies change keeps rows write.key write.before =
      some write.row) :
    ∃ requestId, ∃ before row : LedgerRow (.request requestId),
      write = { key := .request requestId, before := some before, row } ∧
        qualifies rows before.val = true ∧
          row.val = change rows before.val := by
  obtain ⟨key, before, row⟩ := write
  cases key with
  | attempt id => cases edited
  | receipt profileId keyId => cases edited
  | request requestId =>
      cases before with
      | none => cases edited
      | some before =>
          simp only [requestEdit] at edited
          split at edited
          · rename_i qualified
            exact ⟨requestId, before, row, rfl, qualified,
              congrArg Subtype.val (Option.some.inj edited).symm⟩
          · cases edited

section SuccessPath

variable (requestId keyId ownerId : Uuid) (now : Micros)
  (attempt : AttemptTerminal) (request : RequestTerminal)

/-- The version of a parent that has just left `started`. -/
def ParentWrite (write : Write LedgerRow) : Prop :=
  ∃ parent row : LedgerRow (.request requestId), ∃ attempts,
    write = { key := .request requestId, before := some parent, row } ∧
      parent.val.outcome = .started ∧
      row.val = parent.val.finish now attempts request

def ChildWrite (write : Write LedgerRow) : Prop :=
  ∃ id, ∃ child row : LedgerRow (.attempt id),
    write = { key := .attempt id, before := some child, row } ∧
      child.val.requestId = requestId ∧ child.val.keyId = keyId ∧
      row.val = child.val.finish now attempt

/-- The receipt of a success, for the profile of an attempt of the request on
that key. -/
def ReceiptWrites (writes : List (Write LedgerRow)) (rows : LedgerRows) :
    Prop :=
  if attempt.outcome = .succeeded then
    ∃ sibling profileId current, ∃ row : LedgerRow (.receipt profileId keyId),
      writes = [{ key := .receipt profileId keyId, before := current, row }] ∧
        row.val.verifiedAt = now ∧ row.val.invalidatedAt = none ∧
        row.val.invalidationReason = none ∧
        rows.attempts.find? sibling.id = some sibling ∧
        sibling.requestId = requestId ∧ sibling.keyId = keyId ∧
        sibling.profileId = profileId
  else
    writes = []

def FinishWrites (reply : LedgerReply) (writes : List (Write LedgerRow))
    (rows : LedgerRows) : Prop :=
  reply = .done ∧ ∃ child receipts parent,
    writes = child :: (receipts ++ [parent]) ∧
      ChildWrite requestId keyId now attempt child ∧
      ReceiptWrites requestId keyId now attempt receipts rows ∧
      ParentWrite requestId now request parent

def LedgerReply.Refused (reply : LedgerReply) : Prop :=
  ∃ text, reply = .refused text

variable {requestId keyId ownerId now attempt request}

theorem exactlyOne_ends {goal : LedgerReply → List (Write LedgerRow) →
      LedgerRows → Prop} {text : String} {rest : LedgerScript}
    {seen : LedgerRows → Prop} {writes : List (Write LedgerRow)}
    {affected : Nat}
    (ends : affected = 1 → rest.Ends LedgerRows.keyed ledgerSuccession goal
      LedgerReply.Refused seen writes) :
    (exactlyOne text rest affected).Ends LedgerRows.keyed ledgerSuccession goal
      LedgerReply.Refused seen writes := by
  unfold exactlyOne
  split
  · rename_i one
    exact ends one
  · exact ⟨text, rfl⟩

theorem finishRequest_ends {text : String}
    {goal : LedgerReply → List (Write LedgerRow) → LedgerRows → Prop}
    {seen : LedgerRows → Prop} {writes : List (Write LedgerRow)}
    (reached : ∀ rows parent, seen rows → ParentWrite requestId now request parent →
      goal .done (writes ++ [parent]) rows) :
    (finishRequest requestId now request
      (exactlyOne text (.commit .done))).Ends LedgerRows.keyed ledgerSuccession
        goal LedgerReply.Refused seen writes := by
  intro rows more _ updates
  apply exactlyOne_ends
  intro one later sees
  obtain ⟨write, rfl, edited, -⟩ := updates.single one
  obtain ⟨id, parent, row, rfl, qualified, finished⟩ := requestEdit_write edited
  simp only [Bool.and_eq_true, decide_eq_true_eq] at qualified
  have isParent : id = requestId := parent.property.symm.trans qualified.1
  subst isParent
  exact reached later _ sees.1
    ⟨parent, row, _, rfl, qualified.2, finished⟩

theorem childWrite_of_updates {rows : LedgerRows}
    {writes : List (Write LedgerRow)} {candidates : List LedgerKey}
    (updates : Updates LedgerRows.keyed ledgerSuccession
      (attemptEdit
        (fun rows row => (rows.newestOpenAttempt requestId keyId ownerId).any
          fun newest => row.id = newest.id)
        (fun row => row.finish now attempt) (fun _ => rfl))
      rows candidates writes)
    (one : writes.length = 1) :
    ∃ child, writes = [child] ∧
      ChildWrite requestId keyId now attempt child := by
  obtain ⟨write, rfl, edited, follows⟩ := updates.single one
  obtain ⟨id, child, row, rfl, qualified, finished⟩ := attemptEdit_write edited
  obtain ⟨newest, found, isNewest⟩ := (Option.any_eq_true _ _).mp qualified
  have chosen : id = newest.id :=
    child.property.symm.trans (of_decide_eq_true isNewest)
  subst chosen
  obtain ⟨member, ofRequest, ofKey⟩ := LedgerRows.newestOpenAttempt_mem found
  obtain ⟨found', isChild, kept⟩ := follows _ (LedgerRows.get_attempt member)
  cases isChild
  exact ⟨_, rfl, newest.id, child, row, rfl, kept.1.trans ofRequest,
    kept.2.2.trans ofKey, finished⟩

theorem requestAndAttemptFinished_ends :
    (requestAndAttemptFinished requestId keyId ownerId now attempt
      request).Ends LedgerRows.keyed ledgerSuccession
        (FinishWrites requestId keyId now attempt request)
        LedgerReply.Refused (fun _ => True) [] := by
  intro rows _
  dsimp only
  split
  · exact ⟨_, rfl⟩
  · rename_i newest found
    obtain ⟨member, ofRequest, ofKey⟩ := LedgerRows.newestOpenAttempt_mem found
    intro rows' writes _ updates
    apply exactlyOne_ends
    intro one
    obtain ⟨child, rfl, isChild⟩ := childWrite_of_updates updates one
    split
    · rename_i succeeded
      intro rows'' receipts _ updatesReceipt
      obtain ⟨current, row, rfl, edited⟩ := updatesReceipt.certain
        fun _ impossible => by cases impossible
      apply finishRequest_ends
      intro later parent sees isParent
      refine ⟨rfl, child, _, parent, rfl, isChild, ?_, isParent⟩
      rw [ReceiptWrites, if_pos succeeded]
      -- The attempt the profile was read from is still of this request.
      obtain ⟨sibling, isSibling, kept⟩ :=
        sees.1.1.2 (.attempt newest.id) _ (LedgerRows.get_attempt member)
      have isRow := congrArg Subtype.val (Option.some.inj edited)
      refine ⟨sibling.val, newest.profileId, current, row, rfl, ?_, ?_, ?_, ?_,
        kept.1.trans ofRequest, kept.2.2.trans ofKey, kept.2.1⟩
      · exact isRow ▸ rfl
      · exact isRow ▸ rfl
      · exact isRow ▸ rfl
      · rw [sibling.property]
        exact Table.lookup_eq_some_iff.mp isSibling
    · rename_i unsuccessful
      apply finishRequest_ends
      intro later parent sees isParent
      refine ⟨rfl, child, [], parent, rfl, isChild, ?_, isParent⟩
      rw [ReceiptWrites, if_neg unsuccessful]

variable (requestId keyId now attempt request)

/-- The parent, its attempt and the receipt of a success, all at once. -/
structure FinishedTogether (before after : LedgerRows) : Prop where
  parent : ∃ row attempts, before.requests.find? requestId = some row ∧
    row.outcome = .started ∧
    after.requests.find? requestId = some (row.finish now attempts request)
  child : ∃ row, before.attempts.find? row.id = some row ∧
    row.requestId = requestId ∧ row.keyId = keyId ∧
    after.attempts.find? row.id = some (row.finish now attempt)
  receipt : attempt.outcome = .succeeded → ∃ sibling row,
    after.attempts.find? sibling.id = some sibling ∧
    sibling.requestId = requestId ∧ sibling.keyId = keyId ∧
    after.receipts.find? (sibling.profileId, keyId) = some row ∧
    row.verifiedAt = now ∧ row.invalidatedAt = none ∧
    row.invalidationReason = none

variable {requestId keyId now attempt request}

theorem ReceiptWrites.key_of_mem {writes : List (Write LedgerRow)}
    {rows : LedgerRows}
    (receipts : ReceiptWrites requestId keyId now attempt writes rows)
    {write : Write LedgerRow} (member : write ∈ writes) :
    ∃ profileId, write.key = .receipt profileId keyId := by
  unfold ReceiptWrites at receipts
  split at receipts
  · obtain ⟨sibling, profileId, current, row, rfl, -⟩ := receipts
    rw [List.mem_singleton.mp member]
    exact ⟨profileId, rfl⟩
  · subst receipts
    cases member

theorem FinishWrites.together {before after : LedgerRows}
    {reply : LedgerReply} {writes : List (Write LedgerRow)}
    (finish : FinishWrites requestId keyId now attempt request reply writes
      after)
    (committed : after = Locked.view LedgerRows.keyed before writes)
    (grounded : ∀ done write rest, writes = done ++ write :: rest →
      LedgerRows.keyed.get (Locked.view LedgerRows.keyed before done)
        write.key = write.before) :
    FinishedTogether requestId keyId now attempt request before after := by
  obtain ⟨-, childWrite, receipts, parentWrite, rfl, isChild, isReceipts,
    isParent⟩ := finish
  obtain ⟨id, child, childRow, rfl, ofRequest, ofKey, childFinished⟩ := isChild
  obtain ⟨parent, parentRow, attempts, rfl, isStarted, parentFinished⟩ := isParent
  let keyed := LedgerRows.keyed
  let childWrite : Write LedgerRow :=
    { key := .attempt id, before := some child, row := childRow }
  let parentWrite : Write LedgerRow :=
    { key := .request requestId, before := some parent, row := parentRow }
  have childBefore : before.get (.attempt id) = some child :=
    grounded [] childWrite (receipts ++ [parentWrite]) rfl
  have childAfter : after.get (.attempt id) = some childRow := by
    rw [committed]
    apply Locked.get_view_of_last keyed before [] childWrite
    intro write member
    cases List.mem_append.mp member with
    | inl isReceipt =>
        obtain ⟨profileId, isKey⟩ := isReceipts.key_of_mem isReceipt
        exact isKey ▸ nofun
    | inr isParent => exact List.mem_singleton.mp isParent ▸ nofun
  have parentBefore : before.get (.request requestId) = some parent := by
    refine Eq.trans (Eq.symm ?_)
      (grounded (childWrite :: receipts) parentWrite [] rfl)
    apply Locked.get_view_of_unwritten keyed before
    intro write member
    cases List.mem_cons.mp member with
    | inl isChild => exact isChild ▸ nofun
    | inr isReceipt =>
        obtain ⟨profileId, isKey⟩ := isReceipts.key_of_mem isReceipt
        exact isKey ▸ nofun
  have parentAfter : after.get (.request requestId) = some parentRow := by
    rw [committed]
    exact Locked.get_view_of_last keyed before (childWrite :: receipts)
      parentWrite fun _ member => by cases member
  refine ⟨⟨parent.val, attempts, Table.lookup_eq_some_iff.mp parentBefore,
    isStarted, ?_⟩, ⟨child.val, ?_, ofRequest, ofKey, ?_⟩, ?_⟩
  · exact parentFinished ▸ Table.lookup_eq_some_iff.mp parentAfter
  · rw [child.property]
    exact Table.lookup_eq_some_iff.mp childBefore
  · rw [child.property, ← childFinished]
    exact Table.lookup_eq_some_iff.mp childAfter
  · intro succeeded
    rw [ReceiptWrites, if_pos succeeded] at isReceipts
    obtain ⟨sibling, profileId, current, row, rfl, verified, valid, unexplained,
      found, siblingRequest, siblingKey, rfl⟩ := isReceipts
    let receiptWrite : Write LedgerRow :=
      { key := .receipt sibling.profileId keyId, before := current, row }
    have receiptAfter :
        after.get (.receipt sibling.profileId keyId) = some row := by
      rw [committed]
      refine Locked.get_view_of_last keyed before [childWrite] receiptWrite ?_
      intro write member
      exact List.mem_singleton.mp member ▸ nofun
    exact ⟨sibling, row.val, found, siblingRequest, siblingKey,
      Table.lookup_eq_some_iff.mp receiptAfter, verified, valid, unexplained⟩

end SuccessPath

/-- Whatever the writers of the ledger do, in whatever order and with whatever
failures: a request that has ended keeps its end; and the transaction of the
success path changes nothing, or the request, its attempt and the receipt of
their success together. -/
theorem ledger_ends_once {τ : Type} [DecidableEq τ] (start : LedgerRows)
    (calls : τ → LedgerCall)
    (events later : List (Event τ WorkAction (Table GatewayInstanceRow.id))) :
    (∀ requestId row,
      (ledgerRun start calls events).shared.rows.requests.find? requestId =
        some row → row.outcome ≠ .started →
      ∃ row', (ledgerRun start calls
          (events ++ later)).shared.rows.requests.find? requestId = some row' ∧
        row'.outcome = row.outcome ∧ row'.statusCode = row.statusCode ∧
        row'.errorClass = row.errorClass) ∧
    (∀ thread action requestId keyId ownerId now attempt request,
      calls thread = .requestAndAttemptFinished requestId keyId ownerId now
        attempt request →
      let before := ledgerRun start calls events
      let after := (ledger τ).step before (.moves thread action)
      (after.shared.rows = before.shared.rows ∧
        ((after.locals thread).progress = .ended (some .done) →
          (before.locals thread).progress = .ended (some .done))) ∨
        FinishedTogether requestId keyId now attempt request before.shared.rows
          after.shared.rows) := by
  have respects := fun thread => (calls thread).script_respects
  have undisturbed : ∀ instances rows,
      LedgerRows.keyed.get (instancesChange instances rows) =
        LedgerRows.keyed.get rows := by
    intro instances rows
    funext key
    cases key <;> rfl
  constructor
  · intro requestId row found ended
    have since := @replay_since _ _ τ _ _ _ _ _ _ _ instancesChange start
      (fun thread => (calls thread).script) respects undisturbed events later
    obtain ⟨row', found', kept⟩ := since (.request requestId)
      ⟨row, Table.key_of_find? found⟩ (Table.lookup_eq_some_iff.mpr found)
    exact ⟨row'.val, Table.lookup_eq_some_iff.mp found', kept ended⟩
  · intro thread action requestId keyId ownerId now attempt request isCall
      before after
    have ends : ∀ other, (calls other).script.Ends LedgerRows.keyed
        ledgerSuccession
        (if other = thread then FinishWrites requestId keyId now attempt request
          else fun _ _ _ => True)
        (if other = thread then LedgerReply.Refused else fun _ => True)
        (fun _ => True) [] := by
      intro other
      by_cases same : other = thread
      · subst same
        rw [if_pos rfl, if_pos rfl, isCall]
        exact requestAndAttemptFinished_ends
      · rw [if_neg same, if_neg same]
        exact Script.ends_anyway _ _ _
    have moved := @step_ends _ _ τ _ _ _ _ _ _ _ instancesChange start
      (fun thread => (calls thread).script) _ _ respects undisturbed ends events
      thread action
    rw [if_pos rfl, if_pos rfl] at moved
    cases moved with
    | inl unchanged =>
        refine .inl ⟨unchanged.1, fun done => ?_⟩
        cases unchanged.2 .done done with
        | inl already => exact already
        | inr refused =>
            obtain ⟨text, impossible⟩ := refused
            cases impossible
    | inr committed =>
        obtain ⟨reply, writes, finish, isView, grounded⟩ := committed
        exact .inr (finish.together isView grounded)

/-! A recovery that has chosen its attempt before the handler's success
commits comes too late. -/

def sampleLedger : LedgerRows where
  requests := {
    rows := [(⟨10, 1, 5, none, "/v1/chat/completions", "model", false,
      "text"⟩ : StartedRequest).row 0]
    nodup := by decide }
  attempts := {
    rows := [(⟨20, 1, "model", 7, 5⟩ : StartedAttempt).row 0 10 1]
    nodup := by decide }
  receipts := .empty
  instances := .empty

def sampleCalls : Bool → LedgerCall
  | true => .requestAndAttemptFinished 1 7 5 2000
      ⟨.succeeded, some 200, none, none, some 12⟩
      ⟨.succeeded, some 200, none, none⟩
  | false => .proxyRequestAndOpenAttemptsFinished 1 5 3000
      ⟨.failed, none, "handler_abandoned", none, 0⟩

example :
    let turns := false :: List.replicate 12 true ++ List.replicate 12 false
    let final := ledgerRun sampleLedger sampleCalls
      (turns.map fun thread => .moves thread .advance)
    (final.shared.rows.requests.rows.map fun row =>
        (row.outcome, row.statusCode, row.durationMs)) =
      [(Outcome.ended RequestOutcome.succeeded, some 200, some 2)] := by
  decide

end NvidiaBuildLb.Gateway
