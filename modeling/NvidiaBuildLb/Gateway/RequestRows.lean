import NvidiaBuildLb.Gateway.RateLimitOutcome

namespace NvidiaBuildLb.Gateway

open Foundation NvidiaBuildLb.Core

/-! The rows of one request, and what its handler's own writes make of them. -/

/-- A row of `request_attempts`, as far as these writes look at it. -/
structure AttemptEntry where
  keyId : Uuid
  attemptNo : Nat
  outcome : Outcome AttemptOutcome
  bytesOut : Option Int
  deriving DecidableEq

/-- The row of `downstream_request_permits`. -/
inductive PermitEntry where
  | absent
  | granted
  | released
  deriving DecidableEq

structure RequestRows where
  permit : PermitEntry
  /-- The row of `proxy_requests`. -/
  request : Option (Outcome RequestOutcome)
  /-- In the order of their creation. -/
  attempts : List AttemptEntry

def AttemptEntry.finish (row : AttemptEntry) (outcome : AttemptOutcome)
    (bytesOut : Option Int) : AttemptEntry :=
  { row with
    outcome := .ended outcome
    bytesOut }

/-- `ORDER BY created_at DESC LIMIT 1`, of the open rows of a key. -/
def finishNewest (keyId : Uuid) (terminal : AttemptTerminal) :
    List AttemptEntry → Option (List AttemptEntry)
  | [] => none
  | row :: rest =>
      match finishNewest keyId terminal rest with
      | some finished => some (row :: finished)
      | none =>
          if row.keyId = keyId ∧ row.outcome = .started then
            some (row.finish terminal.outcome terminal.bytesOut :: rest)
          else
            none

namespace RequestRows

def empty : RequestRows where
  permit := .absent
  request := none
  attempts := []

def nextAttemptNo (rows : RequestRows) : Nat :=
  (rows.attempts.map AttemptEntry.attemptNo).foldl max 0 + 1

/-- There is one row for a `request_id`. -/
def insertRequest (rows : RequestRows) (outcome : Outcome RequestOutcome) :
    Option RequestRows :=
  if rows.request = none then some { rows with request := some outcome } else none

def addAttempt (rows : RequestRows) (keyId : Uuid) (attemptNo : Nat) : RequestRows :=
  { rows with
    attempts := rows.attempts ++
      [{ keyId, attemptNo, outcome := .started, bytesOut := none }] }

/-- The table has room for eight attempts of a request. -/
def insertAttempt (rows : RequestRows) (keyId : Uuid) : Option RequestRows :=
  if rows.request = some .started ∧ rows.nextAttemptNo ≤ 8 then
    some (rows.addAttempt keyId rows.nextAttemptNo)
  else
    none

def finishRequest (rows : RequestRows) (outcome : RequestOutcome) : Option RequestRows :=
  if rows.request = some .started then
    some { rows with request := some (.ended outcome) }
  else
    none

def finishAttempt (rows : RequestRows) (keyId : Uuid) (terminal : AttemptTerminal) :
    Option RequestRows :=
  (finishNewest keyId terminal rows.attempts).map fun attempts => { rows with attempts }

def finishOpenAttempts (rows : RequestRows) (terminal : OpenTerminal) : RequestRows :=
  { rows with
    attempts := rows.attempts.map fun row =>
      if row.outcome = .started then
        row.finish terminal.outcome (some (bytesColumn terminal.bytesOut))
      else
        row }

/-- What a write leaves that has this answer; `none` where the database would
have refused it. -/
def after (rows : RequestRows) (op : ProxyOp) (answer : op.Answer) :
    Option RequestRows :=
  match op, answer with
  | .acquireDownstreamPermit, .ok true =>
      if rows.permit = .absent then some { rows with permit := .granted } else none
  | .releaseDownstreamPermit, .ok () =>
      some { rows with
        permit := if rows.permit = .granted then .released else rows.permit }
  | .selectAndStartRequest, .ok none => rows.insertRequest (.ended .failed)
  | .selectAndStartRequest, .ok (some keyId) =>
      (rows.insertRequest .started).map fun rows => rows.addAttempt keyId 1
  | .proxyRequestStarted, .ok () => rows.insertRequest .started
  | .attemptStarted keyId, .ok () => rows.insertAttempt keyId
  | .attemptResponseStarted keyId _, .ok () =>
      if rows.attempts.any fun row => row.keyId = keyId && row.outcome = .started then
        some rows
      else
        none
  | .attemptFinished keyId terminal, .ok () => rows.finishAttempt keyId terminal
  | .requestAndAttemptFinished keyId attempt request, .ok () =>
      (rows.finishAttempt keyId attempt).bind fun rows =>
        rows.finishRequest request.outcome
  | .proxyRequestFinished request, .ok () => rows.finishRequest request.outcome
  | .requestAndOpenAttemptsFinished terminal, .ok () =>
      (rows.finishOpenAttempts terminal).finishRequest terminal.outcome.ofRequest
  | _, _ => some rows

end RequestRows

/-- The rows after a log, if the database did what its answers say. -/
def rowsOf (log : ProxyLog) : Option RequestRows :=
  log.foldlM (fun rows exchange => rows.after exchange.op exchange.answer) .empty

theorem rowsOf_snoc (log : ProxyLog) (op : ProxyOp) (answer : op.Answer) :
    rowsOf (log ++ [⟨op, answer⟩]) = (rowsOf log).bind fun rows => rows.after op answer := by
  simp [rowsOf, List.foldlM_append]

/-- An error that may hide a write that took effect. -/
def hides (op : ProxyOp) (answer : op.Answer) : Bool :=
  match op, answer with
  | .acquireDownstreamPermit, .error _ => true
  | .releaseDownstreamPermit, .error _ => true
  | op, answer => evidenceFails op answer

/-- What the database did of what a handler asked and was answered. -/
inductive Did : ProxyLog → ProxyLog → Prop where
  | nil : Did [] []
  | snoc {log done : ProxyLog} {op : ProxyOp} {answer : op.Answer} (effect : op.Answer)
      (earlier : Did log done) (heard : effect = answer ∨ hides op answer = true) :
      Did (log ++ [⟨op, answer⟩]) (done ++ [⟨op, effect⟩])

/-- The rows there may be after a log. -/
def Recorded (log : ProxyLog) (rows : RequestRows) : Prop :=
  ∃ done, Did log done ∧ rowsOf done = some rows

theorem did_self (log : ProxyLog) : Did log log := by
  induction log using List.reverseRecOn with
  | nil => exact .nil
  | append_singleton log exchange induction => exact .snoc exchange.answer induction (.inl rfl)

theorem did_snoc {log done : ProxyLog} {op : ProxyOp} {answer : op.Answer}
    (did : Did (log ++ [⟨op, answer⟩]) done) :
    ∃ earlier effect, done = earlier ++ [⟨op, effect⟩] ∧ Did log earlier ∧
      (effect = answer ∨ hides op answer = true) := by
  generalize same : log ++ [⟨op, answer⟩] = whole at did
  cases did with
  | nil => simp at same
  | @snoc front done other heard effect earlier isHeard =>
      obtain ⟨rfl, isLast⟩ := List.append_inj' same rfl
      cases isLast
      exact ⟨done, effect, rfl, earlier, isHeard⟩

theorem recorded_nil {rows : RequestRows} (recorded : Recorded [] rows) : rows = .empty := by
  obtain ⟨done, did, isRows⟩ := recorded
  generalize same : ([] : ProxyLog) = log at did
  cases did with
  | nil => exact (Option.some.inj isRows).symm
  | snoc effect earlier heard => simp at same

theorem recorded_snoc {log : ProxyLog} {op : ProxyOp} {answer : op.Answer}
    {rows' : RequestRows} (recorded : Recorded (log ++ [⟨op, answer⟩]) rows') :
    ∃ rows effect, Recorded log rows ∧ (effect = answer ∨ hides op answer = true) ∧
      rows.after op effect = some rows' := by
  obtain ⟨done, did, isRows⟩ := recorded
  obtain ⟨earlier, effect, rfl, before, heard⟩ := did_snoc did
  rw [rowsOf_snoc] at isRows
  obtain ⟨rows, isBefore, wrote⟩ := Option.bind_eq_some_iff.mp isRows
  exact ⟨rows, effect, ⟨earlier, before, isBefore⟩, heard, wrote⟩

def AttemptEntry.Goes (row row' : AttemptEntry) : Prop :=
  row'.keyId = row.keyId ∧ row'.attemptNo = row.attemptNo ∧
    (row.outcome ≠ .started → row'.outcome ≠ .started)

/-- The attempts are the same ones, further on. -/
def Goes (attempts attempts' : List AttemptEntry) : Prop :=
  List.Forall₂ AttemptEntry.Goes attempts attempts'

def AllEnded (attempts : List AttemptEntry) : Prop :=
  ∀ row ∈ attempts, row.outcome ≠ .started

section Goes

variable {attempts attempts' : List AttemptEntry} {keyId : Uuid} {terminal : AttemptTerminal}

theorem goes_refl (attempts : List AttemptEntry) : Goes attempts attempts :=
  List.forall₂_same.mpr fun _ _ => ⟨rfl, rfl, id⟩

theorem Goes.keys (goes : Goes attempts attempts') :
    attempts'.map AttemptEntry.keyId = attempts.map AttemptEntry.keyId := by
  induction goes with
  | nil => rfl
  | cons row rest induction => rw [List.map_cons, List.map_cons, row.1, induction]

theorem Goes.numbers (goes : Goes attempts attempts') :
    attempts'.map AttemptEntry.attemptNo = attempts.map AttemptEntry.attemptNo := by
  induction goes with
  | nil => rfl
  | cons row rest induction => rw [List.map_cons, List.map_cons, row.2.1, induction]

theorem Goes.ended (goes : Goes attempts attempts') (ended : AllEnded attempts) :
    AllEnded attempts' := by
  induction goes with
  | nil => exact ended
  | cons row rest induction =>
      obtain ⟨first, others⟩ := List.forall_mem_cons.mp ended
      exact List.forall_mem_cons.mpr ⟨row.2.2 first, induction others⟩

theorem Goes.dropLast (goes : Goes attempts attempts') :
    Goes attempts.dropLast attempts'.dropLast := by
  rw [List.dropLast_eq_take, List.dropLast_eq_take, ← goes.length_eq]
  exact List.forall₂_take _ goes

theorem finishNewest_goes (finished : finishNewest keyId terminal attempts = some attempts') :
    Goes attempts attempts' := by
  induction attempts generalizing attempts' with
  | nil => cases finished
  | cons row rest induction =>
      unfold finishNewest at finished
      split at finished
      case h_1 others isOthers =>
          cases finished
          exact .cons ⟨rfl, rfl, id⟩ (induction isOthers)
      case h_2 =>
          split at finished
          case isTrue =>
              cases finished
              exact .cons ⟨rfl, rfl, fun _ => nofun⟩ (goes_refl rest)
          case isFalse => cases finished

theorem finishNewest_ended (ended : AllEnded attempts.dropLast)
    (finished : finishNewest keyId terminal attempts = some attempts') :
    AllEnded attempts' := by
  induction attempts generalizing attempts' with
  | nil => cases finished
  | cons row rest induction =>
      unfold finishNewest at finished
      cases rest with
      | nil =>
          simp only [finishNewest] at finished
          split at finished
          case isTrue =>
              cases finished
              exact List.forall_mem_singleton.mpr nofun
          case isFalse => cases finished
      | cons next others =>
          rw [List.dropLast_cons_cons] at ended
          obtain ⟨first, before⟩ := List.forall_mem_cons.mp ended
          split at finished
          case h_1 finishedRest isRest =>
              cases finished
              exact List.forall_mem_cons.mpr ⟨first, induction before isRest⟩
          case h_2 =>
              split at finished
              case isTrue isOpen => exact absurd isOpen.2 first
              case isFalse => cases finished

theorem finishOpenAttempts_goes (rows : RequestRows) (terminal : OpenTerminal) :
    Goes rows.attempts (rows.finishOpenAttempts terminal).attempts := by
  unfold Goes RequestRows.finishOpenAttempts
  rw [List.forall₂_map_right_iff]
  refine List.forall₂_same.mpr fun row _ => ?_
  split
  · exact ⟨rfl, rfl, fun _ => nofun⟩
  · exact ⟨rfl, rfl, id⟩

theorem finishOpenAttempts_ended (rows : RequestRows) (terminal : OpenTerminal) :
    AllEnded (rows.finishOpenAttempts terminal).attempts := by
  intro row member
  obtain ⟨before, _, rfl⟩ := List.mem_map.mp member
  split
  case isTrue => nofun
  case isFalse isEnded => exact isEnded

end Goes

end NvidiaBuildLb.Gateway
