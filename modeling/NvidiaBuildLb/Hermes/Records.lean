import NvidiaBuildLb.Core.Primitives

namespace NvidiaBuildLb.Hermes

open Foundation NvidiaBuildLb.Core

/-! What the cutover helper of Hermes writes down and exchanges with the
gateway's admin API. -/

inductive Failure where
  /-- The operating system, docker or the gateway refused a request. -/
  | system
  | bail (message : String)
  | precommit
  | committedReconcilePending
  deriving DecidableEq, Repr

/-- The hyphenated form of an identifier. -/
def uuidText (id : Uuid) : String :=
  let digits := hexDigits (Uuid.asBytes id)
  String.ofList (digits.take 8 ++ '-' :: (digits.drop 8).take 4 ++
    '-' :: (digits.drop 12).take 4 ++ '-' :: (digits.drop 16).take 4 ++
    '-' :: digits.drop 20)

def clientLabelPrefix : String := "hermes-cutover-"

/-- The label of the client a generation issues. -/
def operationLabelOf (generation : Uuid) : String :=
  clientLabelPrefix ++ uuidText generation

private theorem mod_pow_eq {left right : Nat} (count : Nat)
    (same : ∀ index < count,
      left / 256 ^ index % 256 = right / 256 ^ index % 256) :
    left % 256 ^ count = right % 256 ^ count := by
  induction count with
  | zero => simp [Nat.mod_one]
  | succ count induction =>
      rw [Nat.mod_pow_succ, Nat.mod_pow_succ,
        same count (Nat.lt_succ_self count),
        induction fun index below => same index (Nat.lt_succ_of_lt below)]

theorem asBytes_injective : Function.Injective Uuid.asBytes := by
  intro left right same
  apply BitVec.eq_of_toNat_eq
  have bytes : ∀ index < 16,
      left.toNat / 256 ^ index % 256 = right.toNat / 256 ^ index % 256 := by
    intro index below
    have entry := congrArg (fun list : List UInt8 => list[15 - index]?) same
    have position : 15 - index < 16 := by omega
    have back : 15 - (15 - index) = index := by omega
    simp only [Uuid.asBytes, List.getElem?_map, List.getElem?_range position,
      Option.map_some, back] at entry
    have values := congrArg UInt8.toNat (Option.some.inj entry)
    simpa using values
  have whole := mod_pow_eq 16 bytes
  have leftBound := left.isLt
  have rightBound := right.isLt
  rwa [Nat.mod_eq_of_lt (by simpa using leftBound),
    Nat.mod_eq_of_lt (by simpa using rightBound)] at whole

private theorem hexDigit_ne_hyphen {value : Nat} (small : value < 16) :
    hexDigit value ≠ '-' := by
  have all : ∀ candidate < 16, hexDigit candidate ≠ '-' := by decide
  exact all value small

private theorem hexDigits_ne_hyphen {bytes : List UInt8} {digit : Char}
    (member : digit ∈ hexDigits bytes) : digit ≠ '-' := by
  induction bytes with
  | nil => cases member
  | cons byte rest induction =>
      have bound := byte.toNat_lt
      simp only [hexDigits, List.mem_cons] at member
      rcases member with rfl | rfl | inRest
      · exact hexDigit_ne_hyphen (by omega)
      · exact hexDigit_ne_hyphen (by omega)
      · exact induction inRest

private theorem uuidText_digits (id : Uuid) :
    (uuidText id).toList.filter (· ≠ '-') = hexDigits (Uuid.asBytes id) := by
  have digit : ∀ part : List Char, part ⊆ hexDigits (Uuid.asBytes id) →
      part.filter (· ≠ '-') = part := by
    intro part within
    rw [List.filter_eq_self]
    intro character member
    exact decide_eq_true (hexDigits_ne_hyphen (within member))
  have taken : ∀ start count : Nat,
      ((hexDigits (Uuid.asBytes id)).drop start).take count ⊆
        hexDigits (Uuid.asBytes id) := fun start count _ member =>
    List.drop_subset _ _ (List.take_subset _ _ member)
  have first := digit _ (taken 0 8)
  simp only [List.drop_zero] at first
  simp only [uuidText, String.toList_ofList, List.filter_append,
    List.filter_cons, ne_eq, not_true_eq_false, decide_false,
    Bool.false_eq_true, if_false, first, digit _ (taken 8 4),
    digit _ (taken 12 4), digit _ (taken 16 4),
    digit _ (List.drop_subset 20 _)]
  have joined : ∀ start count : Nat,
      ((hexDigits (Uuid.asBytes id)).drop start).take count ++
          (hexDigits (Uuid.asBytes id)).drop (start + count) =
        (hexDigits (Uuid.asBytes id)).drop start := by
    intro start count
    rw [← List.drop_drop, List.take_append_drop]
  simp only [List.append_assoc, joined 16 4, joined 12 4, joined 8 4,
    List.take_append_drop]

theorem operationLabelOf_injective : Function.Injective operationLabelOf := by
  intro left right same
  have texts : uuidText left = uuidText right := by
    have lists := congrArg String.toList same
    simp only [operationLabelOf, String.toList_append,
      List.append_cancel_left_eq] at lists
    exact String.toList_inj.mp lists
  apply asBytes_injective
  apply hexEncode_injective
  unfold hexEncode
  rw [← uuidText_digits, ← uuidText_digits, texts]

inductive JournalState where
  | clientOperationPrepared
  | candidateReady
  | candidateApplied
  | committed
  | reconcilePending
  | reconciled
  | rollbackCleanupPending
  | rolledBack
  | recovered
  | unknown (text : String)
  deriving DecidableEq, Repr

def journalSchema : String := "nblb.hermes-journal.v1"

structure RecoveryJournal where
  schemaVersion : String
  state : JournalState
  operationLabel : Option String
  clientId : Option Uuid
  deriving DecidableEq, Repr

def snapshotSchema : String := "nblb.hermes-snapshot.v1"

structure SnapshotManifest where
  schemaVersion : String
  generation : Uuid
  envSha256 : String
  configSha256 : String
  deriving DecidableEq, Repr

/-- The counts of a secret scan, in the order of their fields. -/
structure SecretScanReceipt where
  matchCounts : List Nat
  deriving DecidableEq, Repr

structure RequestReceipt where
  requestId : Uuid
  attemptCount : Nat
  outcome : String
  stage : String
  deriving DecidableEq, Repr

def receiptSchema : String := "nblb.hermes-cutover.v1"

structure SafeReceipt where
  schemaVersion : String
  generation : Uuid
  embeddedCommit : String
  clientId : Uuid
  qaRunId : Option Uuid
  doctor : Bool
  marker : Bool
  tool : Bool
  rollbackRehearsal : Bool
  toolOutputSha256 : String
  secretScan : SecretScanReceipt
  lbRequests : List RequestReceipt
  deriving DecidableEq, Repr

def retirementSchema : String := "nblb.hermes-backup-retirement.v1"

structure RetirementReceipt where
  schemaVersion : String
  generation : Uuid
  embeddedCommit : String
  cutoverClientId : Uuid
  snapshotEnvSha256 : String
  snapshotConfigSha256 : String
  providerRevocationConfirmed : Bool
  deriving DecidableEq, Repr

structure ClientItem where
  id : Uuid
  label : String
  active : Bool
  deriving DecidableEq, Repr

structure MutationResponse where
  item : ClientItem
  token : String
  deriving DecidableEq, Repr

inductive QaRunStatus where
  | queued
  | running
  | passed
  | failed
  deriving DecidableEq, Repr

structure QaRunTarget where
  id : Uuid
  suite : String
  live : Bool
  providerIdentity : String
  deploymentCommit : String
  status : QaRunStatus
  deriving DecidableEq, Repr

structure Verification where
  doctor : Bool
  marker : Bool
  tool : Bool
  toolOutputSha256 : String
  lbRequests : List RequestReceipt
  deriving DecidableEq, Repr

inductive RecoveryAction where
  | none
  | reconcileCommitted
  | rollbackAndRevoke
  | revokeAfterRollback
  deriving DecidableEq, Repr

def recoveryAction (journal : RecoveryJournal) :
    Except Failure RecoveryAction :=
  if journal.schemaVersion ≠ journalSchema then
    .error (.bail "unsupported Hermes recovery journal schema")
  else
    match journal.state with
    | .reconciled | .rolledBack | .recovered => .ok .none
    | .committed | .reconcilePending => .ok .reconcileCommitted
    | .rollbackCleanupPending =>
        if journal.clientId.isNone then
          .error (.bail
            "rollback cleanup journal is missing its candidate client")
        else
          .ok .revokeAfterRollback
    | .clientOperationPrepared | .candidateReady | .candidateApplied =>
        .ok .rollbackAndRevoke
    | .unknown _ => .error (.bail "unknown Hermes recovery journal state")

inductive QaRunIntent where
  | start
  | recoverOrConfirmCommitted
  deriving DecidableEq, Repr

def qaRunIntent (status : QaRunStatus) (hasMatchingRecovery : Bool) :
    Except Failure QaRunIntent :=
  match status, hasMatchingRecovery with
  | .running, _ => .ok .start
  | .passed, true => .ok .recoverOrConfirmCommitted
  | .failed, true => .ok .recoverOrConfirmCommitted
  | .passed, false =>
      .error (.bail
        "passed Hermes QA run has no matching committed local recovery")
  | _, _ => .error (.bail "Hermes QA run is not eligible for apply")

inductive PostLockQaDecision where
  | start
  | complete
  deriving DecidableEq, Repr

def postLockQaDecision (status : QaRunStatus) (localReconciled : Bool) :
    Except Failure PostLockQaDecision :=
  match status, localReconciled with
  | .running, _ => .ok .start
  | .passed, true => .ok .complete
  | .passed, false =>
      .error (.bail "passed Hermes QA run has no reconciled local generation")
  | _, _ =>
      .error (.bail <|
        "Hermes QA run changed to a non-runnable state while waiting for " ++
        "the lock")

end NvidiaBuildLb.Hermes
