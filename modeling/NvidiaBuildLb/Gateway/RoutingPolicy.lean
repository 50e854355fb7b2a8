import NvidiaBuildLb.Gateway.Json
import NvidiaBuildLb.Gateway.VaultStore

namespace NvidiaBuildLb.Gateway

open Foundation NvidiaBuildLb.Core

/-! The routing policy, from the update an operator makes to the cooldown of a
key that fails under it. -/

structure RoutingPolicyPatch where
  retryableStatuses : List UInt16
  defaultCooldownSeconds : UInt32

structure RoutingPolicyRow where
  version : Int
  active : Bool
  document : Json

structure RuntimeRoutingPolicy where
  retryableStatuses : List UInt16
  defaultCooldown : Duration

namespace RoutingPolicyPatch

def accepted (patch : RoutingPolicyPatch) : Bool :=
  !(patch.defaultCooldownSeconds == 0 || 3600 < patch.defaultCooldownSeconds ||
    patch.retryableStatuses.isEmpty)

def seconds (patch : RoutingPolicyPatch) : Nat :=
  patch.defaultCooldownSeconds.toNat

def document (patch : RoutingPolicyPatch) : Json :=
  .object [
    ("retryable_statuses", .array (patch.retryableStatuses.map fun status =>
      .number (.posInt status.toNat))),
    ("default_cooldown_seconds", .number (.posInt patch.seconds)),
    ("stream_failover_before_first_frame_only", .bool true),
    ("generation_retry", .bool false)]

end RoutingPolicyPatch

def updateRoutingPolicy (patch : RoutingPolicyPatch)
    (rows : List RoutingPolicyRow) : List RoutingPolicyRow :=
  let version := (rows.map RoutingPolicyRow.version).max?.getD 0 + 1
  rows.map (fun row => { row with active := false }) ++
    [{ version, active := true, document := patch.document }]

def RuntimeRoutingPolicy.builtIn : RuntimeRoutingPolicy where
  retryableStatuses := [402, 408, 429, 500, 502, 503, 504]
  defaultCooldown := Duration.seconds 2

def activeDocument (rows : List RoutingPolicyRow) : Option Json :=
  let newestFirst := (rows.filter RoutingPolicyRow.active).insertionSort
    fun left right => right.version ≤ left.version
  newestFirst.head?.map RoutingPolicyRow.document

/-- `u16::try_from`. -/
def asU16 (value : Nat) : Option UInt16 :=
  if value < 65536 then some (UInt16.ofNat value) else none

/-- `rows` is missing when there is no pool or the query fails. -/
def loadRoutingPolicy (rows : Option (List RoutingPolicyRow)) :
    RuntimeRoutingPolicy :=
  match rows.bind activeDocument with
  | none => .builtIn
  | some document =>
      let statuses := (document.getArray "retryable_statuses").map fun items =>
        (items.filterMap Json.asU64).filterMap asU16
      let seconds := ((document.get "default_cooldown_seconds").bind
        Json.asI64).filter fun value => 1 ≤ value && value ≤ 3600
      { retryableStatuses := (statuses.filter fun items =>
          !items.isEmpty).getD RuntimeRoutingPolicy.builtIn.retryableStatuses
        defaultCooldown := Duration.seconds (seconds.getD 2) }

theorem RoutingPolicyPatch.accepted_iff {patch : RoutingPolicyPatch} :
    patch.accepted = true ↔
      (1 ≤ patch.seconds ∧ patch.seconds ≤ 3600) ∧
        patch.retryableStatuses ≠ [] := by
  simp only [accepted, seconds, Bool.not_eq_true', Bool.or_eq_false_iff,
    beq_eq_false_iff_ne, decide_eq_false_iff_not, List.isEmpty_eq_false_iff,
    ne_eq, UInt32.lt_iff_toNat_lt, ← UInt32.toNat_inj]
  have bound : (3600 : UInt32).toNat = 3600 := rfl
  have zero : (0 : UInt32).toNat = 0 := rfl
  rw [bound, zero]
  constructor
  · intro ⟨⟨positive, small⟩, statuses⟩
    exact ⟨⟨by omega, by omega⟩, statuses⟩
  · intro ⟨⟨positive, small⟩, statuses⟩
    exact ⟨⟨by omega, by omega⟩, statuses⟩

theorem activeDocument_update (patch : RoutingPolicyPatch)
    (rows : List RoutingPolicyRow) :
    activeDocument (updateRoutingPolicy patch rows) = some patch.document := by
  have inactive : (rows.map fun row =>
      ({ row with active := false } : RoutingPolicyRow)).filter
        RoutingPolicyRow.active = [] := by
    simp [List.filter_eq_nil_iff]
  simp [activeDocument, updateRoutingPolicy, List.filter_append, inactive]

theorem loadRoutingPolicy_update {patch : RoutingPolicyPatch}
    (accepted : patch.accepted = true) (rows : List RoutingPolicyRow) :
    loadRoutingPolicy (some (updateRoutingPolicy patch rows)) =
      { retryableStatuses := patch.retryableStatuses
        defaultCooldown := Duration.seconds patch.seconds } := by
  obtain ⟨⟨positive, small⟩, statuses⟩ :=
    RoutingPolicyPatch.accepted_iff.mp accepted
  have back : ∀ status ∈ patch.retryableStatuses,
      asU16 status.toNat = some status := by
    intro status _
    have small : status.toNat < 65536 := status.toNat_lt
    rw [asU16, if_pos small, UInt16.ofNat_toNat]
  have listed : ((patch.retryableStatuses.map fun status =>
      Json.number (.posInt status.toNat)).filterMap Json.asU64).filterMap asU16 =
        patch.retryableStatuses := by
    rw [List.filterMap_map, List.filterMap_filterMap]
    exact (List.filterMap_congr back).trans List.filterMap_some
  have nonempty : patch.retryableStatuses.isEmpty = false :=
    List.isEmpty_eq_false_iff.mpr statuses
  have statusesBack : patch.document.getArray "retryable_statuses" =
      some (patch.retryableStatuses.map fun status =>
        .number (.posInt status.toNat)) := rfl
  have secondsBack : (patch.document.get "default_cooldown_seconds").bind
      Json.asI64 = some (patch.seconds : Int) :=
    if_pos (Nat.lt_of_le_of_lt small (by decide))
  have inRange : (1 : Int) ≤ patch.seconds ∧ (patch.seconds : Int) ≤ 3600 := by
    omega
  simp only [loadRoutingPolicy, Option.bind_some, activeDocument_update,
    statusesBack, secondsBack, Option.map_some, listed, Option.filter_some]
  simp [nonempty, inRange]

/-- An answer that is not a success, with the delay its Retry-After header
asks for, or no complete answer at all. -/
inductive ProviderFailure where
  | answered (status : UInt16) (retryAfter : Option Duration)
  | transport

/-- The clocks and the refusals one report to the vault meets. -/
structure HealthReport where
  env : CallEnvironment
  now : Timestamp
  fault : Option PersistStep

def rejectsCredential (status : UInt16) : Bool :=
  status == 401 || status == 403

def failureClosure (report : HealthReport) (id : Uuid)
    (retryAfter : Option Duration) : Closure VaultError (Option Timestamp) :=
  .call (.recordFailure id retryAfter report.now) report.fault fun
    | .error error => .done (.error error)
    | .ok _ => .inspect fun state => .done <| .ok <|
        ((Vault.list state).find? fun key => key.id = id).bind
          KeySummary.cooldownUntil

def quarantineClosure (report : HealthReport) (id : Uuid) :
    Closure VaultError (Option Timestamp) :=
  .call (.quarantine id) report.fault fun result =>
    .done (result.map fun _ => none)

section Reports

variable (primitives : Primitives) (masterKey : MasterKey)
  (report : HealthReport) (id : Uuid)

/-- The caller turns an error into a 503. -/
def recordFailure (retryAfter : Option Duration) :
    VaultStore → CallEnd (StoreError VaultError) (Option Timestamp) :=
  VaultStore.mutate primitives masterKey report.env
    (failureClosure report id retryAfter)

def quarantineKey :
    VaultStore → CallEnd (StoreError VaultError) (Option Timestamp) :=
  VaultStore.mutate primitives masterKey report.env
    (quarantineClosure report id)

/-- A status that does not fail over goes to the client and leaves the vault
as it is. -/
def RuntimeRoutingPolicy.reportFailure (policy : RuntimeRoutingPolicy)
    (failure : ProviderFailure) (store : VaultStore) :
    CallEnd (StoreError VaultError) (Option Timestamp) :=
  match failure with
  | .transport => recordFailure primitives masterKey report id none store
  | .answered status retryAfter =>
      if rejectsCredential status then
        quarantineKey primitives masterKey report id store
      else if policy.retryableStatuses.contains status then
        recordFailure primitives masterKey report id
          (retryAfter.or (some policy.defaultCooldown)) store
      else
        { returned := some (.ok none), store }

end Reports

end NvidiaBuildLb.Gateway
