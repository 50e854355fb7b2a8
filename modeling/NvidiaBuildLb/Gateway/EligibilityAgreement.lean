import NvidiaBuildLb.Gateway.Eligibility
import NvidiaBuildLb.Gateway.RoundTrip

namespace NvidiaBuildLb.Gateway

open Foundation NvidiaBuildLb.Core

/-! When routing and the four views agree on the keys that may serve a
profile. -/

namespace OperationsState

def MaySelect (state : OperationsState) (now : Timestamp) (profile : String)
    (id : Uuid) : Prop :=
  ∃ routingState following,
    { state with database := { state.database with routingState } }.selectUpstream
      now true profile = .ok (some id, following)

def Eligible (state : OperationsState) (now : Timestamp) (profile : String)
    (id : Uuid) : Prop :=
  id ∈ state.eligibleKeyIds now profile

def UpstreamShows (state : OperationsState) (now : Timestamp) (id : Uuid) :
    Prop :=
  ∃ item ∈ state.upstreams now, item.id = id ∧ item.eligibleNow = true

def SlotShows (state : OperationsState) (now : Timestamp) (profile : String)
    (id : Uuid) : Prop :=
  ∃ slot ∈ state.upstreamSlots now, slot.keyId = id ∧
    ∃ shown ∈ slot.profiles, shown.profileId = profile ∧
      shown.eligibleNow = true

def PublicShows (state : OperationsState) (now : Timestamp)
    (profile : String) : Prop :=
  ∃ model ∈ state.publicModels now, model.id = profile ∧
    model.availableNow = true

def CapabilityShows (state : OperationsState) (now : Timestamp)
    (profile : String) : Prop :=
  ∃ model ∈ state.modelCapabilities now, model.id = profile ∧
    model.availableNow = true

/-- Routing, its query and the four views agree. -/
structure Agreement (state : OperationsState) (now : Timestamp)
    (profile : String) : Prop where
  selection : ∀ id, state.MaySelect now profile id ↔
    state.Eligible now profile id
  upstreams : ∀ id, state.MaySelect now textProfile id ↔
    state.UpstreamShows now id
  slots : ∀ id, state.MaySelect now textProfile id ↔
    state.SlotShows now textProfile id
  publicModels : (∃ id, state.MaySelect now profile id) ↔
    state.PublicShows now profile
  capabilities : (∃ id, state.MaySelect now profile id) ↔
    state.CapabilityShows now profile

/-- A key that is in use and has a receipt of the profile that is not
invalidated. -/
structure Candidate (state : OperationsState) (now : Timestamp)
    (profile : String) (key : UpstreamKeyRow) (proof : ProbeReceiptRow) :
    Prop where
  isKey : key ∈ state.database.upstreamKeys.rows
  ready : baseEligible now key = true
  isReceipt : proof ∈ state.database.probeReceipts.rows
  live : proof.invalidatedAt = none
  ofKey : proof.keyId = key.id
  ofProfile : proof.profileId = profile

/-- The vault in memory, which keeps the nanoseconds, still counts the key as
cooling down. -/
def Lingers (state : OperationsState) (now : Timestamp)
    (key : UpstreamKeyRow) : Prop :=
  ∃ stored ∈ state.memory.keys, stored.id = key.id ∧
    Vault.isCooling now stored = true

/-- The receipt is older than the window by a whole second. -/
def LongStale (state : OperationsState) (now : Timestamp)
    (proof : ProbeReceiptRow) : Prop :=
  state.freshnessSeconds < proofAge now proof

/-- No receipt that counts is between the readings of the freshness window, and
no cooldown between those of the clock. -/
structure Unambiguous (state : OperationsState) (now : Timestamp)
    (profile : String) : Prop where
  window : ∀ key proof, state.Candidate now textProfile key proof →
    state.isFresh now proof = true ∨ state.LongStale now proof
  memory : ∀ key proof, state.Candidate now textProfile key proof →
    (state.isFresh now proof = true ↔ ¬ state.Lingers now key)
  profile :
    ((∃ key proof, state.Candidate now profile key proof ∧
        state.isFresh now proof = true) ∧
      ∃ key proof, state.Candidate now profile key proof ∧
        ¬ state.Lingers now key) ∨
    ∀ key proof, state.Candidate now profile key proof →
      state.LongStale now proof ∧ state.Lingers now key

section Readings

variable {state : OperationsState} {now : Timestamp} {profile : String}

theorem mem_proofRows {proof : ProbeReceiptRow} :
    proof ∈ state.proofRows ↔
      proof ∈ state.database.probeReceipts.rows ∧
        proof.invalidatedAt = none := by
  simp [proofRows]

theorem mem_orderedBySlot {rows : List UpstreamKeyRow}
    {key : UpstreamKeyRow} : key ∈ orderedBySlot rows ↔ key ∈ rows :=
  (List.perm_insertionSort _ rows).mem_iff

theorem mem_hardEligible {key : UpstreamKeyRow} :
    key ∈ state.hardEligible now profile ↔
      ∃ proof, state.Candidate now profile key proof ∧
        state.isFresh now proof = true := by
  simp only [hardEligible, mem_orderedBySlot, List.mem_filter,
    Bool.and_eq_true, List.any_eq_true, decide_eq_true_eq, mem_proofRows]
  constructor
  · intro ⟨isKey, ready, proof, ⟨isReceipt, live⟩, ⟨ofKey, ofProfile⟩, fresh⟩
    exact ⟨proof, ⟨isKey, ready, isReceipt, live, ofKey, ofProfile⟩, fresh⟩
  · intro ⟨proof, candidate, fresh⟩
    exact ⟨candidate.isKey, candidate.ready, proof,
      ⟨candidate.isReceipt, candidate.live⟩,
      ⟨candidate.ofKey, candidate.ofProfile⟩, fresh⟩

theorem eligible_iff {id : Uuid} :
    state.Eligible now profile id ↔
      ∃ key proof, state.Candidate now profile key proof ∧
        state.isFresh now proof = true ∧ key.id = id := by
  simp only [Eligible, eligibleKeyIds, List.mem_map, mem_hardEligible]
  constructor
  · intro ⟨key, ⟨proof, candidate, fresh⟩, named⟩
    exact ⟨key, proof, candidate, fresh, named⟩
  · intro ⟨key, proof, candidate, fresh, named⟩
    exact ⟨key, ⟨proof, candidate, fresh⟩, named⟩

/-- No two keys in use share a slot: the unique index of the table. -/
def SlotsUnique (state : OperationsState) : Prop :=
  ((state.database.upstreamKeys.rows.filter fun key => !key.retired).map
    UpstreamKeyRow.slotNo).Nodup

private theorem Candidate.unretired {key : UpstreamKeyRow}
    {proof : ProbeReceiptRow}
    (candidate : state.Candidate now profile key proof) :
    key ∈ state.database.upstreamKeys.rows.filter fun key => !key.retired := by
  have ready := candidate.ready
  simp only [baseEligible, Bool.and_eq_true] at ready
  exact List.mem_filter.mpr ⟨candidate.isKey, ready.1.1.1⟩

private def standing (profile : String) (slot : Nat) :
    Table RoutingStateRow.profileId where
  rows := [{ profileId := profile, nextSlot := slot, generation := 1 }]
  nodup := List.nodup_singleton _

theorem maySelect_iff (slots : state.SlotsUnique) {id : Uuid} :
    state.MaySelect now profile id ↔ state.Eligible now profile id := by
  constructor
  · intro ⟨routingState, following, selects⟩
    simp only [selectUpstream] at selects
    split at selects
    · cases selects
    rename_i routing _
    simp only [if_true] at selects
    split at selects
    · cases selects
    rename_i key selected
    have isId : key.id = id := by
      cases selects
      rfl
    have member : key ∈ state.hardEligible now profile := by
      cases Option.or_eq_some_iff.mp selected with
      | inl found => exact List.mem_of_find?_eq_some found
      | inr first => exact List.mem_of_head? first.2
    exact isId ▸ List.mem_map_of_mem member
  · intro eligible
    obtain ⟨key, member, named⟩ := List.mem_map.mp eligible
    obtain ⟨proof, candidate, -⟩ := mem_hardEligible.mp member
    have found : (state.hardEligible now profile).find?
        (fun other => other.slotNo = key.slotNo) = some key := by
      cases isFound : (state.hardEligible now profile).find?
          fun other => other.slotNo = key.slotNo with
      | none =>
          have absent := List.find?_eq_none.mp isFound key member
          simp at absent
      | some other =>
          obtain ⟨otherProof, otherCandidate, -⟩ :=
            mem_hardEligible.mp (List.mem_of_find?_eq_some isFound)
          have same : other.slotNo = key.slotNo := by
            simpa using List.find?_some isFound
          rw [List.inj_on_of_nodup_map slots otherCandidate.unretired
            candidate.unretired same]
    refine ⟨standing profile key.slotNo,
      (standing profile key.slotNo).update (fun row => row.profileId = profile)
        (fun row => { row with
          nextSlot := if key.slotNo = 1 then 2 else 1
          generation := row.generation + 1 }) fun _ => rfl, ?_⟩
    have row : (standing profile key.slotNo).find? profile =
        some { profileId := profile, nextSlot := key.slotNo, generation := 1 }
        := by simp [standing, Table.find?]
    have kept : ({ state with
        database := { state.database with
          routingState := standing profile key.slotNo } } :
            OperationsState).hardEligible now profile =
        state.hardEligible now profile := rfl
    simp only [selectUpstream, row, kept, if_true, found, Option.some_or]
    rw [named]

theorem upstreamEligible_iff {key : UpstreamKeyRow}
    (isKey : key ∈ state.database.upstreamKeys.rows) :
    state.upstreamEligible now key = true ↔
      ∃ proof, state.Candidate now textProfile key proof ∧
        ¬ state.LongStale now proof := by
  have clock : ∀ until_ : Micros,
      fromMicros until_ ≤ now ↔ until_ ≤ micros now := by
    intro until_
    exact (Int.le_ediv_iff_mul_le (by decide)).symm
  have ready : (!key.retired && key.enabled && key.verified &&
      key.cooldownUntil.all fun until_ => fromMicros until_ ≤ now) =
        baseEligible now key := by
    simp only [baseEligible, clock]
  unfold upstreamEligible
  rw [ready, Bool.and_eq_true, List.any_eq_true]
  simp only [Bool.and_eq_true, decide_eq_true_eq, mem_proofRows, LongStale,
    not_lt]
  constructor
  · intro ⟨ready, proof, ⟨isReceipt, live⟩, ⟨ofKey, ofProfile⟩, young⟩
    exact ⟨proof, ⟨isKey, ready, isReceipt, live, ofKey, ofProfile⟩, young⟩
  · intro ⟨proof, candidate, young⟩
    exact ⟨candidate.ready, proof, ⟨candidate.isReceipt, candidate.live⟩,
      ⟨candidate.ofKey, candidate.ofProfile⟩, young⟩

theorem upstreamShows_iff {id : Uuid} :
    state.UpstreamShows now id ↔
      ∃ key proof, state.Candidate now textProfile key proof ∧
        ¬ state.LongStale now proof ∧ key.id = id := by
  have member : ∀ key : UpstreamKeyRow,
      key ∈ orderedUpstreams state.database.upstreamKeys.rows ↔
        key ∈ state.database.upstreamKeys.rows :=
    fun key => (List.perm_insertionSort _ _).mem_iff
  simp only [UpstreamShows, upstreams, List.mem_map, member]
  constructor
  · intro ⟨item, ⟨row, _, isItem⟩, named, shown⟩
    subst isItem
    obtain ⟨key, isEligible, same⟩ :=
      List.mem_map.mp (List.contains_iff_mem.mp shown)
    obtain ⟨isKey, eligible⟩ := List.mem_filter.mp isEligible
    obtain ⟨proof, candidate, young⟩ :=
      (upstreamEligible_iff ((member key).mp isKey)).mp eligible
    exact ⟨key, proof, candidate, young, same.trans named⟩
  · intro ⟨key, proof, candidate, young, named⟩
    have eligible := (upstreamEligible_iff candidate.isKey).mpr
      ⟨proof, candidate, young⟩
    refine ⟨_, ⟨key, candidate.isKey, rfl⟩, named, ?_⟩
    apply List.contains_iff_mem.mpr
    apply List.mem_map_of_mem
    exact List.mem_filter.mpr ⟨(member key).mpr candidate.isKey, eligible⟩

theorem publicShows_iff (advertised : profile ∈ profiles) :
    state.PublicShows now profile ↔
      ∃ key proof, state.Candidate now profile key proof ∧
        ¬ state.LongStale now proof := by
  have shows_ : state.PublicShows now profile ↔
      (state.publicModel now profile).availableNow = true := by
    simp only [PublicShows, publicModels, List.mem_map]
    constructor
    · intro ⟨model, ⟨other, _, isModel⟩, named, available⟩
      subst isModel
      cases named
      exact available
    · intro available
      exact ⟨_, ⟨profile, advertised, rfl⟩, rfl, available⟩
  rw [shows_]
  simp only [publicModel, List.any_eq_true, List.mem_filter, mem_proofRows,
    Bool.and_eq_true, decide_eq_true_eq, List.contains_iff_mem,
    baseEligibleKeyIds, List.mem_map, mem_orderedBySlot, LongStale, not_lt]
  constructor
  · intro ⟨proof, ⟨⟨isReceipt, live⟩, ofProfile⟩, ⟨key, ⟨isKey, ready⟩, named⟩,
      young⟩
    exact ⟨key, proof, ⟨isKey, ready, isReceipt, live, named.symm, ofProfile⟩,
      young⟩
  · intro ⟨key, proof, candidate, young⟩
    exact ⟨proof, ⟨⟨candidate.isReceipt, candidate.live⟩, candidate.ofProfile⟩,
      ⟨key, ⟨candidate.isKey, candidate.ready⟩, candidate.ofKey.symm⟩, young⟩

/-- The vault in memory is the one the rows hold. -/
def InStep (state : OperationsState) : Prop :=
  Stored state.memory state.database

/-- A row holds what memory has of a key. -/
structure Mirrors (stored : StoredKey) (row : UpstreamKeyRow) : Prop where
  id : row.id = stored.id
  enabled : row.enabled = stored.enabled
  verified : row.verified = stored.verified
  retired : row.retired = stored.retired
  cooldownUntil : row.cooldownUntil = stored.cooldownUntil.map micros

private theorem mirrors_of_columns {stored : StoredKey}
    {record : VaultKeyRecord} {row : UpstreamKeyRow}
    (exported : Vault.keyRecord stored = .ok record)
    (named : row.id = record.id) (same : row.columns = keyColumns record) :
    Mirrors stored row := by
  unfold Vault.keyRecord at exported
  obtain ⟨_, _, exported⟩ := ok_of_bind exported
  obtain ⟨_, _, exported⟩ := ok_of_bind exported
  obtain ⟨_, _, exported⟩ := ok_of_bind exported
  cases exported
  exact ⟨named, congrArg KeyColumns.enabled same,
    congrArg KeyColumns.verified same, congrArg KeyColumns.retired same,
    congrArg KeyColumns.cooldownUntil same⟩

theorem InStep.mirrors (inStep : state.InStep) :
    (state.memory.keys.map StoredKey.id).Nodup ∧
      (∀ stored ∈ state.memory.keys,
        ∃ row ∈ state.database.upstreamKeys.rows, Mirrors stored row) ∧
      ∀ row ∈ state.database.upstreamKeys.rows,
        ∃ stored ∈ state.memory.keys, Mirrors stored row := by
  obtain ⟨keys, downstream, keysOut, -, represents⟩ := inStep
  have exported := keyRecords_exported keysOut
  have records := forall₂_of_mapM_ok keysOut
  refine ⟨exported_keyIds exported ▸ represents.keyIds, ?_, ?_⟩
  · intro stored member
    obtain ⟨record, inKeys, isRecord⟩ := exists_of_forall₂ records member
    have view := congrFun represents.keys record.id
    rw [snapshotView_of_mem represents.keyIds inKeys] at view
    obtain ⟨row, found, same⟩ := Option.map_eq_some_iff.mp view
    exact ⟨row, Table.mem_of_find? found,
      mirrors_of_columns isRecord (Table.key_of_find? found) same⟩
  · intro row member
    have view := congrFun represents.keys row.id
    have found := Table.find?_eq_some_iff.mpr ⟨member, rfl⟩
    simp only [Database.keyView, found, Option.map_some] at view
    obtain ⟨record, isRecord, same⟩ := Option.map_eq_some_iff.mp view.symm
    have named : record.id = row.id := by simpa using List.find?_some isRecord
    obtain ⟨stored, inMemory, out⟩ := exists_of_forall₂_right records
      (List.mem_of_find?_eq_some isRecord)
    exact ⟨stored, inMemory,
      mirrors_of_columns out named.symm same.symm⟩

private theorem slotEligible_iff {stored : StoredKey} {row : UpstreamKeyRow}
    (mirrors : Mirrors stored row) :
    (stored.retired = false ∧ slotEligible now (summary stored) = true) ↔
      baseEligible now row = true ∧ Vault.isCooling now stored = false := by
  have cooled : (stored.cooldownUntil.all fun until_ => until_ ≤ now) =
      !Vault.isCooling now stored := by
    unfold Vault.isCooling
    cases stored.cooldownUntil with
    | none => rfl
    | some until_ =>
        simp only [Option.all_some]
        rw [← decide_not]
        exact decide_eq_decide.mpr not_lt.symm
  have rowCooled : Vault.isCooling now stored = false →
      (row.cooldownUntil.all fun until_ => until_ ≤ micros now) = true := by
    intro cool
    rw [cool] at cooled
    rw [mirrors.cooldownUntil]
    cases isUntil : stored.cooldownUntil with
    | none => rfl
    | some until_ =>
        rw [isUntil] at cooled
        have passed : until_ ≤ now := of_decide_eq_true cooled
        exact decide_eq_true (Int.ediv_le_ediv (by decide) passed)
  unfold slotEligible baseEligible
  rw [show (summary stored).cooldownUntil = stored.cooldownUntil from rfl,
    cooled, mirrors.retired, mirrors.enabled, mirrors.verified]
  simp only [summary, Bool.and_eq_true, Bool.not_eq_true']
  constructor
  · intro ⟨live, ⟨enabled, verified⟩, cool⟩
    exact ⟨⟨⟨⟨live, enabled⟩, verified⟩, rowCooled cool⟩, cool⟩
  · intro ⟨⟨⟨⟨live, enabled⟩, verified⟩, _⟩, cool⟩
    exact ⟨live, ⟨enabled, verified⟩, cool⟩

private theorem lingers_iff (inStep : state.InStep) {stored : StoredKey}
    {row : UpstreamKeyRow} (member : stored ∈ state.memory.keys)
    (mirrors : Mirrors stored row) :
    state.Lingers now row ↔ Vault.isCooling now stored = true := by
  constructor
  · intro ⟨other, otherMember, named, cooling⟩
    have same : other = stored := List.inj_on_of_nodup_map inStep.mirrors.1
      otherMember member (named.trans mirrors.id)
    exact same ▸ cooling
  · intro cooling
    exact ⟨stored, member, mirrors.id.symm, cooling⟩

/-- What the views over memory count: a listed key that is in use, with a
receipt of the profile that is not invalidated. -/
private theorem listed_iff (inStep : state.InStep) {id : Uuid} :
    (∃ summary_ ∈ Vault.list state.memory, summary_.id = id ∧
        slotEligible now summary_ = true ∧
        id ∈ state.profileProofKeys profile) ↔
      ∃ key proof, state.Candidate now profile key proof ∧
        ¬ state.Lingers now key ∧ key.id = id := by
  simp only [Vault.list, profileProofKeys, List.mem_map, List.mem_filter,
    mem_proofRows, decide_eq_true_eq]
  constructor
  · intro ⟨shown, ⟨stored, ⟨member, live⟩, isShown⟩, named, eligible, proof,
      ⟨⟨isReceipt, notInvalid⟩, ofProfile⟩, ofKey⟩
    subst isShown
    obtain ⟨row, isRow, mirrors⟩ := inStep.mirrors.2.1 stored member
    have unretired : stored.retired = false := by simpa using live
    obtain ⟨ready, cool⟩ :=
      (slotEligible_iff mirrors).mp ⟨unretired, eligible⟩
    have isId : row.id = id := mirrors.id.trans named
    refine ⟨row, proof, ⟨isRow, ready, isReceipt, notInvalid,
      ofKey.trans isId.symm, ofProfile⟩, ?_, isId⟩
    intro lingers
    rw [lingers_iff inStep member mirrors, cool] at lingers
    cases lingers
  · intro ⟨key, proof, candidate, settled, named⟩
    obtain ⟨stored, member, mirrors⟩ := inStep.mirrors.2.2 key candidate.isKey
    have cool : Vault.isCooling now stored = false := by
      cases cooling : Vault.isCooling now stored with
      | false => rfl
      | true =>
          exact absurd ((lingers_iff inStep member mirrors).mpr cooling) settled
    obtain ⟨live, eligible⟩ :=
      (slotEligible_iff mirrors).mpr ⟨candidate.ready, cool⟩
    exact ⟨_, ⟨stored, ⟨member, by simp [live]⟩, rfl⟩,
      mirrors.id.symm.trans named, eligible, proof,
      ⟨⟨candidate.isReceipt, candidate.live⟩, candidate.ofProfile⟩,
      candidate.ofKey.trans named⟩

theorem slotShows_iff (inStep : state.InStep) (advertised : profile ∈ profiles)
    {id : Uuid} :
    state.SlotShows now profile id ↔
      ∃ key proof, state.Candidate now profile key proof ∧
        ¬ state.Lingers now key ∧ key.id = id := by
  rw [← listed_iff inStep]
  simp only [SlotShows, upstreamSlots]
  constructor
  · intro ⟨slot, isSlot, named, shown, isShown, ofProfile, eligible⟩
    obtain ⟨index, within, isIndex⟩ := List.mem_mapIdx.mp isSlot
    subst isIndex
    obtain ⟨other, _, rfl⟩ := List.mem_map.mp isShown
    cases ofProfile
    simp only [slotProfile, Bool.and_eq_true, List.contains_iff_mem] at eligible
    cases named
    exact ⟨_, List.getElem_mem within, rfl, eligible.1, eligible.2⟩
  · intro ⟨key, member, named, eligible, proven⟩
    obtain ⟨index, within, rfl⟩ := List.mem_iff_getElem.mp member
    refine ⟨_, List.mem_mapIdx.mpr ⟨index, within, rfl⟩, named,
      state.slotProfile now _ profile, List.mem_map_of_mem advertised, rfl, ?_⟩
    simp only [slotProfile, Bool.and_eq_true, List.contains_iff_mem]
    exact ⟨eligible, named ▸ proven⟩

theorem capabilityShows_iff (inStep : state.InStep)
    (advertised : profile ∈ profiles) :
    state.CapabilityShows now profile ↔
      ∃ key proof, state.Candidate now profile key proof ∧
        ¬ state.Lingers now key := by
  have listed : state.CapabilityShows now profile ↔
      ∃ id, ∃ summary_ ∈ Vault.list state.memory, summary_.id = id ∧
        slotEligible now summary_ = true ∧
        id ∈ state.profileProofKeys profile := by
    simp only [CapabilityShows, modelCapabilities, List.mem_map]
    constructor
    · intro ⟨model, ⟨other, _, isModel⟩, named, available⟩
      subst isModel
      cases named
      obtain ⟨id, proven, isListed⟩ := List.any_eq_true.mp available
      obtain ⟨key, member, named⟩ :=
        List.mem_map.mp (List.contains_iff_mem.mp isListed)
      obtain ⟨inList, eligible⟩ := List.mem_filter.mp member
      exact ⟨id, key, inList, named, eligible, proven⟩
    · intro ⟨id, key, inList, named, eligible, proven⟩
      refine ⟨_, ⟨profile, advertised, rfl⟩, rfl, ?_⟩
      apply List.any_eq_true.mpr
      refine ⟨id, proven, List.contains_iff_mem.mpr ?_⟩
      exact named ▸ List.mem_map_of_mem (List.mem_filter.mpr ⟨inList, eligible⟩)
  rw [listed]
  simp only [listed_iff inStep]
  constructor
  · intro ⟨_, key, proof, candidate, settled, _⟩
    exact ⟨key, proof, candidate, settled⟩
  · intro ⟨key, proof, candidate, settled⟩
    exact ⟨key.id, key, proof, candidate, settled, rfl⟩

theorem Candidate.unique {key other : UpstreamKeyRow}
    {proof otherProof : ProbeReceiptRow}
    (candidate : state.Candidate now profile key proof)
    (again : state.Candidate now profile other otherProof)
    (named : other.id = key.id) : other = key ∧ otherProof = proof := by
  refine ⟨List.inj_on_of_nodup_map state.database.upstreamKeys.nodup
    again.isKey candidate.isKey named,
    List.inj_on_of_nodup_map state.database.probeReceipts.nodup
      again.isReceipt candidate.isReceipt ?_⟩
  rw [again.ofProfile, candidate.ofProfile, again.ofKey, candidate.ofKey, named]

private theorem numSeconds_le {clock verifiedAt : Int} {seconds : Nat}
    (inWindow : clock / 1000 - (seconds : Int) * 1000000 ≤ verifiedAt) :
    numSeconds (clock - verifiedAt * 1000) ≤ seconds := by
  have bound : clock - verifiedAt * 1000 <
      ((seconds : Int) + 1) * 1000000000 := by omega
  unfold numSeconds
  by_cases negative : clock - verifiedAt * 1000 ≤ 0
  · have flipped := Int.tdiv_nonneg (Int.neg_nonneg_of_nonpos negative)
      (show (0 : Int) ≤ 1000000000 by decide)
    rw [Int.neg_tdiv] at flipped
    omega
  · rw [Int.tdiv_eq_ediv_of_nonneg (by omega)]
    omega

/-- A receipt in the window of the queries is in the one of the views, which is
less than a second longer. -/
theorem isFresh_young {seconds : Nat}
    (settings : state.proofFreshnessSeconds = some seconds)
    {proof : ProbeReceiptRow} (fresh : state.isFresh now proof = true) :
    ¬ state.LongStale now proof := by
  rw [isFresh, settings] at fresh
  have inWindow : micros now - (seconds : Int) * 1000000 ≤ proof.verifiedAt :=
    of_decide_eq_true fresh
  unfold LongStale freshnessSeconds proofAge
  rw [settings, Option.getD_some, not_lt]
  exact numSeconds_le inWindow

theorem agreement_iff {seconds : Nat}
    (settings : state.proofFreshnessSeconds = some seconds)
    (slots : state.SlotsUnique) (inStep : state.InStep)
    (advertised : profile ∈ profiles) :
    state.Agreement now profile ↔ state.Unambiguous now profile := by
  have text : textProfile ∈ profiles := by decide
  have selects : ∀ {profile : String} {id : Uuid},
      state.MaySelect now profile id ↔
        ∃ key proof, state.Candidate now profile key proof ∧
          state.isFresh now proof = true ∧ key.id = id :=
    (maySelect_iff slots).trans eligible_iff
  constructor
  · intro agrees
    have fresh_of : ∀ {key : UpstreamKeyRow} {proof : ProbeReceiptRow},
        state.Candidate now textProfile key proof →
        state.MaySelect now textProfile key.id →
        state.isFresh now proof = true := by
      intro key proof candidate selected
      obtain ⟨other, otherProof, again, fresh, named⟩ := selects.mp selected
      exact (candidate.unique again named).2 ▸ fresh
    refine ⟨?_, ?_, ?_⟩
    · intro key proof candidate
      by_cases stale : state.LongStale now proof
      · exact .inr stale
      · refine .inl (fresh_of candidate ((agrees.upstreams key.id).mpr ?_))
        exact upstreamShows_iff.mpr ⟨key, proof, candidate, stale, rfl⟩
    · intro key proof candidate
      constructor
      · intro fresh
        have shown := (agrees.slots key.id).mp
          (selects.mpr ⟨key, proof, candidate, fresh, rfl⟩)
        obtain ⟨other, otherProof, again, settled, named⟩ :=
          (slotShows_iff inStep text).mp shown
        exact (candidate.unique again named).1 ▸ settled
      · intro settled
        refine fresh_of candidate ((agrees.slots key.id).mpr ?_)
        exact (slotShows_iff inStep text).mpr
          ⟨key, proof, candidate, settled, rfl⟩
    · by_cases some_ : ∃ id, state.MaySelect now profile id
      · left
        refine ⟨?_, (capabilityShows_iff inStep advertised).mp
          (agrees.capabilities.mp some_)⟩
        obtain ⟨id, selected⟩ := some_
        obtain ⟨key, proof, candidate, fresh, -⟩ := selects.mp selected
        exact ⟨key, proof, candidate, fresh⟩
      · right
        intro key proof candidate
        constructor
        · refine Classical.byContradiction fun young => some_ ?_
          exact agrees.publicModels.mpr ((publicShows_iff advertised).mpr
            ⟨key, proof, candidate, young⟩)
        · refine Classical.byContradiction fun settled => some_ ?_
          exact agrees.capabilities.mpr
            ((capabilityShows_iff inStep advertised).mpr
              ⟨key, proof, candidate, settled⟩)
  · intro clear
    refine ⟨fun id => maySelect_iff slots, fun id => ?_, fun id => ?_, ?_, ?_⟩
    · rw [selects, upstreamShows_iff]
      constructor
      · intro ⟨key, proof, candidate, fresh, named⟩
        exact ⟨key, proof, candidate, isFresh_young settings fresh, named⟩
      · intro ⟨key, proof, candidate, young, named⟩
        have fresh := (clear.window key proof candidate).resolve_right young
        exact ⟨key, proof, candidate, fresh, named⟩
    · rw [selects, slotShows_iff inStep text]
      constructor
      · intro ⟨key, proof, candidate, fresh, named⟩
        exact ⟨key, proof, candidate,
          (clear.memory key proof candidate).mp fresh, named⟩
      · intro ⟨key, proof, candidate, settled, named⟩
        exact ⟨key, proof, candidate,
          (clear.memory key proof candidate).mpr settled, named⟩
    · rw [publicShows_iff advertised]
      constructor
      · intro ⟨id, selected⟩
        obtain ⟨key, proof, candidate, fresh, -⟩ := selects.mp selected
        exact ⟨key, proof, candidate, isFresh_young settings fresh⟩
      · intro ⟨key, proof, candidate, young⟩
        rcases clear.profile with ⟨⟨first, other, found, fresh⟩, -⟩ | none_
        · exact ⟨first.id, selects.mpr ⟨first, other, found, fresh, rfl⟩⟩
        · exact absurd (none_ key proof candidate).1 young
    · rw [capabilityShows_iff inStep advertised]
      constructor
      · intro ⟨id, selected⟩
        obtain ⟨key, proof, candidate, fresh, -⟩ := selects.mp selected
        rcases clear.profile with ⟨-, settled⟩ | none_
        · exact settled
        · exact absurd (none_ key proof candidate).1
            (isFresh_young settings fresh)
      · intro ⟨key, proof, candidate, settled⟩
        rcases clear.profile with ⟨⟨first, other, found, fresh⟩, -⟩ | none_
        · exact ⟨first.id, selects.mpr ⟨first, other, found, fresh, rfl⟩⟩
        · exact absurd (none_ key proof candidate).2 settled

end Readings

namespace Sample

def stored : StoredKey where
  id := 1
  label := "primary"
  fingerprint := hexEncode (List.replicate 32 0)
  nonce := base64UrlEncode (List.replicate 12 1)
  ciphertext := base64UrlEncode (List.replicate 16 2)
  enabled := true
  verified := true
  retired := false
  cooldownUntil := none
  requestCount := 0
  failureCount := 0

def record : VaultKeyRecord where
  id := 1
  label := "primary"
  fingerprint := List.replicate 32 0
  nonce := List.replicate 12 1
  ciphertext := List.replicate 16 2
  enabled := true
  verified := true
  retired := false
  cooldownUntil := none
  requestCount := 0
  failureCount := 0

def row : UpstreamKeyRow where
  id := 1
  label := "primary"
  fingerprint := List.replicate 32 0
  ciphertext := List.replicate 16 2
  nonce := List.replicate 12 1
  enabled := true
  verified := true
  retired := false
  cooldownUntil := none
  requestCount := 0
  failureCount := 0
  createdAt := 0
  slotNo := 1

def receipt : ProbeReceiptRow where
  profileId := textProfile
  keyId := 1
  verifiedAt := 0
  lastProbeRunId := none
  invalidatedAt := none
  invalidationReason := none

/-- One key with a receipt of the text profile, and the seeded settings. -/
def proven : OperationsState where
  database := { Database.migrated .empty with
    upstreamKeys := { rows := [row], nodup := by decide }
    probeReceipts := { rows := [receipt], nodup := by decide } }
  proofFreshnessSeconds := some 604800
  advertised := []
  memory := { VaultFile.empty with keys := [stored] }

def day : Timestamp := 86400000000000

private theorem proven_inStep : proven.InStep := by
  have records : Vault.keyRecords proven.memory = .ok [record] := by
    decide +kernel
  refine ⟨[record], [], records, rfl, List.nodup_singleton _, List.nodup_nil,
    ?_, rfl⟩
  funext id
  simp only [proven, Database.keyView, Table.find?, snapshotView,
    List.find?_cons, List.find?_nil, row, record]
  cases decide ((1 : Uuid) = id) <;> rfl

private theorem proven_slots : proven.SlotsUnique := by
  unfold SlotsUnique
  decide

private theorem proven_candidate (now : Timestamp) :
    proven.Candidate now textProfile row receipt where
  isKey := List.mem_singleton_self _
  ready := rfl
  isReceipt := List.mem_singleton_self _
  live := rfl
  ofKey := rfl
  ofProfile := rfl

private theorem proven_settled (now : Timestamp) (key : UpstreamKeyRow) :
    ¬ proven.Lingers now key := by
  intro ⟨other, member, _, cooling⟩
  cases List.mem_singleton.mp member
  cases cooling

/-- A day after its probe the key is eligible, and every view says so. -/
theorem agreement_iff_fresh :
    proven.Agreement day textProfile ∧
      proven.eligibleKeyIds day textProfile = [1] := by
  have fresh : ∀ proof ∈ proven.database.probeReceipts.rows,
      proven.isFresh day proof = true := by decide +kernel
  have clear : proven.Unambiguous day textProfile :=
    { window := fun key proof candidate =>
        .inl (fresh proof candidate.isReceipt)
      memory := fun key proof candidate =>
        iff_of_true (fresh proof candidate.isReceipt)
          (proven_settled day key)
      profile := .inl ⟨
        ⟨row, receipt, proven_candidate day, by decide +kernel⟩,
        row, receipt, proven_candidate day, proven_settled day row⟩ }
  exact ⟨(agreement_iff rfl proven_slots proven_inStep (by decide)).mpr clear,
    by decide +kernel⟩

/-- Eight days after its probe routing selects no key, yet the views of
version 1 report the key and the model as available. -/
theorem stale_receipt_reported :
    proven.SlotsUnique ∧ proven.InStep ∧
      proven.eligibleKeyIds (8 * day) textProfile = [] ∧
      ((proven.upstreamSlots (8 * day)).map UpstreamSlot.status) =
        ["eligible"] ∧
      proven.SlotShows (8 * day) textProfile 1 ∧
      proven.CapabilityShows (8 * day) textProfile ∧
      ¬ proven.PublicShows (8 * day) textProfile ∧
      ¬ proven.Agreement (8 * day) textProfile := by
  have none_ : proven.eligibleKeyIds (8 * day) textProfile = [] := by
    decide +kernel
  have shown : proven.SlotShows (8 * day) textProfile 1 :=
    (slotShows_iff proven_inStep (by decide)).mpr
      ⟨row, receipt, proven_candidate _, proven_settled _ row, rfl⟩
  have available : proven.CapabilityShows (8 * day) textProfile :=
    (capabilityShows_iff proven_inStep (by decide)).mpr
      ⟨row, receipt, proven_candidate _, proven_settled _ row⟩
  have hidden : ¬ proven.PublicShows (8 * day) textProfile := by
    rw [publicShows_iff (by decide)]
    intro ⟨key, proof, candidate, young⟩
    have stale : ∀ proof ∈ proven.database.probeReceipts.rows,
        proven.freshnessSeconds < proofAge (8 * day) proof := by
      decide +kernel
    exact young (stale proof candidate.isReceipt)
  refine ⟨proven_slots, proven_inStep, none_, by decide +kernel, shown,
    available, hidden, ?_⟩
  intro agrees
  have selected := (agrees.slots 1).mpr shown
  rw [maySelect_iff proven_slots, Eligible, none_] at selected
  cases selected

end Sample

end OperationsState

end NvidiaBuildLb.Gateway
