import NvidiaBuildLb.Core.Invariant
import NvidiaBuildLb.Gateway.Database

namespace NvidiaBuildLb.Gateway

open Foundation NvidiaBuildLb.Core

/-! A key leaves service in two ways: `delete` names it, or `add` takes its
slot over. -/

/-- The lifecycle state in which `delete` leaves a key. -/
structure OutOfService (key : StoredKey) : Prop where
  enabled : key.enabled = false
  verified : key.verified = false
  cooldown : key.cooldownUntil = none

def RetiredOutOfService (state : VaultFile) : Prop :=
  ∀ key ∈ state.keys, key.retired = true → OutOfService key

/-- What neither way of retirement leaves to be reset. -/
def Idle (key : StoredKey) : Prop :=
  key.verified = false ∧ key.cooldownUntil = none

instance (key : StoredKey) : Decidable (Idle key) :=
  inferInstanceAs (Decidable (_ ∧ _))

/-- The key whose slot `add` takes over in this state. -/
def replacement (primitives : Primitives) (label credential : String)
    (state : VaultFile) : Option StoredKey :=
  if validateLabel label = .ok () ∧ validUpstreamCredential credential ∧
      (state.keys.any fun key =>
        key.fingerprint == fingerprint primitives (utf8 credential)) = false ∧
      (state.keys.any fun key => !key.retired && key.label == label) = false ∧
      Vault.activeCount state.keys ≥ maxUpstreamKeys then
    state.keys.find? Vault.isReplaceable
  else
    none

/-- The edit `delete` makes to the key it names. -/
def retireByDelete (key : StoredKey) : StoredKey :=
  { key with
    retired := true
    enabled := false
    verified := false
    cooldownUntil := none }

theorem delete_eq (id : Uuid) (state : VaultFile) :
    Vault.delete id state =
      (Vault.editKey state (Vault.isLive id) retireByDelete).map fun _ => () :=
  rfl

def replaced (primitives : Primitives) (state : VaultFile) :
    VaultOperation → Option StoredKey
  | .add _ _ label credential => replacement primitives label credential state
  | _ => none

/-- The record of one key, and the row the vault exports for it. -/
def keyRecordOf (state : VaultFile) (id : Uuid) : Option StoredKey :=
  state.keys.find? fun key => key.id = id

def exportedRow (state : VaultFile) (id : Uuid) :
    Option (Except VaultError KeyColumns) :=
  (keyRecordOf state id).map fun key => (Vault.keyRecord key).map keyColumns

/-- A key that is retired afterwards is out of service, unless it was retired
before without being so. -/
def StaysOut (before after : StoredKey) : Prop :=
  after.retired = true →
    (before.retired = true → OutOfService before) → OutOfService after

private theorem StaysOut.refl (key : StoredKey) : StaysOut key key :=
  fun retired before => before retired

private theorem staysOut_live {before after : StoredKey}
    (live : after.retired = false) : StaysOut before after := by
  intro retired
  rw [live] at retired
  cases retired

private theorem editKey_staysOut {select : StoredKey → Bool}
    {edit : StoredKey → StoredKey} (state : VaultFile)
    (stays : ∀ key, select key = true → StaysOut key (edit key)) :
    List.Forall₂ StaysOut state.keys
      (Vault.editKey state select edit).state.keys := by
  unfold Vault.editKey
  cases found : modifyFirst? select edit state.keys with
  | none => exact List.forall₂_same.mpr fun key _ => StaysOut.refl key
  | some result =>
      apply modifyFirst?_forall₂ StaysOut.refl _ found
      intro original isFound
      exact stays original (List.find?_some isFound)

private theorem applyFailure_staysOut (retryAfter : Option Duration)
    (now : Timestamp) (key : StoredKey) :
    StaysOut key (Vault.applyFailure retryAfter now key) := by
  unfold Vault.applyFailure
  cases retired : key.retired with
  | true =>
      intro _ before
      have out := before retired
      exact ⟨out.enabled, out.verified, rfl⟩
  | false => exact staysOut_live rfl

private theorem setEnabled_staysOut (id : Uuid) (enabled : Bool)
    (now : Timestamp) (state : VaultFile) :
    List.Forall₂ StaysOut state.keys
      (Vault.setEnabled id enabled now state).state.keys := by
  have unchanged : List.Forall₂ StaysOut state.keys state.keys :=
    List.forall₂_same.mpr fun key _ => StaysOut.refl key
  unfold Vault.setEnabled
  split
  · exact unchanged
  split
  · exact unchanged
  split
  · exact unchanged
  apply editKey_staysOut
  intro key live
  exact staysOut_live (Vault.isLive_retired live)

theorem stage_staysOut (primitives : Primitives)
    (masterKey : MasterKey) (operation : VaultOperation) (state : VaultFile)
    (notAdd : ∀ id nonce label credential,
      operation ≠ .add id nonce label credential) :
    List.Forall₂ StaysOut state.keys
      (operation.stage primitives masterKey state).state.keys := by
  have kept : ∀ {after : List StoredKey}, after = state.keys →
      List.Forall₂ StaysOut state.keys after := by
    intro after same
    subst same
    exact List.forall₂_same.mpr fun key _ => StaysOut.refl key
  have live : ∀ {id : Uuid} {edit : StoredKey → StoredKey},
      (∀ key, (edit key).retired = key.retired) → ∀ key,
        Vault.isLive id key = true → StaysOut key (edit key) := by
    intro id edit same key isLive
    exact staysOut_live ((same key).trans (Vault.isLive_retired isLive))
  cases operation with
  | add id nonce label credential =>
      exact absurd rfl (notAdd id nonce label credential)
  | setEnabled id enabled now =>
      simp only [VaultOperation.stage, Staged.state_map]
      exact setEnabled_staysOut id enabled now state
  | markVerified id =>
      simp only [VaultOperation.stage, Staged.state_map]
      exact editKey_staysOut state (live fun key => rfl)
  | delete id =>
      simp only [VaultOperation.stage, Staged.state_map, Vault.delete]
      exact editKey_staysOut state fun key _ _ _ => ⟨rfl, rfl, rfl⟩
  | quarantine id =>
      simp only [VaultOperation.stage, Staged.state_map]
      exact editKey_staysOut state (live fun key => rfl)
  | recordRequest id =>
      simp only [VaultOperation.stage, Staged.state_map, Vault.recordRequest]
      apply editKey_staysOut
      intro key _ retired before
      have out := before retired
      exact ⟨out.enabled, out.verified, rfl⟩
  | recordFailure id retryAfter now =>
      simp only [VaultOperation.stage, Staged.state_map, Vault.recordFailure]
      apply editKey_staysOut
      intro key _
      exact applyFailure_staysOut retryAfter now key
  | setRouterCursor cursor => exact kept rfl
  | setRouterCursorFor profile cursor => exact kept rfl
  | issueDownstream id bytes now label scopes =>
      apply kept
      simp only [VaultOperation.stage, Staged.state_map,
        Vault.issueDownstream]
      split
      · rfl
      split
      · rfl
      split <;> rfl
  | revokeDownstream id now =>
      apply kept
      simp only [VaultOperation.stage, Staged.state_map,
        Vault.revokeDownstream, Vault.editDownstream]
      split
      · rfl
      split
      · split <;> rfl
      · rfl
  | rotateDownstream id bytes =>
      apply kept
      simp only [VaultOperation.stage, Staged.state_map,
        Vault.rotateDownstream, Vault.editDownstream]
      split <;> rfl
  | updateDownstreamScopes id scopes =>
      apply kept
      simp only [VaultOperation.stage, Staged.state_map,
        Vault.updateDownstreamScopes, Vault.editDownstream]
      split
      · rfl
      split <;> rfl
  | recordDownstreamUse id usedAt =>
      apply kept
      simp only [VaultOperation.stage, Staged.state_map,
        Vault.recordDownstreamUse, Vault.editDownstream]
      split <;> rfl

/-- The list `add` goes on with, apart from the key it adds. -/
def keptKeys (primitives : Primitives) (label credential : String)
    (state : VaultFile) (kept : List StoredKey) : Prop :=
  match replacement primitives label credential state with
  | none => kept = state.keys
  | some key =>
      modifyFirst? Vault.isReplaceable Vault.retireForReplacement state.keys =
        some (kept, Vault.retireForReplacement key)

private theorem keptKeys_of_none (isNone :
    replacement primitives label credential state = none) :
    keptKeys primitives label credential state state.keys := by
  unfold keptKeys
  rw [isNone]

/-- What `add` leaves behind: the keys it found, the replaced one retired, and
at most one new key, which is live. -/
theorem add_keys (primitives : Primitives) (masterKey : MasterKey)
    (id : Uuid) (nonce : CipherNonce) (label credential : String)
    (state : VaultFile) :
    ∃ kept added,
      (Vault.add primitives masterKey id nonce label credential
        state).state.keys = kept ++ added ∧
      (∀ entry ∈ added, entry.retired = false) ∧
      keptKeys primitives label credential state kept := by
  have untouched : replacement primitives label credential state = none →
      ∃ kept added, state.keys = kept ++ added ∧
        (∀ entry ∈ added, entry.retired = false) ∧
        keptKeys primitives label credential state kept := fun isNone =>
    ⟨state.keys, [], by simp, by simp, keptKeys_of_none isNone⟩
  unfold Vault.add
  cases labelled : validateLabel label with
  | error error =>
      apply untouched
      exact if_neg fun guards => by simp [guards.1] at labelled
  | ok checked =>
      simp only
      split
      · rename_i shape
        apply untouched
        exact if_neg fun guards => by simp [guards.2.1] at shape
      rename_i shape
      split
      · rename_i known
        apply untouched
        exact if_neg fun guards => by simp [guards.2.2.1] at known
      rename_i known
      split
      · rename_i taken
        apply untouched
        exact if_neg fun guards => by simp [guards.2.2.2.1] at taken
      rename_i taken
      by_cases full : Vault.activeCount state.keys ≥ maxUpstreamKeys
      · have takes : replacement primitives label credential state =
            state.keys.find? Vault.isReplaceable := by
          apply if_pos
          exact ⟨labelled, by simpa using shape, by simpa using known,
            by simpa using taken, full⟩
        rw [if_pos full]
        cases found : modifyFirst? Vault.isReplaceable
            Vault.retireForReplacement state.keys with
        | none =>
            apply untouched
            rw [takes, List.find?_eq_none]
            simpa using modifyFirst?_eq_none.mp found
        | some result =>
            obtain ⟨kept, entry⟩ := result
            obtain ⟨original, isFirst, isEdit⟩ := find?_of_modifyFirst? found
            have keeps : keptKeys primitives label credential state kept := by
              subst isEdit
              simpa [keptKeys, takes, isFirst] using found
            simp only [Option.map_some]
            split
            · exact ⟨kept, [], (List.append_nil kept).symm, by simp, keeps⟩
            · exact ⟨kept, [_], rfl, by simp, keeps⟩
      · have takes : replacement primitives label credential state = none :=
          if_neg fun guards => full guards.2.2.2.2
        rw [if_neg full]
        simp only
        split
        · exact untouched takes
        · exact ⟨state.keys, [_], rfl, by simp, keptKeys_of_none takes⟩

private theorem replacement_found {primitives : Primitives}
    {label credential : String} {state : VaultFile} {key : StoredKey}
    (takes : replacement primitives label credential state = some key) :
    state.keys.find? Vault.isReplaceable = some key := by
  unfold replacement at takes
  split at takes
  · exact takes
  · cases takes

private theorem isReplaceable_iff {key : StoredKey} :
    Vault.isReplaceable key = true ↔
      key.retired = false ∧ key.enabled = false := by
  simp [Vault.isReplaceable]

private theorem retireForReplacement_outOfService {key : StoredKey} :
    OutOfService (Vault.retireForReplacement key) ↔ Idle key := by
  constructor
  · intro out
    exact ⟨out.verified, out.cooldown⟩
  · intro idle
    exact ⟨rfl, idle.1, idle.2⟩

private theorem outOfService_of_forall₂ {before after : List StoredKey}
    (stays : List.Forall₂ StaysOut before after)
    (out : ∀ key ∈ before, key.retired = true → OutOfService key) :
    ∀ key ∈ after, key.retired = true → OutOfService key := by
  intro key member retired
  obtain ⟨original, found, step⟩ := exists_of_forall₂_right stays member
  exact step retired (out original found)

theorem RetiredOutOfService.stage {primitives : Primitives}
    {state : VaultFile} (out : RetiredOutOfService state)
    (masterKey : MasterKey) (operation : VaultOperation)
    (idle : ∀ key, replaced primitives state operation = some key → Idle key) :
    RetiredOutOfService (operation.stage primitives masterKey state).state := by
  cases isAdd : operation with
  | add id nonce label credential =>
      subst isAdd
      obtain ⟨kept, added, keys, live, keeps⟩ :=
        add_keys primitives masterKey id nonce label credential state
      have keptOut : ∀ key ∈ kept, key.retired = true → OutOfService key := by
        cases takes : replacement primitives label credential state with
        | none =>
            simp only [keptKeys, takes] at keeps
            exact keeps ▸ out
        | some key =>
            simp only [keptKeys, takes] at keeps
            apply outOfService_of_forall₂ _ out
            apply modifyFirst?_forall₂ StaysOut.refl _ keeps
            intro original isFirst _ _
            rw [replacement_found takes] at isFirst
            cases isFirst
            exact retireForReplacement_outOfService.mpr (idle key takes)
      simp only [VaultOperation.stage, Staged.state_map]
      intro key member retired
      rw [keys] at member
      rcases List.mem_append.mp member with inKept | inAdded
      · exact keptOut key inKept retired
      · rw [live key inAdded] at retired
        cases retired
  | _ =>
      rw [← isAdd]
      apply outOfService_of_forall₂ _ out
      apply stage_staysOut
      intro id nonce label credential same
      rw [same] at isAdd
      cases isAdd

theorem idle_of_retiredOutOfService {primitives : Primitives}
    {state : VaultFile} (masterKey : MasterKey) {operation : VaultOperation}
    (out : RetiredOutOfService
      (operation.stage primitives masterKey state).state) {key : StoredKey}
    (takes : replaced primitives state operation = some key) : Idle key := by
  cases operation <;> try cases takes
  rename_i id nonce label credential
  obtain ⟨kept, added, keys, -, keeps⟩ :=
    add_keys primitives masterKey id nonce label credential state
  simp only [replaced] at takes
  simp only [keptKeys, takes] at keeps
  apply retireForReplacement_outOfService.mp
  apply out _ _ rfl
  simp only [VaultOperation.stage, Staged.state_map]
  rw [keys]
  exact List.mem_append_left _ (modifyFirst?_entry_mem keeps)

private theorem keyRecordOf_of_mem {state : VaultFile} {key : StoredKey}
    (distinct : (state.keys.map StoredKey.id).Nodup)
    (member : key ∈ state.keys) : keyRecordOf state key.id = some key := by
  unfold keyRecordOf
  cases found : state.keys.find? fun candidate => candidate.id = key.id with
  | none =>
      have absent := List.find?_eq_none.mp found key member
      simp at absent
  | some candidate =>
      have same : candidate.id = key.id := by
        simpa using List.find?_some found
      exact congrArg some (List.inj_on_of_nodup_map distinct
        (List.mem_of_find?_eq_some found) member same)

theorem keyRecordOf_add {primitives : Primitives} {masterKey : MasterKey}
    {id : Uuid} {nonce : CipherNonce} {label credential : String}
    {state : VaultFile} {key : StoredKey}
    (distinct : ((Vault.add primitives masterKey id nonce label credential
      state).state.keys.map StoredKey.id).Nodup)
    (takes : replacement primitives label credential state = some key) :
    keyRecordOf (Vault.add primitives masterKey id nonce label credential
      state).state key.id = some (Vault.retireForReplacement key) := by
  obtain ⟨kept, added, keys, -, keeps⟩ :=
    add_keys primitives masterKey id nonce label credential state
  simp only [keptKeys, takes] at keeps
  apply @keyRecordOf_of_mem _ (Vault.retireForReplacement key) distinct
  rw [keys]
  exact List.mem_append_left _ (modifyFirst?_entry_mem keeps)

theorem keyRecordOf_delete {state : VaultFile} {key : StoredKey}
    (distinct : (state.keys.map StoredKey.id).Nodup)
    (member : key ∈ state.keys) (live : key.retired = false) :
    keyRecordOf (Vault.delete key.id state).state key.id =
      some (retireByDelete key) := by
  rw [delete_eq, Staged.state_map]
  unfold Vault.editKey
  cases found : modifyFirst? (Vault.isLive key.id) retireByDelete
      state.keys with
  | none =>
      have missing := modifyFirst?_eq_none.mp found key member
      simp [Vault.isLive, live] at missing
  | some result =>
      obtain ⟨keys, entry⟩ := result
      obtain ⟨original, isFirst, isEdit⟩ := find?_of_modifyFirst? found
      have selected := List.find?_some isFirst
      simp only [Vault.isLive, Bool.and_eq_true, decide_eq_true_eq] at selected
      have isKey : original = key :=
        List.inj_on_of_nodup_map distinct
          (List.mem_of_find?_eq_some isFirst) member selected.1
      subst isKey isEdit
      have keysDistinct : (keys.map StoredKey.id).Nodup := by
        have sameId : ∀ key, (retireByDelete key).id = key.id := fun _ => rfl
        rw [modifyFirst?_map_eq StoredKey.id sameId found]
        exact distinct
      exact @keyRecordOf_of_mem { state with keys } _ keysDistinct
        (modifyFirst?_entry_mem found)

theorem retireForReplacement_eq_iff {key : StoredKey} :
    Vault.retireForReplacement key = retireByDelete key ↔ Idle key := by
  cases key
  simp [Vault.retireForReplacement, retireByDelete, Idle]

theorem retireForReplacement_row_eq_iff {key : StoredKey}
    (formed : WellFormedKey key) :
    (Vault.keyRecord (Vault.retireForReplacement key)).map keyColumns =
        (Vault.keyRecord (retireByDelete key)).map keyColumns ↔
      Idle key := by
  obtain ⟨⟨digest, -, digestEq⟩, ⟨nonce, -, nonceEq⟩,
    ⟨sealed, -, sealedEq⟩⟩ := formed
  obtain ⟨id, label, fingerprint, keyNonce, ciphertext, enabled, verified,
    retired, cooldownUntil, requestCount, failureCount⟩ := key
  subst digestEq nonceEq sealedEq
  simp only [Vault.keyRecord, Vault.decodeField, Vault.retireForReplacement,
    retireByDelete, hexDecode_hexEncode, base64UrlDecode_base64UrlEncode,
    bind, Except.bind, Except.map, keyColumns, Idle]
  simp

def freshStep (primitives : Primitives) (masterKey : MasterKey) :
    VaultWorld → Attempt → VaultWorld → Prop :=
  Guarded (vaultStep primitives masterKey) fun world attempt =>
    attempt.1.Fresh world.memory

private theorem freshStep_ids {primitives : Primitives}
    {masterKey : MasterKey} {before after : VaultWorld} {attempt : Attempt}
    (distinct : (before.memory.keys.map StoredKey.id).Nodup)
    (step : freshStep primitives masterKey before attempt after) :
    (after.memory.keys.map StoredKey.id).Nodup := by
  obtain ⟨rfl, fresh⟩ := step
  exact (VaultOperation.advances primitives masterKey fresh).keyIds distinct

def memoryAfter (primitives : Primitives) (masterKey : MasterKey)
    (temporary : Option (Option VaultFile)) (attempts : List Attempt) :
    VaultFile :=
  ((VaultWorld.fresh temporary).replay primitives masterKey attempts).memory

private theorem memoryAfter_snoc (primitives : Primitives)
    (masterKey : MasterKey) (temporary : Option (Option VaultFile))
    (attempts : List Attempt) (attempt : Attempt) :
    memoryAfter primitives masterKey temporary (attempts ++ [attempt]) =
      (attempt.1.stage primitives masterKey
        (memoryAfter primitives masterKey temporary attempts)).state := by
  simp [memoryAfter, VaultWorld.replay, VaultWorld.attempt]

private theorem freshStep_replay {primitives : Primitives}
    {masterKey : MasterKey} {start world : VaultWorld}
    {attempts : List Attempt}
    (run : Run (freshStep primitives masterKey) start attempts world) :
    world = start.replay primitives masterKey attempts := by
  induction run with
  | nil => rfl
  | cons step _ induction =>
      obtain ⟨rfl, -⟩ := step
      exact induction

private theorem freshRun_prefix {primitives : Primitives}
    {masterKey : MasterKey} {start world : VaultWorld}
    {taken rest : List Attempt}
    (run : Run (freshStep primitives masterKey) start (taken ++ rest) world) :
    ∃ middle, Run (freshStep primitives masterKey) start taken middle := by
  induction taken generalizing start with
  | nil => exact ⟨start, .nil start⟩
  | cons attempt taken induction =>
      cases run with
      | cons step run =>
          obtain ⟨middle, reached⟩ := induction run
          exact ⟨middle, .cons step reached⟩

private theorem memoryAfter_distinct {primitives : Primitives}
    {masterKey : MasterKey} {temporary : Option (Option VaultFile)}
    {attempts taken : List Attempt} {world : VaultWorld}
    (run : Run (freshStep primitives masterKey) (.fresh temporary) attempts
      world)
    (reached : taken <+: attempts) :
    ((memoryAfter primitives masterKey temporary taken).keys.map
      StoredKey.id).Nodup := by
  obtain ⟨rest, rfl⟩ := reached
  obtain ⟨middle, early⟩ := freshRun_prefix run
  unfold memoryAfter
  rw [← freshStep_replay early]
  apply early.invariant fun state =>
    (state.memory.keys.map StoredKey.id).Nodup
  · exact freshStep_ids
  · exact List.nodup_nil

/-- Retired keys are out of service, in every state of a run, exactly if every
key that `add` replaces is idle by then, and the two paths leave the same
record, and the same row, of a replaced key exactly if it is. -/
theorem retirement_agrees_iff (primitives : Primitives)
    (masterKey : MasterKey) (temporary : Option (Option VaultFile))
    (attempts : List Attempt) (world : VaultWorld)
    (run : Run (freshStep primitives masterKey) (.fresh temporary) attempts
      world) :
    let after := memoryAfter primitives masterKey temporary
    ((∀ taken, taken <+: attempts → RetiredOutOfService (after taken)) ↔
      ∀ taken attempt, taken ++ [attempt] <+: attempts →
        ∀ key, replaced primitives (after taken) attempt.1 = some key →
          Idle key) ∧
    ∀ taken id nonce label credential fault,
      taken ++ [(.add id nonce label credential, fault)] <+: attempts →
      ∀ key, replacement primitives label credential (after taken) =
          some key →
        let added := (Vault.add primitives masterKey id nonce label credential
          (after taken)).state
        let deleted := (Vault.delete key.id (after taken)).state
        (keyRecordOf added key.id = keyRecordOf deleted key.id ↔ Idle key) ∧
          (exportedRow added key.id = exportedRow deleted key.id ↔
            Idle key) := by
  intro after
  refine ⟨⟨?_, ?_⟩, ?_⟩
  · intro out taken attempt reached key takes
    have later := out _ reached
    simp only [after, memoryAfter_snoc] at later
    exact idle_of_retiredOutOfService masterKey later takes
  · intro idle taken
    induction taken using List.reverseRecOn with
    | nil =>
        intro _ key member
        cases member
    | append_singleton taken attempt induction =>
        intro reached
        simp only [after, memoryAfter_snoc]
        apply RetiredOutOfService.stage
        · exact induction ((List.prefix_append taken [attempt]).trans reached)
        · exact idle taken attempt reached
  · intro taken id nonce label credential fault reached key takes
      added deleted
    have distinct : ((after taken).keys.map StoredKey.id).Nodup :=
      memoryAfter_distinct run ((List.prefix_append taken _).trans reached)
    have addedDistinct : (added.keys.map StoredKey.id).Nodup := by
      have whole := memoryAfter_distinct run reached
      rw [memoryAfter_snoc] at whole
      simpa only [VaultOperation.stage, Staged.state_map] using whole
    have first := replacement_found takes
    have member := List.mem_of_find?_eq_some first
    obtain ⟨live, -⟩ := isReplaceable_iff.mp (List.find?_some first)
    have viaAdd : keyRecordOf added key.id =
        some (Vault.retireForReplacement key) :=
      keyRecordOf_add addedDistinct takes
    have viaDelete : keyRecordOf deleted key.id = some (retireByDelete key) :=
      keyRecordOf_delete distinct member live
    constructor
    · rw [viaAdd, viaDelete, Option.some.injEq]
      exact retireForReplacement_eq_iff
    · unfold exportedRow
      rw [viaAdd, viaDelete, Option.map_some, Option.map_some,
        Option.some.injEq]
      apply retireForReplacement_row_eq_iff
      exact (VaultWorld.replay_sound primitives masterKey temporary
        taken).memory.formed key member

def sampleCredential (letter : Char) : String :=
  "nvapi-" ++ String.ofList (List.replicate 32 letter)

def retirementPrimitives : Primitives := .tabulated [
  (utf8 (sampleCredential 'a'),
    #v[
      235, 213, 93, 201, 109, 115, 116, 105, 219, 174, 186, 74, 107,
      108, 133, 251, 80, 32, 187, 220, 80, 165, 202, 32, 216, 74, 228,
      28, 199, 79, 162, 239]),
  (utf8 (sampleCredential 'b'),
    #v[
      16, 183, 191, 83, 69, 252, 238, 93, 14, 127, 242, 55, 116, 82,
      34, 36, 153, 56, 10, 26, 152, 134, 91, 28, 209, 171, 143, 192,
      106, 151, 10, 189]),
  (utf8 (sampleCredential 'c'),
    #v[
      6, 240, 77, 91, 123, 88, 29, 12, 67, 235, 149, 58, 238, 139,
      111, 153, 223, 191, 111, 185, 35, 42, 199, 106, 190, 179, 218,
      63, 95, 123, 142, 94])]

def zeroMasterKey : MasterKey := Vector.replicate 32 0

def sampleAdd (id : Uuid) (label : String) (letter : Char) : Attempt :=
  (.add id (Vector.replicate 12 0) label (sampleCredential letter), none)

/-- Both slots taken, the first key verified by a probe if `probed`. -/
def bothSlots (probed : Bool) : List Attempt :=
  sampleAdd 1 "first" 'a' ::
    (if probed then [(.markVerified 1, none)] else []) ++
      [sampleAdd 2 "second" 'b']

def takenOver (probed : Bool) : List Attempt :=
  bothSlots probed ++ [sampleAdd 3 "third" 'c']

def sampleMemory (attempts : List Attempt) : VaultFile :=
  memoryAfter retirementPrimitives zeroMasterKey none attempts

private theorem sampleAdd_step {world : VaultWorld} {id : Uuid}
    {label : String} {letter : Char}
    (fresh : id ∉ world.memory.keys.map StoredKey.id) :
    freshStep retirementPrimitives zeroMasterKey world
      (sampleAdd id label letter)
      (world.attempt retirementPrimitives zeroMasterKey
        (sampleAdd id label letter)) :=
  ⟨rfl, fresh⟩

private theorem takenOver_run (probed : Bool) :
    Run (freshStep retirementPrimitives zeroMasterKey) (.fresh none)
      (takenOver probed)
      ((VaultWorld.fresh none).replay retirementPrimitives zeroMasterKey
        (takenOver probed)) := by
  cases probed with
  | false =>
      apply Run.cons (sampleAdd_step List.not_mem_nil)
      apply Run.cons (sampleAdd_step (by decide))
      apply Run.cons (sampleAdd_step (by decide))
      exact Run.nil _
  | true =>
      apply Run.cons (sampleAdd_step List.not_mem_nil)
      apply Run.cons ⟨rfl, trivial⟩
      apply Run.cons (sampleAdd_step (by decide))
      apply Run.cons (sampleAdd_step (by decide))
      exact Run.nil _

def firstKey : StoredKey where
  id := 1
  label := "first"
  fingerprint :=
    "ebd55dc96d737469dbaeba4a6b6c85fb5020bbdc50a5ca20d84ae41cc74fa2ef"
  nonce := base64UrlEncode (List.replicate 12 0)
  ciphertext := base64UrlEncode
    (utf8 (sampleCredential 'a') ++ List.replicate 16 0)
  enabled := false
  verified := false
  retired := false
  cooldownUntil := none
  requestCount := 0
  failureCount := 0

theorem retirement_agrees_unprobed :
    keyRecordOf (sampleMemory (takenOver false)) 1 =
      keyRecordOf (Vault.delete 1 (sampleMemory (bothSlots false))).state
        1 := by
  have agrees := (retirement_agrees_iff retirementPrimitives zeroMasterKey
    none (takenOver false) _ (takenOver_run false)).2 (bothSlots false) 3
    (Vector.replicate 12 0) "third" (sampleCredential 'c') none
    (List.prefix_refl _) firstKey (by decide)
  exact agrees.1.mpr ⟨rfl, rfl⟩

/-- A key that a probe verified and that was then left disabled keeps its
verification when its slot is taken over. -/
theorem retired_key_still_verified :
    (∃ world, Run (freshStep retirementPrimitives zeroMasterKey)
      (.fresh none) (takenOver true) world ∧
        world.memory = sampleMemory (takenOver true)) ∧
    ¬ RetiredOutOfService (sampleMemory (takenOver true)) ∧
      keyRecordOf (sampleMemory (takenOver true)) 1 ≠
        keyRecordOf (Vault.delete 1 (sampleMemory (bothSlots true))).state 1 ∧
      exportedRow (sampleMemory (takenOver true)) 1 ≠
        exportedRow (Vault.delete 1 (sampleMemory (bothSlots true))).state
          1 := by
  have kept : keyRecordOf (sampleMemory (takenOver true)) 1 = some
      { firstKey with verified := true, retired := true } := by decide
  refine ⟨⟨_, takenOver_run true, rfl⟩, ?_, ?_, ?_⟩
  · intro out
    have verified := (out _ (List.mem_of_find?_eq_some kept) rfl).verified
    cases verified
  · rw [kept]
    decide
  · decide

end NvidiaBuildLb.Gateway
