import NvidiaBuildLb.Core.Cooldown

namespace NvidiaBuildLb.Core

open Foundation

/-! What keeps a stored key out of routing, and which operations give it back. -/

/-- A key that is retired, has to be verified again, or cools long enough. -/
def StoredKey.Out (until_ : Timestamp) (key : StoredKey) : Prop :=
  key.retired = true ∨ key.verified = false ∨
    ∃ old, key.cooldownUntil = some old ∧ until_ ≤ old

/-- The key an operation reports a success or a verification of. -/
def VaultOperation.recovers : VaultOperation → Option Uuid
  | .recordRequest id => some id
  | .markVerified id => some id
  | _ => none

/-- What becomes of a key that has not recovered. -/
structure StoredKey.Unrecovered (key after : StoredKey) : Prop where
  id : after.id = key.id
  retired : key.retired = true → after.retired = true
  verified : key.verified = false → after.verified = false
  out : ∀ until_, key.Out until_ → after.Out until_

namespace StoredKey.Unrecovered

theorem refl (key : StoredKey) : Unrecovered key key :=
  ⟨rfl, fun retired => retired, fun verified => verified, fun _ out => out⟩

theorem trans {first second third : StoredKey} (earlier : Unrecovered first second)
    (later : Unrecovered second third) : Unrecovered first third where
  id := later.id.trans earlier.id
  retired := later.retired ∘ earlier.retired
  verified := later.verified ∘ earlier.verified
  out := fun until_ => later.out until_ ∘ earlier.out until_

theorem switched {key after : StoredKey} (id : after.id = key.id)
    (retired : after.retired = key.retired) (verified : after.verified = key.verified)
    (cooldown : after.cooldownUntil = key.cooldownUntil) : Unrecovered key after := by
  refine ⟨id, ?_, ?_, ?_⟩
  · rw [retired]
    exact fun holds => holds
  · rw [verified]
    exact fun holds => holds
  · intro until_ out
    unfold StoredKey.Out
    rw [retired, verified, cooldown]
    exact out

theorem taken {key after : StoredKey} (id : after.id = key.id)
    (retired : key.retired = true → after.retired = true) (verified : after.verified = false) :
    Unrecovered key after :=
  ⟨id, retired, fun _ => verified, fun _ _ => .inr (.inl verified)⟩

end StoredKey.Unrecovered

theorem StoredKey.applyFailure_out_iff {key : StoredKey}
    (retryAfter : Option Duration) (now until_ : Timestamp) :
    (Vault.applyFailure retryAfter now key).Out until_ ↔
      key.Out until_ ∨ until_ ≤ now + Vault.failureDelay retryAfter
        (saturatingAdd key.failureCount 1) := by
  cases retired : key.retired with
  | true => simp [Out, HealthStep.Moves.retired_applyFailure, retired]
  | false =>
      cases cooling : key.cooldownUntil with
      | none =>
          simp [Out, Vault.applyFailure, retired, cooling]
      | some old =>
          simp [Out, Vault.applyFailure, retired, cooling, or_assoc]

theorem StoredKey.verified_applyFailure (retryAfter : Option Duration) (now : Timestamp)
    (key : StoredKey) :
    (Vault.applyFailure retryAfter now key).verified = key.verified := by
  simp only [Vault.applyFailure]
  split <;> rfl

theorem StoredKey.id_applyFailure (retryAfter : Option Duration) (now : Timestamp)
    (key : StoredKey) : (Vault.applyFailure retryAfter now key).id = key.id := by
  simp only [Vault.applyFailure]
  split <;> rfl

theorem StoredKey.applyFailure_unrecovered (retryAfter : Option Duration)
    (now : Timestamp) (key : StoredKey) :
    key.Unrecovered (Vault.applyFailure retryAfter now key) where
  id := key.id_applyFailure retryAfter now
  retired := by
    rw [HealthStep.Moves.retired_applyFailure]
    exact fun retired => retired
  verified := by
    rw [StoredKey.verified_applyFailure]
    exact fun verified => verified
  out := fun until_ out =>
    (StoredKey.applyFailure_out_iff retryAfter now until_).mpr (.inl out)

/-- The entries of the key do not recover. -/
def Spared (id : Uuid) (key after : StoredKey) : Prop :=
  after.id = key.id ∧ (key.id = id → key.Unrecovered after)

private theorem Spared.refl (id : Uuid) (key : StoredKey) : Spared id key key :=
  ⟨rfl, fun _ => .refl key⟩

private theorem Spared.of_unrecovered {id : Uuid} {key after : StoredKey}
    (unrecovered : key.Unrecovered after) : Spared id key after :=
  ⟨unrecovered.id, fun _ => unrecovered⟩

private theorem Spared.other {id other : Uuid} {key after : StoredKey}
    (same : after.id = key.id) (named : key.id = other) (different : other ≠ id) :
    Spared id key after :=
  ⟨same, fun isKey => absurd (named.symm.trans isKey) different⟩

private theorem editKey_spares {id : Uuid} {state : VaultFile}
    {select : StoredKey → Bool} {edit : StoredKey → StoredKey}
    (changes : ∀ key, select key = true → Spared id key (edit key)) :
    Extends (Spared id) state.keys (Vault.editKey state select edit).state.keys := by
  unfold Vault.editKey
  cases found : modifyFirst? select edit state.keys with
  | none => exact .refl (Spared.refl id) state.keys
  | some result =>
      apply Extends.of_forall₂
      apply modifyFirst?_forall₂ (Spared.refl id) _ found
      intro original isFound
      exact changes original (List.find?_some isFound)

private theorem slots_spared {id : Uuid} {keys kept : List StoredKey}
    (slots : (if Vault.activeCount keys ≥ maxUpstreamKeys then
        (modifyFirst? Vault.isReplaceable Vault.retireForReplacement keys).map Prod.fst
      else
        some keys) = some kept) : List.Forall₂ (Spared id) keys kept := by
  split at slots
  · obtain ⟨result, found, rfl⟩ := Option.map_eq_some_iff.mp slots
    apply modifyFirst?_forall₂ (Spared.refl id) _ found
    intro key _
    apply Spared.of_unrecovered
    exact ⟨rfl, fun _ => rfl, fun verified => verified, fun _ _ => .inl rfl⟩
  · cases slots
    exact List.forall₂_same.mpr fun key _ => Spared.refl id key

private theorem add_spares (primitives : Primitives) (masterKey : MasterKey) (id newId : Uuid)
    (nonce : CipherNonce) (label credential : String) (state : VaultFile) :
    Extends (Spared id) state.keys
      (Vault.add primitives masterKey newId nonce label credential state).state.keys := by
  have unchanged : Extends (Spared id) state.keys state.keys := .refl (Spared.refl id) _
  unfold Vault.add
  split
  · exact unchanged
  split
  · exact unchanged
  simp only
  split
  · exact unchanged
  split
  · exact unchanged
  split
  · exact unchanged
  rename_i kept slots
  have edited : List.Forall₂ (Spared id) state.keys kept := slots_spared slots
  split
  · exact .of_forall₂ edited
  · exact ⟨kept, _, rfl, edited⟩

theorem Vault.id_of_isLive {id : Uuid} {key : StoredKey}
    (live : isLive id key = true) : key.id = id := by
  simp only [isLive, Bool.and_eq_true, decide_eq_true_eq] at live
  exact live.1

private theorem setEnabled_spares (id newId : Uuid) (enabled : Bool) (now : Timestamp)
    (state : VaultFile) :
    Extends (Spared id) state.keys (Vault.setEnabled newId enabled now state).state.keys := by
  have unchanged : Extends (Spared id) state.keys state.keys := .refl (Spared.refl id) _
  unfold Vault.setEnabled
  split
  · exact unchanged
  split
  · exact unchanged
  split
  · exact unchanged
  · exact editKey_spares fun key _ => .of_unrecovered (.switched rfl rfl rfl rfl)

private theorem VaultOperation.spares (primitives : Primitives) (masterKey : MasterKey)
    {operation : VaultOperation} {id : Uuid} (spares : operation.recovers ≠ some id)
    (state : VaultFile) :
    Extends (Spared id) state.keys (operation.stage primitives masterKey state).state.keys := by
  have unchanged : Extends (Spared id) state.keys state.keys := .refl (Spared.refl id) _
  cases operation with
  | add newId nonce label credential =>
      simp only [stage, Staged.state_map]
      exact add_spares primitives masterKey id newId nonce label credential state
  | setEnabled other enabled now =>
      simp only [stage, Staged.state_map]
      exact setEnabled_spares id other enabled now state
  | markVerified other =>
      simp only [stage, Staged.state_map]
      apply editKey_spares
      intro key selected
      exact .other rfl (Vault.id_of_isLive selected) fun same => spares (congrArg some same)
  | delete other =>
      simp only [stage, Staged.state_map, Vault.delete]
      exact editKey_spares fun key _ => .of_unrecovered (.taken rfl (fun _ => rfl) rfl)
  | quarantine other =>
      simp only [stage, Staged.state_map]
      exact editKey_spares fun key _ =>
        .of_unrecovered (.taken rfl (fun retired => retired) rfl)
  | recordRequest other =>
      simp only [stage, Staged.state_map, Vault.recordRequest]
      apply editKey_spares
      intro key selected
      exact .other rfl (of_decide_eq_true selected) fun same => spares (congrArg some same)
  | recordFailure other retryAfter now =>
      simp only [stage, Staged.state_map, Vault.recordFailure]
      exact editKey_spares fun key _ =>
        .of_unrecovered (key.applyFailure_unrecovered retryAfter now)
  | setRouterCursor cursor => exact unchanged
  | setRouterCursorFor profile cursor => exact unchanged
  | issueDownstream other bytes now label scopes =>
      simp only [stage, Staged.state_map]
      unfold Vault.issueDownstream
      repeat' split
      all_goals exact unchanged
  | revokeDownstream other now =>
      simp only [stage, Staged.state_map]
      unfold Vault.revokeDownstream Vault.editDownstream
      repeat' split
      all_goals exact unchanged
  | rotateDownstream other bytes =>
      simp only [stage, Staged.state_map, Vault.rotateDownstream]
      unfold Vault.editDownstream
      split <;> exact unchanged
  | updateDownstreamScopes other scopes =>
      simp only [stage, Staged.state_map]
      unfold Vault.updateDownstreamScopes Vault.editDownstream
      repeat' split
      all_goals exact unchanged
  | recordDownstreamUse other usedAt =>
      simp only [stage, Staged.state_map]
      unfold Vault.recordDownstreamUse Vault.editDownstream
      split <;> exact unchanged

theorem VaultOperation.keyOf_unrecovered (primitives : Primitives) (masterKey : MasterKey)
    {operation : VaultOperation} {id : Uuid} (spares : operation.recovers ≠ some id)
    {state : VaultFile} {key : StoredKey} (found : state.keyOf id = some key) :
    ∃ after, (operation.stage primitives masterKey state).state.keyOf id = some after ∧
      key.Unrecovered after := by
  obtain ⟨after, isAfter, -, unrecovered⟩ :=
    (VaultOperation.spares primitives masterKey spares state).exists_of_find?
      (fun entry successor spared => by rw [spared.1]) found
  exact ⟨after, isAfter, unrecovered (VaultFile.id_of_keyOf found)⟩

theorem Vault.keyOf_editKey {state : VaultFile} {select : StoredKey → Bool}
    {edit : StoredKey → StoredKey} {id : Uuid} {key : StoredKey}
    (narrower : ∀ key, select key = true → key.id = id)
    (keepsId : (edit key).id = key.id) (found : state.keyOf id = some key)
    (selected : select key = true) :
    (editKey state select edit).state.keyOf id = some (edit key) := by
  unfold editKey
  cases edited : modifyFirst? select edit state.keys with
  | none =>
      have member := List.mem_of_find?_eq_some found
      rw [modifyFirst?_eq_none.mp edited key member] at selected
      cases selected
  | some result =>
      apply find?_modifyFirst? edited _ found selected
      · rw [keepsId]
        exact decide_eq_true (VaultFile.id_of_keyOf found)
      · exact fun value chosen => decide_eq_true (narrower value chosen)

theorem Vault.isLive_of_keyOf {state : VaultFile} {id : Uuid}
    {key : StoredKey} (found : state.keyOf id = some key)
    (live : key.retired = false) : isLive id key = true := by
  simp [isLive, VaultFile.id_of_keyOf found, live]

theorem Vault.setEnabled_staged {state : VaultFile} {id : Uuid} {key : StoredKey}
    {now : Timestamp} (found : state.keyOf id = some key) (live : key.retired = false)
    (verified : key.verified = true)
    (cooled : ∀ old, key.cooldownUntil = some old → old ≤ now) :
    ∃ front back, state.keys = front ++ key :: back ∧
      setEnabled id true now state = .persisting (summary { key with enabled := true })
        { state with keys := front ++ { key with enabled := true } :: back } := by
  have isLive := Vault.isLive_of_keyOf found live
  have first : state.keys.find? (Vault.isLive id) = some key :=
    find?_of_narrower
      (fun _ chosen => decide_eq_true (Vault.id_of_isLive chosen)) found isLive
  have notCooling : Vault.isCooling now key = false := by
    unfold Vault.isCooling
    cases cooling : key.cooldownUntil with
    | none => rfl
    | some old => exact decide_eq_false (not_lt_of_ge (cooled old cooling))
  cases edited : modifyFirst? (Vault.isLive id)
      (fun key => { key with enabled := true }) state.keys with
  | none =>
      rw [modifyFirst?_eq_none.mp edited key (List.mem_of_find?_eq_some found)] at isLive
      cases isLive
  | some result =>
      obtain ⟨original, isOriginal, isEdit⟩ := find?_of_modifyFirst? edited
      obtain ⟨front, other, back, isKeys, skipped, selected, isEntry, isResult⟩ :=
        modifyFirst?_eq_some edited
      have same : other = key := by
        rw [isKeys, List.find?_append, List.find?_eq_none.mpr] at first
        · simpa [selected] using first
        · intro candidate member
          simp [skipped candidate member]
      subst same
      refine ⟨front, back, isKeys, ?_⟩
      simp only [Vault.setEnabled, first, verified, notCooling, Bool.not_true, Bool.and_false,
        Bool.false_eq_true, if_false, Vault.editKey, edited, isEntry, isResult]

theorem Vault.keyOf_recordFailure (id : Uuid) (retryAfter : Option Duration)
    (now : Timestamp) (state : VaultFile) :
    (recordFailure id retryAfter now state).state.keyOf id =
      (state.keyOf id).map (applyFailure retryAfter now) := by
  rw [recordFailure, Staged.state_map]
  cases found : state.keyOf id with
  | some key =>
      apply keyOf_editKey (fun _ => of_decide_eq_true) _ found
      · exact decide_eq_true (VaultFile.id_of_keyOf found)
      · simp only [applyFailure]
        split <;> rfl
  | none =>
      have missing : ∀ key ∈ state.keys, decide (key.id = id) = false := by
        intro key member
        simpa using List.find?_eq_none.mp found key member
      simp only [editKey, modifyFirst?_eq_none.mpr missing]
      exact found

theorem Vault.keyOf_quarantine {id : Uuid} {state : VaultFile} {key : StoredKey}
    (found : state.keyOf id = some key) :
    ∃ after, (quarantine id state).state.keyOf id = some after ∧
      after.retired = key.retired ∧
      (key.retired = false → after.verified = false ∧ after.cooldownUntil = none) := by
  cases retired : key.retired with
  | true =>
      obtain ⟨after, isAfter, unrecovered⟩ := VaultOperation.keyOf_unrecovered
        (.tabulated []) (Vector.replicate 32 0)
        (show (VaultOperation.quarantine id).recovers ≠ some id by
          simp [VaultOperation.recovers]) found
      simp only [VaultOperation.stage, Staged.state_map] at isAfter
      refine ⟨after, isAfter, unrecovered.retired retired, ?_⟩
      intro live
      cases live
  | false =>
      have edited : (quarantine id state).state.keyOf id = some
          { key with
            enabled := false
            verified := false
            cooldownUntil := none
            failureCount := 0 } := by
        apply keyOf_editKey (fun _ => id_of_isLive) _ found
          (isLive_of_keyOf found retired)
        rfl
      exact ⟨_, edited, retired, fun _ => ⟨rfl, rfl⟩⟩

end NvidiaBuildLb.Core
