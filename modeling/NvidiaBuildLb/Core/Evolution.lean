import NvidiaBuildLb.Core.Mutators

namespace NvidiaBuildLb.Core

open Foundation

/-! What any one operation can do to the stored entries. -/

def EnabledSound (key : StoredKey) : Prop :=
  key.enabled = true → key.verified = true ∧ key.retired = false

structure KeyEdited (before after : StoredKey) : Prop where
  id : after.id = before.id
  label : after.label = before.label
  fingerprint : after.fingerprint = before.fingerprint
  nonce : after.nonce = before.nonce
  ciphertext : after.ciphertext = before.ciphertext
  retired : before.retired = true → after.retired = true
  sound : EnabledSound before → EnabledSound after

def WellFormedDigest (text : String) : Prop :=
  ∃ bytes : List UInt8, bytes.length = 32 ∧ text = hexEncode bytes

structure DownstreamEdited (before after : StoredDownstream) : Prop where
  id : after.id = before.id
  label : after.label = before.label
  createdAt : after.createdAt = before.createdAt
  revoked : before.active = false → after.active = false
  unused : before.active = false →
    after.requestCount = before.requestCount ∧
      after.lastUsedAt = before.lastUsedAt
  digest : WellFormedDigest before.tokenDigest →
    WellFormedDigest after.tokenDigest

/-- Stored text fields that decode to bytes of the sizes a loader accepts. -/
structure WellFormedKey (key : StoredKey) : Prop where
  fingerprint : WellFormedDigest key.fingerprint
  nonce : ∃ bytes : List UInt8,
    bytes.length = 12 ∧ key.nonce = base64UrlEncode bytes
  ciphertext : ∃ bytes : List UInt8,
    16 < bytes.length ∧ key.ciphertext = base64UrlEncode bytes

theorem KeyEdited.refl (key : StoredKey) : KeyEdited key key :=
  ⟨rfl, rfl, rfl, rfl, rfl, fun retired => retired, fun sound => sound⟩

theorem KeyEdited.trans (first second third : StoredKey)
    (earlier : KeyEdited first second) (later : KeyEdited second third) :
    KeyEdited first third where
  id := later.id.trans earlier.id
  label := later.label.trans earlier.label
  fingerprint := later.fingerprint.trans earlier.fingerprint
  nonce := later.nonce.trans earlier.nonce
  ciphertext := later.ciphertext.trans earlier.ciphertext
  retired := later.retired ∘ earlier.retired
  sound := later.sound ∘ earlier.sound

theorem DownstreamEdited.refl (item : StoredDownstream) :
    DownstreamEdited item item :=
  ⟨rfl, rfl, rfl, fun revoked => revoked, fun _ => ⟨rfl, rfl⟩,
    fun formed => formed⟩

theorem DownstreamEdited.trans (first second third : StoredDownstream)
    (earlier : DownstreamEdited first second)
    (later : DownstreamEdited second third) : DownstreamEdited first third where
  id := later.id.trans earlier.id
  label := later.label.trans earlier.label
  createdAt := later.createdAt.trans earlier.createdAt
  revoked := later.revoked ∘ earlier.revoked
  unused := by
    intro revoked
    have first := earlier.unused revoked
    have second := later.unused (earlier.revoked revoked)
    exact ⟨second.1.trans first.1, second.2.trans first.2⟩
  digest := later.digest ∘ earlier.digest

theorem WellFormedKey.of_edited {before after : StoredKey}
    (edited : KeyEdited before after) (formed : WellFormedKey before) :
    WellFormedKey after where
  fingerprint := edited.fingerprint ▸ formed.fingerprint
  nonce := edited.nonce ▸ formed.nonce
  ciphertext := edited.ciphertext ▸ formed.ciphertext

theorem wellFormedDigest_fingerprint (primitives : Primitives)
    (value : List UInt8) : WellFormedDigest (fingerprint primitives value) :=
  ⟨(primitives.sha256 value).toList, by simp, rfl⟩

/-- A key appended behind the kept ones, whose room may come from the slot the
operation just retired. -/
structure AddedKey (newId : Option Uuid) (before kept : List StoredKey)
    (entry : StoredKey) : Prop where
  id : newId = some entry.id
  room : Vault.activeCount before ≤ maxUpstreamKeys →
    Vault.activeCount kept < maxUpstreamKeys
  fingerprint : ∀ key ∈ before, key.fingerprint ≠ entry.fingerprint
  label : ∀ key ∈ before, key.retired = false → key.label ≠ entry.label
  formed : WellFormedKey entry
  sound : EnabledSound entry

inductive KeysEvolve (newId : Option Uuid) (before : List StoredKey) :
    List StoredKey → Prop
  | edited {after : List StoredKey} (edits : List.Forall₂ KeyEdited before after) :
      KeysEvolve newId before after
  | added {kept : List StoredKey} {entry : StoredKey}
      (edits : List.Forall₂ KeyEdited before kept)
      (new : AddedKey newId before kept entry) :
      KeysEvolve newId before (kept ++ [entry])

inductive DownstreamEvolve (newId : Option Uuid)
    (before : List StoredDownstream) : List StoredDownstream → Prop
  | edited {after : List StoredDownstream}
      (edits : List.Forall₂ DownstreamEdited before after) :
      DownstreamEvolve newId before after
  | added {entry : StoredDownstream} (id : newId = some entry.id)
      (formed : WellFormedDigest entry.tokenDigest) :
      DownstreamEvolve newId before (before ++ [entry])

/-- The two identifiers are the ones the operation was given for a new key and
a new downstream credential. -/
structure Evolves (newKey newDownstream : Option Uuid)
    (before after : VaultFile) : Prop where
  version : after.version = before.version
  keys : KeysEvolve newKey before.keys after.keys
  downstream :
    DownstreamEvolve newDownstream before.downstream after.downstream

variable {newId newKey newDownstream : Option Uuid}

private theorem keys_same (keys : List StoredKey) :
    KeysEvolve newId keys keys :=
  .edited (List.forall₂_same.mpr fun key _ => KeyEdited.refl key)

private theorem downstream_same (downstream : List StoredDownstream) :
    DownstreamEvolve newId downstream downstream :=
  .edited (List.forall₂_same.mpr fun item _ => DownstreamEdited.refl item)

theorem Evolves.refl (state : VaultFile) :
    Evolves newKey newDownstream state state :=
  ⟨rfl, keys_same _, downstream_same _⟩

theorem KeysEvolve.extends {before after : List StoredKey}
    (evolve : KeysEvolve newId before after) :
    Extends KeyEdited before after := by
  cases evolve with
  | edited edits => exact .of_forall₂ edits
  | added edits new => exact ⟨_, _, rfl, edits⟩

theorem DownstreamEvolve.extends {before after : List StoredDownstream}
    (evolve : DownstreamEvolve newId before after) :
    Extends DownstreamEdited before after := by
  cases evolve with
  | edited edits => exact .of_forall₂ edits
  | added id formed =>
      exact ⟨_, _, rfl,
        List.forall₂_same.mpr fun item _ => DownstreamEdited.refl item⟩

namespace Vault

theorem editKey_evolves {select : StoredKey → Bool}
    {edit : StoredKey → StoredKey} (state : VaultFile)
    (edited : ∀ key, state.keys.find? select = some key →
      KeyEdited key (edit key)) :
    Evolves newKey newDownstream state (editKey state select edit).state := by
  unfold editKey
  split
  · exact Evolves.refl state
  · rename_i keys key found
    exact ⟨rfl, .edited (modifyFirst?_forall₂ KeyEdited.refl edited found),
      downstream_same _⟩

theorem editDownstream_evolves {select : StoredDownstream → Bool}
    {edit : StoredDownstream → StoredDownstream} (state : VaultFile)
    (missing : VaultError)
    (edited : ∀ item, select item = true → DownstreamEdited item (edit item)) :
    Evolves newKey newDownstream state
      (editDownstream state missing select edit).state := by
  unfold editDownstream
  split
  · exact Evolves.refl state
  · rename_i downstream item found
    refine ⟨rfl, keys_same _, .edited ?_⟩
    exact modifyFirst?_forall₂ DownstreamEdited.refl
      (fun item isFound => edited item (List.find?_some isFound)) found

private theorem retireForReplacement_edited (key : StoredKey) :
    KeyEdited key (retireForReplacement key) where
  id := rfl
  label := rfl
  fingerprint := rfl
  nonce := rfl
  ciphertext := rfl
  retired := fun _ => rfl
  sound := fun _ enabled => by cases enabled

private theorem activeCount_append (left right : List StoredKey) :
    activeCount (left ++ right) = activeCount left + activeCount right := by
  simp [activeCount]

private theorem activeCount_cons (key : StoredKey) (rest : List StoredKey) :
    activeCount (key :: rest) =
      (if key.retired then 0 else 1) + activeCount rest := by
  cases retired : key.retired <;> simp [activeCount, retired, Nat.add_comm]

private theorem activeCount_replaced {keys kept : List StoredKey}
    {entry : StoredKey}
    (found : modifyFirst? isReplaceable retireForReplacement keys =
      some (kept, entry)) : activeCount kept + 1 = activeCount keys := by
  obtain ⟨before, original, after, rfl, -, selected, -, rfl⟩ :=
    modifyFirst?_eq_some found
  have live : original.retired = false := by
    cases retired : original.retired with
    | false => rfl
    | true => simp [isReplaceable, retired] at selected
  simp only [activeCount_append, activeCount_cons, live,
    show (retireForReplacement original).retired = true from rfl]
  simp
  omega

private theorem validUpstreamCredential_length {credential : String}
    (valid : validUpstreamCredential credential = true) :
    38 ≤ (utf8 credential).length := by
  simp only [validUpstreamCredential, Bool.and_eq_true, decide_eq_true_eq]
    at valid
  exact valid.1.1.1

theorem slots_spec {state : VaultFile} {kept : List StoredKey}
    (slots : (if activeCount state.keys ≥ maxUpstreamKeys then
        (modifyFirst? isReplaceable retireForReplacement state.keys).map
          Prod.fst
      else
        some state.keys) = some kept) :
    List.Forall₂ KeyEdited state.keys kept ∧
      (activeCount state.keys ≤ maxUpstreamKeys →
        activeCount kept < maxUpstreamKeys) := by
  split at slots
  · simp only [Option.map_eq_some_iff] at slots
    obtain ⟨⟨edited, entry⟩, found, rfl⟩ := slots
    have count := activeCount_replaced found
    refine ⟨?_, fun bound => by simp only; omega⟩
    exact modifyFirst?_forall₂ KeyEdited.refl
      (fun key _ => retireForReplacement_edited key) found
  · cases slots
    refine ⟨List.forall₂_same.mpr fun key _ => KeyEdited.refl key, ?_⟩
    intro _
    omega

theorem add_evolves (primitives : Primitives) (masterKey : MasterKey)
    (id : Uuid) (nonce : CipherNonce) (label credential : String)
    (state : VaultFile) :
    Evolves (some id) newDownstream state
      (add primitives masterKey id nonce label credential state).state := by
  unfold add
  split
  · exact Evolves.refl state
  split
  · exact Evolves.refl state
  rename_i valid
  simp only
  split
  · exact Evolves.refl state
  rename_i freshFingerprint
  split
  · exact Evolves.refl state
  rename_i freshLabel
  split
  · exact Evolves.refl state
  rename_i kept slots
  obtain ⟨edited, room⟩ := slots_spec slots
  split
  · exact ⟨rfl, .edited edited, downstream_same _⟩
  rename_i payload encrypted
  refine ⟨rfl, .added edited ?_, downstream_same _⟩
  have long := validUpstreamCredential_length (by simpa using valid)
  have length := primitives.encrypt_length encrypted
  exact {
    id := rfl
    room
    fingerprint := by simpa using freshFingerprint
    label := by simpa using freshLabel
    formed := {
      fingerprint := wellFormedDigest_fingerprint primitives _
      nonce := ⟨nonce.toList, by simp, rfl⟩
      ciphertext := ⟨payload, by omega, rfl⟩ }
    sound := fun enabled => by cases enabled }

theorem isLive_retired {id : Uuid} {key : StoredKey}
    (live : isLive id key = true) : key.retired = false := by
  simp only [isLive, Bool.and_eq_true, Bool.not_eq_true'] at live
  exact live.2

theorem setEnabled_evolves (id : Uuid) (enabled : Bool) (now : Timestamp)
    (state : VaultFile) :
    Evolves newKey newDownstream state (setEnabled id enabled now state).state := by
  unfold setEnabled
  split
  · exact Evolves.refl state
  rename_i key found
  split
  · exact Evolves.refl state
  rename_i probed
  split
  · exact Evolves.refl state
  apply editKey_evolves
  intro target same
  rw [found] at same
  cases same
  -- The entry written is the one whose probe was checked.
  refine ⟨rfl, rfl, rfl, rfl, rfl, fun retired => retired, ?_⟩
  intro _ on
  have live : key.retired = false := isLive_retired (List.find?_some found)
  refine ⟨?_, live⟩
  cases verified : key.verified with
  | true => rfl
  | false =>
      have isOn : enabled = true := on
      exact absurd (by simp [isOn, verified]) probed

theorem issueDownstream_evolves (primitives : Primitives) (id : Uuid)
    (bytes : Vector UInt8 32) (now : Timestamp) (label : String)
    (scopes : List String) (state : VaultFile) :
    Evolves newKey (some id) state
      (issueDownstream primitives id bytes now label scopes state).state := by
  unfold issueDownstream
  split
  · exact Evolves.refl state
  split
  · exact Evolves.refl state
  split
  · exact Evolves.refl state
  exact ⟨rfl, keys_same _, .added rfl (wellFormedDigest_fingerprint primitives _)⟩

theorem revokeDownstream_evolves (id : Uuid) (now : Timestamp)
    (state : VaultFile) :
    Evolves newKey newDownstream state (revokeDownstream id now state).state := by
  unfold revokeDownstream
  split
  · exact Evolves.refl state
  split
  · exact editDownstream_evolves state _ fun item _ =>
      ⟨rfl, rfl, rfl, fun _ => rfl, fun _ => ⟨rfl, rfl⟩, fun formed => formed⟩
  · exact Evolves.refl state

theorem applyFailure_edited (retryAfter : Option Duration) (now : Timestamp)
    (key : StoredKey) : KeyEdited key (applyFailure retryAfter now key) := by
  unfold applyFailure
  simp only
  split <;> exact ⟨rfl, rfl, rfl, rfl, rfl, fun retired => retired,
    fun sound => sound⟩

end Vault

def VaultOperation.newKeyId : VaultOperation → Option Uuid
  | .add id _ _ _ => some id
  | _ => none

def VaultOperation.newDownstreamId : VaultOperation → Option Uuid
  | .issueDownstream id _ _ _ _ => some id
  | _ => none

open Vault in
/-- One operation, whether it succeeds, gives up halfway or fails to write its
file, evolves the state in memory. -/
theorem VaultOperation.evolves (primitives : Primitives)
    (masterKey : MasterKey) (operation : VaultOperation) (state : VaultFile) :
    Evolves operation.newKeyId operation.newDownstreamId state
      (operation.stage primitives masterKey state).state := by
  cases operation with
  | add id nonce label credential =>
      simp only [stage, Staged.state_map]
      exact add_evolves primitives masterKey id nonce label credential state
  | setEnabled id enabled now =>
      simp only [stage, Staged.state_map]
      exact setEnabled_evolves id enabled now state
  | markVerified id =>
      simp only [stage, Staged.state_map]
      exact editKey_evolves state fun key _ =>
        ⟨rfl, rfl, rfl, rfl, rfl, fun retired => retired,
          fun sound enabled => ⟨rfl, (sound enabled).2⟩⟩
  | delete id =>
      simp only [stage, Staged.state_map, Vault.delete]
      exact editKey_evolves state fun key _ =>
        ⟨rfl, rfl, rfl, rfl, rfl, fun _ => rfl,
          fun _ enabled => by cases enabled⟩
  | quarantine id =>
      simp only [stage, Staged.state_map]
      exact editKey_evolves state fun key _ =>
        ⟨rfl, rfl, rfl, rfl, rfl, fun retired => retired,
          fun _ enabled => by cases enabled⟩
  | recordRequest id =>
      simp only [stage, Staged.state_map, Vault.recordRequest]
      exact editKey_evolves state fun key _ =>
        ⟨rfl, rfl, rfl, rfl, rfl, fun retired => retired, fun sound => sound⟩
  | recordFailure id retryAfter now =>
      simp only [stage, Staged.state_map, Vault.recordFailure]
      exact editKey_evolves state fun key _ =>
        applyFailure_edited retryAfter now key
  | setRouterCursor cursor => exact ⟨rfl, keys_same _, downstream_same _⟩
  | setRouterCursorFor profile cursor =>
      exact ⟨rfl, keys_same _, downstream_same _⟩
  | issueDownstream id bytes now label scopes =>
      simp only [stage, Staged.state_map]
      exact issueDownstream_evolves primitives id bytes now label scopes state
  | revokeDownstream id now =>
      simp only [stage, Staged.state_map]
      exact revokeDownstream_evolves id now state
  | rotateDownstream id bytes =>
      simp only [stage, Staged.state_map, Vault.rotateDownstream]
      exact editDownstream_evolves state _ fun item _ =>
        ⟨rfl, rfl, rfl, fun revoked => revoked, fun _ => ⟨rfl, rfl⟩,
          fun _ => wellFormedDigest_fingerprint primitives _⟩
  | updateDownstreamScopes id scopes =>
      simp only [stage, Staged.state_map, Vault.updateDownstreamScopes]
      split
      · exact Evolves.refl state
      · exact editDownstream_evolves state _ fun item _ =>
          ⟨rfl, rfl, rfl, fun revoked => revoked, fun _ => ⟨rfl, rfl⟩,
            fun formed => formed⟩
  | recordDownstreamUse id usedAt =>
      simp only [stage, Staged.state_map]
      refine editDownstream_evolves state _ fun item selected =>
        ⟨rfl, rfl, rfl, fun revoked => revoked, fun revoked => ?_,
          fun formed => formed⟩
      -- Only an active credential is used.
      simp [Vault.isActiveDownstream, revoked] at selected

/-! Operations whose environment behaves: identifiers are new, and the clock
does not run backwards between two uses of a credential. -/

/-- A use is never recorded as earlier than the one before it. -/
def NotBefore : Option Timestamp → Option Timestamp → Prop
  | none, _ => True
  | some _, none => False
  | some previous, some current => previous ≤ current

theorem NotBefore.refl (used : Option Timestamp) : NotBefore used used := by
  cases used with
  | none => trivial
  | some time => exact le_refl time

theorem NotBefore.trans {first second third : Option Timestamp}
    (earlier : NotBefore first second) (later : NotBefore second third) :
    NotBefore first third := by
  cases first with
  | none => trivial
  | some start =>
      cases second with
      | none => cases earlier
      | some middle =>
          cases third with
          | none => cases later
          | some finish => exact le_trans earlier later

def VaultOperation.Fresh (state : VaultFile) : VaultOperation → Prop
  | .add id _ _ _ => id ∉ state.keys.map StoredKey.id
  | .issueDownstream id _ _ _ _ =>
      id ∉ state.downstream.map StoredDownstream.id
  | _ => True

def VaultOperation.Forward (state : VaultFile) : VaultOperation → Prop
  | .recordDownstreamUse id usedAt =>
      ∀ item ∈ state.downstream, item.id = id →
        NotBefore item.lastUsedAt (some usedAt)
  | _ => True

structure UseForward (before after : StoredDownstream) : Prop where
  id : after.id = before.id
  forward : NotBefore before.lastUsedAt after.lastUsedAt

theorem UseForward.refl (item : StoredDownstream) : UseForward item item :=
  ⟨rfl, NotBefore.refl _⟩

theorem UseForward.trans (first second third : StoredDownstream)
    (earlier : UseForward first second) (later : UseForward second third) :
    UseForward first third :=
  ⟨later.id.trans earlier.id, earlier.forward.trans later.forward⟩

namespace Vault

theorem editKey_downstream (state : VaultFile)
    (select : StoredKey → Bool) (edit : StoredKey → StoredKey) :
    (editKey state select edit).state.downstream = state.downstream := by
  unfold editKey
  split <;> rfl

theorem add_downstream (primitives : Primitives)
    (masterKey : MasterKey) (id : Uuid) (nonce : CipherNonce)
    (label credential : String) (state : VaultFile) :
    (add primitives masterKey id nonce label credential
      state).state.downstream = state.downstream := by
  unfold add
  split
  · rfl
  split
  · rfl
  simp only
  split
  · rfl
  split
  · rfl
  split
  · rfl
  split <;> rfl

theorem setEnabled_downstream (id : Uuid) (enabled : Bool)
    (now : Timestamp) (state : VaultFile) :
    (setEnabled id enabled now state).state.downstream = state.downstream := by
  unfold setEnabled
  split
  · rfl
  split
  · rfl
  split
  · rfl
  exact editKey_downstream _ _ _

private theorem editDownstream_forward {select : StoredDownstream → Bool}
    {edit : StoredDownstream → StoredDownstream} (state : VaultFile)
    (missing : VaultError)
    (forward : ∀ item, state.downstream.find? select = some item →
      UseForward item (edit item)) :
    Extends UseForward state.downstream
      (editDownstream state missing select edit).state.downstream := by
  unfold editDownstream
  split
  · exact Extends.refl UseForward.refl _
  · rename_i downstream item found
    exact .of_forall₂ (modifyFirst?_forall₂ UseForward.refl forward found)

end Vault

open Vault in
theorem VaultOperation.uses_forward (primitives : Primitives)
    (masterKey : MasterKey) {operation : VaultOperation} {state : VaultFile}
    (forward : operation.Forward state) :
    Extends UseForward state.downstream
      (operation.stage primitives masterKey state).state.downstream := by
  have kept : ∀ {after : List StoredDownstream}, after = state.downstream →
      Extends UseForward state.downstream after := by
    rintro _ rfl
    exact Extends.refl UseForward.refl _
  cases operation with
  | add => exact kept (by simp [stage, add_downstream])
  | setEnabled => exact kept (by simp [stage, setEnabled_downstream])
  | markVerified =>
      exact kept (by simp [stage, Vault.markVerified, editKey_downstream])
  | delete => exact kept (by simp [stage, Vault.delete, editKey_downstream])
  | quarantine =>
      exact kept (by simp [stage, Vault.quarantine, editKey_downstream])
  | recordRequest =>
      exact kept (by simp [stage, Vault.recordRequest, editKey_downstream])
  | recordFailure =>
      exact kept (by simp [stage, Vault.recordFailure, editKey_downstream])
  | setRouterCursor => exact kept rfl
  | setRouterCursorFor => exact kept rfl
  | issueDownstream id bytes now label scopes =>
      simp only [stage, Staged.state_map, Vault.issueDownstream]
      split
      · exact kept rfl
      split
      · exact kept rfl
      split
      · exact kept rfl
      exact ⟨_, _, rfl, List.forall₂_same.mpr fun item _ => UseForward.refl item⟩
  | revokeDownstream id now =>
      simp only [stage, Staged.state_map, Vault.revokeDownstream]
      split
      · exact kept rfl
      split
      · exact editDownstream_forward state _ fun item _ =>
          ⟨rfl, NotBefore.refl _⟩
      · exact kept rfl
  | rotateDownstream id bytes =>
      simp only [stage, Staged.state_map, Vault.rotateDownstream]
      exact editDownstream_forward state _ fun item _ => ⟨rfl, NotBefore.refl _⟩
  | updateDownstreamScopes id scopes =>
      simp only [stage, Staged.state_map, Vault.updateDownstreamScopes]
      split
      · exact kept rfl
      · exact editDownstream_forward state _ fun item _ =>
          ⟨rfl, NotBefore.refl _⟩
  | recordDownstreamUse id usedAt =>
      simp only [stage, Staged.state_map]
      apply editDownstream_forward state
      intro item found
      have selected := List.find?_some found
      simp only [isActiveDownstream, Bool.and_eq_true, decide_eq_true_eq]
        at selected
      exact ⟨rfl, forward item (List.mem_of_find?_eq_some found) selected.1⟩

/-- One or more operations took the state from one snapshot to the next. -/
structure Advances (before after : VaultFile) : Prop where
  keys : Extends KeyEdited before.keys after.keys
  keyIds : (before.keys.map StoredKey.id).Nodup →
    (after.keys.map StoredKey.id).Nodup
  downstream : Extends DownstreamEdited before.downstream after.downstream
  downstreamIds : (before.downstream.map StoredDownstream.id).Nodup →
    (after.downstream.map StoredDownstream.id).Nodup

theorem Advances.refl (state : VaultFile) : Advances state state where
  keys := Extends.refl KeyEdited.refl _
  keyIds := id
  downstream := Extends.refl DownstreamEdited.refl _
  downstreamIds := id

theorem Advances.trans {first second third : VaultFile}
    (earlier : Advances first second) (later : Advances second third) :
    Advances first third where
  keys := earlier.keys.trans KeyEdited.trans later.keys
  keyIds := later.keyIds ∘ earlier.keyIds
  downstream := earlier.downstream.trans DownstreamEdited.trans later.downstream
  downstreamIds := later.downstreamIds ∘ earlier.downstreamIds

private theorem nodup_snoc {ids : List Uuid} {id : Uuid} (distinct : ids.Nodup)
    (fresh : id ∉ ids) : (ids ++ [id]).Nodup := by
  rw [List.nodup_append]
  refine ⟨distinct, by simp, ?_⟩
  intro left member right last same
  rw [List.mem_singleton] at last
  exact fresh (last ▸ same ▸ member)

theorem KeysEvolve.ids {before after : List StoredKey}
    (evolve : KeysEvolve newId before after)
    (fresh : ∀ id, newId = some id → id ∉ before.map StoredKey.id)
    (distinct : (before.map StoredKey.id).Nodup) :
    (after.map StoredKey.id).Nodup := by
  cases evolve with
  | edited edits =>
      rw [map_eq_of_forall₂ StoredKey.id (fun edited => edited.id) edits]
      exact distinct
  | added edits new =>
      rw [List.map_append,
        map_eq_of_forall₂ StoredKey.id (fun edited => edited.id) edits]
      exact nodup_snoc distinct (fresh _ new.id)

theorem DownstreamEvolve.ids {before after : List StoredDownstream}
    (evolve : DownstreamEvolve newId before after)
    (fresh : ∀ id, newId = some id → id ∉ before.map StoredDownstream.id)
    (distinct : (before.map StoredDownstream.id).Nodup) :
    (after.map StoredDownstream.id).Nodup := by
  cases evolve with
  | edited edits =>
      rw [map_eq_of_forall₂ StoredDownstream.id (fun edited => edited.id) edits]
      exact distinct
  | added identified _ =>
      rw [List.map_append]
      exact nodup_snoc distinct (fresh _ identified)

theorem VaultOperation.advances (primitives : Primitives)
    (masterKey : MasterKey) {operation : VaultOperation} {state : VaultFile}
    (fresh : operation.Fresh state) :
    Advances state (operation.stage primitives masterKey state).state := by
  have evolves := operation.evolves primitives masterKey state
  refine {
    keys := evolves.keys.extends
    keyIds := evolves.keys.ids ?_
    downstream := evolves.downstream.extends
    downstreamIds := evolves.downstream.ids ?_ }
  · intro id isNew
    cases operation <;> cases isNew
    exact fresh
  · intro id isNew
    cases operation <;> cases isNew
    exact fresh

end NvidiaBuildLb.Core
