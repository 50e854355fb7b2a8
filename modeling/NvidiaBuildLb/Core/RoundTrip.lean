import NvidiaBuildLb.Core.Invariant
import NvidiaBuildLb.Foundation.Utf8

namespace NvidiaBuildLb.Core

open Foundation

/-! A vault that is exported and loaded again. -/

inductive CredentialError where
  | keyNotFound
  | decode (field : String)
  | invalidNonce
  | decryption
  | utf8
  deriving DecidableEq, Repr

def CredentialError.message : CredentialError → String
  | .keyNotFound => "key not found"
  | .decode field => "decode " ++ field
  | .invalidNonce => "invalid credential nonce"
  | .decryption => "credential decryption failed"
  | .utf8 => "credential utf8"

namespace Vault

def openCredential (primitives : Primitives) (masterKey : MasterKey)
    (key : StoredKey) : Except CredentialError String :=
  match base64UrlDecode key.nonce with
  | none => .error (.decode "nonce")
  | some bytes =>
      if length : bytes.length = 12 then
        match base64UrlDecode key.ciphertext with
        | none => .error (.decode "ciphertext")
        | some sealed_ =>
            match primitives.decryptInPlace masterKey
                ⟨bytes.toArray, by simpa using length⟩ key.id.asBytes
                sealed_ with
            | none => .error .decryption
            | some payload =>
                match String.fromUTF8? ⟨payload.toArray⟩ with
                | none => .error .utf8
                | some credential => .ok credential
      else
        .error .invalidNonce

/-- A retired key stays readable for the request that selected it before. -/
def credential (primitives : Primitives) (masterKey : MasterKey) (id : Uuid)
    (state : VaultFile) : Except CredentialError String :=
  match state.keys.find? fun key => key.id = id with
  | none => .error .keyNotFound
  | some key => openCredential primitives masterKey key

private theorem fromUTF8?_utf8 (text : String) :
    String.fromUTF8? ⟨(utf8 text).toArray⟩ = some text := by
  have decoded := decodeUtf8_encodeUtf8 text
  rw [← toUTF8_toList] at decoded
  exact decoded

theorem openCredential_edited (primitives : Primitives)
    (masterKey : MasterKey) {before after : StoredKey}
    (edited : KeyEdited before after) :
    openCredential primitives masterKey after =
      openCredential primitives masterKey before := by
  unfold openCredential
  rw [edited.id, edited.nonce, edited.ciphertext]

theorem openCredential_sealed {primitives : Primitives}
    {masterKey : MasterKey} {key : StoredKey} {nonce : CipherNonce}
    {credential : String} {payload : List UInt8}
    (encrypted : primitives.encryptInPlace masterKey nonce key.id.asBytes
      (utf8 credential) = some payload)
    (isNonce : key.nonce = base64UrlEncode nonce.toList)
    (isPayload : key.ciphertext = base64UrlEncode payload) :
    openCredential primitives masterKey key = .ok credential := by
  have decrypted := primitives.decrypt_encrypt encrypted
  unfold openCredential
  simp only [isNonce, isPayload, base64UrlDecode_base64UrlEncode,
    Vector.length_toList, dif_pos, Vector.toArray_toList]
  rw [decrypted]
  simp only [fromUTF8?_utf8]

def cursorsFor (profiles : List String) (state : VaultFile) : RouterCursors :=
  profiles.map fun profile => (profile, routerCursorFor profile state)

private theorem lookup_cursorsFor {profiles : List String} {profile : String}
    {state : VaultFile} (member : profile ∈ profiles) :
    (cursorsFor profiles state).lookup profile =
      some (routerCursorFor profile state) := by
  induction profiles with
  | nil => cases member
  | cons head tail induction =>
      simp only [cursorsFor, List.map_cons, List.lookup_cons]
      cases List.mem_cons.mp member with
      | inl same => simp [same]
      | inr inTail =>
          by_cases same : profile = head
          · simp [same]
          · rw [beq_false_of_ne same]
            exact induction inTail

/-- The vault that is loaded from what a vault has exported is the same one. -/
theorem fromRecordsWithCursors_exported (primitives : Primitives)
    (masterKey : MasterKey) {state : VaultFile} (sound : state.Sound) :
    ∃ keys downstream, keyRecords state = .ok keys ∧
      downstreamRecords state = .ok downstream ∧
      ∀ profiles, ∃ loaded,
        fromRecordsWithCursors keys downstream (cursorsFor profiles state) =
            .ok loaded ∧
          loaded.keys = state.keys ∧ loaded.downstream = state.downstream ∧
          (∀ profile ∈ profiles,
            routerCursorFor profile loaded = routerCursorFor profile state) ∧
          ∀ id, credential primitives masterKey id loaded =
            credential primitives masterKey id state := by
  obtain ⟨keys, downstream, keysOut, downstreamOut, loads⟩ :=
    fromRecordsWithCursors_of_sound sound
  refine ⟨keys, downstream, keysOut, downstreamOut, fun profiles =>
    ⟨_, loads _, rfl, rfl, ?_, fun id => rfl⟩⟩
  intro profile member
  simp only [routerCursorFor, lookup_cursorsFor member, Option.some_or,
    Option.getD_some]

end Vault

/-- The key an operation adds, with the credential it is given. -/
def VaultOperation.adds (primitives : Primitives) (masterKey : MasterKey)
    (state : VaultFile) : VaultOperation → List (Uuid × String)
  | .add id nonce label credential =>
      match Vault.add primitives masterKey id nonce label credential state with
      | .persisting _ _ => [(id, credential)]
      | _ => []
  | _ => []

/-- The keys are the ones that were added, and each is read as the credential
it was added with. -/
structure Vault.Opens (primitives : Primitives) (masterKey : MasterKey)
    (added : List (Uuid × String)) (state : VaultFile) : Prop where
  ids : (state.keys.map StoredKey.id).Perm (added.map Prod.fst)
  opened : ∀ key ∈ state.keys, ∃ credential, (key.id, credential) ∈ added ∧
    openCredential primitives masterKey key = .ok credential

section Opens

variable {primitives : Primitives} {masterKey : MasterKey}
  {added : List (Uuid × String)} {state : VaultFile}

theorem Vault.Opens.empty : Opens primitives masterKey [] .empty := by
  refine ⟨List.Perm.refl _, ?_⟩
  intro key member
  cases member

theorem Vault.Opens.credential (opens : Opens primitives masterKey added state)
    (distinct : (state.keys.map StoredKey.id).Nodup) {id : Uuid}
    {credential : String} (member : (id, credential) ∈ added) :
    Vault.credential primitives masterKey id state = .ok credential := by
  have isId : id ∈ state.keys.map StoredKey.id :=
    opens.ids.mem_iff.mpr (List.mem_map_of_mem (f := Prod.fst) member)
  obtain ⟨key, isKey, rfl⟩ := List.mem_map.mp isId
  obtain ⟨other, isOther, opened⟩ := opens.opened key isKey
  have same := List.inj_on_of_nodup_map (opens.ids.nodup_iff.mp distinct) member
    isOther rfl
  cases same
  unfold Vault.credential
  cases found : state.keys.find? fun entry => entry.id = key.id with
  | none => simpa using List.find?_eq_none.mp found key isKey
  | some entry =>
      have named : entry.id = key.id := by simpa using List.find?_some found
      cases List.inj_on_of_nodup_map distinct
        (List.mem_of_find?_eq_some found) isKey named
      exact opened

theorem Vault.Opens.edited (opens : Opens primitives masterKey added state)
    {after : VaultFile} (edits : List.Forall₂ KeyEdited state.keys after.keys) :
    Opens primitives masterKey added after := by
  refine ⟨?_, ?_⟩
  · rw [map_eq_of_forall₂ StoredKey.id (fun edited => edited.id) edits]
    exact opens.ids
  · intro key member
    obtain ⟨original, isOriginal, edited⟩ := exists_of_forall₂_right edits member
    rw [edited.id, openCredential_edited primitives masterKey edited]
    exact opens.opened original isOriginal

private inductive AddEnds (primitives : Primitives) (masterKey : MasterKey)
    (id : Uuid) (credential : String) (before : List StoredKey) :
    Staged KeySummary → Prop
  | refused {error : VaultError} {after : VaultFile}
      (edits : List.Forall₂ KeyEdited before after.keys) :
      AddEnds primitives masterKey id credential before (.failed error after)
  | added {value : KeySummary} {after : VaultFile} {kept : List StoredKey}
      {entry : StoredKey} (edits : List.Forall₂ KeyEdited before kept)
      (keys : after.keys = kept ++ [entry]) (isId : entry.id = id)
      (opened : Vault.openCredential primitives masterKey entry =
        .ok credential) :
      AddEnds primitives masterKey id credential before (.persisting value after)

private theorem add_ends (id : Uuid) (nonce : CipherNonce)
    (label credential : String) :
    AddEnds primitives masterKey id credential state.keys
      (Vault.add primitives masterKey id nonce label credential state) := by
  have unchanged : List.Forall₂ KeyEdited state.keys state.keys :=
    List.forall₂_same.mpr fun key _ => KeyEdited.refl key
  unfold Vault.add
  split
  · exact .refused unchanged
  split
  · exact .refused unchanged
  simp only
  split
  · exact .refused unchanged
  split
  · exact .refused unchanged
  split
  · exact .refused unchanged
  rename_i kept slots
  have edits := (Vault.slots_spec slots).1
  split
  · exact .refused edits
  rename_i payload encrypted
  exact .added edits rfl rfl (Vault.openCredential_sealed encrypted rfl rfl)

theorem Vault.Opens.operate (opens : Opens primitives masterKey added state)
    (operation : VaultOperation) :
    Opens primitives masterKey
      (added ++ operation.adds primitives masterKey state)
      (operation.stage primitives masterKey state).state := by
  have evolves := (operation.evolves primitives masterKey state).keys
  have others : operation.newKeyId = none →
      Opens primitives masterKey added
        (operation.stage primitives masterKey state).state := by
    intro adds
    rw [adds] at evolves
    generalize (operation.stage primitives masterKey state).state = after
      at evolves
    obtain ⟨version, keys, cursor, cursors, downstream⟩ := after
    cases evolves with
    | edited edits => exact opens.edited edits
    | added edits new => cases new.id
  cases operation with
  | add id nonce label credential =>
      simp only [VaultOperation.adds, VaultOperation.stage, Staged.state_map]
      have ends := @add_ends primitives masterKey state id nonce label credential
      generalize Vault.add primitives masterKey id nonce label credential
        state = staged at ends ⊢
      cases ends with
      | refused edits => simpa [Staged.state] using opens.edited edits
      | @added value after kept entry edits keys isId opened =>
          have retired : Opens primitives masterKey added
            { state with keys := kept } := opens.edited edits
          refine ⟨?_, ?_⟩
          · simpa [Staged.state, keys, isId] using
              retired.ids.append_right [id]
          · intro key member
            rw [Staged.state, keys] at member
            rcases List.mem_append.mp member with old | new
            · obtain ⟨known, isKnown, opened⟩ := retired.opened key old
              exact ⟨known, List.mem_append_left _ isKnown, opened⟩
            · cases List.mem_singleton.mp new
              exact ⟨credential, by simp [isId], opened⟩
  | _ => simpa [VaultOperation.adds] using others rfl

end Opens

end NvidiaBuildLb.Core
