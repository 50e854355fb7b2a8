import NvidiaBuildLb.Core.Mutators

namespace NvidiaBuildLb.Core

/-! Resolving a bearer.  The scan looks at every stored digest and keeps the
last match, so its duration does not tell where the match is. -/

structure Selection where
  id : Uuid
  active : Bool
  found : Bool

def selectMatching (digest : String) (selected : Selection)
    (item : StoredDownstream) : Selection :=
  let matching := decide (item.tokenDigest = digest)
  { id := if matching then item.id else selected.id
    active := if matching then item.active else selected.active
    found := selected.found || matching }

namespace Vault

def identifyDownstream (primitives : Primitives) (token : String)
    (state : VaultFile) : Except DownstreamAuthError DownstreamIdentity :=
  let digest := fingerprint primitives (utf8 token)
  let selected := state.downstream.foldl (selectMatching digest)
    { id := 0, active := false, found := false }
  if token.toList.isEmpty || !startsWith token tokenPrefix ||
      !selected.found then
    .error .invalidCredential
  else
    .ok { id := selected.id, active := selected.active }

def requireDownstreamScope (id : Uuid) (requiredScope : String)
    (state : VaultFile) : Except DownstreamAuthError Unit :=
  match state.downstream.find? fun item => item.id = id with
  | none => .error .invalidCredential
  | some item =>
      if item.scopes.any fun scope => scope == requiredScope then
        .ok ()
      else
        .error .insufficientScope

def authenticateDownstream (primitives : Primitives)
    (token requiredScope : String) (now : Timestamp) (state : VaultFile) :
    Staged DownstreamSummary :=
  match identifyDownstream primitives token state with
  | .error error => .failed (.unauthenticated error) state
  | .ok identity =>
      if !identity.active then
        .failed (.unauthenticated .invalidCredential) state
      else
        match requireDownstreamScope identity.id requiredScope state with
        | .error error => .failed (.unauthenticated error) state
        | .ok () => recordDownstreamUse identity.id now state

end Vault

private theorem selectMatching_foldl (digest : String)
    (items : List StoredDownstream) (start : Selection)
    (unfound : start.found = false) :
    let selected := items.foldl (selectMatching digest) start
    (selected.found = false → ∀ item ∈ items, item.tokenDigest ≠ digest) ∧
      (selected.found = true → ∃ item ∈ items, item.tokenDigest = digest ∧
        selected.id = item.id ∧ selected.active = item.active) := by
  induction items using List.reverseRecOn with
  | nil => simp [unfound]
  | append_singleton items last induction =>
      obtain ⟨missed, matched⟩ := induction
      simp only [List.foldl_append, List.foldl_cons, List.foldl_nil]
      by_cases isMatch : last.tokenDigest = digest
      · refine ⟨by simp [selectMatching, isMatch], fun _ => ?_⟩
        exact ⟨last, by simp, isMatch, by simp [selectMatching, isMatch],
          by simp [selectMatching, isMatch]⟩
      · refine ⟨?_, ?_⟩
        · intro notFound item member
          have before := missed (by simpa [selectMatching, isMatch] using notFound)
          rcases List.mem_append.mp member with earlier | isLast
          · exact before item earlier
          · rw [List.mem_singleton.mp isLast]
            exact isMatch
        · intro found
          obtain ⟨item, member, same, sameId, sameActive⟩ :=
            matched (by simpa [selectMatching, isMatch] using found)
          exact ⟨item, List.mem_append_left _ member, same,
            by simpa [selectMatching, isMatch] using sameId,
            by simpa [selectMatching, isMatch] using sameActive⟩

namespace Vault

theorem identifyDownstream_eq_ok {primitives : Primitives} {token : String}
    {state : VaultFile} {identity : DownstreamIdentity}
    (identified : identifyDownstream primitives token state = .ok identity) :
    ∃ item ∈ state.downstream,
      item.tokenDigest = fingerprint primitives (utf8 token) ∧
        identity = { id := item.id, active := item.active } := by
  have scan := selectMatching_foldl (fingerprint primitives (utf8 token))
    state.downstream { id := 0, active := false, found := false } rfl
  simp only [identifyDownstream] at identified
  split at identified
  · cases identified
  · rename_i accepted
    cases identified
    simp only [Bool.or_eq_true, not_or, Bool.not_eq_true', Bool.not_eq_false]
      at accepted
    obtain ⟨item, member, same, sameId, sameActive⟩ := scan.2 accepted.2
    exact ⟨item, member, same, by rw [sameId, sameActive]⟩

theorem identifyDownstream_of_mem {primitives : Primitives} {token : String}
    {state : VaultFile} {item : StoredDownstream}
    (member : item ∈ state.downstream)
    (stored : item.tokenDigest = fingerprint primitives (utf8 token))
    (only : ∀ other ∈ state.downstream,
      other.tokenDigest = item.tokenDigest → other = item)
    (shaped : startsWith token tokenPrefix = true) :
    identifyDownstream primitives token state =
      .ok { id := item.id, active := item.active } := by
  have scan := selectMatching_foldl (fingerprint primitives (utf8 token))
    state.downstream { id := 0, active := false, found := false } rfl
  have nonempty : token.toList.isEmpty = false := by
    cases characters : token.toList with
    | nil =>
        rw [startsWith, characters] at shaped
        exact absurd shaped (by decide)
    | cons => rfl
  simp only [identifyDownstream, nonempty, shaped]
  generalize selectedEq : List.foldl (selectMatching _) _ _ = selected at scan ⊢
  cases found : selected.found with
  | false => exact absurd stored (scan.1 found item member)
  | true =>
      obtain ⟨other, otherMember, same, sameId, sameActive⟩ := scan.2 found
      have isItem := only other otherMember (same.trans stored.symm)
      rw [isItem] at sameId sameActive
      simp [sameId, sameActive]

theorem isActiveDownstream_id {id : Uuid} {item : StoredDownstream}
    (selected : isActiveDownstream id item = true) : item.id = id := by
  simp only [isActiveDownstream, Bool.and_eq_true, decide_eq_true_eq]
    at selected
  exact selected.1

theorem bearer_startsWith (bytes : Vector UInt8 32) :
    startsWith (bearer bytes) tokenPrefix = true := by
  simp [startsWith, bearer]

end Vault

end NvidiaBuildLb.Core
