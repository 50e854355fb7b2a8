import NvidiaBuildLb.Core.Records
import Mathlib.Data.List.Sort

namespace NvidiaBuildLb.Core

/-! Input checks shared by the vault's mutators. -/

def validUpstreamCredential (value : String) : Bool :=
  let bytes := utf8 value
  (38 ≤ bytes.length && bytes.length ≤ 198) &&
    startsWith value "nvapi-" &&
    (bytes.drop 6).all fun byte =>
      (48 ≤ byte && byte ≤ 57) || (65 ≤ byte && byte ≤ 90) ||
        (97 ≤ byte && byte ≤ 122) || byte == 95 || byte == 45

def validateLabel (label : String) : Except VaultError Unit :=
  let characters := label.toList
  if !(1 ≤ characters.length && characters.length ≤ 128) ||
      trim characters != characters || characters.any isControl then
    .error .labelInvalid
  else
    .ok ()

def validateDownstreamLabel (label : String) : Except VaultError Unit := do
  validateLabel label
  if label.toList.length > 120 then
    .error .downstreamLabelInvalid

/-- Authorization scopes in canonical order. -/
def knownScopes : List String := [
  "models:read",
  "chat:write",
  "embeddings:write",
  "images:write",
  "audio:write",
  "media:write"]

/-- `Vec::dedup`: drops an entry equal to the one kept before it. -/
def dedupAdjacent : List String → List String
  | [] => []
  | [scope] => [scope]
  | first :: second :: rest =>
      if first = second then
        dedupAdjacent (second :: rest)
      else
        first :: dedupAdjacent (second :: rest)

/-- `sort_by_key` is stable, and so is insertion sort. -/
def canonicalScopes (scopes : List String) :
    Except VaultError (List String) :=
  if scopes.isEmpty || 6 < scopes.length ||
      scopes.any (fun scope => !knownScopes.contains scope) then
    .error .scopesInvalid
  else
    let result := dedupAdjacent <| scopes.insertionSort fun left right =>
      knownScopes.idxOf left ≤ knownScopes.idxOf right
    if result.length ≠ scopes.length then
      .error .scopesNotUnique
    else
      .ok result

theorem dedupAdjacent_sublist (scopes : List String) :
    (dedupAdjacent scopes).Sublist scopes := by
  induction scopes using dedupAdjacent.induct with
  | case1 => exact List.Sublist.slnil
  | case2 scope => exact List.Sublist.refl _
  | case3 second rest induction =>
      simpa [dedupAdjacent] using induction.cons second
  | case4 first second rest different induction =>
      simpa [dedupAdjacent, different] using induction.cons_cons first

theorem canonicalScopes_perm {scopes result : List String}
    (accepted : canonicalScopes scopes = .ok result) :
    result.Perm scopes := by
  unfold canonicalScopes at accepted
  split at accepted
  · cases accepted
  · simp only at accepted
    split at accepted
    · cases accepted
    · rename_i sameLength
      cases accepted
      have sorted := List.perm_insertionSort
        (fun left right => knownScopes.idxOf left ≤ knownScopes.idxOf right)
        scopes
      have kept := (dedupAdjacent_sublist _).eq_of_length
        ((not_not.mp sameLength).trans sorted.length_eq.symm)
      rw [kept]
      exact sorted

example : (canonicalScopes ["chat:write", "models:read"]).toOption =
    some ["models:read", "chat:write"] := by decide

end NvidiaBuildLb.Core
