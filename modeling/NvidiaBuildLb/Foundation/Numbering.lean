import Mathlib.Data.List.Basic
import Mathlib.Data.List.Nodup
import Mathlib.Logic.Function.Basic

namespace NvidiaBuildLb.Foundation

/-! The number of an entry: its place in a list, from one on. -/

variable {κ : Type} [DecidableEq κ]

def numbered (entries : List κ) (entry : κ) : Option Nat :=
  if entry ∈ entries then some (entries.idxOf entry + 1) else none

@[simp] theorem numbered_nil (entry : κ) : numbered [] entry = none :=
  rfl

theorem numbered_of_mem {entries : List κ} {entry : κ}
    (member : entry ∈ entries) :
    numbered entries entry = some (entries.idxOf entry + 1) :=
  if_pos member

theorem numbered_of_not_mem {entries : List κ} {entry : κ}
    (absent : entry ∉ entries) : numbered entries entry = none :=
  if_neg absent

theorem numbered_eq_none {entries : List κ} {entry : κ} :
    numbered entries entry = none ↔ entry ∉ entries := by
  unfold numbered
  split <;> simp_all

theorem numbered_eq_some {entries : List κ} {entry : κ} {number : Nat}
    (isNumber : numbered entries entry = some number) :
    entry ∈ entries ∧ 1 ≤ number ∧ number ≤ entries.length := by
  unfold numbered at isNumber
  split at isNumber
  · rename_i member
    cases isNumber
    have := List.idxOf_lt_length_iff.mpr member
    exact ⟨member, by omega, by omega⟩
  · cases isNumber

theorem exists_numbered {entries : List κ} (distinct : entries.Nodup)
    {number : Nat} (least : 1 ≤ number) (most : number ≤ entries.length) :
    ∃ entry ∈ entries, numbered entries entry = some number := by
  have inside : number - 1 < entries.length := by omega
  refine ⟨entries[number - 1], List.getElem_mem inside, ?_⟩
  rw [numbered_of_mem (List.getElem_mem inside), distinct.idxOf_getElem]
  congr 1
  omega

theorem numbered_of_isPrefix {front entries : List κ} (initial : front <+: entries)
    {entry : κ} (member : entry ∈ front) :
    numbered front entry = numbered entries entry := by
  obtain ⟨rest, rfl⟩ := initial
  rw [numbered_of_mem member, numbered_of_mem (List.mem_append_left _ member),
    List.idxOf_append_of_mem member]

theorem numbered_snoc {entries : List κ} {entry : κ} (fresh : entry ∉ entries) :
    numbered (entries ++ [entry]) =
      Function.update (numbered entries) entry (some (entries.length + 1)) := by
  funext wanted
  by_cases same : wanted = entry
  · subst same
    rw [Function.update_self, numbered_of_mem (by simp),
      List.idxOf_append_of_notMem fresh]
    simp
  · rw [Function.update_of_ne same]
    by_cases member : wanted ∈ entries
    · exact (numbered_of_isPrefix (List.prefix_append ..) member).symm
    · rw [numbered_of_not_mem member, numbered_of_not_mem (by simp [member, same])]

private theorem find?_mapIdx_from {α β : Type} {key : α → κ} {shownKey : β → κ}
    {number : β → Nat} {entry : κ} (entries : List α) (build : Nat → α → β)
    (offset : Nat) (keys : ∀ index value, shownKey (build index value) = key value)
    (numbers : ∀ index value,
      number (build index value) = index + 1 + offset) :
    ((entries.mapIdx build).find? fun shown => shownKey shown = entry).map
        number =
      (numbered (entries.map key) entry).map (· + offset) := by
  induction entries generalizing build offset with
  | nil => rfl
  | cons value rest induction =>
      rw [List.mapIdx_cons, List.map_cons]
      by_cases isFirst : key value = entry
      · rw [List.find?_cons_of_pos (by simp [keys, isFirst]), Option.map_some,
          numbers, numbered_of_mem (by simp [isFirst])]
        simp [isFirst]
      · have later := induction (fun index => build (index + 1)) (offset + 1)
          (fun index => keys (index + 1)) fun index value => by
            rw [numbers]
            omega
        rw [List.find?_cons_of_neg (by simp [keys, isFirst]), later]
        by_cases member : entry ∈ rest.map key
        · rw [numbered_of_mem member, numbered_of_mem (by simp [member]),
            List.idxOf_cons_ne _ isFirst, Option.map_some, Option.map_some]
          congr 1
          omega
        · have absent : entry ∉ key value :: rest.map key := by
            simp only [List.mem_cons, not_or]
            exact ⟨Ne.symm isFirst, member⟩
          rw [numbered_of_not_mem member, numbered_of_not_mem absent]
          rfl

theorem find?_mapIdx {α β : Type} {key : α → κ} {shownKey : β → κ}
    {number : β → Nat} (entries : List α) (build : Nat → α → β)
    (keys : ∀ index value, shownKey (build index value) = key value)
    (numbers : ∀ index value, number (build index value) = index + 1)
    (entry : κ) :
    ((entries.mapIdx build).find? fun shown => shownKey shown = entry).map
        number = numbered (entries.map key) entry := by
  have shown := @find?_mapIdx_from κ _ α β key shownKey number entry entries build 0
    keys numbers
  simpa using shown

end NvidiaBuildLb.Foundation
