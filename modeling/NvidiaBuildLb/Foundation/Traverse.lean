import Mathlib.Data.List.Basic
import Mathlib.Data.List.Forall2

namespace NvidiaBuildLb.Foundation

/-! Computations that may fail, alone and over a list. -/

theorem ok_of_bind {first : Except ε α} {next : α → Except ε β} {result : β}
    (succeeded : first >>= next = .ok result) :
    ∃ value, first = .ok value ∧ next value = .ok result := by
  cases first with
  | error error => cases succeeded
  | ok value => exact ⟨value, rfl, succeeded⟩

theorem forall₂_of_mapM_ok {encode : α → Except ε β} {entries : List α}
    {codes : List β} (encoded : entries.mapM encode = .ok codes) :
    List.Forall₂ (fun entry code => encode entry = .ok code) entries codes := by
  induction entries generalizing codes with
  | nil =>
      cases encoded
      exact .nil
  | cons head tail induction =>
      rw [List.mapM_cons] at encoded
      cases first : encode head with
      | error error =>
          rw [first] at encoded
          cases encoded
      | ok code =>
          cases others : tail.mapM encode with
          | error error =>
              rw [first, others] at encoded
              cases encoded
          | ok rest =>
              rw [first, others] at encoded
              cases encoded
              exact .cons first (induction others)

theorem exists_mapM_ok {encode : α → Except ε β} {decode : β → Except ε α}
    {related : α → β → Prop} {entries : List α}
    (each : ∀ entry ∈ entries, ∃ code,
      encode entry = .ok code ∧ decode code = .ok entry ∧ related entry code) :
    ∃ codes, entries.mapM encode = .ok codes ∧
      codes.mapM decode = .ok entries ∧
      List.Forall₂ related entries codes := by
  induction entries with
  | nil => exact ⟨[], rfl, rfl, .nil⟩
  | cons head tail induction =>
      obtain ⟨code, encoded, decoded, relation⟩ := each head (by simp)
      obtain ⟨codes, encodedTail, decodedTail, relations⟩ :=
        induction fun entry member => each entry (List.mem_cons_of_mem _ member)
      refine ⟨code :: codes, ?_, ?_, .cons relation relations⟩
      · simp only [List.mapM_cons, encoded, encodedTail]
        rfl
      · simp only [List.mapM_cons, decoded, decodedTail]
        rfl

theorem map_eq_map_of_forall₂ {related : α → β → Prop} {entries : List α}
    {codes : List β} {read : α → γ} {write : β → γ}
    (shared : ∀ entry code, related entry code → write code = read entry)
    (relations : List.Forall₂ related entries codes) :
    codes.map write = entries.map read := by
  induction relations with
  | nil => rfl
  | cons head _ induction =>
      rw [List.map_cons, List.map_cons, shared _ _ head, induction]

end NvidiaBuildLb.Foundation
