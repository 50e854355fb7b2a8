import Mathlib.Data.List.Basic

namespace NvidiaBuildLb.Foundation

/-! Lists cut at a separator: at the first one, at the last one, or at all of
them. -/

variable {α : Type} [DecidableEq α]

def splitOnce (separator : α) : List α → Option (List α × List α)
  | [] => none
  | item :: rest =>
      if item = separator then
        some ([], rest)
      else
        (splitOnce separator rest).map fun cut => (item :: cut.1, cut.2)

def rsplitOnce (separator : α) : List α → Option (List α × List α)
  | [] => none
  | item :: rest =>
      match rsplitOnce separator rest with
      | some cut => some (item :: cut.1, cut.2)
      | none => if item = separator then some ([], rest) else none

theorem splitOnce_eq_none {separator : α} {items : List α} :
    splitOnce separator items = none ↔ separator ∉ items := by
  induction items with
  | nil => simp [splitOnce]
  | cons item rest induction =>
      rw [splitOnce]
      split
      · rename_i same
        simp [same]
      · rename_i different
        simp [induction, Ne.symm different]

theorem splitOnce_eq_some {separator : α} {items front back : List α} :
    splitOnce separator items = some (front, back) ↔
      items = front ++ separator :: back ∧ separator ∉ front := by
  induction items generalizing front with
  | nil => simp [splitOnce]
  | cons item rest induction =>
      rw [splitOnce]
      split
      · rename_i same
        subst same
        constructor
        · intro found
          cases found
          exact ⟨rfl, List.not_mem_nil⟩
        · rintro ⟨split, absent⟩
          cases front with
          | nil =>
              cases split
              rfl
          | cons head tail =>
              cases split
              exact absurd (List.mem_cons_self ..) absent
      · rename_i different
        rw [Option.map_eq_some_iff]
        constructor
        · rintro ⟨⟨head, tail⟩, found, cut⟩
          cases cut
          obtain ⟨split, absent⟩ := induction.mp found
          refine ⟨by rw [split]; rfl, ?_⟩
          intro member
          rcases List.mem_cons.mp member with same | later
          · exact different same.symm
          · exact absent later
        · rintro ⟨split, absent⟩
          cases front with
          | nil =>
              cases split
              exact absurd rfl different
          | cons head tail =>
              obtain ⟨rfl, remaining⟩ := List.cons.inj split
              refine ⟨(tail, back), induction.mpr ⟨remaining, ?_⟩, rfl⟩
              exact fun member => absent (List.mem_cons_of_mem _ member)

theorem rsplitOnce_eq_none {separator : α} {items : List α} :
    rsplitOnce separator items = none ↔ separator ∉ items := by
  induction items with
  | nil => simp [rsplitOnce]
  | cons item rest induction =>
      rw [rsplitOnce]
      cases found : rsplitOnce separator rest with
      | some cut =>
          have member : separator ∈ rest := by
            by_contra absent
            rw [induction.mpr absent] at found
            cases found
          simp [member]
      | none =>
          have absent := induction.mp found
          by_cases same : item = separator
          · simp [same]
          · simp [same, Ne.symm same, absent]

theorem rsplitOnce_append {separator : α} {front back : List α}
    (absent : separator ∉ back) :
    rsplitOnce separator (front ++ separator :: back) = some (front, back) := by
  induction front with
  | nil =>
      rw [List.nil_append, rsplitOnce, rsplitOnce_eq_none.mpr absent]
      simp
  | cons item rest induction =>
      rw [List.cons_append, rsplitOnce, induction]

theorem length_splitOn (separator : α) (items : List α) :
    (items.splitOn separator).length = items.count separator + 1 := by
  induction items with
  | nil => rfl
  | cons item rest induction =>
      rw [List.splitOn_cons_eq_if_modifyHead, List.count_cons]
      split
      · rw [List.length_cons, induction]
      · rw [List.length_modifyHead, induction, Nat.add_zero]

theorem mem_splitOn {separator item : α} {items : List α}
    (member : item ∈ items) :
    item = separator ∨ ∃ part ∈ items.splitOn separator, item ∈ part := by
  induction items with
  | nil => cases member
  | cons head rest induction =>
      rw [List.splitOn_cons_eq_if_modifyHead]
      have parts := List.splitOn_ne_nil separator rest
      split
      · rename_i isSeparator
        rcases List.mem_cons.mp member with rfl | later
        · exact .inl (eq_of_beq isSeparator)
        · rcases induction later with same | ⟨part, isPart, inside⟩
          · exact .inl same
          · exact .inr ⟨part, List.mem_cons_of_mem _ isPart, inside⟩
      · cases isParts : rest.splitOn separator with
        | nil => exact absurd isParts parts
        | cons first others =>
            rw [isParts] at induction
            rw [List.modifyHead_cons]
            rcases List.mem_cons.mp member with rfl | later
            · exact .inr ⟨item :: first, List.mem_cons_self .., by simp⟩
            · rcases induction later with same | ⟨part, isPart, inside⟩
              · exact .inl same
              · rcases List.mem_cons.mp isPart with rfl | other
                · exact .inr ⟨head :: part, List.mem_cons_self ..,
                    List.mem_cons_of_mem _ inside⟩
                · exact .inr ⟨part, List.mem_cons_of_mem _ other, inside⟩

end NvidiaBuildLb.Foundation
