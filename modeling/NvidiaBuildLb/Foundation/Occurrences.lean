import Mathlib.Data.List.Infix
import Mathlib.Data.List.Range

namespace NvidiaBuildLb.Foundation

/-! The positions of a list at which a pattern occurs, and what a scan that
reads the list in parts has to carry from one part into the next. -/

variable {α : Type}

/-- What is kept of the list for the part that follows. -/
def overlap (pattern items : List α) : List α :=
  items.drop (items.length - min (pattern.length - 1) items.length)

theorem overlap_of_short {pattern items : List α}
    (short : items.length < pattern.length) : overlap pattern items = items := by
  rw [overlap, Nat.min_eq_right (by omega), Nat.sub_self, List.drop_zero]

theorem overlap_cons_of_long {pattern : List α} (nonempty : pattern ≠ [])
    {item : α} {rest : List α}
    (long : pattern.length ≤ (item :: rest).length) :
    overlap pattern (item :: rest) = overlap pattern rest := by
  have positive := List.length_pos_iff.mpr nonempty
  rw [List.length_cons] at long
  rw [overlap, overlap, List.length_cons, Nat.min_eq_left (by omega),
    Nat.min_eq_left (by omega),
    show rest.length + 1 - (pattern.length - 1) =
      rest.length - (pattern.length - 1) + 1 by omega, List.drop_succ_cons]

theorem overlap_append (pattern seen next : List α) :
    overlap pattern (overlap pattern seen ++ next) =
      overlap pattern (seen ++ next) := by
  unfold overlap
  rw [← List.drop_append_of_le_length (by omega), List.drop_drop]
  congr 1
  simp only [List.length_drop, List.length_append]
  omega

variable [DecidableEq α]

def OccursAt (pattern items : List α) (position : Nat) : Prop :=
  pattern <+: items.drop position

instance (pattern items : List α) :
    DecidablePred (OccursAt pattern items) :=
  fun position => inferInstanceAs (Decidable (pattern <+: items.drop position))

def positions (pattern items : List α) : List Nat :=
  (List.range items.length).filter fun position =>
    OccursAt pattern items position

def occurrences (pattern items : List α) : Nat :=
  (positions pattern items).length

@[simp] theorem occurrences_nil (pattern : List α) :
    occurrences pattern [] = 0 :=
  rfl

theorem occurrences_cons (pattern : List α) (item : α) (rest : List α) :
    occurrences pattern (item :: rest) =
      (if pattern <+: item :: rest then 1 else 0) + occurrences pattern rest := by
  have later : ∀ position,
      OccursAt pattern (item :: rest) (position + 1) ↔
        OccursAt pattern rest position := fun _ => Iff.rfl
  have first : OccursAt pattern (item :: rest) 0 ↔ pattern <+: item :: rest :=
    Iff.rfl
  simp only [occurrences, positions, List.length_cons, List.range_succ_eq_map,
    List.filter_cons, List.filter_map, Function.comp_def, Nat.succ_eq_add_one,
    later, first, decide_eq_true_eq]
  split
  · rw [List.length_cons, List.length_map]
    omega
  · rw [List.length_map]
    omega

theorem occurrences_of_short {pattern items : List α}
    (short : items.length < pattern.length) : occurrences pattern items = 0 := by
  induction items with
  | nil => rfl
  | cons item rest induction =>
      rw [List.length_cons] at short
      have absent : ¬ pattern <+: item :: rest := by
        intro occurs
        have := occurs.length_le
        rw [List.length_cons] at this
        omega
      rw [occurrences_cons, if_neg absent, induction (by omega)]

/-- `slice::windows`: every run of `size` neighbours. -/
def windows (size : Nat) : List α → List (List α)
  | [] => []
  | item :: rest =>
      if size ≤ (item :: rest).length then
        (item :: rest).take size :: windows size rest
      else
        []

theorem countP_windows (pattern items : List α) :
    (windows pattern.length items).countP (· = pattern) =
      occurrences pattern items := by
  induction items with
  | nil => rfl
  | cons item rest induction =>
      rw [windows]
      split
      · rw [List.countP_cons, induction, occurrences_cons, Nat.add_comm]
        congr 1
        simp only [decide_eq_true_eq, List.prefix_iff_eq_take]
        exact if_congr eq_comm rfl rfl
      · rename_i short
        rw [occurrences_of_short (by omega)]
        rfl

/-- An occurrence in the whole list is in the first part, or in the second part
behind what is kept of the first, and never in both. -/
theorem occurrences_append {pattern : List α} (nonempty : pattern ≠ [])
    (seen next : List α) :
    occurrences pattern (seen ++ next) =
      occurrences pattern seen +
        occurrences pattern (overlap pattern seen ++ next) := by
  induction seen with
  | nil => simp [overlap]
  | cons item rest induction =>
      rcases Nat.lt_or_ge (item :: rest).length pattern.length with short | long
      · rw [overlap_of_short short, occurrences_of_short short, Nat.zero_add]
      · have within : pattern <+: item :: rest ++ next ↔
            pattern <+: item :: rest := by
          rw [List.prefix_iff_eq_take, List.prefix_iff_eq_take,
            List.take_append_of_le_length long]
        rw [overlap_cons_of_long nonempty long, List.cons_append,
          occurrences_cons, induction, occurrences_cons, ← List.cons_append]
        simp only [within]
        omega

theorem occurrences_singleton_replicate (item : α) (count : Nat) :
    occurrences [item] (List.replicate count item) = count := by
  induction count with
  | zero => rfl
  | succ count induction =>
      rw [List.replicate_succ, occurrences_cons, induction,
        if_pos (by simp)]
      omega

end NvidiaBuildLb.Foundation
