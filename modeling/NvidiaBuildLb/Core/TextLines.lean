import Mathlib.Data.List.Basic
import NvidiaBuildLb.Core.Primitives

namespace NvidiaBuildLb.Core

/-! The lines of a text. -/

theorem linesFrom_of_noFeed {line text : List Char} (oneLine : '\n' ∉ text)
    (nonempty : line.reverse ++ text ≠ []) :
    linesFrom line text = [line.reverse ++ text] := by
  induction text generalizing line with
  | nil =>
      cases line with
      | nil => exact absurd rfl nonempty
      | cons character rest => simp [linesFrom]
  | cons character rest induction =>
      have notFeed : character ≠ '\n' :=
        fun isFeed => oneLine (isFeed ▸ List.mem_cons_self)
      have step : linesFrom line (character :: rest) =
          linesFrom (character :: line) rest := by
        rw [linesFrom]
        exact notFeed
      rw [step, induction (fun member => oneLine (.tail _ member)) (by simp)]
      simp

theorem linesFrom_append_feed {front : List Char} (oneLine : '\n' ∉ front)
    (line rest : List Char) :
    linesFrom line (front ++ '\n' :: rest) =
      (dropReturn (front.reverse ++ line)).reverse :: linesFrom [] rest := by
  induction front generalizing line with
  | nil => rfl
  | cons character more induction =>
      have notFeed : character ≠ '\n' :=
        fun isFeed => oneLine (isFeed ▸ List.mem_cons_self)
      have step : linesFrom line (character :: (more ++ '\n' :: rest)) =
          linesFrom (character :: line) (more ++ '\n' :: rest) := by
        rw [linesFrom]
        exact notFeed
      rw [List.cons_append, step,
        induction (fun member => oneLine (.tail _ member))]
      simp

theorem linesFrom_noFeed {line text : List Char} (oneLine : '\n' ∉ line) :
    ∀ found ∈ linesFrom line text, '\n' ∉ found := by
  induction text generalizing line with
  | nil =>
      intro found member
      rw [linesFrom] at member
      split at member
      · cases member
      · rw [List.mem_singleton.mp member, List.mem_reverse]
        exact oneLine
  | cons character rest induction =>
      by_cases isFeed : character = '\n'
      · subst isFeed
        intro found member
        rw [linesFrom] at member
        rcases List.mem_cons.mp member with rfl | later
        · rw [List.mem_reverse]
          intro inside
          apply oneLine
          unfold dropReturn at inside
          split at inside
          · exact .tail _ inside
          · exact inside
        · exact induction List.not_mem_nil found later
      · intro found member
        rw [linesFrom] at member
        · refine induction ?_ found member
          intro inside
          rcases List.mem_cons.mp inside with same | earlier
          · exact isFeed same.symm
          · exact oneLine earlier
        · exact isFeed

theorem lines_noFeed {text line : String} (member : line ∈ lines text) :
    '\n' ∉ line.toList := by
  obtain ⟨found, inside, rfl⟩ := List.mem_map.mp member
  rw [String.toList_ofList]
  exact linesFrom_noFeed List.not_mem_nil found inside

theorem linesFrom_flatMap {entries : List (List Char)}
    (plain : ∀ line ∈ entries, '\n' ∉ line ∧ '\r' ∉ line) :
    linesFrom [] (entries.flatMap fun line => line ++ ['\n']) = entries := by
  induction entries with
  | nil => rfl
  | cons line rest induction =>
      obtain ⟨⟨noFeed, noReturn⟩, plainRest⟩ := List.forall_mem_cons.mp plain
      have kept : dropReturn line.reverse = line.reverse := by
        unfold dropReturn
        split
        · rename_i before isLine
          refine absurd ?_ noReturn
          rw [← List.mem_reverse, isLine]
          exact List.mem_cons_self ..
        · rfl
      rw [List.flatMap_cons, List.append_assoc, List.singleton_append,
        linesFrom_append_feed noFeed, List.append_nil, kept, List.reverse_reverse,
        induction plainRest]

end NvidiaBuildLb.Core
