import Mathlib.Algebra.BigOperators.Group.List.Basic

namespace NvidiaBuildLb.Foundation

/-! `GROUP BY`: the sums of the groups of a list, put together again. -/

variable {α κ M : Type} [DecidableEq κ] [AddCommMonoid M]

private theorem sum_singleton_groups (keys : List κ) (distinct : keys.Nodup)
    (key? : α → Option κ) (value : α → M) (item : α) :
    (keys.map fun key =>
        (([item].filter fun item => key? item = some key).map value).sum).sum =
      (([item].filter fun item =>
        (key? item).any fun key => keys.contains key).map value).sum := by
  induction keys with
  | nil => simp
  | cons head tail induction =>
      obtain ⟨fresh, tailDistinct⟩ := List.nodup_cons.mp distinct
      rw [List.map_cons, List.sum_cons, induction tailDistinct]
      cases isKey : key? item with
      | none => simp [isKey]
      | some key =>
          by_cases isHead : key = head
          · subst isHead
            simp [isKey, fresh]
          · by_cases inTail : key ∈ tail
            · simp [isKey, isHead, inTail]
            · simp [isKey, isHead, inTail]

theorem sum_groups (keys : List κ) (distinct : keys.Nodup)
    (key? : α → Option κ) (value : α → M) (items : List α) :
    (keys.map fun key =>
        ((items.filter fun item => key? item = some key).map value).sum).sum =
      ((items.filter fun item =>
        (key? item).any fun key => keys.contains key).map value).sum := by
  induction items with
  | nil => simp
  | cons item rest induction =>
      have apart : ∀ select : α → Bool,
          (((item :: rest).filter select).map value).sum =
            (([item].filter select).map value).sum +
              ((rest.filter select).map value).sum := by
        intro select
        rw [← List.sum_append, ← List.map_append, ← List.filter_append]
        rfl
      simp only [apart]
      rw [List.sum_map_add, sum_singleton_groups keys distinct, induction]

end NvidiaBuildLb.Foundation
