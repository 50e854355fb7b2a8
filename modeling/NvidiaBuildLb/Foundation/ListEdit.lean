import Mathlib.Data.List.Basic
import Mathlib.Data.List.Nodup

namespace NvidiaBuildLb.Foundation

/-! Editing the first list entry that satisfies a predicate, the effect of
searching a vector for a mutable reference and writing through it. -/

/-- The edited list and the entry as it stands after the edit. -/
def modifyFirst? (select : α → Bool) (edit : α → α) :
    List α → Option (List α × α)
  | [] => none
  | head :: tail =>
      if select head then
        some (edit head :: tail, edit head)
      else
        (modifyFirst? select edit tail).map fun result =>
          (head :: result.1, result.2)

theorem modifyFirst?_eq_some {select : α → Bool} {edit : α → α}
    {entries edited : List α} {entry : α}
    (found : modifyFirst? select edit entries = some (edited, entry)) :
    ∃ before original after,
      entries = before ++ original :: after ∧
        (∀ skipped ∈ before, select skipped = false) ∧
        select original = true ∧
        entry = edit original ∧
        edited = before ++ edit original :: after := by
  induction entries generalizing edited with
  | nil => simp [modifyFirst?] at found
  | cons head tail induction =>
      by_cases selected : select head = true
      · simp only [modifyFirst?, selected, if_true, Option.some.injEq,
          Prod.mk.injEq] at found
        exact ⟨[], head, tail, rfl, by simp, selected, found.2.symm,
          found.1.symm⟩
      · simp only [modifyFirst?, selected, if_false, Bool.false_eq_true,
          Option.map_eq_some_iff, Prod.mk.injEq] at found
        obtain ⟨⟨tailEdited, tailEntry⟩, tailFound, rfl, rfl⟩ := found
        obtain ⟨before, original, after, rfl, skipped, selectedOriginal,
          entryEq, editedEq⟩ := induction tailFound
        refine ⟨head :: before, original, after, rfl, ?_, selectedOriginal,
          entryEq, by simp only at editedEq ⊢; rw [editedEq]; rfl⟩
        intro candidate member
        rcases List.mem_cons.mp member with rfl | inTail
        · simpa using selected
        · exact skipped candidate inTail

theorem modifyFirst?_eq_none {select : α → Bool} {edit : α → α}
    {entries : List α} :
    modifyFirst? select edit entries = none ↔
      ∀ entry ∈ entries, select entry = false := by
  induction entries with
  | nil => simp [modifyFirst?]
  | cons head tail induction =>
      by_cases selected : select head = true
      · simp [modifyFirst?, selected]
      · simp [modifyFirst?, selected, induction]

theorem modifyFirst?_map_eq {select : α → Bool} {edit : α → α}
    {entries edited : List α} {entry : α} (project : α → β)
    (keeps : ∀ original, project (edit original) = project original)
    (found : modifyFirst? select edit entries = some (edited, entry)) :
    edited.map project = entries.map project := by
  obtain ⟨before, original, after, rfl, -, -, -, rfl⟩ :=
    modifyFirst?_eq_some found
  simp [keeps original]

theorem modifyFirst?_entry_mem {select : α → Bool} {edit : α → α}
    {entries edited : List α} {entry : α}
    (found : modifyFirst? select edit entries = some (edited, entry)) :
    entry ∈ edited := by
  obtain ⟨before, original, after, -, -, -, rfl, rfl⟩ :=
    modifyFirst?_eq_some found
  simp

theorem find?_of_modifyFirst? {select : α → Bool} {edit : α → α}
    {entries edited : List α} {entry : α}
    (found : modifyFirst? select edit entries = some (edited, entry)) :
    ∃ original, entries.find? select = some original ∧
      entry = edit original := by
  obtain ⟨before, original, after, rfl, skipped, selected, entryEq, -⟩ :=
    modifyFirst?_eq_some found
  refine ⟨original, ?_, entryEq⟩
  rw [List.find?_append, List.find?_eq_none.mpr]
  · simp [selected]
  · intro candidate member
    simp [skipped candidate member]

theorem find?_of_narrower {select finds : α → Bool} {entries : List α}
    {original : α} (narrower : ∀ value, select value = true → finds value = true)
    (isFound : entries.find? finds = some original)
    (selected : select original = true) :
    entries.find? select = some original := by
  obtain ⟨_, before, after, isSplit, skipped⟩ :=
    List.find?_eq_some_iff_append.mp isFound
  refine List.find?_eq_some_iff_append.mpr
    ⟨selected, before, after, isSplit, ?_⟩
  intro candidate member
  cases picked : select candidate with
  | false => rfl
  | true => simpa [narrower candidate picked] using skipped candidate member

/-- The entry another search finds is edited when the edit picks it too, and
it stays the one that is found. -/
theorem find?_modifyFirst? {select finds : α → Bool} {edit : α → α}
    {entries edited : List α} {entry original : α}
    (found : modifyFirst? select edit entries = some (edited, entry))
    (narrower : ∀ value, select value = true → finds value = true)
    (isFound : entries.find? finds = some original)
    (selected : select original = true)
    (stays : finds (edit original) = true) :
    edited.find? finds = some (edit original) := by
  obtain ⟨before, first, after, rfl, skipped, firstSelected, -, rfl⟩ :=
    modifyFirst?_eq_some found
  have noneBefore : before.find? finds = none := by
    cases isBefore : before.find? finds with
    | none => rfl
    | some other =>
        rw [List.find?_append, isBefore] at isFound
        cases isFound
        have member := List.mem_of_find?_eq_some isBefore
        rw [skipped original member] at selected
        cases selected
  rw [List.find?_append, noneBefore, Option.none_or, List.find?_cons,
    narrower first firstSelected] at isFound
  cases isFound
  rw [List.find?_append, noneBefore, Option.none_or, List.find?_cons, stays]

/-- Entry by entry, the edited list is the old one up to a reflexive relation
that also holds from the found entry to its edit. -/
theorem modifyFirst?_forall₂ {select : α → Bool} {edit : α → α}
    {entries edited : List α} {entry : α} {related : α → α → Prop}
    (refl : ∀ value, related value value)
    (changes : ∀ original, entries.find? select = some original →
      related original (edit original))
    (found : modifyFirst? select edit entries = some (edited, entry)) :
    List.Forall₂ related entries edited := by
  obtain ⟨before, original, after, rfl, skipped, selected, -, rfl⟩ :=
    modifyFirst?_eq_some found
  have isFound :
      (before ++ original :: after).find? select = some original := by
    rw [List.find?_append, List.find?_eq_none.mpr]
    · simp [selected]
    · intro candidate member
      simp [skipped candidate member]
  apply List.rel_append
  · exact List.forall₂_same.mpr fun value _ => refl value
  · exact .cons (changes original isFound)
      (List.forall₂_same.mpr fun value _ => refl value)

theorem map_eq_of_forall₂ {related : α → α → Prop} {before after : List α}
    (project : α → β)
    (keeps : ∀ {left right}, related left right →
      project right = project left)
    (relations : List.Forall₂ related before after) :
    after.map project = before.map project := by
  induction relations with
  | nil => rfl
  | cons head _ induction => simp [keeps head, induction]

theorem countP_le_of_forall₂ {related : α → α → Prop} {before after : List α}
    (select : α → Bool)
    (keeps : ∀ {left right}, related left right →
      select right = true → select left = true)
    (relations : List.Forall₂ related before after) :
    after.countP select ≤ before.countP select := by
  induction relations with
  | nil => exact Nat.le_refl _
  | @cons left right _ _ head _ induction =>
      rw [List.countP_cons, List.countP_cons]
      cases selected : select right with
      | false => simp; omega
      | true =>
          simp only [keeps head selected, if_true]
          omega

theorem exists_of_forall₂ {related : α → β → Prop} {before : List α}
    {after : List β} (relations : List.Forall₂ related before after)
    {entry : α} (member : entry ∈ before) :
    ∃ successor ∈ after, related entry successor := by
  induction relations with
  | nil => cases member
  | cons head _ induction =>
      rcases List.mem_cons.mp member with rfl | inTail
      · exact ⟨_, List.mem_cons_self, head⟩
      · obtain ⟨successor, inAfter, step⟩ := induction inTail
        exact ⟨successor, List.mem_cons_of_mem _ inAfter, step⟩

theorem exists_of_forall₂_right {related : α → β → Prop} {before : List α}
    {after : List β} (relations : List.Forall₂ related before after)
    {successor : β} (member : successor ∈ after) :
    ∃ entry ∈ before, related entry successor :=
  exists_of_forall₂ relations.flip member

theorem find?_rel_of_forall₂ {related : α → β → Prop} {select : α → Bool}
    {chooses : β → Bool} {before : List α} {after : List β}
    (same : ∀ entry successor, related entry successor →
      chooses successor = select entry)
    (relations : List.Forall₂ related before after) :
    Option.Rel related (before.find? select) (after.find? chooses) := by
  induction relations with
  | nil => exact .none
  | @cons entry successor _ _ head _ induction =>
      rw [List.find?_cons, List.find?_cons, same _ _ head]
      cases select entry with
      | true => exact .some head
      | false => exact induction

/-! A list whose old entries survive, in order and up to a relation, in front
of new ones. -/

def Extends (related : α → α → Prop) (before after : List α) : Prop :=
  ∃ kept added, after = kept ++ added ∧ List.Forall₂ related before kept

theorem Extends.of_forall₂ {related : α → α → Prop} {before after : List α}
    (relations : List.Forall₂ related before after) :
    Extends related before after :=
  ⟨after, [], by simp, relations⟩

theorem Extends.refl {related : α → α → Prop}
    (reflexive : ∀ value, related value value) (entries : List α) :
    Extends related entries entries :=
  .of_forall₂ (List.forall₂_same.mpr fun value _ => reflexive value)

private theorem forall₂_trans {related : α → α → Prop}
    (transitive : ∀ left middle right,
      related left middle → related middle right → related left right)
    {first second third : List α} (earlier : List.Forall₂ related first second)
    (later : List.Forall₂ related second third) :
    List.Forall₂ related first third := by
  induction earlier generalizing third with
  | nil =>
      cases later
      exact .nil
  | cons head _ induction =>
      cases later with
      | cons next tail => exact .cons (transitive _ _ _ head next) (induction tail)

theorem Extends.trans {related : α → α → Prop}
    (transitive : ∀ left middle right,
      related left middle → related middle right → related left right)
    {first second third : List α} (earlier : Extends related first second)
    (later : Extends related second third) :
    Extends related first third := by
  obtain ⟨kept, added, rfl, relations⟩ := earlier
  obtain ⟨keptLater, addedLater, rfl, relationsLater⟩ := later
  obtain ⟨front, back, split, rfl⟩ :
      ∃ front back, List.Forall₂ related kept front ∧
        keptLater = front ++ back := by
    refine ⟨keptLater.take kept.length, keptLater.drop kept.length, ?_,
      (List.take_append_drop _ _).symm⟩
    simpa using List.forall₂_take kept.length relationsLater
  exact ⟨front, back ++ addedLater, List.append_assoc _ _ _,
    forall₂_trans transitive relations split⟩

theorem Extends.exists_of_mem {related : α → α → Prop} {before after : List α}
    (extension : Extends related before after) {entry : α}
    (member : entry ∈ before) : ∃ successor ∈ after, related entry successor := by
  obtain ⟨kept, added, rfl, relations⟩ := extension
  obtain ⟨successor, inKept, step⟩ := exists_of_forall₂ relations member
  exact ⟨successor, List.mem_append_left _ inKept, step⟩

theorem Extends.exists_of_find? {related : α → α → Prop}
    {select : α → Bool} {before after : List α}
    (same : ∀ entry successor, related entry successor →
      select successor = select entry)
    (extension : Extends related before after) {entry : α}
    (found : before.find? select = some entry) :
    ∃ successor, after.find? select = some successor ∧
      related entry successor := by
  obtain ⟨kept, added, rfl, relations⟩ := extension
  have finds := find?_rel_of_forall₂ same relations
  rw [found] at finds
  cases isFound : kept.find? select with
  | none =>
      rw [isFound] at finds
      cases finds
  | some successor =>
      rw [isFound] at finds
      cases finds with
      | some step =>
          refine ⟨successor, ?_, step⟩
          rw [List.find?_append, isFound, Option.some_or]

end NvidiaBuildLb.Foundation
