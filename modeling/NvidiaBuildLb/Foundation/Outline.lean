import Mathlib.Data.List.TakeWhile

namespace NvidiaBuildLb.Foundation

/-! A list with a depth for each item, read as an outline: an item at the
level opens a section, and the deeper items behind it are under it. -/

variable {α : Type} {depth : α → Nat} {level : Nat}

/-- The level of an outline is the depth of its first item. -/
def outlineLevel (depth : α → Nat) (items : List α) : Nat :=
  (items.head?.map depth).getD 0

def below (depth : α → Nat) (level : Nat) (items : List α) : List α :=
  items.takeWhile fun item => level < depth item

def sections (depth : α → Nat) (level : Nat) : List α → List (α × List α)
  | [] => []
  | item :: rest =>
      if depth item = level then
        (item, below depth level rest) :: sections depth level rest
      else
        sections depth level rest

theorem below_map {change : α → α} {items : List α}
    (keeps : ∀ item ∈ items, depth (change item) = depth item) :
    below depth level (items.map change) = (below depth level items).map change := by
  induction items with
  | nil => rfl
  | cons item rest induction =>
      obtain ⟨keepsItem, keepsRest⟩ := List.forall_mem_cons.mp keeps
      have tail := induction keepsRest
      simp only [below] at tail ⊢
      rw [List.map_cons, List.takeWhile_cons, List.takeWhile_cons, keepsItem, tail]
      split <;> rfl

theorem below_append_flush (front : List α) {back : List α}
    (flush : ∀ item ∈ back, depth item = level) :
    below depth level (front ++ back) = below depth level front := by
  have stops : below depth level back = [] := by
    cases back with
    | nil => rfl
    | cons next others =>
        apply List.takeWhile_cons_of_neg
        simp [flush next (List.mem_cons_self ..)]
  rw [below, List.takeWhile_append]
  split
  · rename_i whole
    rw [← below, stops, List.append_nil]
    exact ((List.takeWhile_prefix _).eq_of_length whole).symm
  · rfl

theorem below_deeper {items : List α} (deeper : ∀ item ∈ items, level < depth item) :
    below depth level items = items := by
  apply List.takeWhile_eq_self_iff.mpr
  intro item member
  exact decide_eq_true (deeper item member)

theorem below_append_section {front : List α} (back : List α) {item : α}
    (member : item ∈ front) (opens : depth item = level) :
    below depth level (front ++ back) = below depth level front := by
  rw [below, List.takeWhile_append]
  split
  · rename_i whole
    have same := (List.takeWhile_prefix _).eq_of_length whole
    rw [← same] at member
    have deeper := List.mem_takeWhile_imp member
    rw [opens] at deeper
    simp at deeper
  · rfl

theorem sections_fst (depth : α → Nat) (level : Nat) (items : List α) :
    (sections depth level items).map Prod.fst =
      items.filter fun item => depth item = level := by
  induction items with
  | nil => rfl
  | cons item rest induction =>
      rw [sections, List.filter_cons]
      by_cases flush : depth item = level
      · simp [flush, induction]
      · simp [flush, induction]

theorem mem_of_mem_sections {items : List α} {part : α × List α}
    (member : part ∈ sections depth level items) :
    part.1 ∈ items ∧ depth part.1 = level := by
  have inside : part.1 ∈ (sections depth level items).map Prod.fst :=
    List.mem_map_of_mem member
  rw [sections_fst] at inside
  simpa using inside

theorem sections_map {change : α → α} {items : List α}
    (keeps : ∀ item ∈ items, depth (change item) = depth item) :
    sections depth level (items.map change) =
      (sections depth level items).map
        fun part => (change part.1, part.2.map change) := by
  induction items with
  | nil => rfl
  | cons item rest induction =>
      obtain ⟨keepsItem, keepsRest⟩ := List.forall_mem_cons.mp keeps
      rw [List.map_cons, sections, sections, keepsItem, below_map keepsRest,
        induction keepsRest]
      split <;> rfl

theorem sections_flush {items : List α} (flush : ∀ item ∈ items, depth item = level) :
    sections depth level items = items.map fun item => (item, []) := by
  induction items with
  | nil => rfl
  | cons item rest induction =>
      obtain ⟨flushItem, flushRest⟩ := List.forall_mem_cons.mp flush
      have bare : below depth level rest = [] := below_append_flush [] flushRest
      rw [sections, if_pos flushItem, bare, induction flushRest, List.map_cons]

theorem sections_append_flush (front : List α) {back : List α}
    (flush : ∀ item ∈ back, depth item = level) :
    sections depth level (front ++ back) =
      sections depth level front ++ back.map fun item => (item, []) := by
  induction front with
  | nil => exact sections_flush flush
  | cons item rest induction =>
      rw [List.cons_append, sections, sections, below_append_flush rest flush, induction]
      split <;> rfl

theorem sections_eq_nil {items : List α} :
    sections depth level items = [] ↔ ∀ item ∈ items, depth item ≠ level := by
  rw [← List.map_eq_nil_iff, sections_fst, List.filter_eq_nil_iff]
  simp

theorem sections_append_deeper {front back : List α}
    (uniform : ∀ item ∈ front, level ≤ depth item)
    (deeper : ∀ item ∈ back, level < depth item)
    {initial : List (α × List α)} {last : α} {under : List α}
    (parts : sections depth level front = initial ++ [(last, under)]) :
    sections depth level (front ++ back) = initial ++ [(last, under ++ back)] := by
  induction front generalizing initial with
  | nil => cases initial <;> cases parts
  | cons item rest induction =>
      obtain ⟨_, uniformRest⟩ := List.forall_mem_cons.mp uniform
      rw [List.cons_append, sections]
      rw [sections] at parts
      by_cases opens : depth item = level
      · rw [if_pos opens] at parts ⊢
        cases initial with
        | nil =>
            obtain ⟨isLast, closed⟩ := List.cons.inj parts
            cases isLast
            have deep : ∀ other ∈ rest, level < depth other := by
              intro other member
              have away := sections_eq_nil.mp closed other member
              have atLeast := uniformRest other member
              omega
            have deepAll : ∀ other ∈ rest ++ back, level < depth other := by
              intro other member
              rcases List.mem_append.mp member with inRest | inBack
              · exact deep other inRest
              · exact deeper other inBack
            have none_ : sections depth level (rest ++ back) = [] :=
              sections_eq_nil.mpr fun other member =>
                Nat.ne_of_gt (deepAll other member)
            rw [below_deeper deep, below_deeper deepAll, none_]
            rfl
        | cons first others =>
            obtain ⟨rfl, remaining⟩ := List.cons.inj parts
            have inside : (last, under) ∈ sections depth level rest := by
              rw [remaining]
              exact List.mem_append_right _ (List.mem_singleton_self _)
            obtain ⟨member, flush⟩ := mem_of_mem_sections inside
            rw [below_append_section back member flush,
              induction uniformRest remaining]
            rfl
      · rw [if_neg opens] at parts ⊢
        exact induction uniformRest parts

end NvidiaBuildLb.Foundation
