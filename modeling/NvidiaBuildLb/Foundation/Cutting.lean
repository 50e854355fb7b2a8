import NvidiaBuildLb.Foundation.FormData

namespace NvidiaBuildLb.Foundation

/-! Where a list is cut: at the first occurrence of the separator. -/

variable {α : Type}

/-- No separator starts in `front`, with `back` behind it. -/
def Passes (separator front back : List α) : Prop :=
  ∀ before after, front = before ++ after → after ≠ [] →
    ¬ separator <+: after ++ back

section

variable {separator front back : List α}

theorem Passes.nil : Passes separator [] back := by
  intro before after split nonempty
  exact absurd (List.append_eq_nil_iff.mp split.symm).2 nonempty

theorem Passes.cons_iff {item : α} :
    Passes separator (item :: front) back ↔
      ¬ separator <+: item :: (front ++ back) ∧ Passes separator front back := by
  constructor
  · intro passes
    refine ⟨passes [] (item :: front) rfl (List.cons_ne_nil _ _), ?_⟩
    intro before after split
    exact passes (item :: before) after (by rw [split]; rfl)
  · intro passes before after split nonempty
    cases before with
    | nil =>
        rw [List.nil_append] at split
        rw [← split]
        exact passes.1
    | cons head before =>
        exact passes.2 before after (List.cons.inj split).2 nonempty

theorem Passes.append_iff {middle : List α} :
    Passes separator (front ++ middle) back ↔
      Passes separator front (middle ++ back) ∧
        Passes separator middle back := by
  induction front with
  | nil => simp [Passes.nil]
  | cons item rest induction =>
      rw [List.cons_append, Passes.cons_iff, Passes.cons_iff, induction,
        List.append_assoc, and_assoc]

theorem passes_of {separator front back : List α}
    (absent : ¬ separator <:+: front)
    (apart : ∀ start rest, start ≠ [] → rest ≠ [] → separator = start ++ rest →
      start <:+ front → ¬ rest <+: back) :
    Passes separator front back := by
  intro before after split nonempty starts
  obtain ⟨tail, whole⟩ := starts
  rcases List.append_eq_append_iff.mp whole with
    ⟨rest, isAfter, isBack⟩ | ⟨rest, isSeparator, isBack⟩
  · exact absent ⟨before, rest, by rw [split, isAfter, List.append_assoc]⟩
  · cases rest with
    | nil =>
        rw [List.append_nil] at isSeparator
        exact absent ⟨before, [], by rw [split, isSeparator, List.append_nil]⟩
    | cons item rest =>
        exact apart after (item :: rest) nonempty (List.cons_ne_nil _ _)
          isSeparator ⟨before, split.symm⟩ ⟨tail, isBack.symm⟩

theorem passes_of_head {item : α} (absent : ¬ separator <:+: front)
    (foreign : item ∉ separator.tail) :
    Passes separator front (item :: back) := by
  refine passes_of absent ?_
  intro start rest isStart isRest whole _ starts
  cases rest with
  | nil => exact isRest rfl
  | cons head rest =>
      obtain ⟨tail, same⟩ := starts
      cases (List.cons.inj same).1
      cases start with
      | nil => exact isStart rfl
      | cons first start =>
          rw [whole] at foreign
          exact foreign (by simp)

theorem passes_of_foreign (nonempty : separator ≠ [])
    (foreign : ∀ item ∈ separator.head?, item ∉ front) :
    Passes separator front back := by
  intro before after split isAfter starts
  obtain ⟨tail, whole⟩ := starts
  cases separator with
  | nil => exact nonempty rfl
  | cons first rest =>
      cases after with
      | nil => exact isAfter rfl
      | cons head after =>
          cases (List.cons.inj whole).1
          exact foreign first rfl (by rw [split]; simp)

end

section Cuts

variable [BEq α] [LawfulBEq α] {separator items front back : List α}

theorem cutAt_append (passes : Passes separator front back) :
    cutAt separator (front ++ back) =
      (cutAt separator back).map fun cut => (front ++ cut.1, cut.2) := by
  induction front with
  | nil => simp
  | cons item rest induction =>
      obtain ⟨here, later⟩ := Passes.cons_iff.mp passes
      have noPrefix : separator.isPrefixOf (item :: (rest ++ back)) = false := by
        rw [Bool.eq_false_iff]
        exact fun starts => here (List.isPrefixOf_iff_prefix.mp starts)
      rw [List.cons_append, cutAt, noPrefix, if_neg Bool.false_ne_true,
        induction later, Option.map_map]
      rfl

theorem cutAt_separator (separator back : List α) :
    cutAt separator (separator ++ back) = some ([], back) := by
  cases whole : separator ++ back with
  | nil =>
      obtain ⟨rfl, rfl⟩ := List.append_eq_nil_iff.mp whole
      rfl
  | cons item rest =>
      have starts : separator.isPrefixOf (item :: rest) = true :=
        List.isPrefixOf_iff_prefix.mpr ⟨back, whole⟩
      rw [cutAt, if_pos starts, ← whole, List.drop_left]

theorem cutAt_eq_some : cutAt separator items = some (front, back) ↔
    items = front ++ (separator ++ back) ∧
      Passes separator front (separator ++ back) := by
  constructor
  · intro found
    induction items generalizing front with
    | nil =>
        rw [cutAt] at found
        split at found
        · rename_i empty
          cases found
          exact ⟨by simp [List.isEmpty_iff.mp empty], .nil⟩
        · cases found
    | cons item rest induction =>
        rw [cutAt] at found
        split at found
        · rename_i starts
          cases found
          obtain ⟨tail, whole⟩ := List.isPrefixOf_iff_prefix.mp starts
          exact ⟨by rw [← whole, List.drop_left]; rfl, .nil⟩
        · rename_i here
          obtain ⟨⟨head, tail⟩, isFound, same⟩ :=
            Option.map_eq_some_iff.mp found
          cases same
          obtain ⟨whole, passes⟩ := induction isFound
          refine ⟨by rw [whole]; rfl, Passes.cons_iff.mpr ⟨?_, passes⟩⟩
          rw [← whole]
          exact fun starts => here (List.isPrefixOf_iff_prefix.mpr starts)
  · rintro ⟨rfl, passes⟩
    rw [cutAt_append passes, cutAt_separator]
    simp

theorem cutAt_eq_none : cutAt separator items = none ↔
    ¬ separator <:+: items := by
  constructor
  · rintro none_ ⟨before, after, rfl⟩
    -- The first occurrence is cut at, if there is any.
    have found : ∀ rest : List α, (cutAt separator (rest ++ separator ++
        after)).isSome = true := by
      intro rest
      induction rest with
      | nil => rw [List.nil_append, cutAt_separator]; rfl
      | cons item rest induction =>
          rw [List.cons_append, List.cons_append, cutAt]
          split
          · rfl
          · rw [Option.isSome_map]
            exact induction
    have some_ := found before
    rw [none_] at some_
    cases some_
  · intro absent
    cases found : cutAt separator items with
    | none => rfl
    | some cut =>
        obtain ⟨whole, -⟩ := cutAt_eq_some.mp found
        exact absurd ⟨cut.1, cut.2, by rw [whole, List.append_assoc]⟩ absent

theorem cutAt_extend (found : cutAt separator items = some (front, back))
    (more : List α) :
    cutAt separator (items ++ more) = some (front, back ++ more) := by
  obtain ⟨rfl, passes⟩ := cutAt_eq_some.mp found
  refine cutAt_eq_some.mpr ⟨by simp, ?_⟩
  intro before after split nonempty starts
  refine passes before after split nonempty ?_
  have longer : after ++ (separator ++ back) <+:
      after ++ (separator ++ (back ++ more)) := ⟨more, by simp⟩
  refine List.prefix_of_prefix_length_le starts longer ?_
  simp only [List.length_append]
  omega

end Cuts

section All

variable [BEq α] [LawfulBEq α] {separator : List α}

inductive CutInto (separator : List α) : List α → List (List α) → Prop where
  | whole {items : List α} (uncut : cutAt separator items = none) :
      CutInto separator items [items]
  | cut {items front back : List α} {pieces : List (List α)}
      (found : cutAt separator items = some (front, back))
      (rest : CutInto separator back pieces) :
      CutInto separator items (front :: pieces)

theorem cutInto_cutAll (fuel : Nat) {items : List α}
    (enough : items.length < separator.length * (fuel + 1)) :
    CutInto separator items (cutAll separator fuel items) := by
  induction fuel generalizing items with
  | zero =>
      refine .whole (cutAt_eq_none.mpr fun occurs => ?_)
      have := occurs.length_le
      omega
  | succ fuel induction =>
      rw [cutAll]
      split
      · rename_i uncut
        exact .whole uncut
      · rename_i front back found
        refine .cut found (induction ?_)
        obtain ⟨rfl, -⟩ := cutAt_eq_some.mp found
        simp only [List.length_append] at enough
        rw [Nat.mul_succ] at enough
        omega

omit [LawfulBEq α] in
theorem CutInto.nonempty {items : List α} {pieces : List (List α)}
    (cuts : CutInto separator items pieces) : pieces ≠ [] := by
  cases cuts <;> exact List.cons_ne_nil _ _

theorem CutInto.extend {items more : List α} {pieces : List (List α)}
    (cuts : CutInto separator items pieces) {others : List (List α)}
    (longer : CutInto separator (items ++ more) others) :
    ∃ last rest, pieces.getLast? = some last ∧
      cutAt separator last = none ∧
      CutInto separator (last ++ more) rest ∧
      others = pieces.dropLast ++ rest := by
  induction cuts generalizing others with
  | whole uncut => exact ⟨_, others, rfl, uncut, longer, rfl⟩
  | @cut items front back pieces found rest induction =>
      have extended := cutAt_extend found more
      cases longer with
      | whole uncut =>
          rw [extended] at uncut
          cases uncut
      | cut found' rest' =>
          cases extended.symm.trans found'
          obtain ⟨last, remaining, isLast, uncut, later, isOthers⟩ :=
            induction rest'
          refine ⟨last, remaining, ?_, uncut, later, ?_⟩
          · rw [List.getLast?_cons, isLast]
            rfl
          · rw [List.dropLast_cons_of_ne_nil rest.nonempty, isOthers]
            rfl

end All

end NvidiaBuildLb.Foundation
