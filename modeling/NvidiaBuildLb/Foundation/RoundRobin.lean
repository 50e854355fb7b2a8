import Mathlib.Data.Int.CardIntervalMod

namespace NvidiaBuildLb.Foundation

/-! Turns around a ring of places of which some are free: from a cursor on, the
first free one has the turn, and the cursor moves behind it. -/

section RoundRobin

variable (free : Nat → Prop) [DecidablePred free] (length : Nat)

/-- The first free place from the cursor on, or else from the start on. -/
structure Turn (cursor place : Nat) : Prop where
  isFree : free place
  within : place < length
  first : (cursor ≤ place ∧ ∀ other, cursor ≤ other → other < place →
      ¬ free other) ∨
    (place < cursor ∧ (∀ other, cursor ≤ other → other < length →
      ¬ free other) ∧ ∀ other, other < place → ¬ free other)

inductive Turns : Nat → List Nat → Prop
  | nil (cursor : Nat) : Turns cursor []
  | cons {cursor place : Nat} {places : List Nat}
      (turn : Turn free length cursor place)
      (rest : Turns ((place + 1) % length) places) :
      Turns cursor (place :: places)

variable {free length} {cursor place : Nat} {places : List Nat}

omit [DecidablePred free] in
theorem Turn.here (isFree : free place) (within : place < length) :
    Turn free length place place :=
  ⟨isFree, within, .inl ⟨le_refl _, fun other from_ before => by omega⟩⟩

private theorem count_of_none {start stop : Nat} (ordered : start ≤ stop)
    (none_ : ∀ other, start ≤ other → other < stop → ¬ free other) :
    stop.count free = start.count free := by
  obtain ⟨gap, rfl⟩ := Nat.exists_eq_add_of_le ordered
  rw [Nat.count_add]
  have empty : gap.count (fun offset => free (start + offset)) = 0 := by
    apply Nat.count_of_forall_not
    intro offset inside
    exact none_ _ (by omega) (by omega)
  omega

/-- Counted in free places, the turn is where the cursor is. -/
theorem Turn.count_modEq (turn : Turn free length cursor place)
    (within : cursor < length) :
    place.count free ≡ cursor.count free [MOD length.count free] := by
  rcases turn.first with ⟨ahead, skipped⟩ | ⟨around, skipped, skippedStart⟩
  · rw [count_of_none ahead skipped]
  · rw [← count_of_none within.le skipped]
    rw [Nat.count_of_forall_not fun {other} => skippedStart other]
    exact (Nat.modEq_zero_iff_dvd.mpr (dvd_refl _)).symm

theorem count_next (isFree : free place) (within : place < length) :
    ((place + 1) % length).count free ≡ place.count free + 1
      [MOD length.count free] := by
  have counted : (place + 1).count free = place.count free + 1 := by
    rw [Nat.count_succ, if_pos isFree]
  by_cases last : place + 1 = length
  · rw [last, Nat.mod_self, ← counted, last, Nat.count_zero]
    exact (Nat.modEq_zero_iff_dvd.mpr (dvd_refl _)).symm
  · rw [Nat.mod_eq_of_lt (by omega), counted]

theorem count_lt (isFree : free place) (within : place < length) :
    place.count free < length.count free :=
  Nat.count_strict_mono isFree within

theorem Turns.count_eq (turns : Turns free length cursor places)
    (inside : cursor < length) (isFree : free place) (within : place < length) :
    places.count place = places.length.count fun turn =>
      cursor.count free + turn ≡ place.count free [MOD length.count free] := by
  induction turns with
  | nil cursor => rfl
  | @cons cursor chosen places turn rest induction =>
      have around : (chosen + 1) % length < length :=
        Nat.mod_lt _ (by omega)
      have here : chosen = place ↔ cursor.count free + 0 ≡ place.count free
          [MOD length.count free] := by
        have counted := turn.count_modEq inside
        constructor
        · intro same
          subst same
          exact counted.symm
        · intro same
          apply Nat.count_injective turn.isFree isFree
          exact (counted.trans same).eq_of_lt_of_lt
            (count_lt turn.isFree turn.within) (count_lt isFree within)
      have later : ∀ number, ((chosen + 1) % length).count free + number ≡
          place.count free [MOD length.count free] ↔
          cursor.count free + (number + 1) ≡ place.count free
            [MOD length.count free] := by
        intro number
        have moved : ((chosen + 1) % length).count free + number ≡
            cursor.count free + (number + 1) [MOD length.count free] := by
          have next := (count_next turn.isFree turn.within).trans
            ((turn.count_modEq inside).add_right 1)
          have shifted := next.add_right number
          rwa [Nat.add_assoc, Nat.add_comm 1 number] at shifted
        exact ⟨moved.symm.trans, moved.trans⟩
      rw [List.count_cons, List.length_cons, Nat.count_succ', induction around]
      congr 1
      · simp only [later]
      · simp only [beq_iff_eq, here]

/-- Over any number of turns, each free place has its share of them. -/
theorem Turns.fair (turns : Turns free length cursor places)
    (inside : cursor < length) (isFree : free place)
    (within : place < length) :
    places.length / length.count free ≤ places.count place ∧
      places.count place ≤
        (places.length + (length.count free - 1)) / length.count free := by
  have some_ : 0 < length.count free :=
    lt_of_le_of_lt (Nat.zero_le _) (count_lt isFree within)
  generalize shares : length.count free = share at *
  let shift := place.count free + (share - cursor.count free % share)
  have shifted : ∀ turn, cursor.count free + turn ≡ place.count free
      [MOD share] ↔ turn ≡ shift [MOD share] := by
    intro turn
    have split := Nat.div_add_mod (cursor.count free) share
    have below := Nat.mod_lt (cursor.count free) some_
    have back : cursor.count free + shift ≡ place.count free [MOD share] := by
      have whole : cursor.count free + shift = place.count free +
          share * (cursor.count free / share + 1) := by
        rw [Nat.mul_add, Nat.mul_one]
        omega
      rw [whole]
      exact (Nat.modEq_iff_dvd' (Nat.le_add_right _ _)).mpr
        ⟨cursor.count free / share + 1, by omega⟩ |>.symm
    constructor
    · exact fun same => Nat.ModEq.add_left_cancel' _ (same.trans back.symm)
    · exact fun same => (same.add_left _).trans back
  have counted : places.count place =
      places.length / share +
        if shift % share < places.length % share then 1 else 0 := by
    rw [turns.count_eq inside isFree within, shares]
    simp only [shifted]
    exact Nat.count_modEq_card places.length some_ shift
  have split := Nat.div_add_mod places.length share
  have below := Nat.mod_lt places.length some_
  rw [counted]
  constructor
  · omega
  · apply (Nat.le_div_iff_mul_le some_).mpr
    rw [Nat.add_mul, Nat.mul_comm]
    split <;> omega

end RoundRobin

end NvidiaBuildLb.Foundation
