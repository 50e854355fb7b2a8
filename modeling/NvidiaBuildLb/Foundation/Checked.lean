import Mathlib.Algebra.Group.Nat.Defs

namespace NvidiaBuildLb.Foundation

/-! Programs that stop where the machine does: at an index outside a slice and
at a sum beyond 64 bits; a loop that does not end within its fuel stops too. -/

inductive Fault where
  | outOfBounds
  | overflow
  | endless
  deriving DecidableEq, Repr

abbrev Checked (α : Type) := Except Fault α

/-- A slice holds less than 2 ^ 63 bytes. -/
structure Slice (α : Type) where
  items : List α
  bounded : items.length < 2 ^ 63

variable {α σ : Type}

def Slice.length (slice : Slice α) : Nat :=
  slice.items.length

def Slice.at_ (slice : Slice α) (index : Nat) : Checked α :=
  match slice.items[index]? with
  | some item => .ok item
  | none => .error .outOfBounds

def Slice.range (slice : Slice α) (start stop : Nat) : Checked (List α) :=
  if start ≤ stop ∧ stop ≤ slice.length then
    .ok ((slice.items.take stop).drop start)
  else
    .error .outOfBounds

def addUsize (left right : Nat) : Checked Nat :=
  if left + right < 2 ^ 64 then .ok (left + right) else .error .overflow

inductive LoopStep (σ α : Type) where
  | next (state : σ)
  | stop (value : α)

def iterate (step : σ → Checked (LoopStep σ α)) : Nat → σ → Checked α
  | 0, _ => .error .endless
  | fuel + 1, state =>
      match step state with
      | .error fault => .error fault
      | .ok (.next after) => iterate step fuel after
      | .ok (.stop value) => .ok value

@[simp] theorem Slice.length_items (slice : Slice α) :
    slice.items.length = slice.length :=
  rfl

theorem Slice.length_lt (slice : Slice α) : slice.length < 2 ^ 63 :=
  slice.bounded

@[simp] theorem Slice.at_inside (slice : Slice α) {index : Nat}
    (inside : index < slice.length) : slice.at_ index = .ok slice.items[index] := by
  rw [at_, List.getElem?_eq_getElem inside]

theorem Slice.range_inside (slice : Slice α) {start stop : Nat} (ordered : start ≤ stop)
    (inside : stop ≤ slice.length) :
    slice.range start stop = .ok ((slice.items.take stop).drop start) :=
  if_pos ⟨ordered, inside⟩

theorem addUsize_small {left right : Nat} (small : left + right < 2 ^ 64) :
    addUsize left right = .ok (left + right) :=
  if_pos small

/-- A loop whose rank falls with every step ends with what all its states
result in. -/
theorem iterate_eq {step : σ → Checked (LoopStep σ α)} {result : σ → α}
    (holds : σ → Prop) (rank : σ → Nat)
    (turn : ∀ state, holds state →
      step state = .ok (.stop (result state)) ∨
        ∃ after, step state = .ok (.next after) ∧ holds after ∧
          rank after < rank state ∧ result after = result state)
    {fuel : Nat} {state : σ} (start : holds state) (enough : rank state < fuel) :
    iterate step fuel state = .ok (result state) := by
  induction fuel generalizing state with
  | zero => exact absurd enough (Nat.not_lt_zero _)
  | succ fuel induction =>
      rw [iterate]
      rcases turn state start with stops | ⟨after, goes, still, falls, same⟩
      · rw [stops]
      · rw [goes, ← same]
        exact induction still (Nat.lt_of_lt_of_le falls (Nat.le_of_lt_succ enough))

end NvidiaBuildLb.Foundation
