import Mathlib.Algebra.Group.Nat.Defs

namespace NvidiaBuildLb.Foundation.Double

/-! Floating point numbers of 64 bits as their bits: their order, and the
integers among them. -/

def magnitude (bits : UInt64) : Nat :=
  bits.toNat % 2 ^ 63

def infinity : Nat := 0x7ff0000000000000

def isNan (bits : UInt64) : Bool :=
  infinity < magnitude bits

def isFinite (bits : UInt64) : Bool :=
  magnitude bits < infinity

/-- Without NaN the order is that of sign and magnitude; both zeros are equal. -/
def rank (bits : UInt64) : Int :=
  if bits.toNat < 2 ^ 63 then magnitude bits else - (magnitude bits : Int)

def le (left right : UInt64) : Bool :=
  !isNan left && !isNan right && rank left ≤ rank right

def eq (left right : UInt64) : Bool :=
  !isNan left && !isNan right && rank left = rank right

/-- `low..=high`. -/
def within (low high bits : UInt64) : Bool :=
  le low bits && le bits high

/-- To the nearest multiple of `2 ^ shift`, and between two to the even one;
`shift` is positive. -/
def roundedShift (value shift : Nat) : Nat :=
  let quotient := value / 2 ^ shift
  let remainder := value % 2 ^ shift
  let half := 2 ^ (shift - 1)
  if half < remainder ∨ remainder = half ∧ quotient % 2 = 1 then
    quotient + 1
  else
    quotient

/-- The significand's own leading bit counts for one in the exponent, and so
does a carry out of it. -/
def ofNat (value : Nat) : UInt64 :=
  if value = 0 then
    0
  else
    let exponent := value.log2
    let significand :=
      if exponent ≤ 52 then value * 2 ^ (52 - exponent)
      else roundedShift value (exponent - 52)
    UInt64.ofNat ((exponent + 1022) * 2 ^ 52 + significand)

def ofInt (value : Int) : UInt64 :=
  if 0 ≤ value then ofNat value.toNat
  else UInt64.ofNat (2 ^ 63 + (ofNat value.natAbs).toNat)

example : ofNat 20 = 0x4034000000000000 := by decide

example : ofNat (2 ^ 64 - 1) = 0x43f0000000000000 := by decide

theorem magnitude_eq_natAbs (bits : UInt64) :
    magnitude bits = (rank bits).natAbs := by
  unfold rank
  split <;> omega

theorem isFinite_of_within {low high bits : UInt64} (inside : within low high bits = true)
    (lowFinite : isFinite low = true) (highFinite : isFinite high = true) :
    isFinite bits = true := by
  simp only [within, le, Bool.and_eq_true, decide_eq_true_eq] at inside
  simp only [isFinite, decide_eq_true_eq, magnitude_eq_natAbs] at lowFinite highFinite ⊢
  omega

end NvidiaBuildLb.Foundation.Double
