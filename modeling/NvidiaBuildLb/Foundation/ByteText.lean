import Mathlib.Data.List.Basic
import Mathlib.Data.UInt

namespace NvidiaBuildLb.Foundation

/-! Byte strings as text: lowercase hexadecimal, and base64 over the URL-safe
alphabet without padding. -/

def hexDigit (value : Nat) : Char :=
  if value < 10 then Char.ofNat (48 + value) else Char.ofNat (87 + value)

def hexValue? (digit : Char) : Option Nat :=
  let code := digit.toNat
  if 48 ≤ code ∧ code ≤ 57 then some (code - 48)
  else if 97 ≤ code ∧ code ≤ 102 then some (code - 87)
  else if 65 ≤ code ∧ code ≤ 70 then some (code - 55)
  else none

def hexDigits : List UInt8 → List Char
  | [] => []
  | byte :: rest =>
      hexDigit (byte.toNat / 16) :: hexDigit (byte.toNat % 16) :: hexDigits rest

def hexBytes? : List Char → Option (List UInt8)
  | [] => some []
  | [_] => none
  | high :: low :: rest => do
      let highValue ← hexValue? high
      let lowValue ← hexValue? low
      let bytes ← hexBytes? rest
      pure (UInt8.ofNat (highValue * 16 + lowValue) :: bytes)

def hexEncode (bytes : List UInt8) : String :=
  String.ofList (hexDigits bytes)

def hexDecode (text : String) : Option (List UInt8) :=
  hexBytes? text.toList

private theorem hexValue?_hexDigit {value : Nat} (small : value < 16) :
    hexValue? (hexDigit value) = some value := by
  have all : ∀ candidate < 16,
      hexValue? (hexDigit candidate) = some candidate := by
    decide
  exact all value small

private theorem ofNat_of_eq {byte : UInt8} {value : Nat}
    (same : value = byte.toNat) : UInt8.ofNat value = byte := by
  rw [same, UInt8.ofNat_toNat]

private theorem hexBytes?_hexDigits (bytes : List UInt8) :
    hexBytes? (hexDigits bytes) = some bytes := by
  induction bytes with
  | nil => rfl
  | cons byte rest induction =>
      have bound : byte.toNat < 256 := byte.toNat_lt
      have high := @hexValue?_hexDigit (byte.toNat / 16) (by omega)
      have low := @hexValue?_hexDigit (byte.toNat % 16) (by omega)
      simp only [hexDigits, hexBytes?, high, low, induction,
        Option.bind_eq_bind, Option.bind_some, Option.pure_def,
        Option.some.injEq, List.cons.injEq, and_true]
      exact ofNat_of_eq (by omega)

@[simp] theorem hexDecode_hexEncode (bytes : List UInt8) :
    hexDecode (hexEncode bytes) = some bytes := by
  simp [hexDecode, hexEncode, hexBytes?_hexDigits]

theorem hexEncode_injective : Function.Injective hexEncode := by
  intro left right same
  have decoded := congrArg hexDecode same
  simpa using decoded

@[simp] theorem hexEncode_inj {left right : List UInt8} :
    hexEncode left = hexEncode right ↔ left = right :=
  hexEncode_injective.eq_iff

def base64Digit (value : Nat) : Char :=
  if value < 26 then Char.ofNat (65 + value)
  else if value < 52 then Char.ofNat (71 + value)
  else if value < 62 then Char.ofNat (value - 4)
  else if value = 62 then '-'
  else '_'

def base64Value? (digit : Char) : Option Nat :=
  let code := digit.toNat
  if 65 ≤ code ∧ code ≤ 90 then some (code - 65)
  else if 97 ≤ code ∧ code ≤ 122 then some (code - 71)
  else if 48 ≤ code ∧ code ≤ 57 then some (code + 4)
  else if digit = '-' then some 62
  else if digit = '_' then some 63
  else none

/-- Three bytes become four digits; one or two bytes left over become two or
three digits whose unused low bits are zero. -/
def sextets : List UInt8 → List Nat
  | first :: second :: third :: rest =>
      first.toNat / 4 ::
        (first.toNat % 4 * 16 + second.toNat / 16) ::
        (second.toNat % 16 * 4 + third.toNat / 64) ::
        third.toNat % 64 :: sextets rest
  | [first, second] =>
      [first.toNat / 4, first.toNat % 4 * 16 + second.toNat / 16,
        second.toNat % 16 * 4]
  | [first] => [first.toNat / 4, first.toNat % 4 * 16]
  | [] => []

def sextetBytes? : List Nat → Option (List UInt8)
  | first :: second :: third :: fourth :: rest => do
      let bytes ← sextetBytes? rest
      pure (UInt8.ofNat (first * 4 + second / 16) ::
        UInt8.ofNat (second % 16 * 16 + third / 4) ::
        UInt8.ofNat (third % 4 * 64 + fourth) :: bytes)
  | [first, second, third] =>
      if third % 4 = 0 then
        some [UInt8.ofNat (first * 4 + second / 16),
          UInt8.ofNat (second % 16 * 16 + third / 4)]
      else
        none
  | [first, second] =>
      if second % 16 = 0 then
        some [UInt8.ofNat (first * 4 + second / 16)]
      else
        none
  | [_] => none
  | [] => some []

def base64UrlEncode (bytes : List UInt8) : String :=
  String.ofList ((sextets bytes).map base64Digit)

def base64UrlDecode (text : String) : Option (List UInt8) := do
  let values ← text.toList.mapM base64Value?
  sextetBytes? values

private theorem base64Value?_base64Digit {value : Nat} (small : value < 64) :
    base64Value? (base64Digit value) = some value := by
  have all : ∀ candidate < 64,
      base64Value? (base64Digit candidate) = some candidate := by
    decide
  exact all value small

private theorem sextets_lt (bytes : List UInt8) :
    ∀ value ∈ sextets bytes, value < 64 := by
  induction bytes using sextets.induct with
  | case1 first second third rest induction =>
      have hfirst : first.toNat < 256 := first.toNat_lt
      have hsecond : second.toNat < 256 := second.toNat_lt
      have hthird : third.toNat < 256 := third.toNat_lt
      intro value member
      simp only [sextets, List.mem_cons] at member
      rcases member with rfl | rfl | rfl | rfl | inRest
      · omega
      · omega
      · omega
      · omega
      · exact induction value inRest
  | case2 first second =>
      have hfirst : first.toNat < 256 := first.toNat_lt
      have hsecond : second.toNat < 256 := second.toNat_lt
      intro value member
      simp only [sextets, List.mem_cons, List.not_mem_nil, or_false] at member
      rcases member with rfl | rfl | rfl <;> omega
  | case3 first =>
      have hfirst : first.toNat < 256 := first.toNat_lt
      intro value member
      simp only [sextets, List.mem_cons, List.not_mem_nil, or_false] at member
      rcases member with rfl | rfl <;> omega
  | case4 => simp [sextets]

private theorem sextetBytes?_sextets (bytes : List UInt8) :
    sextetBytes? (sextets bytes) = some bytes := by
  induction bytes using sextets.induct with
  | case1 first second third rest induction =>
      have hfirst : first.toNat < 256 := first.toNat_lt
      have hsecond : second.toNat < 256 := second.toNat_lt
      have hthird : third.toNat < 256 := third.toNat_lt
      simp only [sextets, sextetBytes?, induction, Option.bind_eq_bind,
        Option.bind_some, Option.pure_def, Option.some.injEq, List.cons.injEq,
        and_true]
      refine ⟨ofNat_of_eq ?_, ofNat_of_eq ?_, ofNat_of_eq ?_⟩ <;> omega
  | case2 first second =>
      have hfirst : first.toNat < 256 := first.toNat_lt
      have hsecond : second.toNat < 256 := second.toNat_lt
      have unused : second.toNat % 16 * 4 % 4 = 0 := by omega
      simp only [sextets, sextetBytes?, unused, if_true, Option.some.injEq,
        List.cons.injEq, and_true]
      refine ⟨ofNat_of_eq ?_, ofNat_of_eq ?_⟩ <;> omega
  | case3 first =>
      have hfirst : first.toNat < 256 := first.toNat_lt
      have unused : first.toNat % 4 * 16 % 16 = 0 := by omega
      simp only [sextets, sextetBytes?, unused, if_true, Option.some.injEq,
        List.cons.injEq, and_true]
      exact ofNat_of_eq (by omega)
  | case4 => rfl

private theorem mapM_base64Value? {values : List Nat}
    (small : ∀ value ∈ values, value < 64) :
    (values.map base64Digit).mapM base64Value? = some values := by
  induction values with
  | nil => rfl
  | cons head tail induction =>
      have headValue := base64Value?_base64Digit (small head (by simp))
      have tailValues := induction fun value member =>
        small value (List.mem_cons_of_mem head member)
      simp [headValue, tailValues]

@[simp] theorem base64UrlDecode_base64UrlEncode (bytes : List UInt8) :
    base64UrlDecode (base64UrlEncode bytes) = some bytes := by
  simp [base64UrlDecode, base64UrlEncode, mapM_base64Value? (sextets_lt bytes),
    sextetBytes?_sextets]

example : base64UrlEncode [0xfb, 0xff, 0x61] = "-_9h" := by decide

end NvidiaBuildLb.Foundation
