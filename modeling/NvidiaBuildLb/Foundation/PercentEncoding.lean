import NvidiaBuildLb.Foundation.ByteText
import NvidiaBuildLb.Foundation.Utf8

namespace NvidiaBuildLb.Foundation

/-! Percent-encoding of text by the bytes of its UTF-8 form, and the two ways of
reading it back: as a component of a URL, and as a form value, in which a plus
stands for a space. -/

/-- Bytes that stand for themselves: letters, digits, and `-`, `.`, `_`, `~`. -/
def isUnreserved (byte : UInt8) : Bool :=
  (48 ≤ byte && byte ≤ 57) || (65 ≤ byte && byte ≤ 90) || (97 ≤ byte && byte ≤ 122) ||
    byte == 45 || byte == 46 || byte == 95 || byte == 126

def upperHexDigit (value : Nat) : Char :=
  if value < 10 then Char.ofNat (48 + value) else Char.ofNat (55 + value)

def percentEncodeByte (byte : UInt8) : List Char :=
  if isUnreserved byte then
    [Char.ofNat byte.toNat]
  else
    ['%', upperHexDigit (byte.toNat / 16), upperHexDigit (byte.toNat % 16)]

def percentEncode (text : String) : String :=
  String.ofList ((encodeUtf8 text.toList).flatMap percentEncodeByte)

/-- A percent sign that no two digits follow stands for itself. -/
def percentBytes (plusIsSpace : Bool) : List Char → List UInt8
  | '%' :: high :: low :: rest =>
      match hexValue? high, hexValue? low with
      | some high, some low => UInt8.ofNat (high * 16 + low) :: percentBytes plusIsSpace rest
      | _, _ => 37 :: percentBytes plusIsSpace (high :: low :: rest)
  | character :: rest =>
      (if plusIsSpace && character == '+' then [32] else String.utf8EncodeChar character) ++
        percentBytes plusIsSpace rest
  | [] => []

def percentDecode (plusIsSpace : Bool) (text : String) : Option String :=
  decodeUtf8 (percentBytes plusIsSpace text.toList)

private theorem hexValue?_upperHexDigit {value : Nat} (small : value < 16) :
    hexValue? (upperHexDigit value) = some value := by
  have all : ∀ candidate < 16, hexValue? (upperHexDigit candidate) = some candidate := by
    decide
  exact all value small

theorem percentEncodeByte_cases (byte : UInt8) :
    (isUnreserved byte = true ∧ percentEncodeByte byte = [Char.ofNat byte.toNat] ∧
      (Char.ofNat byte.toNat).toNat = byte.toNat ∧ byte.toNat < 128) ∨
    (isUnreserved byte = false ∧ percentEncodeByte byte =
      ['%', upperHexDigit (byte.toNat / 16), upperHexDigit (byte.toNat % 16)]) := by
  cases unreserved : isUnreserved byte with
  | false => exact .inr ⟨rfl, by simp [percentEncodeByte, unreserved]⟩
  | true =>
      have ascii : byte.toNat < 128 := by
        simp only [isUnreserved, Bool.or_eq_true, Bool.and_eq_true, decide_eq_true_eq,
          beq_iff_eq, UInt8.le_iff_toNat_le, ← UInt8.toNat_inj] at unreserved
        simp only [UInt8.reduceToNat] at unreserved
        omega
      have all : ∀ value < 128, (Char.ofNat value).toNat = value := by decide
      exact .inl ⟨rfl, by simp [percentEncodeByte, unreserved], all _ ascii, ascii⟩

private theorem percentBytes_cons {plusIsSpace : Bool} {character : Char}
    (different : character ≠ '%') (rest : List Char) :
    percentBytes plusIsSpace (character :: rest) =
      (if plusIsSpace && character == '+' then [32] else String.utf8EncodeChar character) ++
        percentBytes plusIsSpace rest := by
  rw [percentBytes.eq_2]
  intro high low tail isPercent
  exact absurd isPercent different

private theorem ne_of_unreserved {byte : UInt8} {character : Char}
    (value : character.toNat = byte.toNat) (unreserved : isUnreserved byte = true)
    {reserved : Char} (isReserved : isUnreserved (UInt8.ofNat reserved.toNat) = false) :
    character ≠ reserved := by
  rintro rfl
  rw [value, UInt8.ofNat_toNat, unreserved] at isReserved
  cases isReserved

theorem percentBytes_percentEncodeByte (plusIsSpace : Bool) (byte : UInt8)
    (rest : List Char) :
    percentBytes plusIsSpace (percentEncodeByte byte ++ rest) =
      byte :: percentBytes plusIsSpace rest := by
  rcases percentEncodeByte_cases byte with ⟨unreserved, isEncoded, value, ascii⟩ | ⟨-, isEncoded⟩
  · have noPercent : Char.ofNat byte.toNat ≠ '%' :=
      ne_of_unreserved value unreserved (by decide)
    have noPlus : Char.ofNat byte.toNat ≠ '+' :=
      ne_of_unreserved value unreserved (by decide)
    have single : String.utf8EncodeChar (Char.ofNat byte.toNat) = [byte] := by
      rw [utf8EncodeChar_of_ascii (by omega), value, UInt8.ofNat_toNat]
    rw [isEncoded, List.singleton_append, percentBytes_cons noPercent, single]
    simp [noPlus]
  · have bound : byte.toNat < 256 := byte.toNat_lt
    have high := @hexValue?_upperHexDigit (byte.toNat / 16) (by omega)
    have low := @hexValue?_upperHexDigit (byte.toNat % 16) (by omega)
    have joined : byte.toNat / 16 * 16 + byte.toNat % 16 = byte.toNat := by omega
    simp only [isEncoded, List.cons_append, List.nil_append, percentBytes, high, low, joined,
      UInt8.ofNat_toNat]

/-- What was encoded is read back, whichever way it is read. -/
theorem percentDecode_percentEncode (plusIsSpace : Bool) (text : String) :
    percentDecode plusIsSpace (percentEncode text) = some text := by
  have bytes : ∀ bytes : List UInt8,
      percentBytes plusIsSpace (bytes.flatMap percentEncodeByte) = bytes := by
    intro bytes
    induction bytes with
    | nil => rfl
    | cons byte rest induction =>
        rw [List.flatMap_cons, percentBytes_percentEncodeByte, induction]
  rw [percentDecode, percentEncode, String.toList_ofList, bytes, decodeUtf8_encodeUtf8]

/-- A character that is not encoded, or one of an escape. -/
def isPercentEncoded (character : Char) : Bool :=
  character == '%' ||
    (decide (character.toNat < 128) && isUnreserved (UInt8.ofNat character.toNat))

theorem percentEncode_characters {text : String} {character : Char}
    (member : character ∈ (percentEncode text).toList) :
    isPercentEncoded character = true := by
  rw [percentEncode, String.toList_ofList] at member
  obtain ⟨byte, -, inByte⟩ := List.mem_flatMap.mp member
  have digit : ∀ value < 16, isPercentEncoded (upperHexDigit value) = true := by
    decide
  have bound : byte.toNat < 256 := byte.toNat_lt
  rcases percentEncodeByte_cases byte with ⟨unreserved, isEncoded, value, ascii⟩ | ⟨-, isEncoded⟩
  · rw [isEncoded, List.mem_singleton] at inByte
    simp [isPercentEncoded, inByte, value, ascii, unreserved]
  · rw [isEncoded] at inByte
    rcases List.mem_cons.mp inByte with rfl | inDigits
    · rfl
    rcases List.mem_cons.mp inDigits with rfl | isLow
    · exact digit _ (by omega)
    · rw [List.mem_singleton.mp isLow]
      exact digit _ (by omega)

theorem percentEncode_of_unreserved {text : String}
    (plain : ∀ character ∈ text.toList, character.toNat < 128 ∧
      isUnreserved (UInt8.ofNat character.toNat) = true) : percentEncode text = text := by
  have kept : ∀ characters : List Char, (∀ character ∈ characters, character.toNat < 128 ∧
      isUnreserved (UInt8.ofNat character.toNat) = true) →
        (encodeUtf8 characters).flatMap percentEncodeByte = characters := by
    intro characters plain
    induction characters with
    | nil => rfl
    | cons character rest induction =>
        obtain ⟨ascii, unreserved⟩ := plain character List.mem_cons_self
        have value : (UInt8.ofNat character.toNat).toNat = character.toNat := by
          rw [UInt8.toNat_ofNat']
          omega
        rw [encodeUtf8_cons, utf8EncodeChar_of_ascii ascii, List.singleton_append,
          List.flatMap_cons, induction fun other member =>
            plain other (List.mem_cons_of_mem _ member)]
        simp [percentEncodeByte, unreserved, value, Char.ofNat_toNat]
  rw [percentEncode, kept _ plain, String.ofList_toList]

theorem percentDecode_of_unreserved {text : String}
    (plain : ∀ character ∈ text.toList, character.toNat < 128 ∧
      isUnreserved (UInt8.ofNat character.toNat) = true) (plusIsSpace : Bool) :
    percentDecode plusIsSpace text = some text := by
  have decoded := percentDecode_percentEncode plusIsSpace text
  rwa [percentEncode_of_unreserved plain] at decoded

theorem not_mem_percentEncode {text : String} {character : Char}
    (reserved : isPercentEncoded character = false) :
    character ∉ (percentEncode text).toList := by
  intro member
  rw [percentEncode_characters member] at reserved
  cases reserved

end NvidiaBuildLb.Foundation
