import Mathlib.Data.List.Basic

namespace NvidiaBuildLb.Foundation

/-! The bytes of a text in UTF-8. -/

def encodeUtf8 (text : List Char) : List UInt8 :=
  text.flatMap String.utf8EncodeChar

def decodeUtf8 (bytes : List UInt8) : Option String :=
  String.fromUTF8? (ByteArray.mk bytes.toArray)

@[simp] theorem encodeUtf8_nil : encodeUtf8 [] = [] := rfl

@[simp] theorem encodeUtf8_append (front back : List Char) :
    encodeUtf8 (front ++ back) = encodeUtf8 front ++ encodeUtf8 back := by
  simp [encodeUtf8]

theorem encodeUtf8_cons (character : Char) (text : List Char) :
    encodeUtf8 (character :: text) =
      String.utf8EncodeChar character ++ encodeUtf8 text := by
  simp [encodeUtf8]

theorem mk_encodeUtf8 (text : List Char) :
    ByteArray.mk (encodeUtf8 text).toArray = text.utf8Encode := by
  ext1
  simp [encodeUtf8, List.utf8Encode]

theorem toUTF8_toList (text : String) :
    text.toUTF8.data.toList = encodeUtf8 text.toList := by
  change text.toByteArray.data.toList = _
  rw [← String.utf8Encode_toList, ← mk_encodeUtf8]

theorem encodeUtf8_injective : Function.Injective encodeUtf8 := by
  intro left right same
  have bytes : left.utf8Encode = right.utf8Encode := by
    rw [← mk_encodeUtf8, ← mk_encodeUtf8, same]
  have texts : String.ofList left = String.ofList right :=
    String.toByteArray_inj.mp bytes
  simpa using congrArg String.toList texts

theorem decodeUtf8_encodeUtf8 (text : String) :
    decodeUtf8 (encodeUtf8 text.toList) = some text := by
  have same : text.toList.utf8Encode = text.toByteArray :=
    String.utf8Encode_toList
  rw [decodeUtf8, mk_encodeUtf8, same, String.fromUTF8?,
    dif_pos text.isValidUTF8]
  rfl

theorem encodeUtf8_of_decodeUtf8 {bytes : List UInt8} {text : String}
    (decoded : decodeUtf8 bytes = some text) :
    bytes = encodeUtf8 text.toList := by
  unfold decodeUtf8 String.fromUTF8? at decoded
  split at decoded
  case isTrue valid =>
      have isText := Option.some.inj decoded
      have same := toUTF8_toList text
      rw [← isText] at same ⊢
      rw [← same]
      rfl
  case isFalse => cases decoded

theorem exists_of_encodeUtf8_append {front text : List Char}
    {rest : List UInt8} (same : encodeUtf8 text = encodeUtf8 front ++ rest) :
    ∃ back, text = front ++ back ∧ encodeUtf8 back = rest := by
  have bytes : front.utf8Encode ++ ByteArray.mk rest.toArray =
      text.utf8Encode := by
    rw [← mk_encodeUtf8, ← mk_encodeUtf8, same]
    ext1
    simp
  obtain ⟨back, rfl⟩ := List.isPrefix_of_utf8Encode_append_eq_utf8Encode _ bytes
  refine ⟨back, rfl, ?_⟩
  rw [encodeUtf8_append] at same
  exact List.append_cancel_left same

theorem utf8EncodeChar_of_ascii {character : Char}
    (ascii : character.toNat < 128) :
    String.utf8EncodeChar character = [UInt8.ofNat character.toNat] :=
  if_pos (Nat.le_of_lt_succ ascii)

theorem high_of_mem_utf8EncodeChar {character : Char}
    (wide : 128 ≤ character.toNat) {byte : UInt8}
    (member : byte ∈ String.utf8EncodeChar character) : 128 ≤ byte.toNat := by
  have notOne : ¬ character.val.toNat ≤ 0x7f := by
    have same : character.val.toNat = character.toNat := rfl
    omega
  simp only [String.utf8EncodeChar, if_neg notOne] at member
  have high : ∀ value : Nat, 128 ≤ value → value < 256 →
      128 ≤ (UInt8.ofNat value).toNat := by
    intro value atLeast below
    rw [UInt8.toNat_ofNat']
    omega
  split at member
  · simp only [List.mem_cons, List.not_mem_nil, or_false] at member
    rcases member with rfl | rfl <;> exact high _ (by omega) (by omega)
  · split at member
    · simp only [List.mem_cons, List.not_mem_nil, or_false] at member
      rcases member with rfl | rfl | rfl <;>
        exact high _ (by omega) (by omega)
    · simp only [List.mem_cons, List.not_mem_nil, or_false] at member
      rcases member with rfl | rfl | rfl | rfl <;>
        exact high _ (by omega) (by omega)

/-- A byte below 128 stands for itself and for nothing else. -/
theorem mem_encodeUtf8_iff {character : Char} {text : List Char}
    (ascii : character.toNat < 128) :
    UInt8.ofNat character.toNat ∈ encodeUtf8 text ↔ character ∈ text := by
  have value : (UInt8.ofNat character.toNat).toNat = character.toNat := by
    rw [UInt8.toNat_ofNat']
    omega
  constructor
  · intro member
    obtain ⟨other, inText, inBytes⟩ := List.mem_flatMap.mp member
    cases Nat.lt_or_ge other.toNat 128 with
    | inl otherAscii =>
        rw [utf8EncodeChar_of_ascii otherAscii, List.mem_singleton] at inBytes
        have same : character.toNat = other.toNat := by
          have otherValue : (UInt8.ofNat other.toNat).toNat = other.toNat := by
            rw [UInt8.toNat_ofNat']
            omega
          rw [← value, ← otherValue, inBytes]
        rwa [Char.toNat_inj.mp same]
    | inr wide =>
        have high := high_of_mem_utf8EncodeChar wide inBytes
        omega
  · intro member
    refine List.mem_flatMap.mpr ⟨character, member, ?_⟩
    rw [utf8EncodeChar_of_ascii ascii]
    exact List.mem_singleton_self _

end NvidiaBuildLb.Foundation
