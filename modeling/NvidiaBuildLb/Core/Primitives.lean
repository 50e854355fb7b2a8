import NvidiaBuildLb.Foundation.ByteText

namespace NvidiaBuildLb.Core

open Foundation

/-! Scalars of the vault, the text predicates of its labels, and the
cryptography it calls. -/

abbrev Uuid := BitVec 128

instance : LawfulBEq Uuid := inferInstance

/-- Nanoseconds since the Unix epoch, the resolution of `DateTime<Utc>`. -/
abbrev Timestamp := Int

/-- Nanoseconds. -/
abbrev Duration := Int

def Duration.seconds (count : Int) : Duration := count * 1000000000

def u64Max : Nat := 2 ^ 64 - 1

/-- `u64::saturating_add`. -/
def saturatingAdd (count increment : Nat) : Nat :=
  min (count + increment) u64Max

/-- Network order, as `Uuid::as_bytes`. -/
def Uuid.asBytes (id : Uuid) : List UInt8 :=
  (List.range 16).map fun index =>
    UInt8.ofNat (id.toNat / 256 ^ (15 - index) % 256)

/-- The Unicode `White_Space` property, which `str::trim` strips. -/
def isWhitespace (character : Char) : Bool :=
  let code := character.toNat
  (0x09 ≤ code && code ≤ 0x0d) || code == 0x20 || code == 0x85 ||
    code == 0xa0 || code == 0x1680 || (0x2000 ≤ code && code ≤ 0x200a) ||
    code == 0x2028 || code == 0x2029 || code == 0x202f || code == 0x205f ||
    code == 0x3000

/-- General category `Cc`. -/
def isControl (character : Char) : Bool :=
  character.toNat ≤ 0x1f ||
    (0x7f ≤ character.toNat && character.toNat ≤ 0x9f)

def trim (text : List Char) : List Char :=
  ((text.dropWhile isWhitespace).reverse.dropWhile isWhitespace).reverse

def dropReturn : List Char → List Char
  | '\r' :: rest => rest
  | line => line

/-- `line` holds the current line, last character first. -/
def linesFrom (line : List Char) : List Char → List (List Char)
  | [] => if line.isEmpty then [] else [line.reverse]
  | '\n' :: rest => (dropReturn line).reverse :: linesFrom [] rest
  | character :: rest => linesFrom (character :: line) rest

/-- `str::lines`. -/
def lines (text : String) : List String :=
  (linesFrom [] text.toList).map String.ofList

def startsWith (text start : String) : Bool :=
  start.toList.isPrefixOf text.toList

def utf8 (text : String) : List UInt8 :=
  text.toUTF8.data.toList

abbrev MasterKey := Vector UInt8 32

abbrev CipherNonce := Vector UInt8 12

/-- SHA-256 and AES-256-GCM.  The laws are the documented sizes and the
inversion of a sealed payload; nothing is assumed about collisions. -/
structure Primitives where
  sha256 : List UInt8 → Vector UInt8 32
  encryptInPlace :
    MasterKey → CipherNonce → (aad payload : List UInt8) → Option (List UInt8)
  decryptInPlace :
    MasterKey → CipherNonce → (aad sealed : List UInt8) → Option (List UInt8)
  encrypt_length : ∀ {key nonce aad payload sealed},
    encryptInPlace key nonce aad payload = some sealed →
      sealed.length = payload.length + 16
  decrypt_encrypt : ∀ {key nonce aad payload sealed},
    encryptInPlace key nonce aad payload = some sealed →
      decryptInPlace key nonce aad sealed = some payload

/-- A credential or token digest as two lowercase digits a byte. -/
def fingerprint (primitives : Primitives) (value : List UInt8) : String :=
  hexEncode (primitives.sha256 value).toList

/-- Primitives to run the model with: listed digests, and a cipher that only
appends its tag. -/
def Primitives.tabulated (digests : List (List UInt8 × Vector UInt8 32)) :
    Primitives where
  sha256 := fun value =>
    (digests.lookup value).getD (Vector.replicate 32 0)
  encryptInPlace := fun _ _ _ payload => some (payload ++ List.replicate 16 0)
  decryptInPlace := fun _ _ _ sealed => some (sealed.take (sealed.length - 16))
  encrypt_length := by
    intro key nonce aad payload sealed encrypted
    cases encrypted
    simp
  decrypt_encrypt := by
    intro key nonce aad payload sealed encrypted
    cases encrypted
    simp

end NvidiaBuildLb.Core
