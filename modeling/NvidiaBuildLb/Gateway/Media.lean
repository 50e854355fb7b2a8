import NvidiaBuildLb.Foundation.Traverse
import NvidiaBuildLb.Gateway.Json

namespace NvidiaBuildLb.Gateway

open Foundation NvidiaBuildLb.Core

/-! What a provider's answer to an image or video request has to look like, and
the form the client is given. -/

def standardDigit (value : Nat) : Char :=
  if value = 62 then '+' else if value = 63 then '/' else base64Digit value

def standardValue? (digit : Char) : Option Nat :=
  if digit = '+' then some 62
  else if digit = '/' then some 63
  else if digit = '-' || digit = '_' then none
  else base64Value? digit

def standardEncode (bytes : Bytes) : List Char :=
  let digits := (sextets bytes).map standardDigit
  digits ++ List.replicate ((4 - digits.length % 4) % 4) '='

/-- At most two signs of padding. -/
def withoutPadding (text : List Char) : List Char :=
  match text.reverse with
  | '=' :: '=' :: rest => rest.reverse
  | '=' :: rest => rest.reverse
  | _ => text

def standardDecode (text : List Char) : Option Bytes :=
  if text.length % 4 = 0 then do
    let values ← (withoutPadding text).mapM standardValue?
    sextetBytes? values
  else
    none

def isAsciiSpace (character : Char) : Bool :=
  character = ' ' || character = '\t' || character = '\n' ||
    character = Char.ofNat 0x0c || character = '\r'

def decodeBase64 (value : String) : Option Bytes :=
  if value.toList.isEmpty || value.toList.any isAsciiSpace then
    none
  else
    (standardDecode value.toList).filter fun bytes =>
      standardEncode bytes = value.toList

def byteAt (bytes : Bytes) (index : Nat) : UInt8 :=
  bytes.getD index 0

/-- Big endian, as the formats below store their sizes. -/
def bigEndian (bytes : Bytes) : Nat :=
  bytes.foldl (fun value byte => value * 256 + byte.toNat) 0

def hasWindow (window bytes : Bytes) : Bool :=
  bytes.tails.any window.isPrefixOf

/-- The segments from `index` on; what counts is the last frame header. -/
def jpegSegments (bytes : Bytes) (index : Nat) (hasFrame : Bool) : Bool :=
  if _inside : index + 3 < bytes.length - 2 then
    if byteAt bytes index ≠ 0xff then
      jpegSegments bytes (index + 1) hasFrame
    else
      let fill := ((bytes.drop index).takeWhile fun byte => byte == 0xff).length
      if bytes.length ≤ index + fill then
        hasFrame
      else
        let marker := byteAt bytes (index + fill)
        let start := index + fill + 1
        if marker = 0xd9 || marker = 0xda then
          hasFrame
        else if marker = 0xd8 || marker = 0x01 ||
            (0xd0 ≤ marker && marker ≤ 0xd7) then
          jpegSegments bytes start hasFrame
        else if bytes.length < start + 2 then
          false
        else
          let segmentLen := bigEndian ((bytes.drop start).take 2)
          if segmentLen < 2 || bytes.length < start + segmentLen then
            false
          else if 0xc0 ≤ marker && marker ≤ 0xc3 then
            if segmentLen < 7 then
              false
            else
              let height := bigEndian ((bytes.drop (start + 3)).take 2)
              let width := bigEndian ((bytes.drop (start + 5)).take 2)
              jpegSegments bytes (start + segmentLen)
                (decide (0 < width) && decide (0 < height))
          else
            jpegSegments bytes (start + segmentLen) hasFrame
  else
    hasFrame
termination_by bytes.length - index
decreasing_by all_goals omega

def validJpeg (bytes : Bytes) : Bool :=
  if bytes.length < 16 || !List.isPrefixOf [0xff, 0xd8] bytes ||
      !List.isSuffixOf [0xff, 0xd9] bytes then
    false
  else
    jpegSegments bytes 2 false

def validPng (bytes : Bytes) : Bool :=
  decide (24 ≤ bytes.length) &&
    (0x89 :: utf8 "PNG\r\n" ++ [0x1a, 0x0a]).isPrefixOf bytes &&
    hasWindow (utf8 "IEND") bytes

def validImage (bytes : Bytes) : Bool :=
  validJpeg bytes || validPng bytes

def validMp4 (bytes : Bytes) : Bool :=
  if bytes.length < 16 || (bytes.drop 4).take 4 ≠ utf8 "ftyp" then
    false
  else
    let size := bigEndian (bytes.take 4)
    decide (16 ≤ size) && decide (size ≤ bytes.length) &&
      hasWindow (utf8 "isom") ((bytes.take size).drop 8) &&
      hasWindow (utf8 "moov") bytes

inductive GenerationPath where
  | images
  | videos
  deriving DecidableEq, Repr

def carriesMedia (key : String) (valid : Bytes → Bool) (item : Json) : Bool :=
  ((item.getStr key).bind decodeBase64).any valid

def dataShape (valid : Bytes → Bool) (value : Json) : Bool :=
  (value.getArray "data").any fun items =>
    !items.isEmpty && items.all (carriesMedia "b64_json" valid)

def validArtifact (item : Json) : Bool :=
  item.getStr "finishReason" == some "SUCCESS" &&
    ((item.get "seed").bind Json.asI64).isSome &&
    carriesMedia "base64" validImage item

def artifactsShape (value : Json) : Bool :=
  (value.getArray "artifacts").any fun items =>
    !items.isEmpty && items.all validArtifact

def videoShape (value : Json) : Bool :=
  carriesMedia "video" validMp4 value &&
    value.getStr "finish_reason" == some "SUCCESS" &&
    ((value.get "seed").bind Json.asI64).isSome

/-- The arms of `validate_modality_response` for the two paths.  A body is
represented by the value it decodes to; one that does not decode is refused
before. -/
def validateModalityResponse : GenerationPath → Json → Bool
  | .images, value => dataShape validImage value || artifactsShape value
  | .videos, value => videoShape value || dataShape validMp4 value

def b64Item (encoded : String) : Json :=
  .object [("b64_json", .string encoded)]

def timestampNumber (now : Int) : Json :=
  .number (if 0 ≤ now then .posInt now.toNat else .negInt now)

def artifactItem (item : Json) : Option Json :=
  match item.getStr "base64" with
  | none => none
  | some encoded => if encoded = "" then none else some (b64Item encoded)

/-- The value of the body returned and its content type. -/
def normalizeModalityResponse (path : GenerationPath) (now : Int)
    (contentType : String) (value : Json) : Option (Json × String) :=
  if validateModalityResponse path value = false then
    none
  else
    match path with
    | .images =>
        if (value.get "data").isSome then
          some (value, "application/json")
        else do
          let artifacts ← value.getArray "artifacts"
          let data ← artifacts.mapM artifactItem
          return (.object [("created", timestampNumber now),
            ("data", .array data)], "application/json")
    | .videos =>
        if (value.get "data").isSome then
          some (value, "application/json")
        else
          match value.getStr "video" with
          | some video => some (.object [("data", .array [b64Item video]),
              ("model", (value.get "model").getD .null)], "application/json")
          | none => some (value, contentType)

def GenerationPath.valid : GenerationPath → Bytes → Bool
  | .images => validImage
  | .videos => validMp4

/-- The text is one of the media payloads for which an answer was accepted. -/
def Validated (path : GenerationPath) (value : Json) (text : String) : Prop :=
  (dataShape path.valid value = true ∧
    ∃ items, value.getArray "data" = some items ∧
      ∃ item ∈ items, item.getStr "b64_json" = some text) ∨
  match path with
  | .images => artifactsShape value = true ∧
      ∃ items, value.getArray "artifacts" = some items ∧
        ∃ item ∈ items, item.getStr "base64" = some text
  | .videos => videoShape value = true ∧ value.getStr "video" = some text

/-- `data` is an array that is not empty, and every element carries a payload
that was validated. -/
def CarriesArtifact (path : GenerationPath) (value returned : Json) : Prop :=
  ∃ items, returned.getArray "data" = some items ∧ items ≠ [] ∧
    ∀ item ∈ items, ∃ text, item.getStr "b64_json" = some text ∧
      Validated path value text

theorem carriesMedia_iff {key : String} {valid : Bytes → Bool} {item : Json} :
    carriesMedia key valid item = true ↔
      ∃ text, item.getStr key = some text ∧
        (decodeBase64 text).any valid = true := by
  unfold carriesMedia
  cases item.getStr key <;> simp

theorem dataShape_iff {valid : Bytes → Bool} {value : Json} :
    dataShape valid value = true ↔
      ∃ items, value.getArray "data" = some items ∧ items ≠ [] ∧
        ∀ item ∈ items, carriesMedia "b64_json" valid item = true := by
  unfold dataShape
  cases value.getArray "data" <;> simp

theorem artifactsShape_iff {value : Json} :
    artifactsShape value = true ↔
      ∃ items, value.getArray "artifacts" = some items ∧ items ≠ [] ∧
        ∀ item ∈ items, validArtifact item = true := by
  unfold artifactsShape
  cases value.getArray "artifacts" <;> simp

theorem Validated.decodes {path : GenerationPath} {value : Json}
    {text : String} (validated : Validated path value text) :
    (decodeBase64 text).any path.valid = true := by
  have ofMember : ∀ {key : String} {valid : Bytes → Bool} {item : Json},
      item.getStr key = some text → carriesMedia key valid item = true →
        (decodeBase64 text).any valid = true := by
    intro key valid item isText carries
    obtain ⟨other, isOther, decodes⟩ := carriesMedia_iff.mp carries
    cases isText.symm.trans isOther
    exact decodes
  cases validated with
  | inl inData =>
      obtain ⟨shape, items, isItems, item, member, isText⟩ := inData
      obtain ⟨others, isOthers, _, carry⟩ := dataShape_iff.mp shape
      cases isItems.symm.trans isOthers
      exact ofMember isText (carry item member)
  | inr elsewhere =>
      cases path with
      | images =>
          obtain ⟨shape, items, isItems, item, member, isText⟩ := elsewhere
          obtain ⟨others, isOthers, _, carry⟩ := artifactsShape_iff.mp shape
          cases isItems.symm.trans isOthers
          have valid := carry item member
          simp only [validArtifact, Bool.and_eq_true] at valid
          exact ofMember isText valid.2
      | videos =>
          obtain ⟨shape, isText⟩ := elsewhere
          simp only [videoShape, Bool.and_eq_true] at shape
          exact ofMember isText shape.1.1

theorem carriesArtifact_self_iff {path : GenerationPath} {value : Json} :
    CarriesArtifact path value value ↔ dataShape path.valid value = true := by
  constructor
  · intro ⟨items, isItems, nonempty, carry⟩
    refine dataShape_iff.mpr ⟨items, isItems, nonempty, ?_⟩
    intro item member
    obtain ⟨text, isText, validated⟩ := carry item member
    exact carriesMedia_iff.mpr ⟨text, isText, validated.decodes⟩
  · intro shape
    obtain ⟨items, isItems, nonempty, carry⟩ := dataShape_iff.mp shape
    refine ⟨items, isItems, nonempty, ?_⟩
    intro item member
    obtain ⟨text, isText, _⟩ := carriesMedia_iff.mp (carry item member)
    exact ⟨text, isText, .inl ⟨shape, items, isItems, item, member, isText⟩⟩

@[simp] theorem getStr_b64Item (encoded : String) :
    (b64Item encoded).getStr "b64_json" = some encoded :=
  rfl

theorem decodeBase64_empty : decodeBase64 "" = none :=
  rfl

private theorem artifactItem_valid {item : Json}
    (valid : validArtifact item = true) :
    ∃ text, item.getStr "base64" = some text ∧
      artifactItem item = some (b64Item text) := by
  simp only [validArtifact, Bool.and_eq_true] at valid
  obtain ⟨text, isText, decodes⟩ := carriesMedia_iff.mp valid.2
  refine ⟨text, isText, ?_⟩
  have nonempty : text ≠ "" := by
    intro empty
    rw [empty, decodeBase64_empty] at decodes
    cases decodes
  simp [artifactItem, isText, nonempty]

private theorem mapM_artifactItem {items : List Json}
    (valid : ∀ item ∈ items, validArtifact item = true) :
    ∃ data, items.mapM artifactItem = some data ∧
      data.length = items.length ∧
      ∀ built ∈ data, ∃ item ∈ items, ∃ text,
        item.getStr "base64" = some text ∧ built = b64Item text := by
  induction items with
  | nil => exact ⟨[], rfl, rfl, by simp⟩
  | cons head tail induction =>
      obtain ⟨text, isText, built⟩ :=
        artifactItem_valid (valid head List.mem_cons_self)
      obtain ⟨data, isData, sameLength, fromItems⟩ := induction
        fun item member => valid item (List.mem_cons_of_mem head member)
      refine ⟨b64Item text :: data, ?_, ?_, ?_⟩
      · simp [List.mapM_cons, built, isData]
      · simp [sameLength]
      · intro other member
        cases List.mem_cons.mp member with
        | inl isHead =>
            exact ⟨head, List.mem_cons_self, text, isText, isHead⟩
        | inr inTail =>
            obtain ⟨item, inItems, itsText⟩ := fromItems other inTail
            exact ⟨item, List.mem_cons_of_mem head inItems, itsText⟩

/-- An accepted answer is returned with its artifact exactly when it has no
`data` at all, or the `data` it has is what made it acceptable. -/
theorem normalized_carries_iff {path : GenerationPath} {value : Json}
    (accepted : validateModalityResponse path value = true) (now : Int)
    (contentType : String) :
    (∃ returned answerType, normalizeModalityResponse path now contentType
        value = some (returned, answerType) ∧
          CarriesArtifact path value returned) ↔
      value.get "data" = none ∨ dataShape path.valid value = true := by
  have unchanged : ∀ {answerType : String}, normalizeModalityResponse path now
      contentType value = some (value, answerType) →
        ((∃ returned answerType, normalizeModalityResponse path now contentType
          value = some (returned, answerType) ∧
            CarriesArtifact path value returned) ↔
          dataShape path.valid value = true) := by
    intro answerType same
    rw [← carriesArtifact_self_iff]
    constructor
    · intro ⟨returned, otherType, isReturned, carries⟩
      cases same.symm.trans isReturned
      exact carries
    · exact fun carries => ⟨value, answerType, same, carries⟩
  cases present : value.get "data" with
  | some data =>
      have same : normalizeModalityResponse path now contentType value =
          some (value, "application/json") := by
        cases path <;> simp [normalizeModalityResponse, accepted, present]
      rw [unchanged same]
      simp
  | none =>
      have noData : ∀ valid, dataShape valid value = false := by
        intro valid
        simp [dataShape, Json.getArray, present]
      refine iff_of_true ?_ (.inl rfl)
      cases path with
      | images =>
          have shape : artifactsShape value = true := by
            simpa [validateModalityResponse, noData] using accepted
          obtain ⟨items, isItems, nonempty, valid⟩ := artifactsShape_iff.mp shape
          obtain ⟨data, isData, sameLength, fromItems⟩ := mapM_artifactItem valid
          refine ⟨.object [("created", timestampNumber now),
            ("data", .array data)], "application/json", ?_, data, rfl, ?_, ?_⟩
          · simp [normalizeModalityResponse, accepted, present, isItems, isData]
          · intro empty
            rw [empty] at sameLength
            exact nonempty (List.length_eq_zero_iff.mp sameLength.symm)
          · intro built member
            obtain ⟨item, inItems, text, isText, rfl⟩ := fromItems built member
            exact ⟨text, rfl, .inr ⟨shape, items, isItems, item, inItems, isText⟩⟩
      | videos =>
          have shape : videoShape value = true := by
            simpa [validateModalityResponse, noData] using accepted
          have carries := shape
          simp only [videoShape, Bool.and_eq_true] at carries
          obtain ⟨text, isText, _⟩ := carriesMedia_iff.mp carries.1.1
          refine ⟨_, "application/json",
            by simp [normalizeModalityResponse, accepted, present, isText]; rfl,
            [b64Item text], rfl, List.cons_ne_nil _ _, ?_⟩
          intro item member
          cases List.mem_singleton.mp member
          exact ⟨text, rfl, .inr ⟨shape, isText⟩⟩

namespace Media.Sample

/-- A signature, twelve bytes and the mark of the end. -/
def png : String := "iVBORw0KGgoAAAAAAAAAAAAAAABJRU5E"

def artifacts : Json :=
  .array [.object [("base64", .string png),
    ("finishReason", .string "SUCCESS"), ("seed", .number (.posInt 7))]]

def onlyArtifacts : Json := .object [("artifacts", artifacts)]

def nullData : Json := .object [("artifacts", artifacts), ("data", .null)]

private theorem accepted_onlyArtifacts :
    validateModalityResponse .images onlyArtifacts = true := by
  decide +kernel

theorem normalized_carries_iff_onlyArtifacts :
    ∃ returned answerType, normalizeModalityResponse .images 0
      "application/json" onlyArtifacts = some (returned, answerType) ∧
        CarriesArtifact .images onlyArtifacts returned :=
  (normalized_carries_iff accepted_onlyArtifacts 0 "application/json").mpr
    (.inl rfl)

/-- A null `data` beside good artifacts is passed on as it is. -/
theorem null_data_returned :
    validateModalityResponse .images nullData = true ∧
      normalizeModalityResponse .images 0 "application/json" nullData =
        some (nullData, "application/json") ∧
      ¬ CarriesArtifact .images nullData nullData := by
  have accepted : validateModalityResponse .images nullData = true := by
    decide +kernel
  refine ⟨accepted, ?_, ?_⟩
  · simp only [normalizeModalityResponse, accepted]
    rfl
  · intro ⟨items, isItems, _⟩
    cases isItems

end Media.Sample

end NvidiaBuildLb.Gateway
