import NvidiaBuildLb.Gateway.FormSearch
import NvidiaBuildLb.Gateway.ModalityPreparation

namespace NvidiaBuildLb.Gateway

open Foundation NvidiaBuildLb.Core

/-! A transcription's form as it was admitted, and as the provider reads it. -/

def standardBoundary (contentType : String) : Option Bytes :=
  FormData.parameter (FormData.ascii "boundary") (utf8 contentType)

def standardParts (contentType : String) (body : Bytes) :
    Option (List FormData.Part) :=
  (standardBoundary contentType).bind fun boundary =>
    FormData.parts boundary body

def partsNamed (name : String) (parts : List FormData.Part) : List FormData.Part :=
  parts.filter fun part => part.name == some (FormData.ascii name)

def isAudio (part : FormData.Part) : Bool :=
  part.mediaType.any (FormData.ascii "audio/").isPrefixOf

/-- One part is the model, and one is the file, which is said to be audio. -/
structure StandardForm (contentType : String) (body : Bytes)
    (parts : List FormData.Part) (modelPart : FormData.Part) : Prop where
  read : standardParts contentType body = some parts
  model : partsNamed "model" parts = [modelPart]
  file : ∃ filePart, partsNamed "file" parts = [filePart] ∧
    isAudio filePart = true

/-- The provider reads the model and the file that the request was admitted
with. -/
def ReadAsAdmitted (contentType : String) (body : Bytes) (request : Json) : Prop :=
  ∃ model parts modelPart, request.getStr "model" = some model ∧
    StandardForm contentType body parts modelPart ∧
    modelPart.content = utf8 model

/-- The part among whose headers the first mark of the body is. -/
def markedPart (contentType : String) (body : Bytes) : Option Nat := do
  let boundary ← standardBoundary contentType
  let hit ← cutAt modelMark body
  FormData.openPart boundary hit.1

/-- The search meets the part's own headers first, and takes its content as it
is; or it meets something else first, where the same text happens to be. -/
structure SearchFinds (contentType : String) (body : Bytes)
    (parts : List FormData.Part) (part : FormData.Part) : Prop where
  own : ((markedPart contentType body).bind fun index => parts[index]?) =
    some part → Unbroken part.content
  other : ((markedPart contentType body).bind fun index => parts[index]?) ≠
    some part → ∃ value, soughtModel body = some value ∧
      part.content = encodeUtf8 (trim (fromUtf8Lossy value))

/-- The one model that transcribes. -/
def transcriber : String := "nvidia/parakeet-ctc-1.1b"

theorem ensureRouted_ok {path model : String} :
    ensureRouted path model = .ok () ↔
      profiles.contains model = true ∧ profileSupportsPath path model = true := by
  unfold ensureRouted
  cases profiles.contains model with
  | false => simp
  | true => cases profileSupportsPath path model <;> simp

theorem utf8_ofList (text : List Char) :
    utf8 (String.ofList text) = encodeUtf8 text := by
  unfold utf8
  rw [toUTF8_toList, String.toList_ofList]

theorem accepted_form {body : Bytes} {contentType : String} {request : Json}
    (accepted : parseMultipartRequest "/v1/audio/transcriptions" body contentType =
      .ok request) :
    request.getStr "model" = some transcriber ∧
      ∃ value, soughtModel body = some value ∧
        transcriber = String.ofList (trim (fromUtf8Lossy value)) := by
  simp only [parseMultipartRequest, require_bind_ok, ensure_bind_ok] at accepted
  obtain ⟨boundary, -, -, -, -, model, found, accepted⟩ := accepted
  obtain ⟨_, routed, isRequest⟩ := bind_ok.mp accepted
  have supported := (ensureRouted_ok.mp routed).2
  have isModel : model = transcriber := of_decide_eq_true supported
  cases isRequest
  subst isModel
  exact ⟨rfl, multipartModel_fromUtf8Lossy found⟩

private theorem unbroken_transcriber : Unbroken (utf8 transcriber) where
  trimmed := by decide +kernel
  unmarked := by decide +kernel
  unspaced := by decide +kernel
  undashed := by decide +kernel

private theorem modelMark_inline : FormData.Inline modelMark where
  nonempty := by decide
  noReturn := by decide
  noFeed := by decide

/-- Where the first mark is in the headers of a part with an unbroken content,
the content is found. -/
theorem sought_of_marked {contentType : String} {body value : Bytes}
    {parts : List FormData.Part} {part : FormData.Part}
    (read : standardParts contentType body = some parts)
    (marked : ((markedPart contentType body).bind fun index => parts[index]?) =
      some part)
    (unbroken : Unbroken part.content)
    (sought : soughtModel body = some value) : value = part.content := by
  obtain ⟨index, isIndex, at_⟩ := Option.bind_eq_some_iff.mp marked
  obtain ⟨boundary, isBoundary, isIndex⟩ := Option.bind_eq_some_iff.mp isIndex
  obtain ⟨⟨front, more⟩, hit, isIndex⟩ := Option.bind_eq_some_iff.mp isIndex
  rw [standardParts, isBoundary, Option.bind_some,
    (cutAt_eq_some.mp hit).1] at read
  obtain ⟨headers, after, cut⟩ :=
    FormData.cut_of_openPart isIndex modelMark_inline read at_
  have dashes : FormData.delimiter boundary ++ after =
      lineDashes ++ (boundary ++ after) := by
    rw [← List.append_assoc]
    rfl
  rw [dashes] at cut
  exact unbroken.sought hit cut sought

namespace Form.Sample

def contentType : String := "multipart/form-data; boundary=cut"

def part (headers content : String) : String :=
  "--cut\r\n" ++ headers ++ "\r\n\r\n" ++ content ++ "\r\n"

def filePart (content : String) : String :=
  part ("Content-Disposition: form-data; name=\"file\"; filename=\"a.wav\"\r\n" ++
    "Content-Type: audio/wav") content

def modelPart (model : String) : String :=
  part "Content-Disposition: form-data; name=\"model\"" model

def plain : Bytes := utf8 (modelPart transcriber ++ filePart "RIFF" ++ "--cut--\r\n")

/-- The file has the bytes that a model's part would have. -/
def disguised : Bytes :=
  utf8 (filePart ("name=\"model\"\r\n\r\n" ++ transcriber) ++
    modelPart "nvidia/canary-1b" ++ "--cut--\r\n")

private def readModel (model : String) : FormData.Part where
  headers := [FormData.ascii "Content-Disposition: form-data; name=\"model\""]
  content := FormData.ascii model

private def readFile (content : String) : FormData.Part where
  headers := [FormData.ascii
      "Content-Disposition: form-data; name=\"file\"; filename=\"a.wav\"",
    FormData.ascii "Content-Type: audio/wav"]
  content := FormData.ascii content

private def looksFit (body : Bytes) : Bool :=
  (hasWindow (utf8 "--" ++ encodeUtf8 ['c', 'u', 't']) body && hasWindow (utf8 "name=\"model\"") body &&
    hasWindow (utf8 "name=\"file\"") body) && body.length ≤ 64 * 1024 * 1024 &&
    hasWindowAnyCase (utf8 "Content-Type: audio/") body

private theorem accepted_of_fit (fromSlice : Bytes → Option Json) {body : Bytes}
    (fit : looksFit body = true)
    (model : multipartModel (fromUtf8Lossy body) = some transcriber) :
    parseMultimodalRequest fromSlice "/v1/audio/transcriptions" body contentType =
      .ok (multipartRequest transcriber) := by
  simp only [looksFit, Bool.and_eq_true] at fit
  have boundary : multipartBoundary contentType = some ['c', 'u', 't'] := by decide +kernel
  rw [parseMultimodalRequest, if_pos ⟨rfl, by decide +kernel⟩, parseMultipartRequest,
    require_bind_ok]
  refine ⟨_, boundary, ?_⟩
  rw [ensure_bind_ok, ensure_bind_ok, ensure_bind_ok, require_bind_ok]
  refine ⟨?_, fit.1.2, fit.2, transcriber, model, rfl⟩
  simpa only [Bool.and_eq_true] using fit.1.1

end Form.Sample

end NvidiaBuildLb.Gateway
