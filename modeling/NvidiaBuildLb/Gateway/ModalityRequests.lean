import NvidiaBuildLb.Foundation.Double
import NvidiaBuildLb.Foundation.Splitting
import NvidiaBuildLb.Core.Records
import NvidiaBuildLb.Gateway.Evidence
import NvidiaBuildLb.Gateway.Media

namespace NvidiaBuildLb.Gateway

open Foundation NvidiaBuildLb.Core

/-! A client's request as it is checked, and as it is made ready for the
provider. -/

namespace Json

def asF64 : Json → Option UInt64
  | .number (.posInt value) => some (Double.ofNat value)
  | .number (.negInt value) => some (Double.ofInt value)
  | .number (.float bits) => some bits
  | _ => none

def keys : Json → List String
  | .object fields => fields.map Prod.fst
  | _ => []

/-- `json!` of an `f64`. -/
def ofF64 (bits : UInt64) : Json :=
  if Double.isFinite bits then .number (.float bits) else .null

def without (key : String) : Json → Json
  | .object fields => .object (fields.filter fun field => field.1 ≠ key)
  | value => value

end Json

def f64Zero : UInt64 := 0
def f64One : UInt64 := 0x3ff0000000000000
def f64OneAndEightTenths : UInt64 := 0x3ffccccccccccccd
def f64ThreeAndAHalf : UInt64 := 0x400c000000000000
def f64Nine : UInt64 := 0x4022000000000000
def f64Twenty : UInt64 := 0x4034000000000000

namespace StatusCode

def badRequest : StatusCode := ⟨400, by decide⟩
def notFound : StatusCode := ⟨404, by decide⟩
def unprocessableEntity : StatusCode := ⟨422, by decide⟩

end StatusCode

def invalidRequest (message : String) : Response :=
  openaiError .badRequest message "invalid_request_error" "invalid_request"

def modelNotFound : Response :=
  openaiError .notFound "model is not advertised" "invalid_request_error"
    "model_not_found"

def modelRouteMismatch : Response :=
  openaiError .unprocessableEntity "model is not compatible with this endpoint"
    "invalid_request_error" "model_route_mismatch"

def ensure (holds : Bool) (message : String) : Except Response Unit :=
  if holds then .ok () else .error (invalidRequest message)

def require (value : Option α) (message : String) : Except Response α :=
  match value with
  | some value => .ok value
  | none => .error (invalidRequest message)

/-- Where a field is given, it has to be fit. -/
def ensureField (object : Json) (field : String) (fit : Json → Bool)
    (message : String) : Except Response Unit :=
  ensure ((object.get field).all fit) message

def profileSupportsPath (path model : String) : Bool :=
  match path with
  | "/v1/chat/completions" => ["z-ai/glm-5.2",
      "microsoft/phi-4-multimodal-instruct", "nvidia/vila"].contains model
  | "/v1/embeddings" => model = "nvidia/nvclip"
  | "/v1/images/generations" => model = "black-forest-labs/flux.1-kontext-dev"
  | "/v1/videos/generations" => model = "stabilityai/stable-video-diffusion"
  | "/v1/audio/speech" => model = "nvidia/magpie-tts-multilingual"
  | "/v1/audio/transcriptions" => model = "nvidia/parakeet-ctc-1.1b"
  | "/v1/nvidia/inference" => model = "nvidia/vila"
  | _ => false

def ensureRouted (path model : String) : Except Response Unit :=
  if profiles.contains model = false then .error modelNotFound
  else if profileSupportsPath path model then .ok ()
  else .error modelRouteMismatch

def requireModel (object : Json) : Except Response String :=
  require ((object.getStr "model").filter fun model =>
    !(trim model.toList).isEmpty) "model is required"

def validDataUrl (value : String) (imageOnly : Bool) : Bool :=
  match splitOnce ',' value.toList with
  | none => false
  | some (front, encoded) =>
      match decodeBase64 (String.ofList encoded) with
      | none => false
      | some bytes =>
          match String.ofList front, imageOnly with
          | "data:image/png;base64", true => validPng bytes
          | "data:image/jpeg;base64", true => validJpeg bytes
          | _, _ => false

def nonEmptyText (value : Json) : Bool :=
  value.asStr.any fun text => text ≠ ""

def validateEmbeddingFields (object : Json) : Except Response Unit :=
  let input := (object.get "input").getD .null
  ensure (nonEmptyText input || input.asArray.any fun items =>
      !items.isEmpty && items.length ≤ 64 && items.all nonEmptyText)
    "input must be a non-empty string or an array of at most 64 strings"

def imageSizes : List String :=
  ["1024x1024", "1792x1024", "1536x864", "1024x1792", "864x1536"]

def validateImageFields (object : Json) : Except Response Unit := do
  ensure (object.getStr "prompt").isSome "prompt must be a string"
  ensureField object "size" (fun size => size.asStr.any imageSizes.contains)
    "size must be one of 1024x1024, 1792x1024, 1536x864, 1024x1792, 864x1536"
  ensure (((object.get "n").bind Json.asU64).getD 1 = 1) "n must be 1"
  ensureField object "response_format" (fun format => format.asStr = some "b64_json")
    "response_format must be b64_json"
  ensureField object "image" (fun image => image.asStr.any fun url =>
      validDataUrl url true) "image must be a valid PNG or JPEG data URL"
  ensureField object "steps" (fun steps => steps.asU64.any fun value =>
      1 ≤ value ∧ value ≤ 50) "steps must be an integer from 1 to 50"
  ensureField object "cfg_scale" (fun cfgScale =>
      cfgScale.asF64.any (Double.within f64Zero f64Twenty))
    "cfg_scale must be from 0 to 20"
  ensureField object "seed" (fun seed => seed.asU64.isSome)
    "seed must be a non-negative integer"

def u32Max : Int := 2 ^ 32 - 1

def validateVideoOptions (object : Json) : Except Response Unit := do
  ensureField object "seed" (fun seed => seed.asI64.any fun value =>
      0 ≤ value ∧ value ≤ u32Max) "seed must be an integer between 0 and 4294967295"
  ensureField object "cfg_scale" (fun cfg => cfg.asF64.any fun value =>
      !Double.isNan value && Double.within f64One f64Nine value &&
        !Double.eq value f64One)
    "cfg_scale must be greater than 1 and at most 9"
  ensureField object "motion_bucket_id" (fun bucket => bucket.asI64 = some 127)
    "motion_bucket_id must equal 127"

def validateVideoFields (object : Json) : Except Response Unit := do
  ensure ((object.getStr "input_reference").any fun url => validDataUrl url true)
    "input_reference must be a valid PNG or JPEG data URL"
  validateVideoOptions object

def validateSpeechFields (object : Json) : Except Response Unit := do
  ensure (object.getStr "input").isSome "input must be a string"
  ensureField object "response_format" (fun format => format.asStr = some "wav")
    "response_format must be wav"
  ensureField object "speed" (fun speed =>
      speed.asF64.any fun value => Double.eq value f64One)
    "speed must be 1.0"
  ensureField object "voice" (fun voice => voice.asStr.any fun text =>
      !(trim text.toList).isEmpty && !text.toList.any isControl)
    "voice must be a non-empty safe string"

def glmAllowed : List String :=
  ["model", "messages", "stream", "temperature", "top_p", "max_tokens",
    "max_completion_tokens", "stop", "tools", "tool_choice", "response_format",
    "user", "n", "seed", "frequency_penalty", "presence_penalty", "metadata",
    "chat_template_kwargs"]

def chatAllowed (model : String) : List String :=
  if model = "z-ai/glm-5.2" then glmAllowed
  else ["model", "messages", "stream", "temperature", "top_p", "max_tokens",
    "seed"]

def allowedContent (model : String) : List String :=
  match model with
  | "microsoft/phi-4-multimodal-instruct" => ["text", "image_url", "audio_url"]
  | "nvidia/vila" => ["text", "image_url", "video_url"]
  | _ => ["text"]

/-- One item of a message's content; `kind` is one of those allowed. -/
def validateContentItem (item : Json) (kind : String) : Bool :=
  if kind = "text" then
    ((item.get "text").any nonEmptyText) &&
      item.keys.all fun key => ["type", "text"].contains key
  else if ["image_url", "audio_url", "video_url"].contains kind then
    (item.keys.all fun key =>
        ["type", "image_url", "audio_url", "video_url"].contains key) &&
      (item.get kind).any fun value => value.asStr.isSome || value.asObject.isSome
  else
    false

def validateChatContent (content : Json) (allowedTypes : List String) : Bool :=
  match content.asStr with
  | some text => text ≠ ""
  | none => content.asArray.any fun items =>
      !items.isEmpty && items.all fun item =>
        ((item.get "type").bind Json.asStr).any fun kind =>
          allowedTypes.contains kind && validateContentItem item kind

def isNull : Json → Bool
  | .null => true
  | _ => false

/-- An assistant's message may consist of calls only. -/
def callsOnly (message content : Json) : Bool :=
  isNull content && message.getStr "role" = some "assistant" &&
    ((message.get "tool_calls").any (fun calls => calls.asArray.isSome) ||
      (message.get "function_call").any fun call => call.asObject.isSome)

def validateMessage (allowedTypes : List String) (message : Json) :
    Except Response Unit := do
  ensure message.asObject.isSome "messages must contain valid role/content entries"
  ensure ((message.getStr "role").any
      ["system", "user", "assistant", "tool"].contains)
    "message role is not supported"
  let content ← require (message.get "content") "message content is required"
  ensure (callsOnly message content || validateChatContent content allowedTypes)
    "message content does not match the selected model"

def ensureKnown (object : Json) (allowed : List String) : Except Response Unit :=
  match object.keys.find? fun field => !allowed.contains field with
  | some unknown => .error (invalidRequest ("unsupported field: " ++ unknown))
  | none => .ok ()

def validateChatRequest (object : Json) : Except Response Unit := do
  ensure object.asObject.isSome "request body must be a JSON object"
  let model ← requireModel object
  ensureRouted "/v1/chat/completions" model
  ensureKnown object (chatAllowed model)
  let messages ← require (object.getArray "messages") "messages must be an array"
  ensure (!messages.isEmpty) "messages must contain valid role/content entries"
  messages.forM (validateMessage (allowedContent model))

/-- What a path requires, and what it allows. -/
def modalityFields (path : String) : List String × List String :=
  match path with
  | "/v1/embeddings" =>
      (["input"], ["model", "input", "encoding_format", "dimensions", "user"])
  | "/v1/images/generations" =>
      (["prompt"], ["model", "prompt", "image", "n", "size", "response_format",
        "steps", "cfg_scale", "seed", "user"])
  | "/v1/audio/speech" =>
      (["input"], ["model", "input", "voice", "response_format", "speed"])
  | "/v1/videos/generations" =>
      (["input_reference"], ["model", "input_reference", "seed", "cfg_scale",
        "motion_bucket_id"])
  | "/v1/nvidia/inference" =>
      (["messages"], ["model", "messages", "temperature", "top_p", "max_tokens",
        "seed"])
  | _ => ([], ["model"])

def ensurePresent (object : Json) (field : String) : Except Response Unit :=
  ensure (object.get field).isSome (field ++ " is required")

def validateModalityFields (path : String) (object : Json) :
    Except Response Unit := do
  let (required, allowed) := modalityFields path
  required.forM (ensurePresent object)
  ensureKnown object allowed
  match path with
  | "/v1/embeddings" => validateEmbeddingFields object
  | "/v1/images/generations" => validateImageFields object
  | "/v1/videos/generations" => validateVideoFields object
  | "/v1/audio/speech" => validateSpeechFields object
  | "/v1/nvidia/inference" => validateChatRequest object
  | _ => .ok ()

end NvidiaBuildLb.Gateway
