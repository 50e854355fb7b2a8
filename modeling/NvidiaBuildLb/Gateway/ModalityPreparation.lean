import NvidiaBuildLb.Gateway.Multipart

namespace NvidiaBuildLb.Gateway

open Foundation NvidiaBuildLb.Core

/-! What the provider of images and videos is sent, and that it is what was
checked. -/

section Parsing

-- `serde_json::from_slice`.
variable (fromSlice : Bytes → Option Json)

def requiredField (path : String) : Option String :=
  match path with
  | "/v1/images/generations" => some "prompt"
  | "/v1/videos/generations" => some "input_reference"
  | "/v1/embeddings" => some "input"
  | "/v1/audio/speech" => some "input"
  | _ => none

def parseMultimodalRequest (path : String) (body : Bytes) (contentType : String) :
    Except Response Json :=
  if path = "/v1/audio/transcriptions" ∧
      startsWith contentType "multipart/form-data" = true then
    parseMultipartRequest path body contentType
  else do
    ensure (startsWith contentType "application/json")
      "JSON content-type is required for this modality"
    let request ← require (fromSlice body) "request body must be valid JSON"
    ensure request.asObject.isSome "request body must be a JSON object"
    let model ← requireModel request
    ensureRouted path model
    validateModalityFields path request
    (requiredField path).toList.forM (ensurePresent request)
    return request

end Parsing

/-- The shape of an image of a supported size. -/
def sizeAspect (size : String) : Option String :=
  match size with
  | "1024x1024" => some "1:1"
  | "1792x1024" | "1536x864" => some "16:9"
  | "1024x1792" | "864x1536" => some "9:16"
  | _ => none

def providerAspect (image : Option String) (size : String) :
    Except Response String :=
  if image.isNone then
    require (sizeAspect size) "size is not supported by FLUX"
  else
    .ok "match_input_image"

def prepareImageRequest (object : Json) : Except Response Json := do
  let prompt ← require (object.getStr "prompt") "prompt must be a string"
  let size := (object.getStr "size").getD "1024x1024"
  let image := (object.getStr "image").filter fun url => url ≠ ""
  let aspectRatio ← providerAspect image size
  ensure (((object.get "n").bind Json.asU64).getD 1 = 1)
    "FLUX supports exactly one image"
  let steps := ((object.get "steps").bind Json.asU64).getD 30
  let cfgScale := ((object.get "cfg_scale").bind Json.asF64).getD f64ThreeAndAHalf
  let seed := ((object.get "seed").bind Json.asU64).getD 0
  return .object ([("aspect_ratio", .string aspectRatio),
    ("cfg_scale", Json.ofF64 cfgScale)] ++
    (image.map fun url => ("image", Json.string url)).toList ++
    [("prompt", .string prompt), ("seed", .number (.posInt seed)),
      ("steps", .number (.posInt steps))])

def isImageUrl (value : String) : Bool :=
  startsWith value "data:image/png;base64," ||
    startsWith value "data:image/jpeg;base64,"

def prepareVideoRequest (object : Json) : Except Response Json := do
  let input ← require ((object.getStr "input_reference").filter isImageUrl)
    "input_reference must be a PNG or JPEG data URL"
  return .object [
    ("cfg_scale", (object.get "cfg_scale").getD (Json.ofF64 f64OneAndEightTenths)),
    ("image", .string input),
    ("motion_bucket_id",
      (object.get "motion_bucket_id").getD (.number (.posInt 127))),
    ("seed", (object.get "seed").getD (.number (.posInt 0)))]

def prepareModalityRequest (path : String) (request : Json) :
    Except Response Json := do
  ensure request.asObject.isSome "request body must be a JSON object"
  match path with
  | "/v1/images/generations" => prepareImageRequest request
  | "/v1/videos/generations" => prepareVideoRequest request
  | "/v1/nvidia/inference" => return request.without "model"
  | _ => return request

@[simp] theorem ensure_bind_ok {holds : Bool} {message : String}
    {next : Unit → Except Response α} {result : α} :
    (ensure holds message >>= next) = .ok result ↔
      holds = true ∧ next () = .ok result := by
  cases holds <;> simp [ensure, bind, Except.bind]

@[simp] theorem ensure_ok {holds : Bool} {message : String} :
    ensure holds message = .ok () ↔ holds = true := by
  cases holds <;> simp [ensure]

@[simp] theorem require_bind_ok {value : Option β} {message : String}
    {next : β → Except Response α} {result : α} :
    (require value message >>= next) = .ok result ↔
      ∃ found, value = some found ∧ next found = .ok result := by
  cases value <;> simp [require, bind, Except.bind]

@[simp] theorem ensureField_bind_ok {object : Json} {field : String}
    {fit : Json → Bool} {message : String} {next : Unit → Except Response α}
    {result : α} :
    (ensureField object field fit message >>= next) = .ok result ↔
      (object.get field).all fit = true ∧ next () = .ok result :=
  ensure_bind_ok

@[simp] theorem ensureField_ok {object : Json} {field : String}
    {fit : Json → Bool} {message : String} :
    ensureField object field fit message = .ok () ↔
      (object.get field).all fit = true :=
  ensure_ok

theorem bind_ok {value : Except Response β} {next : β → Except Response α}
    {result : α} :
    (value >>= next) = .ok result ↔
      ∃ found, value = .ok found ∧ next found = .ok result := by
  cases value <;> simp [bind, Except.bind]

theorem validateImageFields_ok {object : Json} :
    validateImageFields object = .ok () ↔
      (object.getStr "prompt").isSome = true ∧
      (object.get "size").all (fun size => size.asStr.any imageSizes.contains) =
        true ∧
      ((object.get "n").bind Json.asU64).getD 1 = 1 ∧
      (object.get "response_format").all
        (fun format => format.asStr = some "b64_json") = true ∧
      (object.get "image").all (fun image => image.asStr.any fun url =>
        validDataUrl url true) = true ∧
      (object.get "steps").all (fun steps => steps.asU64.any fun value =>
        1 ≤ value ∧ value ≤ 50) = true ∧
      (object.get "cfg_scale").all (fun cfgScale =>
        cfgScale.asF64.any (Double.within f64Zero f64Twenty)) = true ∧
      (object.get "seed").all (fun seed => seed.asU64.isSome) = true := by
  simp only [validateImageFields, ensure_bind_ok, ensureField_bind_ok,
    ensureField_ok, decide_eq_true_eq]

theorem parsed_checked {fromSlice : Bytes → Option Json} {path contentType : String}
    {body : Bytes} {request : Json} (notForm : path ≠ "/v1/audio/transcriptions")
    (accepted : parseMultimodalRequest fromSlice path body contentType =
      .ok request) :
    request.asObject.isSome = true ∧
      validateModalityFields path request = .ok () := by
  rw [parseMultimodalRequest, if_neg (by simp [notForm])] at accepted
  simp only [ensure_bind_ok, require_bind_ok] at accepted
  obtain ⟨-, parsed, -, isObject, accepted⟩ := accepted
  obtain ⟨model, -, accepted⟩ := bind_ok.mp accepted
  obtain ⟨_, -, accepted⟩ := bind_ok.mp accepted
  obtain ⟨_, checked, accepted⟩ := bind_ok.mp accepted
  obtain ⟨_, -, accepted⟩ := bind_ok.mp accepted
  cases accepted
  exact ⟨isObject, checked⟩

/-- The field as it was read, or the default where it was not given. -/
def Keeps (object : Json) (field : String) (read : Json → Option α)
    (default value : α) : Prop :=
  match object.get field with
  | none => value = default
  | some given => read given = some value

theorem keeps_of_checked {object : Json} {field : String} {read : Json → Option α}
    {test : α → Bool} (default : α)
    (checked : (object.get field).all (fun given => (read given).any test) = true)
    (defaultFits : test default = true) :
    Keeps object field read default (((object.get field).bind read).getD default) ∧
      test (((object.get field).bind read).getD default) = true := by
  unfold Keeps
  cases present : object.get field with
  | none => exact ⟨rfl, defaultFits⟩
  | some given =>
      rw [present, Option.all_some] at checked
      rw [Option.bind_some]
      cases found : read given with
      | none =>
          rw [found] at checked
          cases checked
      | some value =>
          rw [found] at checked
          exact ⟨found, checked⟩

/-- The shape the provider is asked for. -/
def imageAspect (request : Json) : Option String :=
  if (request.get "image").isSome then some "match_input_image"
  else sizeAspect ((request.getStr "size").getD "1024x1024")

structure ImageKept (request payload : Json) : Prop where
  prompt : ∃ prompt, request.getStr "prompt" = some prompt ∧
    payload.getStr "prompt" = some prompt
  image : payload.get "image" = request.get "image"
  aspectRatio : ∃ aspectRatio, imageAspect request = some aspectRatio ∧
    payload.getStr "aspect_ratio" = some aspectRatio
  steps : ∃ steps, payload.get "steps" = some (.number (.posInt steps)) ∧
    Keeps request "steps" Json.asU64 30 steps ∧ 1 ≤ steps ∧ steps ≤ 50
  cfgScale : ∃ cfgScale, payload.get "cfg_scale" = some (.number (.float cfgScale)) ∧
    Keeps request "cfg_scale" Json.asF64 f64ThreeAndAHalf cfgScale ∧
    Double.within f64Zero f64Twenty cfgScale = true
  seed : ∃ seed, payload.get "seed" = some (.number (.posInt seed)) ∧
    Keeps request "seed" Json.asU64 0 seed
  checked : validateImageFields payload = .ok ()

structure VideoKept (request payload : Json) : Prop where
  image : ∃ url, request.getStr "input_reference" = some url ∧
    payload.getStr "image" = some url ∧ validDataUrl url true = true
  seed : ∃ seed, (payload.get "seed").bind Json.asI64 = some seed ∧
    Keeps request "seed" Json.asI64 0 seed ∧ 0 ≤ seed ∧ seed ≤ u32Max
  cfgScale : ∃ cfgScale, (payload.get "cfg_scale").bind Json.asF64 = some cfgScale ∧
    Keeps request "cfg_scale" Json.asF64 f64OneAndEightTenths cfgScale ∧
    Double.within f64One f64Nine cfgScale = true ∧
    Double.eq cfgScale f64One = false
  motionBucketId : (payload.get "motion_bucket_id").bind Json.asI64 = some 127
  checked : validateVideoOptions payload = .ok ()

theorem sizeAspect_supported {size : String} (supported : imageSizes.contains size = true) :
    ∃ aspectRatio, sizeAspect size = some aspectRatio := by
  simp only [imageSizes, List.contains_cons, List.contains_nil, Bool.or_false,
    Bool.or_eq_true, beq_iff_eq] at supported
  rcases supported with same | same | same | same | same <;>
    (rw [same]; exact ⟨_, rfl⟩)

theorem validDataUrl_nonempty {url : String} (valid : validDataUrl url true = true) :
    url ≠ "" := by
  intro empty
  rw [empty] at valid
  cases valid

theorem isImageUrl_of_valid {url : String} (valid : validDataUrl url true = true) :
    isImageUrl url = true := by
  unfold validDataUrl at valid
  split at valid
  case h_1 => cases valid
  case h_2 front encoded cut =>
      obtain ⟨split, _⟩ := splitOnce_eq_some.mp cut
      have starts : ∀ media start : String, String.ofList front = media →
          start.toList = media.toList ++ [','] → startsWith url start = true := by
        intro media start isMedia isStart
        rw [startsWith, List.isPrefixOf_iff_prefix, split, isStart, ← isMedia,
          String.toList_ofList]
        exact ⟨encoded, by simp⟩
      split at valid
      case h_1 => cases valid
      case h_2 =>
          split at valid
          case h_1 isMedia _ =>
              rw [isImageUrl, starts _ "data:image/png;base64," isMedia rfl]
              rfl
          case h_2 isMedia _ =>
              rw [isImageUrl, starts _ "data:image/jpeg;base64," isMedia rfl]
              exact Bool.or_true _
          case h_3 => cases valid

private theorem image_read {request : Json}
    (imageFit : (request.get "image").all (fun image => image.asStr.any fun url =>
      validDataUrl url true) = true) :
    (request.getStr "image").filter (fun url => url ≠ "") = request.getStr "image" ∧
      (request.getStr "image").map Json.string = request.get "image" := by
  unfold Json.getStr
  cases present : request.get "image" with
  | none => exact ⟨rfl, rfl⟩
  | some image =>
      rw [present] at imageFit
      cases image with
      | string url =>
          have nonempty : url ≠ "" := validDataUrl_nonempty imageFit
          exact ⟨Option.filter_some_pos (by simpa using nonempty), rfl⟩
      | _ => cases imageFit

private theorem size_read {request : Json}
    (sizeFit : (request.get "size").all (fun size =>
      size.asStr.any imageSizes.contains) = true) :
    imageSizes.contains ((request.getStr "size").getD "1024x1024") = true :=
  (keeps_of_checked "1024x1024" sizeFit (by decide)).2

def imagePayload (prompt aspectRatio : String) (image : Option String)
    (cfgScale : UInt64) (seed steps : Nat) : Json :=
  .object ([("aspect_ratio", .string aspectRatio),
    ("cfg_scale", .number (.float cfgScale))] ++
    (image.map fun url => ("image", Json.string url)).toList ++
    [("prompt", .string prompt), ("seed", .number (.posInt seed)),
      ("steps", .number (.posInt steps))])

section

variable (prompt aspectRatio : String) (image : Option String) (cfgScale : UInt64)
  (seed steps : Nat)

theorem imagePayload_get :
    (imagePayload prompt aspectRatio image cfgScale seed steps).get "prompt" =
        some (.string prompt) ∧
      (imagePayload prompt aspectRatio image cfgScale seed steps).get "aspect_ratio" =
        some (.string aspectRatio) ∧
      (imagePayload prompt aspectRatio image cfgScale seed steps).get "image" =
        image.map Json.string ∧
      (imagePayload prompt aspectRatio image cfgScale seed steps).get "cfg_scale" =
        some (.number (.float cfgScale)) ∧
      (imagePayload prompt aspectRatio image cfgScale seed steps).get "seed" =
        some (.number (.posInt seed)) ∧
      (imagePayload prompt aspectRatio image cfgScale seed steps).get "steps" =
        some (.number (.posInt steps)) ∧
      (imagePayload prompt aspectRatio image cfgScale seed steps).get "size" = none ∧
      (imagePayload prompt aspectRatio image cfgScale seed steps).get "n" = none ∧
      (imagePayload prompt aspectRatio image cfgScale seed steps).get
        "response_format" = none := by
  cases image <;> exact ⟨rfl, rfl, rfl, rfl, rfl, rfl, rfl, rfl, rfl⟩

end

theorem image_prepared {request : Json} (isObject : request.asObject.isSome = true)
    (checked : validateImageFields request = .ok ()) :
    ∃ payload, prepareModalityRequest "/v1/images/generations" request = .ok payload ∧
      ImageKept request payload := by
  obtain ⟨promptGiven, sizeFit, one, _, imageFit, stepsFit, cfgScaleFit, seedFit⟩ :=
    validateImageFields_ok.mp checked
  obtain ⟨prompt, isPrompt⟩ := Option.isSome_iff_exists.mp promptGiven
  obtain ⟨keepsSteps, stepsTest⟩ := keeps_of_checked 30 stepsFit (by decide)
  obtain ⟨keepsCfgScale, cfgScaleTest⟩ :=
    keeps_of_checked f64ThreeAndAHalf cfgScaleFit (by decide)
  have cfgScaleFinite := Double.isFinite_of_within cfgScaleTest (by decide) (by decide)
  have seedGiven : (request.get "seed").all
      (fun seed => seed.asU64.any fun _ => true) = true := by
    simpa using seedFit
  obtain ⟨keepsSeed, _⟩ := keeps_of_checked 0 seedGiven rfl
  obtain ⟨sameImage, isImage⟩ := image_read imageFit
  have aspect : ∃ aspectRatio, imageAspect request = some aspectRatio := by
    unfold imageAspect
    split
    case isTrue => exact ⟨_, rfl⟩
    case isFalse => exact sizeAspect_supported (size_read sizeFit)
  obtain ⟨aspectRatio, isAspect⟩ := aspect
  refine ⟨imagePayload prompt aspectRatio (request.getStr "image")
    (((request.get "cfg_scale").bind Json.asF64).getD f64ThreeAndAHalf)
    (((request.get "seed").bind Json.asU64).getD 0)
    (((request.get "steps").bind Json.asU64).getD 30), ?_, ?_⟩
  · change (ensure request.asObject.isSome _ >>= fun _ => prepareImageRequest request) = _
    rw [ensure_bind_ok]
    refine ⟨isObject, ?_⟩
    rw [prepareImageRequest, require_bind_ok]
    refine ⟨prompt, isPrompt, ?_⟩
    simp only [sameImage]
    rw [bind_ok]
    refine ⟨aspectRatio, ?_, ?_⟩
    · rw [imageAspect, ← isImage, Option.isSome_map] at isAspect
      cases given : request.getStr "image" with
      | none =>
          rw [given] at isAspect
          change sizeAspect _ = _ at isAspect
          simp [providerAspect, isAspect, require]
      | some url =>
          rw [given] at isAspect
          cases isAspect
          rfl
    · rw [ensure_bind_ok]
      refine ⟨by simpa using one, ?_⟩
      rw [Json.ofF64, if_pos cfgScaleFinite]
      rfl
  · generalize ((request.get "steps").bind Json.asU64).getD 30 = steps at *
    generalize ((request.get "cfg_scale").bind Json.asF64).getD f64ThreeAndAHalf =
      cfgScale at *
    generalize ((request.get "seed").bind Json.asU64).getD 0 = seed at *
    obtain ⟨hasPrompt, hasAspect, hasImage, hasCfgScale, hasSeed, hasSteps, noSize,
      noN, noFormat⟩ := imagePayload_get prompt aspectRatio (request.getStr "image")
        cfgScale seed steps
    rw [isImage] at hasImage
    exact {
      prompt := ⟨prompt, isPrompt, by rw [Json.getStr, hasPrompt]; rfl⟩
      image := hasImage
      aspectRatio := ⟨aspectRatio, isAspect, by rw [Json.getStr, hasAspect]; rfl⟩
      steps := ⟨steps, hasSteps, keepsSteps, by simpa using stepsTest⟩
      cfgScale := ⟨cfgScale, hasCfgScale, keepsCfgScale, cfgScaleTest⟩
      seed := ⟨seed, hasSeed, keepsSeed⟩
      checked := by
        rw [validateImageFields_ok, Json.getStr, hasPrompt, noSize, noN, noFormat,
          hasImage, hasSteps, hasCfgScale, hasSeed]
        exact ⟨rfl, rfl, rfl, rfl, imageFit, stepsTest, cfgScaleTest, rfl⟩ }

theorem validateVideoOptions_ok {object : Json} :
    validateVideoOptions object = .ok () ↔
      (object.get "seed").all (fun seed => seed.asI64.any fun value =>
        0 ≤ value ∧ value ≤ u32Max) = true ∧
      (object.get "cfg_scale").all (fun cfg => cfg.asF64.any fun value =>
        !Double.isNan value && Double.within f64One f64Nine value &&
          !Double.eq value f64One) = true ∧
      (object.get "motion_bucket_id").all
        (fun bucket => bucket.asI64 = some 127) = true := by
  simp only [validateVideoOptions, ensureField_bind_ok, ensureField_ok]

def videoPayload (url : String) (seed cfgScale motionBucketId : Json) : Json :=
  .object [("cfg_scale", cfgScale), ("image", .string url),
    ("motion_bucket_id", motionBucketId), ("seed", seed)]

theorem keeps_of_passed {object : Json} {field : String} {read : Json → Option α}
    {test : α → Bool} (default : α) (defaultJson : Json)
    (readsDefault : read defaultJson = some default)
    (checked : (object.get field).all (fun given => (read given).any test) = true)
    (defaultFits : test default = true) :
    ∃ value, read ((object.get field).getD defaultJson) = some value ∧
      Keeps object field read default value ∧ test value = true := by
  obtain ⟨keeps, fits⟩ := keeps_of_checked default checked defaultFits
  refine ⟨_, ?_, keeps, fits⟩
  cases present : object.get field with
  | none => exact readsDefault
  | some given =>
      rw [present, Option.all_some] at checked
      cases found : read given with
      | none =>
          rw [found] at checked
          cases checked
      | some value => simp [found]

theorem fit_getD {given : Option Json} {fit : Json → Bool} {default : Json}
    (checked : given.all fit = true) (defaultFit : fit default = true) :
    fit (given.getD default) = true := by
  cases given with
  | none => exact defaultFit
  | some value => exact checked

theorem video_prepared {request : Json} (isObject : request.asObject.isSome = true)
    (checked : validateVideoFields request = .ok ()) :
    ∃ payload, prepareModalityRequest "/v1/videos/generations" request = .ok payload ∧
      VideoKept request payload := by
  rw [validateVideoFields, ensure_bind_ok] at checked
  obtain ⟨inputFit, options⟩ := checked
  obtain ⟨seedFit, cfgScaleFit, bucketFit⟩ := validateVideoOptions_ok.mp options
  obtain ⟨url, isUrl, valid⟩ := (Option.any_eq_true _ _).mp inputFit
  obtain ⟨seed, readsSeed, keepsSeed, seedTest⟩ :=
    keeps_of_passed 0 (.number (.posInt 0)) rfl seedFit (by decide)
  obtain ⟨cfgScale, readsCfgScale, keepsCfgScale, cfgScaleTest⟩ :=
    keeps_of_passed f64OneAndEightTenths (Json.ofF64 f64OneAndEightTenths) rfl
      cfgScaleFit (by decide)
  have bucketRead := fit_getD bucketFit
    (by decide : decide ((Json.number (.posInt 127)).asI64 = some 127) = true)
  refine ⟨videoPayload url ((request.get "seed").getD (.number (.posInt 0)))
    ((request.get "cfg_scale").getD (Json.ofF64 f64OneAndEightTenths))
    ((request.get "motion_bucket_id").getD (.number (.posInt 127))), ?_, ?_⟩
  · change (ensure request.asObject.isSome _ >>= fun _ => prepareVideoRequest request) = _
    rw [ensure_bind_ok, prepareVideoRequest, require_bind_ok]
    refine ⟨isObject, url, ?_, rfl⟩
    rw [isUrl]
    exact Option.filter_some_pos (isImageUrl_of_valid valid)
  · have bounds := cfgScaleTest
    simp only [Bool.and_eq_true, Bool.not_eq_true'] at bounds
    exact {
      image := ⟨url, isUrl, rfl, valid⟩
      seed := ⟨seed, readsSeed, keepsSeed, by simpa using seedTest⟩
      cfgScale := ⟨cfgScale, readsCfgScale, keepsCfgScale, bounds.1.2, bounds.2⟩
      motionBucketId := of_decide_eq_true bucketRead
      checked := validateVideoOptions_ok.mpr
        ⟨fit_getD seedFit rfl, fit_getD cfgScaleFit rfl, bucketRead⟩ }

def GenerationPath.text : GenerationPath → String
  | .images => "/v1/images/generations"
  | .videos => "/v1/videos/generations"

def GenerationPath.Kept : GenerationPath → Json → Json → Prop
  | .images => ImageKept
  | .videos => VideoKept

/-- A request for images or a video that is accepted can be made ready, and the
provider is sent what was checked. -/
theorem accepted_prepared (fromSlice : Bytes → Option Json) (path : GenerationPath)
    {body : Bytes} {contentType : String} {request : Json}
    (accepted : parseMultimodalRequest fromSlice path.text body contentType =
      .ok request) :
    ∃ payload, prepareModalityRequest path.text request = .ok payload ∧
      path.Kept request payload := by
  obtain ⟨isObject, checked⟩ := parsed_checked (by cases path <;> decide) accepted
  obtain ⟨_, _, checked⟩ := bind_ok.mp checked
  obtain ⟨_, _, checked⟩ := bind_ok.mp checked
  cases path with
  | images => exact image_prepared isObject checked
  | videos => exact video_prepared isObject checked

namespace Modality.Sample

def imageRequest : Json :=
  .object [("cfg_scale", .number (.posInt 20)),
    ("model", .string "black-forest-labs/flux.1-kontext-dev"),
    ("prompt", .string "a tree"), ("steps", .number (.posInt 50))]

/-- The request in the order of its keys. -/
def imageBody : Bytes :=
  utf8 ("\x7b\"cfg_scale\":20,\"model\":\"black-forest-labs/flux.1-kontext-dev\"," ++
    "\"prompt\":\"a tree\",\"steps\":50\x7d")

def fromSlice (bytes : Bytes) : Option Json :=
  if bytes = imageBody then some imageRequest else none

theorem accepted_prepared_image :
    ∃ payload, prepareModalityRequest GenerationPath.images.text imageRequest =
        .ok payload ∧ GenerationPath.images.Kept imageRequest payload := by
  have accepted : parseMultimodalRequest fromSlice GenerationPath.images.text imageBody
      "application/json" = .ok imageRequest := by
    have parsed : fromSlice imageBody = some imageRequest := if_pos rfl
    rw [parseMultimodalRequest, if_neg (by decide), parsed]
    rfl
  exact accepted_prepared fromSlice .images accepted

end Modality.Sample

end NvidiaBuildLb.Gateway
