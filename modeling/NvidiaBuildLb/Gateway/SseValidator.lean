import NvidiaBuildLb.Foundation.Framing
import NvidiaBuildLb.Gateway.Json

namespace NvidiaBuildLb.Gateway

open Foundation NvidiaBuildLb.Core

/-! The frames of an upstream event stream and the validator they have to pass
before a client sees them. -/

/-- What `validate_frame` reads and writes of the validator. -/
structure FrameChecks where
  done : Bool
  frameCount : Nat
  dataFrameCount : Nat
  messageId : Option String
  model : Option String
  deriving DecidableEq, Repr

structure SseValidator where
  buffer : Bytes
  emitted : List Bytes
  checks : FrameChecks
  deriving DecidableEq, Repr

def SseValidator.initial : SseValidator where
  buffer := []
  emitted := []
  checks := {
    done := false
    frameCount := 0
    dataFrameCount := 0
    messageId := none
    model := none }

def bufferLimit : Nat := 256 * 1024 * 1024

def frameLimit : Nat := 1024 * 1024

def stripPrefix (start text : List Char) : Option (List Char) :=
  if start.isPrefixOf text then some (text.drop start.length) else none

theorem stripPrefix_append (start rest : List Char) :
    stripPrefix start (start ++ rest) = some rest := by
  simp [stripPrefix]

def byteLength (text : List Char) : Nat :=
  (utf8 (String.ofList text)).length

/-- The data a line of a frame carries, if any. -/
def lineData (line : List Char) : Except Unit (Option (List Char)) :=
  let line := if line.getLast? = some '\r' then line.dropLast else line
  if line.isEmpty || line.head? == some ':' then
    .ok none
  else
    match stripPrefix "data:".toList line with
    | some value => .ok (some ((stripPrefix [' '] value).getD value))
    | none =>
        match stripPrefix "event:".toList line with
        | some value =>
            if byteLength (trim value) > 64 ||
                !(utf8 (String.ofList (trim value))).all fun byte =>
                  0x20 ≤ byte && byte ≤ 0x7e then
              .error ()
            else
              .ok none
        | none =>
            match stripPrefix "id:".toList line with
            | some value =>
                if byteLength (trim value) > 128 ||
                    value.contains (Char.ofNat 0) then
                  .error ()
                else
                  .ok none
            | none =>
                match stripPrefix "retry:".toList line with
                | some value =>
                    if (trim value).isEmpty || byteLength (trim value) > 6 ||
                        !(trim value).all Char.isDigit then
                      .error ()
                    else
                      .ok none
                | none => .error ()

def chunkKeys : List String := [
  "id", "object", "model", "choices", "created", "system_fingerprint",
  "service_tier", "usage", "reasoning", "reasoning_content"]

def choiceKeys : List String := [
  "index", "delta", "finish_reason", "logprobs", "content_filter_results"]

def deltaKeys : List String := [
  "role", "content", "tool_calls", "function_call", "refusal", "audio"]

def onlyKeys (allowed : List String) (fields : List (String × Json)) : Bool :=
  fields.all fun field => allowed.contains field.1

def validChoice (choice : Json) : Bool :=
  match choice.asObject with
  | none => false
  | some fields =>
      onlyKeys choiceKeys fields &&
        ((choice.get "index").bind Json.asU64).isSome &&
        (match (choice.get "delta").bind Json.asObject with
          | some delta => onlyKeys deltaKeys delta
          | none => false) &&
        (match choice.get "finish_reason" with
          | some reason => reason.isNullOrString
          | none => false)

/-- The identifier and model of a valid chat completion chunk. -/
def validChunk (value : Json) : Option (String × String) := do
  let fields ← value.asObject
  if onlyKeys chunkKeys fields = false then
    none
  let id ← (value.get "id").bind Json.asStr
  let model ← (value.get "model").bind Json.asStr
  if (value.get "object").bind Json.asStr ≠ some "chat.completion.chunk" ∨
      id = "" ∨ model = "" then
    none
  let choices ← (value.get "choices").bind Json.asArray
  if choices.isEmpty = true ∨ choices.all validChoice = false then
    none
  return (id, model)

def dataFrame (data : List Char) : Bytes :=
  utf8 ("data: " ++ String.ofList data ++ "\n\n")

def doneFrame : Bytes := utf8 "data: [DONE]\n\n"

/-- `Option::is_some_and(|previous| previous != value)`, negated. -/
def agrees (previous : Option String) (value : String) : Bool :=
  match previous with
  | some known => known == value
  | none => true

section Validating

variable (parse : String → Option Json)

/-- The checks after a frame, and what it emits. -/
def validateFrame (checks : FrameChecks) (frame : Bytes) :
    Except Unit (FrameChecks × List Bytes) :=
  if frame.length > frameLimit then
    .error ()
  else
    match String.fromUTF8? (ByteArray.mk frame.toArray) with
    | none => .error ()
    | some text =>
        if text = "" then
          .ok (checks, [])
        else if checks.done = true then
          .error ()
        else
          match (lines text).mapM fun line => lineData line.toList with
          | .error () => .error ()
          | .ok found =>
              let dataLines := found.filterMap id
              if dataLines.isEmpty then
                .ok (checks, [])
              else
                let data := ['\n'].intercalate dataLines
                let counted := { checks with
                  frameCount := checks.frameCount + 1 }
                if trim data = "[DONE]".toList then
                  .ok ({ counted with done := true }, [])
                else
                  match (parse (String.ofList data)).bind validChunk with
                  | none => .error ()
                  | some (id, model) =>
                      if agrees checks.messageId id &&
                          agrees checks.model model then
                        .ok ({ counted with
                          dataFrameCount := checks.dataFrameCount + 1
                          messageId := some id
                          model := some model }, [dataFrame data])
                      else
                        .error ()

def windowPosition (window : Bytes) : Bytes → Option Nat
  | [] => none
  | byte :: rest =>
      if window.isPrefixOf (byte :: rest) then
        some 0
      else
        (windowPosition window rest).map (· + 1)

/-- Where the first frame ends, and how long its delimiter is. -/
def delimiter (buffer : Bytes) : Option (Nat × Nat) :=
  match windowPosition [10, 10] buffer,
      windowPosition [13, 10, 13, 10] buffer with
  | some lf, some crlf => if crlf < lf then some (crlf, 4) else some (lf, 2)
  | some lf, none => some (lf, 2)
  | none, some crlf => some (crlf, 4)
  | none, none => none

/-- Every round drains a delimiter, so that the length of the buffer bounds
them. -/
def feedLoop : Nat → SseValidator → Except Unit SseValidator
  | 0, validator => .ok validator
  | rounds + 1, validator =>
      match delimiter validator.buffer with
      | none => .ok validator
      | some (index, length) =>
          match validateFrame parse validator.checks
              (validator.buffer.take index) with
          | .error () => .error ()
          | .ok (checks, emitted) => feedLoop rounds {
              buffer := validator.buffer.drop (index + length)
              emitted := validator.emitted ++ emitted
              checks }

namespace SseValidator

def feed (validator : SseValidator) (chunk : Bytes) : Except Unit SseValidator :=
  if validator.buffer.length + chunk.length > bufferLimit then
    .error ()
  else
    feedLoop parse (validator.buffer.length + chunk.length)
      { validator with buffer := validator.buffer ++ chunk }

def takeEmitted (validator : SseValidator) : List Bytes × SseValidator :=
  (validator.emitted, { validator with emitted := [] })

end SseValidator

end Validating

def isAsciiWhitespace (byte : UInt8) : Bool :=
  byte == 0x20 || byte == 0x09 || byte == 0x0a || byte == 0x0c || byte == 0x0d

/-- `finish().is_ok()`. -/
def SseValidator.finish (validator : SseValidator) : Bool :=
  validator.buffer.all isAsciiWhitespace && validator.checks.done &&
    decide (validator.checks.dataFrameCount ≥ 1)

end NvidiaBuildLb.Gateway
