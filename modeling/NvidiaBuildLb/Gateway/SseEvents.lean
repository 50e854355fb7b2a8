import NvidiaBuildLb.Foundation.Utf8
import NvidiaBuildLb.Gateway.SseFraming

namespace NvidiaBuildLb.Gateway

open Foundation NvidiaBuildLb.Core

/-! The events in the frames of a stream, apart from what is checked across
them. -/

/-- The data lines of a frame that is short enough, text, and made of known
lines. -/
def eventData (frame : Bytes) : Except Unit (List (List Char)) :=
  if frame.length > frameLimit then
    .error ()
  else
    match decodeUtf8 frame with
    | none => .error ()
    | some text =>
        ((lines text).mapM fun line => lineData line.toList).map
          (List.filterMap id)

def joined (dataLines : List (List Char)) : List Char :=
  ['\n'].intercalate dataLines

def isDoneMark (data : List Char) : Bool :=
  trim data == "[DONE]".toList

/-- The data of a frame that has to be a chunk of the answer. -/
def payload (frame : Bytes) : Option (List Char) :=
  match eventData frame with
  | .ok (line :: more) =>
      if isDoneMark (joined (line :: more)) then none
      else some (joined (line :: more))
  | _ => none

def payloads (stream : Bytes) : List (List Char) :=
  (sseFraming.split stream).1.filterMap payload

section Events

variable (parse : String → Option Json)

/-- The identifier and model seen so far, against the next payload. -/
def acceptPayload (known : Option String × Option String)
    (data : List Char) : Option (Option String × Option String) :=
  match (parse (String.ofList data)).bind validChunk with
  | none => none
  | some (id, model) =>
      if agrees known.1 id && agrees known.2 model then
        some (some id, some model)
      else
        none

variable {parse}

theorem validateFrame_eq (checks : FrameChecks) (frame : Bytes) :
    validateFrame parse checks frame =
      match eventData frame with
      | .error () => .error ()
      | .ok dataLines =>
          if frame = [] then .ok (checks, [])
          else if checks.done = true then .error ()
          else if dataLines = [] then .ok (checks, [])
          else
            if isDoneMark (joined dataLines) then
              .ok ({ checks with
                frameCount := checks.frameCount + 1
                done := true }, [])
            else
              match acceptPayload parse (checks.messageId, checks.model)
                  (joined dataLines) with
              | none => .error ()
              | some known => .ok ({ checks with
                  frameCount := checks.frameCount + 1
                  dataFrameCount := checks.dataFrameCount + 1
                  messageId := known.1
                  model := known.2 }, [dataFrame (joined dataLines)]) := by
  unfold validateFrame eventData
  split
  case isTrue => rfl
  case isFalse =>
      change (match decodeUtf8 frame with
        | none => _
        | some text => _) = _
      cases decoded : decodeUtf8 frame with
      | none => rfl
      | some text =>
          have isFrame := encodeUtf8_of_decodeUtf8 decoded
          by_cases isEmpty : text = ""
          · subst isEmpty
            have empty : frame = [] := isFrame
            rw [empty]
            rfl
          · have nonempty : frame ≠ [] := by
              intro empty
              rw [isFrame, ← encodeUtf8_nil] at empty
              exact isEmpty (String.toList_eq_nil_iff.mp
                (encodeUtf8_injective empty))
            simp only [if_neg isEmpty, if_neg nonempty]
            cases ((lines text).mapM fun line => lineData line.toList) with
            | error failure => simp [Except.map]
            | ok found =>
                simp only [Except.map]
                cases found.filterMap id with
                | nil => simp
                | cons line more =>
                    have mark : isDoneMark (joined (line :: more)) = true ↔
                        trim (['\n'].intercalate (line :: more)) =
                          "[DONE]".toList := beq_iff_eq
                    simp only [List.isEmpty_cons, Bool.false_eq_true, if_false,
                      List.cons_ne_nil, mark]
                    by_cases isDone : checks.done = true
                    · rw [if_pos isDone, if_pos isDone]
                    · rw [if_neg isDone, if_neg isDone]
                      by_cases isMark : trim (['\n'].intercalate
                          (line :: more)) = "[DONE]".toList
                      · rw [if_pos isMark, if_pos isMark]
                      · rw [if_neg isMark, if_neg isMark]
                        simp only [acceptPayload, joined]
                        cases (parse (String.ofList
                            (['\n'].intercalate (line :: more)))).bind
                              validChunk with
                        | none => rfl
                        | some known =>
                            simp only
                            split <;> rfl

def FrameChecks.known (checks : FrameChecks) :
    Option String × Option String :=
  (checks.messageId, checks.model)

/-- The payloads of accepted frames are emitted, agree with what is known and
are counted, and none comes after the mark. -/
structure Taken (parse : String → Option Json) (data : List (List Char))
    (before after : Progress) : Prop where
  emitted : after.1 = before.1 ++ data.map dataFrame
  known : data.foldlM (acceptPayload parse) before.2.known =
    some after.2.known
  counted : after.2.dataFrameCount = before.2.dataFrameCount + data.length
  finished : before.2.done = true → data = [] ∧ after.2.done = true

theorem Taken.none (progress : Progress) : Taken parse [] progress progress where
  emitted := (List.append_nil _).symm
  known := rfl
  counted := rfl
  finished := fun isDone => ⟨rfl, isDone⟩

theorem Taken.nothing (progress : Progress) :
    Taken parse [] progress (progress.1 ++ [], progress.2) := by
  rw [List.append_nil]
  exact .none progress

theorem Taken.append {first second : List (List Char)}
    {before between after : Progress} (taken : Taken parse first before between)
    (further : Taken parse second between after) :
    Taken parse (first ++ second) before after where
  emitted := by
    rw [further.emitted, taken.emitted, List.map_append, List.append_assoc]
  known := by
    rw [List.foldlM_append, taken.known]
    exact further.known
  counted := by
    rw [further.counted, taken.counted, List.length_append]
    omega
  finished := by
    intro isDone
    obtain ⟨noFirst, stillDone⟩ := taken.finished isDone
    obtain ⟨noSecond, finallyDone⟩ := further.finished stillDone
    rw [noFirst, noSecond]
    exact ⟨rfl, finallyDone⟩

theorem payload_of_eventData_nil {frame : Bytes}
    (events : eventData frame = .ok []) : payload frame = none := by
  simp [payload, events]

theorem payload_of_eventData_cons {frame : Bytes} {line : List Char}
    {more : List (List Char)} (events : eventData frame = .ok (line :: more)) :
    payload frame =
      if isDoneMark (joined (line :: more)) then none
      else some (joined (line :: more)) := by
  simp [payload, events]

theorem payload_nil : payload [] = none :=
  payload_of_eventData_nil rfl

theorem eventData_of_takeFrame {before after : Progress} {frame : Bytes}
    (accepted : takeFrame parse before frame = .ok after) :
    ∃ dataLines, eventData frame = .ok dataLines := by
  unfold takeFrame at accepted
  rw [validateFrame_eq] at accepted
  cases events : eventData frame with
  | error failure =>
      rw [events] at accepted
      cases accepted
  | ok dataLines => exact ⟨dataLines, rfl⟩

theorem taken_of_takeFrame {before after : Progress} {frame : Bytes}
    (accepted : takeFrame parse before frame = .ok after) :
    Taken parse (payload frame).toList before after := by
  obtain ⟨dataLines, events⟩ := eventData_of_takeFrame accepted
  unfold takeFrame at accepted
  rw [validateFrame_eq, events] at accepted
  simp only at accepted
  split at accepted
  case isTrue empty =>
      cases accepted
      subst empty
      rw [payload_nil]
      exact .nothing before
  case isFalse =>
      split at accepted
      case isTrue => cases accepted
      case isFalse notDone =>
          cases dataLines with
          | nil =>
              cases accepted
              rw [payload_of_eventData_nil events]
              exact .nothing before
          | cons line more =>
              rw [if_neg (List.cons_ne_nil line more)] at accepted
              rw [payload_of_eventData_cons events]
              split at accepted
              case isTrue isMark =>
                  cases accepted
                  rw [if_pos isMark]
                  exact {
                    emitted := rfl
                    known := rfl
                    counted := rfl
                    finished := fun isDone => absurd isDone notDone }
              case isFalse notMark =>
                  rw [if_neg notMark]
                  cases agreed : acceptPayload parse
                      (before.2.messageId, before.2.model)
                      (joined (line :: more)) with
                  | none =>
                      rw [agreed] at accepted
                      cases accepted
                  | some known =>
                      rw [agreed] at accepted
                      cases accepted
                      exact {
                        emitted := rfl
                        known := by
                          simpa [FrameChecks.known] using agreed
                        counted := rfl
                        finished := fun isDone => absurd isDone notDone }

theorem taken_of_foldlM {before after : Progress} {frames : List Bytes}
    (accepted : frames.foldlM (takeFrame parse) before = .ok after) :
    Taken parse (frames.filterMap payload) before after := by
  induction frames generalizing before with
  | nil =>
      cases accepted
      exact .none _
  | cons frame rest induction =>
      rw [List.foldlM_cons] at accepted
      cases first : takeFrame parse before frame with
      | error failure =>
          rw [first] at accepted
          cases accepted
      | ok between =>
          rw [first] at accepted
          have taken := (taken_of_takeFrame first).append (induction accepted)
          have parts : (frame :: rest).filterMap payload =
              (payload frame).toList ++ rest.filterMap payload := by
            cases isPayload : payload frame <;> simp [isPayload]
          rwa [parts]

/-- A verdict is about the complete frames of the whole stream, however it was
cut. -/
theorem SseValidator.frames_of_feed {chunks : List Bytes}
    {validator : SseValidator}
    (accepted : chunks.foldlM (feed parse) initial = .ok validator) :
    (sseFraming.split chunks.flatten).1.foldlM (takeFrame parse)
        initial.reader.1 = .ok validator.reader.1 ∧
      (sseFraming.split chunks.flatten).2 = validator.buffer := by
  have reads : ∀ {before : SseValidator} {chunks : List Bytes},
      chunks.foldlM (feed parse) before = .ok validator →
      chunks.foldlM (sseFraming.read (takeFrame parse)) before.reader =
        .ok validator.reader := by
    intro before chunks accepted
    induction chunks generalizing before with
    | nil =>
        cases accepted
        rfl
    | cons chunk rest induction =>
        rw [List.foldlM_cons] at accepted ⊢
        cases fed : feed parse before chunk with
        | error failure =>
            rw [fed] at accepted
            cases accepted
        | ok between =>
            rw [fed] at accepted
            have room : before.buffer.length + chunk.length ≤ bufferLimit := by
              apply Nat.le_of_not_lt
              intro full
              rw [feed, if_pos full] at fed
              cases fed
            rw [feed_eq room] at fed
            cases readChunk : sseFraming.read (takeFrame parse) before.reader
                chunk with
            | error failure =>
                rw [readChunk] at fed
                cases fed
            | ok reader =>
                rw [readChunk] at fed
                cases fed
                exact induction accepted
  have settled : sseFraming.split initial.reader.2 =
      ([], initial.reader.2) := Framing.split_of_none rfl
  have whole := reads accepted
  rw [Framing.foldlM_read settled, Framing.read_eq_ok] at whole
  exact whole

end Events

end NvidiaBuildLb.Gateway
