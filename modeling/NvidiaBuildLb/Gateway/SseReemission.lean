import Mathlib.Tactic.IntervalCases
import NvidiaBuildLb.Core.TextLines
import NvidiaBuildLb.Gateway.SseEvents

namespace NvidiaBuildLb.Gateway

open Foundation NvidiaBuildLb.Core

/-! What a second reader makes of the frames that were emitted. -/

/-- What a client of an accepted stream receives. -/
def replay (frames : List Bytes) : Bytes :=
  frames.flatten ++ doneFrame

/-- The emitted frames pass a fresh validator, which emits them again and finds
the same payloads in them. -/
def Reemitted (parse : String → Option Json) (chunks : List Bytes)
    (validator : SseValidator) : Prop :=
  (∃ again, SseValidator.verdict parse [replay validator.emitted] = .ok again ∧
      again.emitted = validator.emitted) ∧
    payloads (replay validator.emitted) = payloads chunks.flatten

/-- A payload that fits on one line of one frame. -/
structure Plain (data : List Char) : Prop where
  oneLine : '\n' ∉ data
  noReturn : data.getLast? ≠ some '\r'
  fits : 6 + byteLength data ≤ frameLimit

/-- The length of the stream that carries the payloads. -/
def replayLength (data : List (List Char)) : Nat :=
  (data.map fun payload => 8 + byteLength payload).sum + 14

def frameText (data : List Char) : List Char := "data: ".toList ++ data

def frameBody (data : List Char) : Bytes := encodeUtf8 (frameText data)

theorem byteLength_eq (text : List Char) :
    byteLength text = (encodeUtf8 text).length := by
  rw [byteLength, utf8, toUTF8_toList, String.toList_ofList]

theorem dataFrame_eq (data : List Char) :
    dataFrame data = frameBody data ++ [10, 10] := by
  have ends : encodeUtf8 "\n\n".toList = [10, 10] := by decide
  -- Rewriting would try to unfold the literals.
  have start : ("data: " ++ String.ofList data).toList = frameText data :=
    String.toList_append.trans
      (congrArg ("data: ".toList ++ ·) String.toList_ofList)
  have text : ("data: " ++ String.ofList data ++ "\n\n").toList =
      frameText data ++ "\n\n".toList :=
    String.toList_append.trans (congrArg (· ++ "\n\n".toList) start)
  calc
    dataFrame data = encodeUtf8 (frameText data ++ "\n\n".toList) :=
      (toUTF8_toList _).trans (congrArg encodeUtf8 text)
    _ = frameBody data ++ [10, 10] :=
      (encodeUtf8_append _ _).trans (congrArg (frameBody data ++ ·) ends)

theorem frameBody_eq (data : List Char) :
    frameBody data = [100, 97, 116, 97, 58, 32] ++ encodeUtf8 data :=
  encodeUtf8_append _ _

theorem frameBody_length (data : List Char) :
    (frameBody data).length = 6 + byteLength data := by
  rw [frameBody_eq, List.length_append, byteLength_eq]
  rfl

theorem dataFrame_injective : Function.Injective dataFrame := by
  intro left right same
  rw [dataFrame_eq, dataFrame_eq] at same
  exact List.append_cancel_left
    (encodeUtf8_injective (List.append_cancel_right same))

theorem replay_length (data : List (List Char)) :
    (replay (data.map dataFrame)).length = replayLength data := by
  have size : ∀ payload, (dataFrame payload).length = 8 + byteLength payload := by
    intro payload
    rw [dataFrame_eq, List.length_append, frameBody_length]
    simp only [List.length_cons, List.length_nil]
    omega
  have last : doneFrame.length = 14 := by decide
  rw [replay, List.length_append, List.length_flatten, List.map_map,
    replayLength, last]
  congr 2
  exact List.map_congr_left fun payload _ => size payload

theorem dropReturn_length (line : List Char) :
    (dropReturn line).length ≤ line.length := by
  unfold dropReturn
  split <;> simp

theorem linesFrom_lengths (line text : List Char) :
    ((linesFrom line text).map List.length).sum ≤ line.length + text.length := by
  induction text generalizing line with
  | nil =>
      unfold linesFrom
      split <;> simp
  | cons character rest induction =>
      unfold linesFrom
      split
      · cases ‹_ = _›
      · obtain ⟨rfl, rfl⟩ := List.cons.inj ‹_ = _›
        have later := induction []
        have shorter := dropReturn_length line
        simp only [List.map_cons, List.sum_cons, List.length_reverse,
          List.length_nil, List.length_cons] at later ⊢
        omega
      · obtain ⟨rfl, rfl⟩ := List.cons.inj ‹_ = _›
        have later := induction (character :: line)
        simp only [List.length_cons] at later ⊢
        omega

/-- A line without the carriage return before its end. -/
def chomp (line : List Char) : List Char :=
  if line.getLast? = some '\r' then line.dropLast else line

theorem chomp_length (line : List Char) :
    (chomp line).length ≤ line.length := by
  unfold chomp
  split <;> simp

theorem chomp_length_lt {line : List Char}
    (returns : line.getLast? = some '\r') :
    (chomp line).length < line.length := by
  have nonempty : line ≠ [] := by
    intro empty
    rw [empty] at returns
    cases returns
  have positive := List.length_pos_iff.mpr nonempty
  rw [chomp, if_pos returns, List.length_dropLast]
  omega

theorem stripPrefix_length {start text rest : List Char}
    (stripped : stripPrefix start text = some rest) :
    rest.length + start.length = text.length := by
  unfold stripPrefix at stripped
  split at stripped
  case isTrue isStart =>
      have shorter := (List.isPrefixOf_iff_prefix.mp isStart).length_le
      cases stripped
      rw [List.length_drop]
      omega
  case isFalse => cases stripped

theorem lineData_length {line value : List Char}
    (isData : lineData line = .ok (some value)) :
    value.length + 5 ≤ line.length := by
  have shorter := chomp_length line
  unfold lineData at isData
  simp only [show (if line.getLast? = some '\r' then line.dropLast else line) =
    chomp line from rfl] at isData
  split at isData
  case isTrue => cases isData
  case isFalse =>
      cases stripped : stripPrefix "data:".toList (chomp line) with
      | some rest =>
          simp only [stripped, Except.ok.injEq, Option.some.injEq] at isData
          have size := stripPrefix_length stripped
          have five : "data:".toList.length = 5 := rfl
          cases space : stripPrefix [' '] rest with
          | none =>
              simp only [space, Option.getD_none] at isData
              subst isData
              omega
          | some after =>
              simp only [space, Option.getD_some] at isData
              subst isData
              have further := stripPrefix_length space
              simp only [List.length_cons, List.length_nil] at further
              omega
      | none =>
          -- No other field carries data.
          simp only [stripped] at isData
          split at isData <;> try (split at isData <;> cases isData)
          split at isData <;> try (split at isData <;> cases isData)
          split at isData <;> try (split at isData <;> cases isData)
          cases isData

theorem lineData_frameText (data : List Char) :
    lineData (frameText data) = .ok (some (chomp data)) := by
  have chomped : chomp (frameText data) = "data: ".toList ++ chomp data := by
    cases data with
    | nil => rfl
    | cons character rest =>
        have last : (frameText (character :: rest)).getLast? =
            (character :: rest).getLast? := by
          rw [frameText, List.getLast?_append_of_ne_nil _ (by simp)]
        unfold chomp
        rw [last]
        split
        · rw [frameText, List.dropLast_append_of_ne_nil (by simp)]
        · rfl
  unfold lineData
  rw [show (if (frameText data).getLast? = some '\r' then
      (frameText data).dropLast else frameText data) =
    chomp (frameText data) from rfl, chomped]
  rfl

/-- The lengths of joined lines, each with the character that ends it. -/
def weight (dataLines : List (List Char)) : Nat :=
  (dataLines.map fun line => line.length + 1).sum

theorem joined_length (line : List Char) (more : List (List Char)) :
    (joined (line :: more)).length = line.length + weight more := by
  unfold joined weight
  induction more generalizing line with
  | nil => simp
  | cons next rest induction =>
      have later := induction next
      rw [List.intercalate_cons_cons, List.length_append, List.length_append,
        later]
      simp only [List.length_cons, List.length_nil, List.map_cons,
        List.sum_cons]
      omega

theorem weight_le {found : List (Option (List Char))}
    {frameLines : List (List Char)}
    (known : frameLines.mapM lineData = .ok found) :
    weight (found.filterMap id) ≤ (frameLines.map List.length).sum := by
  induction frameLines generalizing found with
  | nil =>
      cases known
      exact Nat.le_refl 0
  | cons line rest induction =>
      rw [List.mapM_cons] at known
      cases isLine : lineData line with
      | error failure =>
          rw [isLine] at known
          cases known
      | ok value =>
          cases later : rest.mapM lineData with
          | error failure =>
              rw [isLine, later] at known
              cases known
          | ok values =>
              rw [isLine, later] at known
              cases known
              have bound := induction later
              cases value with
              | none =>
                  have split : (none :: values).filterMap id =
                      values.filterMap id := rfl
                  rw [split, List.map_cons, List.sum_cons]
                  omega
              | some value =>
                  have shorter := lineData_length isLine
                  have split : (some value :: values).filterMap id =
                      value :: values.filterMap id := rfl
                  rw [split]
                  simp only [weight, List.map_cons, List.sum_cons] at bound ⊢
                  omega

theorem lines_mapM (text : List Char) :
    ((lines (String.ofList text)).mapM fun line => lineData line.toList) =
      (linesFrom [] text).mapM lineData := by
  have back : ∀ line : List Char, lineData (String.ofList line).toList =
      lineData line := fun line => by rw [String.toList_ofList]
  rw [lines, String.toList_ofList, List.mapM_map]
  exact congrArg (fun read => (linesFrom [] text).mapM read) (funext back)

theorem dropReturn_frameText (data : List Char) :
    ∃ shorter, (dropReturn (frameText data).reverse).reverse =
      frameText shorter ∧ shorter.length ≤ data.length := by
  cases List.eq_nil_or_concat data with
  | inl empty =>
      subst empty
      exact ⟨[], rfl, Nat.le_refl 0⟩
  | inr ends =>
      obtain ⟨front, last, rfl⟩ := ends
      rw [List.concat_eq_append]
      have reversed : (frameText (front ++ [last])).reverse =
          last :: (frameText front).reverse := by
        simp [frameText]
      rw [reversed]
      unfold dropReturn
      split
      case h_1 =>
          obtain ⟨-, rfl⟩ := List.cons.inj ‹_ = _›
          exact ⟨front, List.reverse_reverse _, by simp⟩
      case h_2 =>
          refine ⟨front ++ [last], ?_, Nat.le_refl _⟩
          rw [← reversed, List.reverse_reverse]

theorem eventData_encodeUtf8 {text : List Char}
    (fits : (encodeUtf8 text).length ≤ frameLimit) :
    eventData (encodeUtf8 text) =
      ((linesFrom [] text).mapM lineData).map (List.filterMap id) := by
  have decoded := decodeUtf8_encodeUtf8 (String.ofList text)
  rw [String.toList_ofList] at decoded
  unfold eventData
  rw [if_neg (Nat.not_lt.mpr fits), decoded]
  simp only [lines_mapM]

theorem eventData_frameBody {data : List Char} (oneLine : '\n' ∉ data)
    (fits : (frameBody data).length ≤ frameLimit) :
    eventData (frameBody data) = .ok [chomp data] := by
  have noFeed : '\n' ∉ frameText data := by
    simpa [frameText] using oneLine
  rw [frameBody, eventData_encodeUtf8 fits,
    linesFrom_of_noFeed noFeed (by simp [frameText]), List.reverse_nil,
    List.nil_append, List.mapM_cons, lineData_frameText]
  rfl

theorem eventData_length {data : List Char} {dataLines : List (List Char)}
    (events : eventData (frameBody data) = .ok dataLines) :
    ∃ line more, dataLines = line :: more ∧
      (joined (line :: more)).length ≤ data.length ∧
      ((joined (line :: more)).length = data.length →
        '\n' ∉ data ∧ data.getLast? ≠ some '\r') := by
  have fits : (frameBody data).length ≤ frameLimit := by
    apply Nat.le_of_not_lt
    intro tooLong
    rw [eventData, if_pos tooLong] at events
    cases events
  by_cases hasFeed : '\n' ∈ data
  · obtain ⟨front, back, rfl, oneLine⟩ := List.eq_append_cons_of_mem hasFeed
    have noFeed : '\n' ∉ frameText front := by
      simpa [frameText] using oneLine
    have text : frameText (front ++ '\n' :: back) =
        frameText front ++ '\n' :: back := by
      rw [frameText, frameText, List.append_assoc]
    obtain ⟨first, isFirst, firstLength⟩ := dropReturn_frameText front
    rw [frameBody, eventData_encodeUtf8 fits, text,
      linesFrom_append_feed noFeed, List.append_nil, isFirst, List.mapM_cons,
      lineData_frameText] at events
    cases later : (linesFrom [] back).mapM lineData with
    | error failure =>
        rw [later] at events
        cases events
    | ok found =>
        rw [later] at events
        cases events
        have bound := (weight_le later).trans (linesFrom_lengths [] back)
        have shorter := chomp_length first
        refine ⟨chomp first, found.filterMap id, rfl, ?_, ?_⟩ <;>
          rw [joined_length] <;>
          simp only [List.length_append, List.length_cons, List.length_nil]
            at bound ⊢ <;>
          omega
  · rw [eventData_frameBody hasFeed fits] at events
    cases events
    have shorter := chomp_length data
    refine ⟨chomp data, [], rfl, ?_, ?_⟩
    · simpa [joined_length, weight] using shorter
    · intro same
      refine ⟨hasFeed, ?_⟩
      intro returns
      have less := chomp_length_lt returns
      simp only [joined_length, weight, List.map_nil, List.sum_nil] at same
      omega

theorem noFeed_frameBody {data : List Char} (oneLine : '\n' ∉ data) :
    (10 : UInt8) ∉ frameBody data := by
  intro member
  have inText := (@mem_encodeUtf8_iff '\n' (frameText data) (by decide)).mp member
  exact oneLine (by simpa [frameText] using inText)

theorem delimiterAt_dataFrame (data : List Char) (rest : Bytes) :
    DelimiterAt (dataFrame data ++ rest) (frameBody data).length 2 := by
  apply DelimiterAt.iff.mpr
  refine .inl ⟨rfl, ?_⟩
  rw [dataFrame_eq, List.append_assoc, List.drop_left]
  exact List.prefix_append _ _

theorem cut_dataFrame {data : List Char} (oneLine : '\n' ∉ data)
    (rest : Bytes) :
    sseFraming.cut (dataFrame data ++ rest) = some (frameBody data, rest) := by
  have noFeed := noFeed_frameBody oneLine
  have inside : ∀ {place : Nat}, place < (frameBody data).length →
      (dataFrame data ++ rest)[place]? ≠ some 10 := by
    intro place before isFeed
    rw [dataFrame_eq, List.append_assoc,
      List.getElem?_append_left before] at isFeed
    exact noFeed (List.mem_of_getElem? isFeed)
  have first : ∀ earlier < (frameBody data).length, ∀ other,
      ¬ DelimiterAt (dataFrame data ++ rest) earlier other := by
    intro earlier before other delimits
    cases delimits with
    | lf here _ => exact inside before here
    | crlf here second third _ =>
        cases Nat.lt_or_ge (earlier + 1) (frameBody data).length with
        | inl within => exact inside within second
        | inr beyond =>
            have last : earlier + 2 = (frameBody data).length + 1 := by omega
            obtain ⟨_, feed⟩ | ⟨four, _⟩ :=
              DelimiterAt.iff.mp (delimiterAt_dataFrame data rest)
            · obtain ⟨_, next⟩ := cons_stands.mp feed
              obtain ⟨isFeed, _⟩ := cons_stands.mp next
              rw [last, isFeed] at third
              cases third
            · cases four
  have found := delimiter_of_first (delimiterAt_dataFrame data rest) first
  have whole : dataFrame data ++ rest = frameBody data ++ ([10, 10] ++ rest) := by
    rw [dataFrame_eq, List.append_assoc]
  have front : (dataFrame data ++ rest).take (frameBody data).length =
      frameBody data := by
    rw [whole, List.take_left]
  have back : (dataFrame data ++ rest).drop ((frameBody data).length + 2) =
      rest := by
    rw [whole, ← List.drop_drop, List.drop_left]
    rfl
  simp only [sseFraming, found, Option.map_some, front, back]

theorem cut_dataFrame_part {data : List Char} {rest : Bytes}
    {frame after : Bytes}
    (cut : sseFraming.cut (dataFrame data ++ rest) = some (frame, after))
    (isText : (decodeUtf8 frame).isSome) :
    ∃ part back, data = part ++ back ∧ frame = frameBody part ∧
      (back = [] → after = rest) := by
  obtain ⟨⟨place, size⟩, found, isCut⟩ := Option.map_eq_some_iff.mp cut
  obtain ⟨delimits, first⟩ := delimiter_eq_some found
  simp only [Prod.mk.injEq] at isCut
  obtain ⟨isFrame, isAfter⟩ := isCut
  have within : place ≤ (frameBody data).length :=
    Nat.le_of_not_lt fun beyond =>
      first _ beyond _ (delimiterAt_dataFrame data rest)
  have whole : dataFrame data ++ rest = frameBody data ++ ([10, 10] ++ rest) := by
    rw [dataFrame_eq, List.append_assoc]
  have taken : frame = (frameBody data).take place := by
    rw [← isFrame, whole, List.take_append_of_le_length within]
  -- No delimiter starts in the field name.
  have start : 6 ≤ place := by
    apply Nat.le_of_not_lt
    intro early
    have bytes : dataFrame data ++ rest =
        [100, 97, 116, 97, 58, 32] ++ (encodeUtf8 data ++ ([10, 10] ++ rest)) := by
      rw [whole, frameBody_eq, List.append_assoc]
    have here : (dataFrame data ++ rest)[place]? = some 10 ∨
        (dataFrame data ++ rest)[place]? = some 13 := by
      cases delimits with
      | lf here _ => exact .inl here
      | crlf here _ _ _ => exact .inr here
    rw [bytes, List.getElem?_append_left (by simpa using early)] at here
    interval_cases place <;> simp at here
  obtain ⟨text, decoded⟩ := Option.isSome_iff_exists.mp isText
  have encoded := encodeUtf8_of_decodeUtf8 decoded
  have parts : encodeUtf8 text.toList =
      encodeUtf8 "data: ".toList ++ (encodeUtf8 data).take (place - 6) := by
    rw [← encoded, taken, frameBody_eq, List.take_append,
      List.take_of_length_le (by simpa using start)]
    rfl
  obtain ⟨part, isPart, partBytes⟩ := exists_of_encodeUtf8_append parts
  have split : encodeUtf8 data =
      encodeUtf8 part ++ (encodeUtf8 data).drop (place - 6) := by
    rw [partBytes, List.take_append_drop]
  obtain ⟨back, isData, _⟩ := exists_of_encodeUtf8_append split
  refine ⟨part, back, isData, ?_, ?_⟩
  · rw [encoded, isPart]
    rfl
  · intro isAll
    rw [isAll, List.append_nil] at isData
    have same : (frameBody data).take place = frameBody data := by
      rw [← taken, encoded, isPart, isData]
      rfl
    have atEnd : place = (frameBody data).length := by
      have lengths := congrArg List.length same
      rw [List.length_take] at lengths
      omega
    have known := delimiter_of_first (delimiterAt_dataFrame data rest)
      (atEnd ▸ first)
    rw [found] at known
    obtain ⟨-, rfl⟩ := Prod.mk.inj (Option.some.inj known)
    rw [← isAfter, atEnd, whole, ← List.drop_drop, List.drop_left]
    rfl

section Replay

variable {parse : String → Option Json}

theorem doneFrame_eq : doneFrame = dataFrame "[DONE]".toList := by decide

theorem replay_cons (data : List Char) (rest : List (List Char)) :
    replay ((data :: rest).map dataFrame) =
      dataFrame data ++ replay (rest.map dataFrame) := by
  simp [replay]

theorem split_replay {data : List (List Char)}
    (oneLine : ∀ payload ∈ data, '\n' ∉ payload) :
    sseFraming.split (replay (data.map dataFrame)) =
      (data.map frameBody ++ [frameBody "[DONE]".toList], []) := by
  induction data with
  | nil =>
      have last := @cut_dataFrame "[DONE]".toList (by decide) []
      have noFrame : sseFraming.cut [] = none := rfl
      rw [List.append_nil] at last
      rw [List.map_nil, replay, List.flatten_nil, List.nil_append, doneFrame_eq,
        Framing.split_of_some last, Framing.split_of_none noFrame]
      rfl
  | cons payload rest induction =>
      have first := cut_dataFrame (oneLine payload List.mem_cons_self)
        (replay (rest.map dataFrame))
      have later := induction fun other member =>
        oneLine other (.tail _ member)
      rw [replay_cons, Framing.split_of_some first, later]
      rfl

theorem eventData_of_plain {data : List Char} (plain : Plain data) :
    eventData (frameBody data) = .ok [data] := by
  have unchanged : chomp data = data := if_neg plain.noReturn
  have events := eventData_frameBody plain.oneLine
    (frameBody_length data ▸ plain.fits)
  rwa [unchanged] at events

theorem joined_singleton (line : List Char) : joined [line] = line := by
  simp [joined]

theorem frameBody_ne_nil (data : List Char) : frameBody data ≠ [] := by
  intro empty
  have size := frameBody_length data
  rw [empty, List.length_nil] at size
  omega

theorem takeFrame_plain {data : List Char} {before : Progress}
    {known : Option String × Option String} (plain : Plain data)
    (notMark : isDoneMark data = false) (notDone : before.2.done = false)
    (agreed : acceptPayload parse before.2.known data = some known) :
    ∃ after, takeFrame parse before (frameBody data) = .ok after ∧
      after.2.done = false ∧ after.2.known = known := by
  unfold takeFrame
  rw [validateFrame_eq, eventData_of_plain plain]
  simp only [if_neg (frameBody_ne_nil data), notDone, Bool.false_eq_true,
    if_false, joined_singleton, notMark, List.cons_ne_nil]
  rw [show acceptPayload parse (before.2.messageId, before.2.model) data =
    some known from agreed]
  exact ⟨_, rfl, rfl, rfl⟩

theorem takeFrames_plain {data : List (List Char)} {before : Progress}
    {known : Option String × Option String}
    (plain : ∀ payload ∈ data, Plain payload)
    (notMark : ∀ payload ∈ data, isDoneMark payload = false)
    (notDone : before.2.done = false)
    (agreed : data.foldlM (acceptPayload parse) before.2.known = some known) :
    ∃ after, (data.map frameBody).foldlM (takeFrame parse) before = .ok after ∧
      after.2.done = false := by
  induction data generalizing before with
  | nil => exact ⟨before, rfl, notDone⟩
  | cons payload rest induction =>
      rw [List.foldlM_cons] at agreed
      cases first : acceptPayload parse before.2.known payload with
      | none =>
          rw [first] at agreed
          cases agreed
      | some next =>
          rw [first] at agreed
          obtain ⟨between, taken, stillOpen, isKnown⟩ :=
            takeFrame_plain (plain payload List.mem_cons_self)
              (notMark payload List.mem_cons_self) notDone first
          rw [List.map_cons, List.foldlM_cons, taken]
          exact induction (fun other member => plain other (.tail _ member))
            (fun other member => notMark other (.tail _ member)) stillOpen
            (isKnown ▸ agreed)

theorem takeFrame_mark {before : Progress} (notDone : before.2.done = false) :
    takeFrame parse before (frameBody "[DONE]".toList) =
      .ok (before.1 ++ [], { before.2 with
        frameCount := before.2.frameCount + 1
        done := true }) := by
  have plain : Plain "[DONE]".toList := ⟨by decide, by decide, by decide⟩
  have isMark : isDoneMark "[DONE]".toList = true := by decide
  unfold takeFrame
  rw [validateFrame_eq, eventData_of_plain plain]
  simp only [if_neg (frameBody_ne_nil _), notDone, Bool.false_eq_true,
    if_false, joined_singleton, List.cons_ne_nil]
  rw [if_pos isMark]
  rfl

theorem notMark_of_payload {frame : Bytes} {data : List Char}
    (isPayload : payload frame = some data) : isDoneMark data = false := by
  unfold payload at isPayload
  split at isPayload
  · split at isPayload
    case isTrue => cases isPayload
    case isFalse notMark =>
        cases isPayload
        exact Bool.eq_false_iff.mpr notMark
  · cases isPayload

theorem done_of_mark {before after : Progress} {frame : Bytes}
    {line : List Char} {more : List (List Char)}
    (accepted : takeFrame parse before frame = .ok after)
    (events : eventData frame = .ok (line :: more))
    (isMark : isDoneMark (joined (line :: more)) = true) :
    after.2.done = true := by
  unfold takeFrame at accepted
  rw [validateFrame_eq, events] at accepted
  have nonempty : frame ≠ [] := by
    intro empty
    subst empty
    cases events
  simp only [if_neg nonempty, if_pos isMark, List.cons_ne_nil, if_false]
    at accepted
  split at accepted
  · cases accepted
  · cases accepted
    rfl

theorem plain_of_read {data : List (List Char)} {before after : Progress}
    (accepted : (sseFraming.split (replay (data.map dataFrame))).1.foldlM
      (takeFrame parse) before = .ok after)
    (same : payloads (replay (data.map dataFrame)) = data) :
    ∀ payload ∈ data, Plain payload := by
  unfold payloads at same
  induction data generalizing before with
  | nil => exact fun _ member => absurd member List.not_mem_nil
  | cons data rest induction =>
      rw [replay_cons] at accepted same
      cases cut : sseFraming.cut
          (dataFrame data ++ replay (rest.map dataFrame)) with
      | none =>
          have missing := Option.map_eq_none_iff.mp cut
          exact absurd (delimiterAt_dataFrame data _) (delimiter_eq_none missing)
      | some parts =>
          obtain ⟨frame, later⟩ := parts
          rw [Framing.split_of_some cut] at accepted same
          rw [List.foldlM_cons] at accepted
          cases first : takeFrame parse before frame with
          | error failure =>
              rw [first] at accepted
              cases accepted
          | ok between =>
              rw [first] at accepted
              obtain ⟨dataLines, events⟩ := eventData_of_takeFrame first
              have short : frame.length ≤ frameLimit ∧
                  (decodeUtf8 frame).isSome := by
                unfold eventData at events
                split at events
                · cases events
                · split at events
                  · cases events
                  · exact ⟨Nat.le_of_not_lt ‹_›, by simp [*]⟩
              obtain ⟨part, back, isData, isFrame, follows⟩ :=
                cut_dataFrame_part cut short.2
              rw [isFrame] at events
              obtain ⟨line, more, rfl, atMost, equal⟩ := eventData_length events
              rw [← isFrame] at events
              have found := payload_of_eventData_cons events
              rw [List.filterMap_cons] at same
              by_cases isMark : isDoneMark (joined (line :: more)) = true
              · -- Nothing is read after the mark.
                rw [found, if_pos isMark] at same
                have nothing := (taken_of_foldlM accepted).finished
                  (done_of_mark first events isMark)
                rw [show (sseFraming.split later).1.filterMap payload =
                  data :: rest from same] at nothing
                cases nothing.1
              · rw [found, if_neg isMark] at same
                obtain ⟨isHead, isRest⟩ := List.cons.inj same
                rw [isHead] at atMost equal
                have noBack : back = [] := by
                  rw [isData, List.length_append] at atMost
                  exact List.length_eq_zero_iff.mp (by omega)
                have whole : data = part := by
                  rw [isData, noBack, List.append_nil]
                have goesOn := follows noBack
                subst goesOn
                subst whole
                obtain ⟨oneLine, noReturn⟩ := equal rfl
                intro payload member
                cases member with
                | head => exact {
                    oneLine
                    noReturn
                    fits := by
                      rw [← frameBody_length, ← isFrame]
                      exact short.1 }
                | tail _ member => exact induction accepted isRest payload member

theorem filterMap_payload {data : List (List Char)}
    (plain : ∀ payload ∈ data, Plain payload)
    (notMark : ∀ payload ∈ data, isDoneMark payload = false) :
    (data.map frameBody).filterMap payload = data := by
  have back : ∀ line ∈ data, payload (frameBody line) = some line := by
    intro line member
    rw [payload_of_eventData_cons (eventData_of_plain (plain line member)),
      joined_singleton, notMark line member]
    rfl
  rw [List.filterMap_map]
  exact (List.filterMap_congr back).trans List.filterMap_some

theorem payloads_replay {data : List (List Char)}
    (plain : ∀ payload ∈ data, Plain payload)
    (notMark : ∀ payload ∈ data, isDoneMark payload = false) :
    payloads (replay (data.map dataFrame)) = data := by
  have last : payload (frameBody "[DONE]".toList) = none := by decide
  rw [payloads, split_replay fun line member => (plain line member).oneLine,
    List.filterMap_append, filterMap_payload plain notMark,
    List.filterMap_cons_none last, List.filterMap_nil, List.append_nil]

namespace SseValidator

theorem verdict_eq_ok {chunks : List Bytes} {validator : SseValidator} :
    verdict parse chunks = .ok validator ↔
      chunks.foldlM (feed parse) initial = .ok validator ∧
        validator.finish = true := by
  unfold verdict
  cases chunks.foldlM (feed parse) initial with
  | error failure => simp
  | ok found =>
      cases isFinished : found.finish with
      | false =>
          simp only [isFinished, Bool.false_eq_true, if_false, reduceCtorEq,
            Except.ok.injEq, false_iff]
          intro claimed
          rw [← claimed.1, isFinished] at claimed
          cases claimed.2
      | true =>
          simp only [isFinished, if_true, Except.ok.injEq]
          exact ⟨fun same => ⟨same, same ▸ isFinished⟩, And.left⟩

theorem verdict_of_frames {stream rest : Bytes} {progress : Progress}
    (short : stream.length ≤ bufferLimit)
    (read : (sseFraming.split stream).1.foldlM (takeFrame parse)
      initial.reader.1 = .ok progress)
    (left : (sseFraming.split stream).2 = rest)
    (finished : (ofReader (progress, rest)).finish = true) :
    verdict parse [stream] = .ok (ofReader (progress, rest)) := by
  have whole : [stream].flatten = stream := List.append_nil stream
  have readAll : sseFraming.read (takeFrame parse) initial.reader stream =
      .ok (progress, rest) := Framing.read_eq_ok.mpr ⟨read, left⟩
  apply verdict_eq_ok.mpr
  refine ⟨?_, finished⟩
  rw [foldlM_feed_initial (by rwa [whole]), whole, readAll]
  rfl

/-- What an accepted stream emits is accepted again exactly when its payloads
are plain and fit in the buffer of the second reader. -/
theorem reemitted_iff {chunks : List Bytes} {validator : SseValidator}
    (accepted : verdict parse chunks = .ok validator) :
    Reemitted parse chunks validator ↔
      (∀ data ∈ payloads chunks.flatten, Plain data) ∧
        replayLength (payloads chunks.flatten) ≤ bufferLimit := by
  obtain ⟨fed, finished⟩ := verdict_eq_ok.mp accepted
  have taken : Taken parse (payloads chunks.flatten) initial.reader.1
      validator.reader.1 := taken_of_foldlM (frames_of_feed fed).1
  have emitted : validator.emitted =
      (payloads chunks.flatten).map dataFrame := taken.emitted
  have notMark : ∀ data ∈ payloads chunks.flatten, isDoneMark data = false := by
    intro data member
    obtain ⟨frame, _, isPayload⟩ := List.mem_filterMap.mp member
    exact notMark_of_payload isPayload
  have some_ : 1 ≤ (payloads chunks.flatten).length := by
    have counted := taken.counted
    simp only [finish, Bool.and_eq_true, decide_eq_true_eq] at finished
    have enough := finished.2
    simp only [reader, initial] at counted
    omega
  have whole : [replay validator.emitted].flatten = replay validator.emitted :=
    List.append_nil _
  constructor
  · intro reemitted
    obtain ⟨⟨again, isAgain, _⟩, same⟩ := reemitted
    obtain ⟨fedAgain, _⟩ := verdict_eq_ok.mp isAgain
    have read := (frames_of_feed fedAgain).1
    rw [whole, emitted] at read
    rw [emitted] at same
    refine ⟨plain_of_read read same, ?_⟩
    rw [← replay_length, ← emitted]
    apply Nat.le_of_not_lt
    intro full
    rw [List.foldlM_cons, feed, if_pos (by simpa [initial] using full)]
      at fedAgain
    cases fedAgain
  · intro holds
    obtain ⟨plain, short⟩ := holds
    obtain ⟨known, agreed⟩ : ∃ known, (payloads chunks.flatten).foldlM
        (acceptPayload parse) initial.reader.1.2.known = some known :=
      ⟨_, taken.known⟩
    obtain ⟨between, read, notDone⟩ := takeFrames_plain plain notMark rfl agreed
    have takenAgain := taken_of_foldlM read
    rw [filterMap_payload plain notMark] at takenAgain
    have readAgain : (sseFraming.split (replay validator.emitted)).1.foldlM
        (takeFrame parse) initial.reader.1 =
          .ok (between.1 ++ [], { between.2 with
            frameCount := between.2.frameCount + 1
            done := true }) := by
      rw [emitted, split_replay fun line member => (plain line member).oneLine,
        List.foldlM_append, read]
      change [frameBody "[DONE]".toList].foldlM (takeFrame parse) between = _
      rw [List.foldlM_cons, takeFrame_mark notDone]
      rfl
    have nothingLeft : (sseFraming.split (replay validator.emitted)).2 = [] := by
      rw [emitted, split_replay fun line member => (plain line member).oneLine]
    refine ⟨⟨_, verdict_of_frames ?_ readAgain nothingLeft ?_, ?_⟩, ?_⟩
    · rwa [emitted, replay_length]
    · have counted := takenAgain.counted
      exact decide_eq_true (show between.2.dataFrameCount ≥ 1 by omega)
    · simp only [ofReader, List.append_nil]
      rw [takenAgain.emitted, emitted]
      rfl
    · rw [emitted, payloads_replay plain notMark]

end SseValidator

end Replay

namespace Sse.Sample

def chunkTail : String := String.ofList (chunkText.toList.drop 1)

/-- A chunk written over two data lines. -/
def spread : Bytes :=
  utf8 ("data: \x7b\ndata: " ++ chunkTail ++ "\n\ndata: [DONE]\n\n")

def parseSpread (text : String) : Option Json :=
  if text = "\x7b\n" ++ chunkTail then some chunk else none

def spreadFrame : Bytes := utf8 ("data: \x7b\n" ++ chunkTail ++ "\n\n")

theorem reemitted_stream :
    ∃ validator, SseValidator.verdict parse [stream] = .ok validator ∧
      Reemitted parse [stream] validator := by
  have accepted : (SseValidator.verdict parse [stream]).toBool = true := by
    decide +kernel
  cases found : SseValidator.verdict parse [stream] with
  | error failure =>
      rw [found] at accepted
      cases accepted
  | ok validator =>
      have only : payloads [stream].flatten = [chunkText.toList] := by
        decide +kernel
      refine ⟨validator, rfl, (SseValidator.reemitted_iff found).mpr ?_⟩
      rw [only]
      refine ⟨?_, by decide +kernel⟩
      intro data member
      rw [List.mem_singleton] at member
      subst member
      exact ⟨by decide +kernel, by decide +kernel, by decide +kernel⟩

theorem spread_not_reemitted :
    ∃ validator, SseValidator.verdict parseSpread [spread] = .ok validator ∧
      validator.emitted = [spreadFrame] ∧
      SseValidator.verdict parseSpread [replay validator.emitted] =
        .error () ∧
      ¬ Reemitted parseSpread [spread] validator := by
  have accepted : (SseValidator.verdict parseSpread [spread]).map
      SseValidator.emitted = .ok [spreadFrame] := by
    decide +kernel
  cases found : SseValidator.verdict parseSpread [spread] with
  | error failure =>
      rw [found] at accepted
      cases accepted
  | ok validator =>
      rw [found] at accepted
      have emitted := Except.ok.inj accepted
      have rejected : SseValidator.verdict parseSpread
          [replay validator.emitted] = .error () := by
        rw [emitted]
        decide +kernel
      refine ⟨validator, rfl, emitted, rejected, ?_⟩
      intro reemitted
      obtain ⟨again, isAgain, _⟩ := reemitted.1
      rw [rejected] at isAgain
      cases isAgain

end Sse.Sample

end NvidiaBuildLb.Gateway
