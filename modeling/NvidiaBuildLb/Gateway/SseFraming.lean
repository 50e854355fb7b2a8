import NvidiaBuildLb.Gateway.SseValidator

namespace NvidiaBuildLb.Gateway

open Foundation NvidiaBuildLb.Core

/-! The validator as a reader of frames: what it makes of a stream does not
depend on where the stream was cut. -/

/-- A complete delimiter stands at the index; the second number is its
length. -/
inductive DelimiterAt (stream : Bytes) : Nat → Nat → Prop
  | lf {index : Nat} (first : stream[index]? = some 10)
      (second : stream[index + 1]? = some 10) : DelimiterAt stream index 2
  | crlf {index : Nat} (first : stream[index]? = some 13)
      (second : stream[index + 1]? = some 10)
      (third : stream[index + 2]? = some 13)
      (fourth : stream[index + 3]? = some 10) : DelimiterAt stream index 4

theorem windowPosition_eq_some {window stream : Bytes} {index : Nat}
    (found : windowPosition window stream = some index) :
    window <+: stream.drop index ∧
      ∀ earlier < index, ¬ window <+: stream.drop earlier := by
  induction stream generalizing index with
  | nil => cases found
  | cons byte rest induction =>
      unfold windowPosition at found
      split at found
      case isTrue here =>
          cases found
          exact ⟨List.isPrefixOf_iff_prefix.mp here, fun earlier before =>
            absurd before (Nat.not_lt_zero earlier)⟩
      case isFalse notHere =>
          obtain ⟨later, isLater, rfl⟩ := Option.map_eq_some_iff.mp found
          obtain ⟨stands, skipped⟩ := induction isLater
          refine ⟨stands, ?_⟩
          intro earlier before
          cases earlier with
          | zero => exact fun here =>
              notHere (List.isPrefixOf_iff_prefix.mpr here)
          | succ earlier => exact skipped earlier (by omega)

theorem windowPosition_eq_none {window stream : Bytes}
    (nonempty : window ≠ []) (missing : windowPosition window stream = none)
    (index : Nat) : ¬ window <+: stream.drop index := by
  induction stream generalizing index with
  | nil => simpa using nonempty
  | cons byte rest induction =>
      unfold windowPosition at missing
      split at missing
      case isTrue => cases missing
      case isFalse notHere =>
          cases index with
          | zero => exact fun here =>
              notHere (List.isPrefixOf_iff_prefix.mpr here)
          | succ index =>
              exact induction (Option.map_eq_none_iff.mp missing) index

section Delimiters

variable {stream : Bytes} {index length : Nat}

theorem cons_stands {byte : UInt8} {window : Bytes} :
    byte :: window <+: stream.drop index ↔
      stream[index]? = some byte ∧ window <+: stream.drop (index + 1) := by
  cases Nat.lt_or_ge index stream.length with
  | inl inside =>
      rw [List.drop_eq_getElem_cons inside, List.cons_prefix_cons,
        List.getElem?_eq_getElem inside, Option.some.injEq, eq_comm]
  | inr outside =>
      rw [List.drop_eq_nil_of_le outside, List.getElem?_eq_none outside]
      simp

theorem DelimiterAt.iff : DelimiterAt stream index length ↔
    (length = 2 ∧ [10, 10] <+: stream.drop index) ∨
      (length = 4 ∧ [13, 10, 13, 10] <+: stream.drop index) := by
  simp only [cons_stands, List.nil_prefix, and_true]
  constructor
  · intro delimits
    cases delimits with
    | lf first second => exact .inl ⟨rfl, first, second⟩
    | crlf first second third fourth =>
        exact .inr ⟨rfl, first, second, third, fourth⟩
  · intro stands
    cases stands with
    | inl lf =>
        obtain ⟨rfl, first, second⟩ := lf
        exact .lf first second
    | inr crlf =>
        obtain ⟨rfl, first, second, third, fourth⟩ := crlf
        exact .crlf first second third fourth

theorem DelimiterAt.inside (delimits : DelimiterAt stream index length) :
    index + length ≤ stream.length ∧ 2 ≤ length := by
  cases delimits with
  | lf _ second =>
      obtain ⟨inside, _⟩ := List.getElem?_eq_some_iff.mp second
      omega
  | crlf _ _ _ fourth =>
      obtain ⟨inside, _⟩ := List.getElem?_eq_some_iff.mp fourth
      omega

theorem delimiter_eq_some (found : delimiter stream = some (index, length)) :
    DelimiterAt stream index length ∧
      ∀ earlier < index, ∀ other, ¬ DelimiterAt stream earlier other := by
  have none_ : ∀ {window : Bytes}, window ≠ [] →
      windowPosition window stream = none → ∀ earlier,
        ¬ window <+: stream.drop earlier :=
    fun nonempty missing => windowPosition_eq_none nonempty missing
  unfold delimiter at found
  cases lf : windowPosition [10, 10] stream with
  | none =>
      cases crlf : windowPosition [13, 10, 13, 10] stream with
      | none => simp [lf, crlf] at found
      | some place =>
          simp only [lf, crlf, Option.some.injEq, Prod.mk.injEq] at found
          obtain ⟨rfl, rfl⟩ := found
          obtain ⟨stands, skipped⟩ := windowPosition_eq_some crlf
          refine ⟨DelimiterAt.iff.mpr (.inr ⟨rfl, stands⟩), ?_⟩
          intro earlier before other delimits
          cases DelimiterAt.iff.mp delimits with
          | inl isLf => exact none_ (by simp) lf earlier isLf.2
          | inr isCrlf => exact skipped earlier before isCrlf.2
  | some lfPlace =>
      obtain ⟨lfStands, lfSkipped⟩ := windowPosition_eq_some lf
      cases crlf : windowPosition [13, 10, 13, 10] stream with
      | none =>
          simp only [lf, crlf, Option.some.injEq, Prod.mk.injEq] at found
          obtain ⟨rfl, rfl⟩ := found
          refine ⟨DelimiterAt.iff.mpr (.inl ⟨rfl, lfStands⟩), ?_⟩
          intro earlier before other delimits
          cases DelimiterAt.iff.mp delimits with
          | inl isLf => exact lfSkipped earlier before isLf.2
          | inr isCrlf => exact none_ (by simp) crlf earlier isCrlf.2
      | some crlfPlace =>
          obtain ⟨crlfStands, crlfSkipped⟩ := windowPosition_eq_some crlf
          simp only [lf, crlf] at found
          split at found
          case isTrue crlfFirst =>
              cases found
              refine ⟨DelimiterAt.iff.mpr (.inr ⟨rfl, crlfStands⟩), ?_⟩
              intro earlier before other delimits
              cases DelimiterAt.iff.mp delimits with
              | inl isLf => exact lfSkipped earlier (by omega) isLf.2
              | inr isCrlf => exact crlfSkipped earlier before isCrlf.2
          case isFalse lfFirst =>
              cases found
              refine ⟨DelimiterAt.iff.mpr (.inl ⟨rfl, lfStands⟩), ?_⟩
              intro earlier before other delimits
              cases DelimiterAt.iff.mp delimits with
              | inl isLf => exact lfSkipped earlier before isLf.2
              | inr isCrlf => exact crlfSkipped earlier (by omega) isCrlf.2

theorem delimiter_eq_none (missing : delimiter stream = none) :
    ¬ DelimiterAt stream index length := by
  have nowhere : windowPosition [10, 10] stream = none ∧
      windowPosition [13, 10, 13, 10] stream = none := by
    unfold delimiter at missing
    cases lf : windowPosition [10, 10] stream <;>
      cases crlf : windowPosition [13, 10, 13, 10] stream
    · exact ⟨rfl, rfl⟩
    all_goals
      simp only [lf, crlf] at missing
      try split at missing
      all_goals cases missing
  intro delimits
  cases DelimiterAt.iff.mp delimits with
  | inl isLf =>
      exact windowPosition_eq_none (by simp) nowhere.1 index isLf.2
  | inr isCrlf =>
      exact windowPosition_eq_none (by simp) nowhere.2 index isCrlf.2

theorem delimiter_of_first (delimits : DelimiterAt stream index length)
    (first : ∀ earlier < index, ∀ other,
      ¬ DelimiterAt stream earlier other) :
    delimiter stream = some (index, length) := by
  cases found : delimiter stream with
  | none => exact absurd delimits (delimiter_eq_none found)
  | some place =>
      obtain ⟨foundDelimits, foundFirst⟩ := delimiter_eq_some found
      have same : place.1 = index := by
        apply Nat.le_antisymm
        · exact Nat.le_of_not_lt fun before =>
            foundFirst index before length delimits
        · exact Nat.le_of_not_lt fun before =>
            first place.1 before place.2 foundDelimits
      obtain ⟨place, size⟩ := place
      subst same
      cases delimits with
      | lf here _ =>
          cases foundDelimits with
          | lf => rfl
          | crlf other => cases here.symm.trans other
      | crlf here _ _ _ =>
          cases foundDelimits with
          | lf other _ => cases here.symm.trans other
          | crlf => rfl

theorem DelimiterAt.append (more : Bytes)
    (delimits : DelimiterAt stream index length) :
    DelimiterAt (stream ++ more) index length := by
  have kept : ∀ {place : Nat} {byte : UInt8}, stream[place]? = some byte →
      (stream ++ more)[place]? = some byte := by
    intro place byte isByte
    obtain ⟨inside, _⟩ := List.getElem?_eq_some_iff.mp isByte
    rw [List.getElem?_append_left inside, isByte]
  cases delimits with
  | lf first second => exact .lf (kept first) (kept second)
  | crlf first second third fourth =>
      exact .crlf (kept first) (kept second) (kept third) (kept fourth)

theorem DelimiterAt.of_append {more : Bytes}
    (delimits : DelimiterAt (stream ++ more) index length)
    (inside : index + length ≤ stream.length) :
    DelimiterAt stream index length := by
  have kept : ∀ {place : Nat} {byte : UInt8}, place < stream.length →
      (stream ++ more)[place]? = some byte → stream[place]? = some byte := by
    intro place byte within isByte
    rwa [List.getElem?_append_left within] at isByte
  cases delimits with
  | lf first second =>
      exact .lf (kept (by omega) first) (kept (by omega) second)
  | crlf first second third fourth =>
      exact .crlf (kept (by omega) first) (kept (by omega) second)
        (kept (by omega) third) (kept (by omega) fourth)

theorem DelimiterAt.ends_before {earlier other : Nat}
    (delimits : DelimiterAt stream index length) (before : earlier < index)
    (overlapping : DelimiterAt stream earlier other) :
    earlier + other ≤ index + length := by
  cases delimits with
  | crlf => cases overlapping <;> omega
  | lf first second =>
      cases overlapping with
      | lf => omega
      | crlf _ _ third _ =>
          -- The one case left puts a carriage return on a line feed.
          apply Nat.le_of_not_lt
          intro after
          have same : earlier + 2 = index + 1 := by omega
          rw [same, second] at third
          cases third

theorem delimiter_append (more : Bytes)
    (found : delimiter stream = some (index, length)) :
    delimiter (stream ++ more) = some (index, length) := by
  obtain ⟨delimits, first⟩ := delimiter_eq_some found
  apply delimiter_of_first (delimits.append more)
  intro earlier before other overlapping
  have ends := (delimits.append more).ends_before before overlapping
  exact first earlier before other
    (overlapping.of_append (ends.trans delimits.inside.1))

end Delimiters

/-- Frames end at the first delimiter, which is dropped. -/
def sseFraming : Framing UInt8 where
  cut := fun stream => (delimiter stream).map fun place =>
    (stream.take place.1, stream.drop (place.1 + place.2))
  shrinks := by
    intro stream frame rest cut
    obtain ⟨place, found, isCut⟩ := Option.map_eq_some_iff.mp cut
    obtain ⟨inside, positive⟩ := (delimiter_eq_some found).1.inside
    cases isCut
    rw [List.length_drop]
    omega
  extends_ := by
    intro stream frame rest more cut
    obtain ⟨place, found, isCut⟩ := Option.map_eq_some_iff.mp cut
    obtain ⟨inside, positive⟩ := (delimiter_eq_some found).1.inside
    cases isCut
    rw [delimiter_append more found, Option.map_some,
      List.take_append_of_le_length (by omega),
      List.drop_append_of_le_length inside]

section Reading

variable (parse : String → Option Json)

/-- What has been emitted so far and what later frames are checked against. -/
abbrev Progress := List Bytes × FrameChecks

def takeFrame (progress : Progress) (frame : Bytes) : Except Unit Progress :=
  (validateFrame parse progress.2 frame).map fun result =>
    (progress.1 ++ result.2, result.1)

namespace SseValidator

def reader (validator : SseValidator) : Progress × Bytes :=
  ((validator.emitted, validator.checks), validator.buffer)

def ofReader (reader : Progress × Bytes) : SseValidator where
  buffer := reader.2
  emitted := reader.1.1
  checks := reader.1.2

/-- Chunks as they arrive, and the end of the stream. -/
def verdict (chunks : List Bytes) : Except Unit SseValidator :=
  match chunks.foldlM (feed parse) initial with
  | .error () => .error ()
  | .ok validator => if validator.finish then .ok validator else .error ()

end SseValidator

variable {parse}

theorem feedLoop_eq (rounds : Nat) (validator : SseValidator)
    (enough : validator.buffer.length ≤ rounds) :
    feedLoop parse rounds validator =
      ((sseFraming.split validator.buffer).1.foldlM (takeFrame parse)
        (validator.emitted, validator.checks)).map fun progress =>
          .ofReader (progress, (sseFraming.split validator.buffer).2) := by
  induction rounds generalizing validator with
  | zero =>
      have empty : validator.buffer = [] :=
        List.length_eq_zero_iff.mp (Nat.le_zero.mp enough)
      have noFrame : sseFraming.cut [] = none := rfl
      rw [empty, Framing.split_of_none noFrame, ← empty]
      rfl
  | succ rounds induction =>
      unfold feedLoop
      cases found : delimiter validator.buffer with
      | none =>
          have noFrame : sseFraming.cut validator.buffer = none := by
            simp [sseFraming, found]
          rw [Framing.split_of_none noFrame]
          rfl
      | some place =>
          obtain ⟨index, length⟩ := place
          have cut : sseFraming.cut validator.buffer =
              some (validator.buffer.take index,
                validator.buffer.drop (index + length)) := by
            simp [sseFraming, found]
          have shorter := sseFraming.shrinks cut
          rw [Framing.split_of_some cut, List.foldlM_cons]
          simp only [takeFrame]
          cases validateFrame parse validator.checks
              (validator.buffer.take index) with
          | error failure => rfl
          | ok result => exact induction _ (by simp only; omega)

theorem SseValidator.feed_eq {validator : SseValidator} {chunk : Bytes}
    (room : validator.buffer.length + chunk.length ≤ bufferLimit) :
    validator.feed parse chunk =
      (sseFraming.read (takeFrame parse) validator.reader chunk).map
        ofReader := by
  have fits : ¬ validator.buffer.length + chunk.length > bufferLimit :=
    Nat.not_lt.mpr room
  rw [feed, if_neg fits, feedLoop_eq _ _ (by simp)]
  simp only [Framing.read, reader]
  cases (sseFraming.split (validator.buffer ++ chunk)).1.foldlM
    (takeFrame parse) (validator.emitted, validator.checks) <;> rfl

theorem rest_length_le (stream : Bytes) :
    (sseFraming.split stream).2.length ≤ stream.length := by
  induction length : stream.length using Nat.strongRecOn
    generalizing stream with
  | _ size induction =>
      subst length
      cases found : sseFraming.cut stream with
      | none => rw [Framing.split_of_none found]
      | some cut =>
          obtain ⟨frame, rest⟩ := cut
          rw [Framing.split_of_some found]
          have shorter := sseFraming.shrinks found
          exact (induction _ shorter rest rfl).trans (Nat.le_of_lt shorter)

theorem SseValidator.foldlM_feed {validator : SseValidator}
    {chunks : List Bytes}
    (room : validator.buffer.length + chunks.flatten.length ≤ bufferLimit) :
    chunks.foldlM (feed parse) validator =
      (chunks.foldlM (sseFraming.read (takeFrame parse))
        validator.reader).map ofReader := by
  induction chunks generalizing validator with
  | nil => rfl
  | cons chunk rest induction =>
      rw [List.flatten_cons, List.length_append] at room
      rw [List.foldlM_cons, List.foldlM_cons, feed_eq (by omega)]
      cases readChunk : sseFraming.read (takeFrame parse) validator.reader
          chunk with
      | error failure => rfl
      | ok after =>
          have left := (Framing.read_eq_ok.mp readChunk).2
          have bound := rest_length_le (validator.reader.2 ++ chunk)
          rw [left, List.length_append] at bound
          exact @induction (ofReader after) (by
            simp only [ofReader, reader] at bound ⊢
            omega)

theorem SseValidator.foldlM_feed_initial {chunks : List Bytes}
    (short : chunks.flatten.length ≤ bufferLimit) :
    chunks.foldlM (feed parse) initial =
      (sseFraming.read (takeFrame parse) initial.reader chunks.flatten).map
        ofReader := by
  have settled : sseFraming.split initial.reader.2 =
      ([], initial.reader.2) := Framing.split_of_none rfl
  rw [foldlM_feed (by simpa [initial] using short),
    Framing.foldlM_read settled]

/-- However a stream below the limit is cut, it gets the same verdict, and a
stream that is accepted leaves the same frames and the same state. -/
theorem SseValidator.verdict_chunks {bytes : Bytes}
    (short : bytes.length < bufferLimit) (chunks : List Bytes)
    (cut : chunks.flatten = bytes) :
    verdict parse chunks = verdict parse [bytes] := by
  have whole : [bytes].flatten = bytes := by simp
  unfold verdict
  rw [foldlM_feed_initial (by rw [cut]; omega),
    foldlM_feed_initial (by rw [whole]; omega), cut, whole]

end Reading

namespace Sse.Sample

def chunkText : String :=
  "\x7b\"id\":\"é\",\"object\":\"chat.completion.chunk\",\"model\":\"m\"," ++
    "\"choices\":[\x7b\"index\":0,\"delta\":\x7b\x7d," ++
    "\"finish_reason\":null\x7d]\x7d"

def chunk : Json :=
  .object [("id", .string "é"), ("object", .string "chat.completion.chunk"),
    ("model", .string "m"), ("choices", .array [.object [
      ("index", .number (.posInt 0)), ("delta", .object []),
      ("finish_reason", .null)]])]

def parse (text : String) : Option Json :=
  if text = chunkText then some chunk else none

def stream : Bytes :=
  utf8 ("data: " ++ chunkText ++ "\r\n\r\ndata: [DONE]\n\n")

/-- Cut in the middle of a character and in the middle of a delimiter. -/
def pieces : List Bytes :=
  let rest := stream.drop 14
  [stream.take 14, rest.take (rest.length - 17), rest.drop (rest.length - 17)]

theorem verdict_chunks_pieces :
    pieces.length = 3 ∧
      (SseValidator.verdict parse [stream]).toBool = true ∧
      SseValidator.verdict parse pieces = SseValidator.verdict parse [stream] := by
  refine ⟨rfl, by decide +kernel, ?_⟩
  exact SseValidator.verdict_chunks (by decide +kernel) pieces
    (by decide +kernel)

end Sse.Sample

end NvidiaBuildLb.Gateway
