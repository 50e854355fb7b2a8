import NvidiaBuildLb.Foundation.Checked
import NvidiaBuildLb.Gateway.Media

namespace NvidiaBuildLb.Gateway.MediaChecks

open Foundation NvidiaBuildLb.Core

/-! The checks of media as the machine runs them: every index is compared with
the length, every sum with 64 bits, and the loops of the JPEG check have a
state. -/

def fillStep (bytes : Slice UInt8) (index : Nat) : Checked (LoopStep Nat Nat) :=
  if index < bytes.length then do
    if (← bytes.at_ index) = 0xff then
      return .next (← addUsize index 1)
    else
      return .stop index
  else
    return .stop index

structure JpegState where
  index : Nat
  hasFrame : Bool

def beU16 (bytes : Slice UInt8) (index first second : Nat) : Checked Nat := do
  let high ← bytes.at_ (← addUsize index first)
  let low ← bytes.at_ (← addUsize index second)
  return bigEndian [high, low]

/-- Behind a marker that has a segment; `index` is where its length stands. -/
def segmentStep (bytes : Slice UInt8) (marker : UInt8) (index : Nat)
    (hasFrame : Bool) : Checked (LoopStep JpegState Bool) := do
  if bytes.length < (← addUsize index 2) then
    return .stop false
  else
    let segmentLen ← beU16 bytes index 0 1
    if segmentLen < 2 then
      return .stop false
    else
      if bytes.length < (← addUsize index segmentLen) then
        return .stop false
      else if 0xc0 ≤ marker && marker ≤ 0xc3 then
        if segmentLen < 7 then
          return .stop false
        else
          let height ← beU16 bytes index 3 4
          let width ← beU16 bytes index 5 6
          return .next ⟨← addUsize index segmentLen,
            decide (0 < width) && decide (0 < height)⟩
      else
        return .next ⟨← addUsize index segmentLen, hasFrame⟩

def jpegStep (bytes : Slice UInt8) (state : JpegState) :
    Checked (LoopStep JpegState Bool) := do
  if (← addUsize state.index 3) < bytes.length - 2 then
    if (← bytes.at_ state.index) ≠ 0xff then
      return .next ⟨← addUsize state.index 1, state.hasFrame⟩
    else
      let index ← iterate (fillStep bytes) (bytes.length + 1) state.index
      if bytes.length ≤ index then
        return .stop state.hasFrame
      else
        let marker ← bytes.at_ index
        let index ← addUsize index 1
        if marker = 0xd9 || marker = 0xda then
          return .stop state.hasFrame
        else if marker = 0xd8 || marker = 0x01 ||
            (0xd0 ≤ marker && marker ≤ 0xd7) then
          return .next ⟨index, state.hasFrame⟩
        else
          segmentStep bytes marker index state.hasFrame
  else
    return .stop state.hasFrame

def validJpeg (bytes : Slice UInt8) : Checked Bool :=
  if bytes.length < 16 || !List.isPrefixOf [0xff, 0xd8] bytes.items ||
      !List.isSuffixOf [0xff, 0xd9] bytes.items then
    return false
  else
    iterate (jpegStep bytes) (bytes.length + 1) ⟨2, false⟩

def validPng (bytes : Slice UInt8) : Checked Bool :=
  return decide (24 ≤ bytes.length) &&
    (0x89 :: utf8 "PNG\r\n" ++ [0x1a, 0x0a]).isPrefixOf bytes.items &&
    hasWindow (utf8 "IEND") bytes.items

def validMp4 (bytes : Slice UInt8) : Checked Bool :=
  if bytes.length < 16 then
    return false
  else do
    if (← bytes.range 4 8) ≠ utf8 "ftyp" then
      return false
    else
      let size := bigEndian (← bytes.range 0 4)
      if 16 ≤ size ∧ size ≤ bytes.length then
        return hasWindow (utf8 "isom") (← bytes.range 8 size) &&
          hasWindow (utf8 "moov") bytes.items
      else
        return false

/-- Little endian, as a WAV file stores its sizes. -/
def littleEndian (bytes : Bytes) : Nat :=
  bigEndian bytes.reverse

/-- Where `window` stands first. -/
def windowPosition (window bytes : Bytes) : Option Nat :=
  bytes.tails.findIdx? window.isPrefixOf

def validWav (bytes : Slice UInt8) : Checked Bool :=
  if bytes.length < 44 then
    return false
  else do
    if (← bytes.range 0 4) ≠ utf8 "RIFF" then
      return false
    else
      if (← bytes.range 8 12) ≠ utf8 "WAVE" then
        return false
      else
        let fmtSize := littleEndian (← bytes.range 16 20)
        let channels := littleEndian (← bytes.range 22 24)
        let sampleRate := littleEndian (← bytes.range 24 28)
        let bits := littleEndian (← bytes.range 34 36)
        let riffSize := littleEndian (← bytes.range 4 8)
        match windowPosition (utf8 "data") bytes.items with
        | none => return false
        | some dataOffset =>
            if bytes.length < (← addUsize dataOffset 8) then
              return false
            else
              let dataSize := littleEndian (← bytes.range
                (← addUsize dataOffset 4) (← addUsize dataOffset 8))
              if 16 ≤ fmtSize ∧ channels = 1 ∧ sampleRate = 44100 ∧ bits = 16 then
                if (← addUsize riffSize 8) = bytes.length ∧ 0 < dataSize then
                  return decide
                    ((← addUsize (← addUsize dataOffset 8) dataSize) = bytes.length)
                else
                  return false
              else
                return false

/-- How far the run of fill bytes reaches from `index`. -/
def fillEnd (bytes : Bytes) (index : Nat) : Nat :=
  index + ((bytes.drop index).takeWhile fun byte => byte == 0xff).length

private theorem fillEnd_next {bytes : Bytes} {index : Nat}
    (inside : index < bytes.length) (fill : bytes[index] = 0xff) :
    fillEnd bytes (index + 1) = fillEnd bytes index := by
  rw [fillEnd, fillEnd, List.drop_eq_getElem_cons inside,
    List.takeWhile_cons_of_pos (by simp [fill]), List.length_cons]
  omega

private theorem fillEnd_other {bytes : Bytes} {index : Nat}
    (inside : index < bytes.length) (other : bytes[index] ≠ 0xff) :
    fillEnd bytes index = index := by
  rw [fillEnd, List.drop_eq_getElem_cons inside,
    List.takeWhile_cons_of_neg (by simp [other])]
  rfl

private theorem fillEnd_outside {bytes : Bytes} {index : Nat}
    (outside : ¬ index < bytes.length) : fillEnd bytes index = index := by
  rw [fillEnd, List.drop_eq_nil_of_le (Nat.le_of_not_lt outside)]
  rfl

theorem fillStep_turn (bytes : Slice UInt8) (index : Nat) :
    fillStep bytes index = .ok (.stop (fillEnd bytes.items index)) ∨
      fillStep bytes index = .ok (.next (index + 1)) ∧
        index + 1 ≤ bytes.length ∧
        fillEnd bytes.items (index + 1) = fillEnd bytes.items index := by
  have bounded := bytes.length_lt
  by_cases further : index < bytes.length
  case neg =>
      left
      rw [fillStep, if_neg further, fillEnd_outside further]
      rfl
  case pos =>
      rw [fillStep, if_pos further, Slice.at_inside bytes further,
        addUsize_small (by omega)]
      by_cases fill : bytes.items[index] = 0xff
      case pos =>
          right
          refine ⟨?_, further, fillEnd_next further fill⟩
          simp [bind, Except.bind, pure, Except.pure, fill]
      case neg =>
          left
          rw [fillEnd_other further fill]
          simp [bind, Except.bind, pure, Except.pure, fill]

theorem fill_ends (bytes : Slice UInt8) {index : Nat}
    (inside : index ≤ bytes.length) :
    iterate (fillStep bytes) (bytes.length + 1) index =
      .ok (fillEnd bytes.items index) := by
  refine iterate_eq (fun index => index ≤ bytes.length)
    (fun index => bytes.length - index) ?_ inside (by omega)
  intro index inside
  rcases fillStep_turn bytes index with stops | ⟨goes, still, same⟩
  · exact .inl stops
  · exact .inr ⟨index + 1, goes, still, by omega, same⟩

private theorem take_two {bytes : Bytes} {index : Nat}
    (inside : index + 1 < bytes.length) :
    (bytes.drop index).take 2 = [bytes[index], bytes[index + 1]] := by
  rw [List.drop_eq_getElem_cons (by omega), List.drop_eq_getElem_cons inside]
  rfl

theorem beU16_inside (bytes : Slice UInt8) {index offset : Nat}
    (inside : index + offset + 1 < bytes.length) :
    beU16 bytes index offset (offset + 1) =
      .ok (bigEndian ((bytes.items.drop (index + offset)).take 2)) := by
  have bounded := bytes.length_lt
  rw [beU16, addUsize_small (by omega), addUsize_small (by omega), take_two inside]
  simp only [bind, Except.bind]
  rw [Slice.at_inside bytes (by omega), Slice.at_inside bytes (by omega)]
  rfl

theorem bigEndian_lt (bytes : Bytes) :
    bigEndian bytes < 256 ^ bytes.length := by
  induction bytes using List.reverseRecOn with
  | nil => exact Nat.one_pos
  | append_singleton bytes byte induction =>
      have small := byte.toNat_lt
      rw [bigEndian, List.foldl_append, List.length_append, Nat.pow_add]
      change bigEndian bytes * 256 + byte.toNat < _ * 256
      omega

private theorem bigEndian_two (bytes : Bytes) :
    bigEndian (bytes.take 2) < 2 ^ 16 :=
  Nat.lt_of_lt_of_le (bigEndian_lt _)
    (Nat.pow_le_pow_right (by decide : 0 < 256) (List.length_take_le 2 bytes))

/-- What the segments from a state on come to. -/
def JpegState.result (bytes : Slice UInt8) (state : JpegState) : Bool :=
  jpegSegments bytes.items state.index state.hasFrame

/-- A turn answers with what the segments come to, or moves the index forward
and not beyond the end. -/
def Turns (bytes : Slice UInt8) (index : Nat) (result : Bool)
    (turn : Checked (LoopStep JpegState Bool)) : Prop :=
  turn = .ok (.stop result) ∨
    ∃ after, turn = .ok (.next after) ∧ after.index ≤ bytes.length ∧
      index < after.index ∧ after.result bytes = result

def segmentResult (bytes : Bytes) (marker : UInt8) (start : Nat)
    (hasFrame : Bool) : Bool :=
  if bytes.length < start + 2 then
    false
  else
    let segmentLen := bigEndian ((bytes.drop start).take 2)
    if segmentLen < 2 || bytes.length < start + segmentLen then
      false
    else if 0xc0 ≤ marker && marker ≤ 0xc3 then
      if segmentLen < 7 then
        false
      else
        let height := bigEndian ((bytes.drop (start + 3)).take 2)
        let width := bigEndian ((bytes.drop (start + 5)).take 2)
        jpegSegments bytes (start + segmentLen)
          (decide (0 < width) && decide (0 < height))
    else
      jpegSegments bytes (start + segmentLen) hasFrame

theorem segmentStep_turns (bytes : Slice UInt8) (marker : UInt8) {index : Nat}
    (inside : index ≤ bytes.length) (hasFrame : Bool) :
    Turns bytes index (segmentResult bytes.items marker index hasFrame)
      (segmentStep bytes marker index hasFrame) := by
  have bounded := bytes.length_lt
  simp only [segmentStep, segmentResult, Slice.length_items, bind, pure]
  rw [addUsize_small (by omega), Except.bind]
  by_cases noLength : bytes.length < index + 2
  case pos =>
      rw [if_pos noLength, if_pos noLength]
      exact .inl rfl
  case neg =>
      rw [if_neg noLength, if_neg noLength, beU16_inside bytes (by omega)]
      have small := bigEndian_two (bytes.items.drop index)
      simp only [Nat.add_zero, Except.bind]
      generalize bigEndian ((bytes.items.drop index).take 2) = segmentLen at small ⊢
      by_cases empty : segmentLen < 2
      case pos =>
          left
          simp [empty, Except.pure]
      case neg =>
          rw [if_neg empty, addUsize_small (by omega)]
          by_cases long : bytes.length < index + segmentLen
          case pos =>
              left
              simp [long, Except.pure]
          case neg =>
              have further : ∀ frame, Turns bytes index
                  (jpegSegments bytes.items (index + segmentLen) frame)
                  (.ok (.next ⟨index + segmentLen, frame⟩)) := fun frame =>
                .inr ⟨_, rfl, Nat.le_of_not_lt long, by simp; omega, rfl⟩
              simp only [empty, long, if_false, decide_false, Bool.or_self,
                Bool.false_eq_true]
              by_cases frame : (0xc0 ≤ marker && marker ≤ 0xc3) = true
              case neg =>
                  rw [if_neg frame, if_neg frame]
                  exact further hasFrame
              case pos =>
                  rw [if_pos frame, if_pos frame]
                  by_cases short : segmentLen < 7
                  case pos =>
                      rw [if_pos short, if_pos short]
                      exact .inl rfl
                  case neg =>
                      rw [if_neg short, if_neg short, beU16_inside bytes (by omega),
                        beU16_inside bytes (by omega)]
                      exact further _

private theorem byteAt_inside (bytes : Slice UInt8) {index : Nat}
    (inside : index < bytes.length) :
    bytes.at_ index = .ok (byteAt bytes.items index) := by
  rw [Slice.at_inside bytes inside, byteAt, List.getD_eq_getElem?_getD,
    List.getElem?_eq_getElem inside]
  rfl

private theorem Turns.earlier {bytes : Slice UInt8} {index behind : Nat}
    {result : Bool} {turn : Checked (LoopStep JpegState Bool)}
    (turns : Turns bytes behind result turn) (ordered : index ≤ behind) :
    Turns bytes index result turn := by
  rcases turns with stops | ⟨after, goes, inside, further, same⟩
  · exact .inl stops
  · exact .inr ⟨after, goes, inside, Nat.lt_of_le_of_lt ordered further, same⟩

theorem jpegStep_turns (bytes : Slice UInt8) {state : JpegState}
    (inside : state.index ≤ bytes.length) :
    Turns bytes state.index (state.result bytes) (jpegStep bytes state) := by
  have bounded := bytes.length_lt
  rw [JpegState.result, jpegSegments]
  simp only [jpegStep, Slice.length_items, bind, pure]
  rw [addUsize_small (by omega), Except.bind]
  by_cases further : state.index + 3 < bytes.length - 2
  case neg =>
      rw [dif_neg further, if_neg further]
      exact .inl rfl
  case pos =>
      rw [dif_pos further, if_pos further, byteAt_inside bytes (by omega)]
      simp only [Except.bind]
      by_cases other : byteAt bytes.items state.index ≠ 0xff
      case pos =>
          rw [if_pos other, if_pos other, addUsize_small (by omega)]
          exact .inr ⟨_, rfl, by simp; omega, by simp, rfl⟩
      case neg =>
          rw [if_neg other, if_neg other, fill_ends bytes inside]
          have reaches : state.index ≤ fillEnd bytes.items state.index :=
            Nat.le_add_right _ _
          change Turns _ _ (if _ ≤ fillEnd bytes.items state.index then _ else _) _
          rw [← fillEnd]
          generalize fillEnd bytes.items state.index = filled at reaches ⊢
          simp only []
          by_cases ended : bytes.length ≤ filled
          case pos =>
              rw [if_pos ended, if_pos ended]
              exact .inl rfl
          case neg =>
              rw [if_neg ended, if_neg ended, byteAt_inside bytes (by omega),
                addUsize_small (by omega)]
              generalize byteAt bytes.items filled = marker
              simp only []
              by_cases last : (marker = 0xd9 || marker = 0xda) = true
              case pos =>
                  rw [if_pos last, if_pos last]
                  exact .inl rfl
              case neg =>
                  rw [if_neg last, if_neg last]
                  by_cases bare : (marker = 0xd8 || marker = 0x01 ||
                      (0xd0 ≤ marker && marker ≤ 0xd7)) = true
                  case pos =>
                      rw [if_pos bare, if_pos bare]
                      exact .inr ⟨_, rfl, by simp; omega, by simp; omega, rfl⟩
                  case neg =>
                      rw [if_neg bare, if_neg bare]
                      have behind : filled + 1 ≤ bytes.length := by omega
                      exact (segmentStep_turns bytes marker behind
                        state.hasFrame).earlier (by omega)

theorem jpegStep_inside {bytes : Slice UInt8} {before after : JpegState}
    (goes : jpegStep bytes before = .ok (.next after)) :
    before.index ≤ bytes.length := by
  apply Classical.byContradiction
  intro beyond
  simp only [jpegStep, bind, addUsize] at goes
  split at goes
  case isTrue =>
      simp only [Except.bind] at goes
      rw [if_neg (by omega)] at goes
      cases goes
  case isFalse => cases goes

theorem segments_end (bytes : Slice UInt8) {state : JpegState}
    (inside : state.index ≤ bytes.length) :
    iterate (jpegStep bytes) (bytes.length + 1) state =
      .ok (state.result bytes) := by
  refine iterate_eq (fun state => state.index ≤ bytes.length)
    (fun state => bytes.length - state.index) ?_ inside (by omega)
  intro state inside
  rcases jpegStep_turns bytes inside with stops | ⟨after, goes, still, further, same⟩
  · exact .inl stops
  · exact .inr ⟨after, goes, still, by omega, same⟩

theorem validJpeg_eq (bytes : Slice UInt8) :
    validJpeg bytes = .ok (Gateway.validJpeg bytes.items) := by
  rw [validJpeg, Gateway.validJpeg, Slice.length_items]
  by_cases refused : (bytes.length < 16 ||
      !List.isPrefixOf [0xff, 0xd8] bytes.items ||
      !List.isSuffixOf [0xff, 0xd9] bytes.items) = true
  case pos =>
      rw [if_pos refused, if_pos refused]
      rfl
  case neg =>
      rw [if_neg refused, if_neg refused]
      apply segments_end
      simp only [Bool.or_eq_true, decide_eq_true_eq, not_or] at refused
      simp only
      omega

theorem validMp4_eq (bytes : Slice UInt8) :
    validMp4 bytes = .ok (Gateway.validMp4 bytes.items) := by
  rw [validMp4, Gateway.validMp4, Slice.length_items]
  by_cases short : bytes.length < 16
  case pos => simp [short, pure, Except.pure]
  case neg =>
      rw [if_neg short, Slice.range_inside bytes (by decide) (by omega),
        Slice.range_inside bytes (by decide) (by omega)]
      simp only [bind, Except.bind, pure, Except.pure, List.drop_zero]
      have brand : (bytes.items.take 8).drop 4 = (bytes.items.drop 4).take 4 :=
        List.drop_take
      rw [brand]
      by_cases other : (bytes.items.drop 4).take 4 ≠ utf8 "ftyp"
      case pos => simp [other]
      case neg =>
          rw [if_neg other]
          by_cases fits : 16 ≤ bigEndian (bytes.items.take 4) ∧
              bigEndian (bytes.items.take 4) ≤ bytes.length
          case pos =>
              rw [if_pos fits, Slice.range_inside bytes (by omega) fits.2]
              simp [short, other, fits]
          case neg =>
              rw [if_neg fits]
              rw [not_and] at fits
              simp [short, other]
              omega

private theorem littleEndian_range (bytes : Bytes) (start stop : Nat) :
    littleEndian ((bytes.take stop).drop start) < 256 ^ (stop - start) := by
  refine Nat.lt_of_lt_of_le (bigEndian_lt _)
    (Nat.pow_le_pow_right (by decide : 0 < 256) ?_)
  rw [List.length_reverse, List.length_drop, List.length_take]
  omega

private theorem windowPosition_le {window bytes : Bytes} {position : Nat}
    (found : windowPosition window bytes = some position) :
    position ≤ bytes.length := by
  have inside := (List.findIdx?_eq_some_iff_getElem.mp found).1
  rw [List.length_tails] at inside
  omega

theorem validWav_ok (bytes : Slice UInt8) :
    ∃ verdict, validWav bytes = .ok verdict := by
  have bounded := bytes.length_lt
  by_cases short : bytes.length < 44
  case pos => exact ⟨false, if_pos short⟩
  case neg =>
      have inside : ∀ {start stop : Nat}, start ≤ stop → stop ≤ 44 →
          bytes.range start stop = .ok ((bytes.items.take stop).drop start) :=
        fun ordered bound => Slice.range_inside bytes ordered (by omega)
      rw [validWav, if_neg short, inside (by decide) (by decide),
        inside (by decide) (by decide), inside (by decide) (by decide),
        inside (by decide) (by decide), inside (by decide) (by decide),
        inside (by decide) (by decide), inside (by decide) (by decide)]
      simp only [bind, Except.bind, pure, Except.pure]
      split
      case isTrue => exact ⟨false, rfl⟩
      split
      case isTrue => exact ⟨false, rfl⟩
      cases found : windowPosition (utf8 "data") bytes.items with
      | none => exact ⟨false, rfl⟩
      | some dataOffset =>
          have before := windowPosition_le found
          rw [Slice.length_items] at before
          have header : addUsize dataOffset 8 = .ok (dataOffset + 8) :=
            addUsize_small (by omega)
          have sizeStart : addUsize dataOffset 4 = .ok (dataOffset + 4) :=
            addUsize_small (by omega)
          simp only [header, sizeStart]
          by_cases outside : bytes.length < dataOffset + 8
          case pos => exact ⟨false, if_pos outside⟩
          case neg =>
              rw [if_neg outside, Slice.range_inside bytes (by omega) (by omega)]
              have riffFits := addUsize_small (Nat.lt_of_lt_of_le
                (Nat.add_lt_add_right (littleEndian_range bytes.items 4 8) 8)
                (by decide))
              have dataSmall := littleEndian_range bytes.items (dataOffset + 4)
                (dataOffset + 8)
              rw [Nat.add_sub_add_left] at dataSmall
              simp only
              generalize littleEndian ((bytes.items.take (dataOffset + 8)).drop
                (dataOffset + 4)) = dataSize at dataSmall ⊢
              have dataFits : addUsize (dataOffset + 8) dataSize =
                  .ok (dataOffset + 8 + dataSize) :=
                addUsize_small (by omega)
              simp only [riffFits, dataFits]
              split
              case isTrue =>
                  split
                  case isTrue => exact ⟨_, rfl⟩
                  case isFalse => exact ⟨false, rfl⟩
              case isFalse => exact ⟨false, rfl⟩

/-- Whatever the bytes, the four checks end without an index outside the slice
and without a sum beyond 64 bits, and every turn of a loop moves its index
forward. -/
theorem media_checks_safe (bytes : Slice UInt8) :
    validJpeg bytes = .ok (Gateway.validJpeg bytes.items) ∧
      validPng bytes = .ok (Gateway.validPng bytes.items) ∧
      validMp4 bytes = .ok (Gateway.validMp4 bytes.items) ∧
      (∃ verdict, validWav bytes = .ok verdict) ∧
      (∀ before after, jpegStep bytes before = .ok (.next after) →
        before.index < after.index ∧ after.index ≤ bytes.length) ∧
      ∀ before after, fillStep bytes before = .ok (.next after) →
        before < after ∧ after ≤ bytes.length := by
  refine ⟨validJpeg_eq bytes, rfl, validMp4_eq bytes, validWav_ok bytes, ?_, ?_⟩
  · intro before after goes
    rcases jpegStep_turns bytes (jpegStep_inside goes) with
      stops | ⟨_, goesTo, still, further, _⟩
    · cases goes.symm.trans stops
    · cases goes.symm.trans goesTo
      exact ⟨further, still⟩
  · intro before after goes
    rcases fillStep_turn bytes before with stops | ⟨goesTo, still, _⟩
    · cases goes.symm.trans stops
    · cases goes.symm.trans goesTo
      exact ⟨Nat.lt_succ_self before, still⟩

end NvidiaBuildLb.Gateway.MediaChecks
