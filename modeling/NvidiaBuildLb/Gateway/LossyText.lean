import NvidiaBuildLb.Foundation.Cutting
import NvidiaBuildLb.Gateway.Multipart

namespace NvidiaBuildLb.Gateway

open Foundation NvidiaBuildLb.Core

/-! A text read from bytes that need not be UTF-8 is cut where its bytes are, as
long as the separator is ASCII. -/

theorem not_isContinuation_ascii {byte : UInt8} (ascii : byte < 0x80) :
    isContinuation byte = false := by
  simp only [isContinuation, Bool.and_eq_false_iff, decide_eq_false_iff_not]
  exact .inl (UInt8.not_le.mpr ascii)

theorem not_mayFollow_ascii (lead : UInt8) {byte : UInt8} (ascii : byte < 0x80) :
    mayFollow lead byte = false := by
  have below : ∀ bound : UInt8, 0x80 ≤ bound → ¬ bound ≤ byte :=
    fun _ atLeast reaches => absurd ascii
      (UInt8.not_lt.mpr (UInt8.le_trans atLeast reaches))
  unfold mayFollow
  split
  · simp [below 0xa0 (by decide)]
  · split
    · simp [below 0x80 (by decide)]
    · split
      · simp [below 0x90 (by decide)]
      · split
        · simp [below 0x80 (by decide)]
        · exact not_isContinuation_ascii ascii

theorem high_of_isContinuation {byte : UInt8}
    (follows : isContinuation byte = true) : ¬ byte < 0x80 := by
  intro ascii
  rw [not_isContinuation_ascii ascii] at follows
  cases follows

theorem high_of_mayFollow {lead byte : UInt8}
    (follows : mayFollow lead byte ≠ false) : ¬ byte < 0x80 :=
  fun ascii => follows (not_mayFollow_ascii lead ascii)

theorem sequenceAt_ascii {lead : UInt8} (ascii : lead < 0x80) (rest : Bytes) :
    sequenceAt (lead :: rest) = (1, true) :=
  if_pos ascii

theorem sequenceAt_high {lead : UInt8} (high : ¬ lead < 0x80) (rest : Bytes) :
    ∃ count, (sequenceAt (lead :: rest)).1 = count + 1 ∧ count ≤ rest.length ∧
      ∀ byte ∈ rest.take count, ¬ byte < 0x80 := by
  unfold sequenceAt
  dsimp only
  rw [if_neg high]
  repeat' split
  all_goals
    refine ⟨_, rfl, by simp, ?_⟩
    simp only [List.take_zero, List.take_succ_cons, List.take_nil]
    grind [high_of_isContinuation, high_of_mayFollow]

theorem sequenceAt_append {front : Bytes} (nonempty : front ≠ []) {byte : UInt8}
    (ascii : byte < 0x80) (back : Bytes) :
    sequenceAt (front ++ byte :: back) = sequenceAt front := by
  have noContinuation := not_isContinuation_ascii ascii
  have noFollow := fun lead => not_mayFollow_ascii lead ascii
  match front with
  | [first] =>
      rcases back with _ | ⟨next, _ | ⟨after, back⟩⟩ <;>
        simp [sequenceAt, noContinuation, noFollow]
  | [first, second] =>
      cases follows : mayFollow first second <;> cases back <;>
        simp [sequenceAt, noContinuation, follows]
  | [first, second, third] =>
      cases follows : mayFollow first second <;>
        cases continues : isContinuation third <;>
        simp [sequenceAt, noContinuation, follows, continues]
  | first :: second :: third :: fourth :: rest => simp [sequenceAt]

theorem ofNat_ascii {number : Nat} (ascii : number < 128) :
    UInt8.ofNat number < 0x80 := by
  rw [UInt8.lt_iff_toNat_lt, UInt8.toNat_ofNat']
  have limit : (0x80 : UInt8).toNat = 128 := rfl
  omega

theorem lossyCharacter_high {bytes : Bytes}
    (high : ∀ byte ∈ bytes, ¬ byte < 0x80) (whole : Bool) :
    128 ≤ (lossyCharacter bytes whole).toNat := by
  unfold lossyCharacter
  cases whole with
  | false =>
      rw [if_neg Bool.false_ne_true]
      decide
  | true =>
      rw [if_pos rfl]
      cases decoded : decodeUtf8 bytes with
      | none => decide
      | some text =>
          rw [Option.bind_some]
          cases isText : text.toList with
          | nil => decide
          | cons first rest =>
              rw [List.head?_cons, Option.getD_some]
              by_contra below
              have same := encodeUtf8_of_decodeUtf8 decoded
              rw [isText, encodeUtf8_cons, utf8EncodeChar_of_ascii (by omega)]
                at same
              exact high (UInt8.ofNat first.toNat) (by rw [same]; simp)
                (ofNat_ascii (by omega))

theorem sequenceAt_length (lead : UInt8) (rest : Bytes) :
    ∃ count, (sequenceAt (lead :: rest)).1 = count + 1 ∧
      count ≤ rest.length := by
  by_cases ascii : lead < 0x80
  · exact ⟨0, by rw [sequenceAt_ascii ascii], Nat.zero_le _⟩
  · obtain ⟨count, same, within, -⟩ := sequenceAt_high ascii rest
    exact ⟨count, same, within⟩

private theorem lossyCharacters_enough {fuel other : Nat} {bytes : Bytes}
    (enough : bytes.length ≤ fuel) (enough' : bytes.length ≤ other) :
    lossyCharacters fuel bytes = lossyCharacters other bytes := by
  induction fuel generalizing other bytes with
  | zero =>
      cases List.eq_nil_of_length_eq_zero (Nat.le_zero.mp enough)
      cases other <;> rfl
  | succ fuel induction =>
      cases bytes with
      | nil => cases other <;> rfl
      | cons lead rest =>
          cases other with
          | zero => cases enough'
          | succ other =>
              obtain ⟨count, same, -⟩ := sequenceAt_length lead rest
              have shorter : ((lead :: rest).drop
                  (sequenceAt (lead :: rest)).1).length ≤ rest.length := by
                rw [same, List.length_drop, List.length_cons]
                omega
              rw [List.length_cons] at enough enough'
              simp only [lossyCharacters]
              rw [@induction other _ (by omega) (by omega)]

@[simp] theorem fromUtf8Lossy_nil : fromUtf8Lossy [] = [] := rfl

theorem fromUtf8Lossy_cons (lead : UInt8) (rest : Bytes) :
    fromUtf8Lossy (lead :: rest) =
      lossyCharacter ((lead :: rest).take (sequenceAt (lead :: rest)).1)
          (sequenceAt (lead :: rest)).2 ::
        fromUtf8Lossy ((lead :: rest).drop (sequenceAt (lead :: rest)).1) := by
  obtain ⟨count, same, -⟩ := sequenceAt_length lead rest
  unfold fromUtf8Lossy
  rw [List.length_cons]
  simp only [lossyCharacters]
  congr 1
  apply lossyCharacters_enough
  · rw [same, List.length_drop, List.length_cons]
    omega
  · exact Nat.le_refl _

theorem fromUtf8Lossy_eq_nil {bytes : Bytes} :
    fromUtf8Lossy bytes = [] ↔ bytes = [] := by
  cases bytes with
  | nil => simp
  | cons lead rest => simp [fromUtf8Lossy_cons]

theorem fromUtf8Lossy_ascii {character : Char}
    (ascii : character.toNat < 128) (rest : Bytes) :
    fromUtf8Lossy (UInt8.ofNat character.toNat :: rest) =
      character :: fromUtf8Lossy rest := by
  rw [fromUtf8Lossy_cons, sequenceAt_ascii (ofNat_ascii ascii)]
  have decoded : decodeUtf8 [UInt8.ofNat character.toNat] =
      some (String.ofList [character]) := by
    have whole := decodeUtf8_encodeUtf8 (String.ofList [character])
    rw [String.toList_ofList, encodeUtf8_cons, utf8EncodeChar_of_ascii ascii]
      at whole
    exact whole
  congr 1
  simp [lossyCharacter, decoded]

/-- Reading starts afresh at an ASCII byte. -/
theorem fromUtf8Lossy_append (front : Bytes) {byte : UInt8}
    (ascii : byte < 0x80) (back : Bytes) :
    fromUtf8Lossy (front ++ byte :: back) =
      fromUtf8Lossy front ++ fromUtf8Lossy (byte :: back) := by
  induction length : front.length using Nat.strong_induction_on
    generalizing front with
  | _ length induction =>
  cases front with
  | nil => rfl
  | cons lead rest =>
      obtain ⟨count, same, within⟩ := sequenceAt_length lead rest
      have atSame := sequenceAt_append (List.cons_ne_nil lead rest) ascii back
      rw [List.cons_append] at atSame
      have inside : (sequenceAt (lead :: rest)).1 ≤ (lead :: rest).length := by
        rw [same, List.length_cons]
        omega
      rw [List.cons_append, fromUtf8Lossy_cons lead (rest ++ byte :: back),
        atSame, fromUtf8Lossy_cons lead rest, ← List.cons_append,
        List.take_append_of_le_length inside,
        List.drop_append_of_le_length inside, List.cons_append]
      congr 1
      apply induction _ _ _ rfl
      rw [List.length_drop, same, ← length, List.length_cons]
      omega

private theorem toNat_ofNat_ascii {number : Nat} (ascii : number < 128) :
    (Char.ofNat number).toNat = number := by
  have valid : number.isValidChar := .inl (by omega)
  unfold Char.ofNat
  rw [dif_pos valid]
  rfl

theorem exists_of_fromUtf8Lossy {bytes : Bytes} {front back : List Char}
    {character : Char} (ascii : character.toNat < 128)
    (read : fromUtf8Lossy bytes = front ++ character :: back) :
    ∃ before after, bytes = before ++ UInt8.ofNat character.toNat :: after ∧
      fromUtf8Lossy before = front ∧ fromUtf8Lossy after = back := by
  induction length : bytes.length using Nat.strong_induction_on
    generalizing bytes front with
  | _ length induction =>
  cases bytes with
  | nil => simp at read
  | cons lead rest =>
      cases front with
      | nil =>
          by_cases low : lead < 0x80
          · have limit : (0x80 : UInt8).toNat = 128 := rfl
            have small : lead.toNat < 128 := by
              rw [← limit]
              exact UInt8.lt_iff_toNat_lt.mp low
            have sameNumber := toNat_ofNat_ascii small
            have isLead : UInt8.ofNat (Char.ofNat lead.toNat).toNat = lead := by
              rw [sameNumber, UInt8.ofNat_toNat]
            have leadAscii : (Char.ofNat lead.toNat).toNat < 128 := by
              rw [sameNumber]
              exact small
            rw [← isLead, fromUtf8Lossy_ascii leadAscii] at read
            obtain ⟨same, isBack⟩ := List.cons.inj read
            exact ⟨[], rest, by rw [← isLead, same]; rfl, rfl, isBack⟩
          · rw [fromUtf8Lossy_cons] at read
            obtain ⟨count, same, -, high⟩ := sequenceAt_high low rest
            have allHigh : ∀ byte ∈ (lead :: rest).take
                (sequenceAt (lead :: rest)).1, ¬ byte < 0x80 := by
              rw [same, List.take_succ_cons]
              intro byte member
              rcases List.mem_cons.mp member with rfl | later
              · exact low
              · exact high byte later
            have wide := lossyCharacter_high allHigh (sequenceAt (lead :: rest)).2
            rw [(List.cons.inj read).1] at wide
            omega
      | cons first front =>
          obtain ⟨count, same, within⟩ := sequenceAt_length lead rest
          have inside : (sequenceAt (lead :: rest)).1 ≤
              (lead :: rest).length := by
            rw [same, List.length_cons]
            omega
          rw [fromUtf8Lossy_cons] at read
          obtain ⟨isFirst, later⟩ := List.cons.inj read
          obtain ⟨before, after, split, isFront, isBack⟩ := induction _ (by
            rw [← length, List.length_drop, same, List.length_cons]
            omega) later rfl
          refine ⟨(lead :: rest).take (sequenceAt (lead :: rest)).1 ++ before,
            after, ?_, ?_, isBack⟩
          · rw [List.append_assoc, ← split, List.take_append_drop]
          · -- The first sequence is the same, as it ends before the byte.
            have whole : lead :: rest =
                ((lead :: rest).take (sequenceAt (lead :: rest)).1 ++ before) ++
                  UInt8.ofNat character.toNat :: after := by
              rw [List.append_assoc, ← split, List.take_append_drop]
            have low : UInt8.ofNat character.toNat < 0x80 :=
              ofNat_ascii ascii
            have atSame := @sequenceAt_append
              ((lead :: rest).take (sequenceAt (lead :: rest)).1 ++ before)
              (by rw [same]; exact List.cons_ne_nil _ _) _ low after
            rw [← whole, same, List.take_succ_cons, List.cons_append] at atSame
            rw [same, List.take_succ_cons, List.cons_append,
              fromUtf8Lossy_cons, ← atSame, same, List.take_succ_cons,
              List.drop_succ_cons]
            have isTake : (rest.take count).length = count := by
              rw [List.length_take]
              omega
            rw [List.take_left' isTake, List.drop_left' isTake, isFront]
            rw [same, List.take_succ_cons] at isFirst
            rw [isFirst]

def IsAscii (text : List Char) : Prop :=
  text.all (fun character => character.toNat < 128) = true

theorem isAscii_cons {character : Char} {text : List Char} :
    IsAscii (character :: text) ↔ character.toNat < 128 ∧ IsAscii text := by
  simp [IsAscii]

theorem fromUtf8Lossy_encodeUtf8 {text : List Char} (ascii : IsAscii text)
    (back : Bytes) :
    fromUtf8Lossy (encodeUtf8 text ++ back) = text ++ fromUtf8Lossy back := by
  induction text with
  | nil => rfl
  | cons character text induction =>
      obtain ⟨here, later⟩ := isAscii_cons.mp ascii
      rw [encodeUtf8_cons, utf8EncodeChar_of_ascii here, List.append_assoc,
        List.singleton_append, fromUtf8Lossy_ascii here, induction later,
        List.cons_append]

theorem prefix_of_fromUtf8Lossy {text back : List Char} (ascii : IsAscii text)
    {bytes : Bytes} (read : fromUtf8Lossy bytes = text ++ back) :
    ∃ after, bytes = encodeUtf8 text ++ after ∧ fromUtf8Lossy after = back := by
  induction text generalizing bytes with
  | nil => exact ⟨bytes, rfl, read⟩
  | cons character text induction =>
      obtain ⟨here, later⟩ := isAscii_cons.mp ascii
      obtain ⟨before, after, rfl, isBefore, isAfter⟩ :=
        @exists_of_fromUtf8Lossy bytes [] (text ++ back) character here read
      obtain ⟨rest, rfl, isRest⟩ := induction later isAfter
      refine ⟨rest, ?_, isRest⟩
      rw [fromUtf8Lossy_eq_nil.mp isBefore, encodeUtf8_cons,
        utf8EncodeChar_of_ascii here, List.append_assoc]
      rfl

theorem eq_of_fromUtf8Lossy {text : List Char} (ascii : IsAscii text)
    {bytes : Bytes} (read : fromUtf8Lossy bytes = text) :
    bytes = encodeUtf8 text := by
  obtain ⟨after, rfl, isAfter⟩ := prefix_of_fromUtf8Lossy ascii
    (read.trans (List.append_nil text).symm)
  rw [fromUtf8Lossy_eq_nil.mp isAfter, List.append_nil]

section

variable {separator : List Char}

theorem split_of_fromUtf8Lossy (ascii : IsAscii separator)
    (nonempty : separator ≠ []) {bytes : Bytes} {front back : List Char}
    (read : fromUtf8Lossy bytes = front ++ (separator ++ back)) :
    ∃ before after, bytes = before ++ (encodeUtf8 separator ++ after) ∧
      fromUtf8Lossy before = front ∧ fromUtf8Lossy after = back := by
  cases separator with
  | nil => exact absurd rfl nonempty
  | cons character rest =>
      obtain ⟨here, later⟩ := isAscii_cons.mp ascii
      obtain ⟨before, after, rfl, isBefore, isAfter⟩ :=
        exists_of_fromUtf8Lossy here read
      obtain ⟨last, rfl, isLast⟩ := prefix_of_fromUtf8Lossy later isAfter
      refine ⟨before, last, ?_, isBefore, isLast⟩
      rw [encodeUtf8_cons, utf8EncodeChar_of_ascii here, List.append_assoc]
      rfl

private theorem encodeUtf8_head (ascii : IsAscii separator)
    (nonempty : separator ≠ []) :
    ∃ byte rest, encodeUtf8 separator = byte :: rest ∧ byte < 0x80 := by
  cases separator with
  | nil => exact absurd rfl nonempty
  | cons character rest =>
      have here := (isAscii_cons.mp ascii).1
      refine ⟨_, encodeUtf8 rest, ?_, ofNat_ascii here⟩
      rw [encodeUtf8_cons, utf8EncodeChar_of_ascii here]
      rfl

theorem cutAt_fromUtf8Lossy (ascii : IsAscii separator)
    (nonempty : separator ≠ []) (bytes : Bytes) :
    cutAt separator (fromUtf8Lossy bytes) =
      (cutAt (encodeUtf8 separator) bytes).map
        (Prod.map fromUtf8Lossy fromUtf8Lossy) := by
  obtain ⟨byte, rest, isFirst, low⟩ := encodeUtf8_head ascii nonempty
  cases found : cutAt (encodeUtf8 separator) bytes with
  | none =>
      refine cutAt_eq_none.mpr ?_
      rintro ⟨front, back, whole⟩
      rw [List.append_assoc] at whole
      obtain ⟨before, after, rfl, -⟩ :=
        split_of_fromUtf8Lossy ascii nonempty whole.symm
      exact cutAt_eq_none.mp found ⟨before, after, List.append_assoc _ _ _⟩
  | some cut =>
      obtain ⟨front, back⟩ := cut
      obtain ⟨rfl, passes⟩ := cutAt_eq_some.mp found
      have text : fromUtf8Lossy (front ++ (encodeUtf8 separator ++ back)) =
          fromUtf8Lossy front ++ (separator ++ fromUtf8Lossy back) := by
        rw [← fromUtf8Lossy_encodeUtf8 ascii, isFirst, List.cons_append,
          fromUtf8Lossy_append front low]
      refine cutAt_eq_some.mpr ⟨text, ?_⟩
      intro before after split isAfter starts
      -- The earlier occurrence would be one in the bytes.
      obtain ⟨tail, whole⟩ := starts
      have read : fromUtf8Lossy (front ++ (encodeUtf8 separator ++ back)) =
          before ++ (separator ++ tail) := by
        rw [text, split, List.append_assoc, ← whole]
      obtain ⟨earlier, later, same, isEarlier, -⟩ :=
        split_of_fromUtf8Lossy ascii nonempty read
      rcases List.append_eq_append_iff.mp same with
        ⟨more, isMore, others⟩ | ⟨more, isMore, others⟩
      · -- It would not come before the end of the front.
        have longer : (fromUtf8Lossy front).length ≤ before.length := by
          rw [← isEarlier, isMore]
          cases more with
          | nil => rw [List.append_nil]
          | cons head more =>
              rw [isFirst, List.cons_append, List.cons_append] at others
              rw [← (List.cons.inj others).1, fromUtf8Lossy_append front low,
                List.length_append]
              exact Nat.le_add_right _ _
        rw [split, List.length_append] at longer
        exact isAfter (List.eq_nil_of_length_eq_zero (by omega))
      · refine passes earlier more isMore ?_ ⟨later, others⟩
        rintro rfl
        rw [List.append_nil] at isMore
        rw [isMore, isEarlier] at split
        exact isAfter (List.self_eq_append_right.mp split)

theorem firstPiece_fromUtf8Lossy (ascii : IsAscii separator)
    (nonempty : separator ≠ []) (bytes : Bytes) :
    firstPiece separator (fromUtf8Lossy bytes) =
      fromUtf8Lossy (firstPiece (encodeUtf8 separator) bytes) := by
  unfold firstPiece
  rw [cutAt_fromUtf8Lossy ascii nonempty]
  cases cutAt (encodeUtf8 separator) bytes <;> rfl

theorem secondPiece_fromUtf8Lossy (ascii : IsAscii separator)
    (nonempty : separator ≠ []) (bytes : Bytes) :
    secondPiece separator (fromUtf8Lossy bytes) =
      (secondPiece (encodeUtf8 separator) bytes).map fromUtf8Lossy := by
  unfold secondPiece
  rw [cutAt_fromUtf8Lossy ascii nonempty, Option.map_map, Option.map_map]
  congr 1
  funext cut
  exact firstPiece_fromUtf8Lossy ascii nonempty cut.2

end

end NvidiaBuildLb.Gateway
