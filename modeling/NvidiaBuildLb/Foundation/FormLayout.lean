import NvidiaBuildLb.Foundation.Cutting

namespace NvidiaBuildLb.Foundation.FormData

/-! Where in a form a mark stands that has no line end in it. -/

def delimiter (boundary : List UInt8) : List UInt8 :=
  lineEnd ++ ascii "--" ++ boundary

def blankLine : List UInt8 := lineEnd ++ lineEnd

/-- What follows the end of the delimiter's line. -/
def lineStart (piece : List UInt8) : Option (List UInt8) :=
  stripFront lineEnd (piece.dropWhile isBlank)

/-- The header lines of a part, up to where `piece` breaks off. -/
def openHeaders (piece : List UInt8) : Option (List UInt8) :=
  (lineStart piece).filter fun headers =>
    !lineEnd.isPrefixOf headers && (cutAt blankLine headers).isNone

/-- The part among whose headers a form breaks off after `front`. -/
def openPart (boundary front : List UInt8) : Option Nat :=
  let pieces := cutAll (delimiter boundary) front.length (lineEnd ++ front)
  if 2 ≤ pieces.length ∧ (openHeaders (pieces.getLastD [])).isSome then
    some (pieces.length - 2)
  else
    none

theorem stripFront_eq_some {α : Type} [BEq α] [LawfulBEq α]
    {front items rest : List α} :
    stripFront front items = some rest ↔ items = front ++ rest := by
  unfold stripFront
  constructor
  · intro stripped
    split at stripped
    · rename_i starts
      cases stripped
      obtain ⟨tail, rfl⟩ := List.isPrefixOf_iff_prefix.mp starts
      rw [List.drop_left]
    · cases stripped
  · rintro rfl
    rw [if_pos (List.isPrefixOf_iff_prefix.mpr (List.prefix_append _ _)),
      List.drop_left]

theorem lineStart_append {piece first : List UInt8}
    (starts : lineStart piece = some first) (more : List UInt8) :
    lineStart (piece ++ more) = some (first ++ more) := by
  have stripped := stripFront_eq_some.mp starts
  refine stripFront_eq_some.mpr ?_
  rw [List.dropWhile_append, stripped]
  simp [lineEnd]

theorem openHeaders_eq_some {piece headers : List UInt8} :
    openHeaders piece = some headers ↔ lineStart piece = some headers ∧
      ¬ lineEnd <+: headers ∧ ¬ blankLine <:+: headers := by
  unfold openHeaders
  rw [Option.filter_eq_some_iff, Bool.and_eq_true, Bool.not_eq_true',
    Option.isNone_iff_eq_none, cutAt_eq_none, Bool.eq_false_iff, ne_eq,
    List.isPrefixOf_iff_prefix]

theorem Part.cut_of_read {bytes : List UInt8} {part : Part}
    (read : Part.read bytes = some part) (starts : ¬ lineEnd <+: bytes) :
    ∃ headers, cutAt blankLine bytes = some (headers, part.content) := by
  unfold Part.read at read
  split at read
  · rename_i content stripped
    exact absurd ⟨content, (stripFront_eq_some.mp stripped).symm⟩ starts
  · obtain ⟨⟨headers, content⟩, found, same⟩ := Option.map_eq_some_iff.mp read
    cases same
    exact ⟨headers, found⟩

theorem between_of_enclosed {pieces between : List (List UInt8)}
    (found : enclosed pieces = some between) {index : Nat} {first : List UInt8}
    (at_ : between[index]? = some first) :
    ∃ piece next, pieces[index]? = some piece ∧
      pieces[index + 1]? = some next ∧ lineStart piece = some first := by
  induction pieces generalizing between index with
  | nil => cases found
  | cons piece rest induction =>
      rw [enclosed] at found
      split at found
      · cases found
        cases at_
      · obtain ⟨head, isHead, found⟩ := Option.bind_eq_some_iff.mp found
        obtain ⟨others, areOthers, found⟩ := Option.bind_eq_some_iff.mp found
        cases found
        cases index with
        | zero =>
            cases at_
            cases rest with
            | nil => cases areOthers
            | cons next rest => exact ⟨piece, next, rfl, rfl, isHead⟩
        | succ index => exact induction areOthers at_

theorem read_of_mapM {between : List (List UInt8)} {parts : List Part}
    (read : between.mapM Part.read = some parts) {index : Nat} {part : Part}
    (at_ : parts[index]? = some part) :
    ∃ first, between[index]? = some first ∧ Part.read first = some part := by
  induction between generalizing parts index with
  | nil =>
      cases read
      cases at_
  | cons first rest induction =>
      rw [List.mapM_cons] at read
      obtain ⟨head, isHead, read⟩ := Option.bind_eq_some_iff.mp read
      obtain ⟨others, areOthers, read⟩ := Option.bind_eq_some_iff.mp read
      cases read
      cases index with
      | zero =>
          cases at_
          exact ⟨first, rfl, isHead⟩
      | succ index => exact induction areOthers at_

private theorem behind_of_append_eq {α : Type} {front back inside others : List α}
    {item : α} (absent : item ∉ front)
    (same : front ++ back = inside ++ item :: others) :
    ∃ rest, inside = front ++ rest ∧ back = rest ++ item :: others := by
  rcases List.append_eq_append_iff.mp same with
    ⟨rest, isInside, isBack⟩ | ⟨rest, isFront, isOthers⟩
  · exact ⟨rest, isInside, isBack⟩
  · cases rest with
    | nil =>
        refine ⟨[], ?_, isOthers.symm⟩
        rw [isFront, List.append_nil, List.append_nil]
    | cons head rest =>
        rw [isFront, ← (List.cons.inj isOthers).1] at absent
        exact absurd (by simp) absent

section

variable {boundary front mark more : List UInt8}

/-- No line ends in `mark`, nor where it follows an open line. -/
structure Inline (mark : List UInt8) : Prop where
  nonempty : mark ≠ []
  noReturn : 0x0d ∉ mark
  noFeed : 0x0a ∉ mark

theorem Inline.starts (inline : Inline mark) {headers : List UInt8}
    (opened : ¬ lineEnd <+: headers) (rest : List UInt8) :
    ¬ lineEnd <+: headers ++ (mark ++ rest) := by
  obtain ⟨item, tail, rfl⟩ := List.exists_cons_of_ne_nil inline.nonempty
  rintro ⟨after, split⟩
  cases headers with
  | nil =>
      apply inline.noReturn
      rw [show (0x0d : UInt8) = item from (List.cons.inj split).1]
      exact List.mem_cons_self
  | cons first headers =>
      have isFirst : 0x0d = first := (List.cons.inj split).1
      have later := (List.cons.inj split).2
      cases headers with
      | nil =>
          apply inline.noFeed
          rw [show (0x0a : UInt8) = item from (List.cons.inj later).1]
          exact List.mem_cons_self
      | cons second headers =>
          have isSecond : 0x0a = second := (List.cons.inj later).1
          exact opened ⟨headers, by rw [← isFirst, ← isSecond]; rfl⟩

theorem Inline.passes (inline : Inline mark) {headers : List UInt8}
    (opened : ¬ blankLine <:+: headers) (rest : List UInt8) :
    Passes blankLine (headers ++ mark) rest := by
  refine Passes.append_iff.mpr ⟨?_, ?_⟩
  · obtain ⟨item, tail, rfl⟩ := List.exists_cons_of_ne_nil inline.nonempty
    refine passes_of_head opened ?_
    have notReturn : item ≠ 0x0d := by
      rintro rfl
      exact inline.noReturn List.mem_cons_self
    have notFeed : item ≠ 0x0a := by
      rintro rfl
      exact inline.noFeed List.mem_cons_self
    simp [blankLine, lineEnd, notReturn, notFeed]
  · refine passes_of_foreign (List.cons_ne_nil _ _) ?_
    rintro _ ⟨⟩
    exact inline.noReturn

/-- A piece that goes on behind the mark: the blank line that ends its headers
is the first one there. -/
theorem cut_of_openHeaders {last headers piece first after : List UInt8}
    {part : Part} (opened : openHeaders last = some headers)
    (inline : Inline mark)
    (cut : cutAt (delimiter boundary) (last ++ (mark ++ more)) =
      some (piece, after))
    (starts : lineStart piece = some first)
    (read : Part.read first = some part) :
    ∃ rest, cutAt blankLine more =
      some (rest, part.content ++ (delimiter boundary ++ after)) := by
  obtain ⟨isOpen, noLine, noBlank⟩ := openHeaders_eq_some.mp opened
  obtain ⟨whole, -⟩ := cutAt_eq_some.mp cut
  rcases List.append_eq_append_iff.mp whole with
    ⟨inside, isPiece, behind⟩ | ⟨inside, isLast, -⟩
  · -- No delimiter starts in the mark, so that all of it is in the piece.
    obtain ⟨rest, isInside, isMore⟩ :=
      behind_of_append_eq inline.noReturn behind
    rw [isInside] at isPiece
    have same := lineStart_append isOpen (mark ++ rest)
    rw [← isPiece, starts] at same
    cases same
    obtain ⟨lines, found⟩ :=
      Part.cut_of_read read (inline.starts noLine rest)
    rw [← List.append_assoc, cutAt_append (inline.passes noBlank rest)]
      at found
    obtain ⟨⟨others, content⟩, isCut, same⟩ := Option.map_eq_some_iff.mp found
    cases same
    rw [isMore]
    exact ⟨others, cutAt_extend isCut _⟩
  · -- The piece would have ended before the mark, blank line and all.
    have same := lineStart_append starts inside
    rw [← isLast, isOpen] at same
    cases same
    have noLine' : ¬ lineEnd <+: first :=
      fun starts => noLine (starts.trans (List.prefix_append _ _))
    obtain ⟨lines, found⟩ := Part.cut_of_read read noLine'
    have extended := cutAt_extend found inside
    rw [cutAt_eq_none.mpr noBlank] at extended
    cases extended

private theorem cutInto_delimiter (boundary body : List UInt8) :
    CutInto (delimiter boundary) (lineEnd ++ body)
      (cutAll (delimiter boundary) body.length (lineEnd ++ body)) := by
  refine cutInto_cutAll _ ?_
  have longer : 4 ≤ (delimiter boundary).length := by
    simp only [delimiter, List.length_append]
    exact Nat.le_add_right _ _
  have enough := Nat.mul_le_mul_right (body.length + 1) longer
  rw [List.length_append]
  have two : lineEnd.length = 2 := rfl
  omega

/-- A form that goes on from the headers of a part: the part's content is what
follows the next blank line, up to the next delimiter. -/
theorem cut_of_openPart {index : Nat} {parts : List Part} {part : Part}
    (opened : openPart boundary front = some index) (inline : Inline mark)
    (read : FormData.parts boundary (front ++ (mark ++ more)) = some parts)
    (at_ : parts[index]? = some part) :
    ∃ rest after, cutAt blankLine more =
      some (rest, part.content ++ (delimiter boundary ++ after)) := by
  have cuts := cutInto_delimiter boundary front
  have others := cutInto_delimiter boundary (front ++ (mark ++ more))
  rw [← List.append_assoc lineEnd] at others
  unfold openPart at opened
  generalize cutAll (delimiter boundary) front.length (lineEnd ++ front) =
    pieces at cuts opened
  obtain ⟨last, remaining, isLast, -, later, areOthers⟩ := cuts.extend others
  dsimp only at opened
  split at opened
  · rename_i fits
    obtain ⟨two, someOpen⟩ := fits
    cases opened
    rw [List.getLastD_eq_getLast?, isLast, Option.getD_some] at someOpen
    obtain ⟨headers, isOpen⟩ := Option.isSome_iff_exists.mp someOpen
    obtain ⟨between, found, read⟩ := Option.bind_eq_some_iff.mp read
    obtain ⟨first, isFirst, readFirst⟩ := read_of_mapM read at_
    obtain ⟨piece, next, isPiece, isNext, starts⟩ :=
      between_of_enclosed found isFirst
    have delimited : ∀ number, (pieces.dropLast ++ remaining)[
        pieces.dropLast.length + number]? = remaining[number]? := by
      intro number
      rw [List.getElem?_append_right (Nat.le_add_right _ _),
        Nat.add_sub_cancel_left]
    rw [List.length_dropLast] at delimited
    have isPiece' : remaining[0]? = some piece := by
      rw [← delimited, ← areOthers, ← isPiece, List.getElem?_drop]
      congr 1
      omega
    have isNext' : remaining[1]? = some next := by
      rw [← delimited, ← areOthers, ← isNext, List.getElem?_drop]
      congr 1
      omega
    cases later with
    | whole uncut => cases isNext'
    | cut cut rest =>
        cases isPiece'
        obtain ⟨others, found⟩ :=
          cut_of_openHeaders isOpen inline cut starts readFirst
        exact ⟨others, _, found⟩
  · cases opened

end

end NvidiaBuildLb.Foundation.FormData
