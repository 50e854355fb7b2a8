import NvidiaBuildLb.Foundation.FormLayout
import NvidiaBuildLb.Gateway.LossyText

namespace NvidiaBuildLb.Gateway

open Foundation NvidiaBuildLb.Core

/-! What the search for the model finds, in the bytes of a form. -/

def modelMark : Bytes := FormData.ascii "name=\"model\""

def lineDashes : Bytes := FormData.ascii "\r\n--"

/-- What is behind the first mark, from the next blank line up to the next line
with dashes. -/
def soughtModel (body : Bytes) : Option Bytes := do
  let named ← secondPiece modelMark body
  let value ← secondPiece FormData.blankLine named
  return firstPiece lineDashes value

theorem multipartModel_fromUtf8Lossy {body : Bytes} {model : String}
    (found : multipartModel (fromUtf8Lossy body) = some model) :
    ∃ value, soughtModel body = some value ∧
      model = String.ofList (trim (fromUtf8Lossy value)) := by
  have mark : IsAscii "name=\"model\"".toList := rfl
  have blank : IsAscii "\r\n\r\n".toList := rfl
  have dashes : IsAscii "\r\n--".toList := rfl
  obtain ⟨named, isNamed, found⟩ := Option.bind_eq_some_iff.mp found
  obtain ⟨value, isValue, found⟩ := Option.bind_eq_some_iff.mp found
  rw [secondPiece_fromUtf8Lossy mark (by decide)] at isNamed
  obtain ⟨lines, areLines, rfl⟩ := Option.map_eq_some_iff.mp isNamed
  rw [secondPiece_fromUtf8Lossy blank (by decide)] at isValue
  obtain ⟨bytes, areBytes, rfl⟩ := Option.map_eq_some_iff.mp isValue
  rw [firstPiece_fromUtf8Lossy dashes (by decide)] at found
  refine ⟨firstPiece lineDashes bytes, ?_, ?_⟩
  · exact Option.bind_eq_some_iff.mpr ⟨lines, areLines,
      Option.bind_eq_some_iff.mpr ⟨bytes, areBytes, rfl⟩⟩
  · dsimp only at found
    split at found
    · cases found
    · exact (Option.some.inj found).symm

section Pieces

variable {α : Type} [BEq α] [LawfulBEq α] {separator front back : List α}

theorem firstPiece_append (passes : Passes separator front back) :
    firstPiece separator (front ++ back) =
      front ++ firstPiece separator back := by
  unfold firstPiece
  rw [cutAt_append passes]
  cases cutAt separator back <;> rfl

theorem firstPiece_separator (separator back : List α) :
    firstPiece separator (separator ++ back) = [] := by
  unfold firstPiece
  rw [cutAt_separator]
  rfl

theorem firstPiece_prefix (separator items : List α) :
    firstPiece separator items <+: items := by
  unfold firstPiece
  cases found : cutAt separator items with
  | none => exact List.prefix_refl items
  | some cut =>
      obtain ⟨whole, -⟩ := cutAt_eq_some.mp found
      exact ⟨_, whole.symm⟩

theorem firstPiece_beyond {rest : List α}
    (beyond : firstPiece separator (front ++ back) = front ++ rest) :
    firstPiece separator back = rest := by
  unfold firstPiece at beyond ⊢
  cases found : cutAt separator (front ++ back) with
  | none =>
      have absent := cutAt_eq_none.mp found
      have absent' : ¬ separator <:+: back :=
        fun occurs => absent (occurs.trans (List.suffix_append _ _).isInfix)
      rw [found] at beyond
      rw [cutAt_eq_none.mpr absent']
      exact List.append_cancel_left beyond
  | some cut =>
      rw [found] at beyond
      obtain ⟨whole, passes⟩ := cutAt_eq_some.mp found
      have isFront : cut.1 = front ++ rest := beyond
      rw [isFront, List.append_assoc] at whole
      rw [isFront] at passes
      rw [cutAt_eq_some.mpr ⟨List.append_cancel_left whole,
        (Passes.append_iff.mp passes).2⟩]
      rfl

end Pieces

/-- A value that the search neither cuts nor trims. -/
structure Unbroken (content : Bytes) : Prop where
  trimmed : trim (fromUtf8Lossy content) = fromUtf8Lossy content
  unmarked : ¬ modelMark <:+: content
  unspaced : ¬ FormData.blankLine <:+: content
  undashed : ¬ lineDashes <:+: content

private theorem trim_length_le (front : List Char) {last : Char}
    (blank : isWhitespace last = true) :
    (trim (front ++ [last])).length ≤ front.length := by
  have shorter := (List.dropWhile_suffix isWhitespace (l := front)).length_le
  unfold trim
  rw [List.dropWhile_append]
  split
  · simp [blank]
  · rw [List.reverse_append, List.reverse_singleton, List.singleton_append,
      List.dropWhile_cons_of_pos blank, List.length_reverse]
    have fewer := (List.dropWhile_suffix isWhitespace
      (l := (front.dropWhile isWhitespace).reverse)).length_le
    rw [List.length_reverse] at fewer
    omega

namespace Unbroken

variable {content : Bytes}

theorem no_line_end (unbroken : Unbroken content) :
    ¬ FormData.lineEnd <:+ content := by
  rintro ⟨front, rfl⟩
  have text : fromUtf8Lossy (front ++ FormData.lineEnd) =
      (fromUtf8Lossy front ++ ['\r']) ++ ['\n'] := by
    rw [FormData.lineEnd, fromUtf8Lossy_append front (by decide),
      List.append_assoc]
    rfl
  have shorter := trim_length_le (fromUtf8Lossy front ++ ['\r'])
    (show isWhitespace '\n' = true from rfl)
  rw [← text, unbroken.trimmed, text, List.length_append] at shorter
  exact Nat.not_succ_le_self _ shorter

theorem passes_mark (unbroken : Unbroken content) (rest : Bytes) :
    Passes modelMark (content ++ lineDashes) rest := by
  refine Passes.append_iff.mpr ⟨?_, ?_⟩
  · exact passes_of_head unbroken.unmarked (by decide)
  · refine passes_of_foreign (by decide) ?_
    rintro _ ⟨⟩
    decide

theorem passes_dashes (unbroken : Unbroken content) (rest : Bytes) :
    Passes lineDashes content (lineDashes ++ rest) :=
  passes_of_head unbroken.undashed (by decide)

theorem passes_blank (unbroken : Unbroken content) (rest : Bytes) :
    Passes FormData.blankLine (content ++ lineDashes) rest := by
  have dashes : lineDashes = [0x0d, 0x0a, 0x2d, 0x2d] := by decide
  refine Passes.append_iff.mpr ⟨?_, ?_⟩
  · refine passes_of unbroken.unspaced ?_
    intro start others isStart isRest whole ends starts
    obtain ⟨tail, same⟩ := starts
    rw [dashes] at same
    -- Only after a line end can the rest be one more.
    rcases start with _ | ⟨_, _ | ⟨_, _ | ⟨_, start⟩⟩⟩
    · exact isStart rfl
    · cases whole
      cases same
    · cases whole
      exact unbroken.no_line_end ends
    · have last : [0x0a] = start ++ others := (List.cons.inj
        (List.cons.inj (List.cons.inj whole).2).2).2
      cases start with
      | nil =>
          cases last
          cases same
      | cons _ start =>
          exact isRest (List.append_eq_nil_iff.mp
            (List.cons.inj last).2.symm).2
  · rw [dashes]
    simp [Passes.cons_iff, Passes.nil, FormData.blankLine, FormData.lineEnd]

theorem sought (unbroken : Unbroken content) {body front more headers after
    value : Bytes} (hit : cutAt modelMark body = some (front, more))
    (blank : cutAt FormData.blankLine more =
      some (headers, content ++ (lineDashes ++ after)))
    (found : soughtModel body = some value) : value = content := by
  obtain ⟨named, isNamed, found⟩ := Option.bind_eq_some_iff.mp found
  obtain ⟨text, isText, found⟩ := Option.bind_eq_some_iff.mp found
  cases found
  rw [secondPiece, hit] at isNamed
  cases isNamed
  obtain ⟨⟨skipped, kept⟩, cut, isKept⟩ := Option.map_eq_some_iff.mp isText
  cases isKept
  obtain ⟨dropped, isMore⟩ := firstPiece_prefix modelMark more
  -- The blank line is the one before the content.
  have longer := cutAt_extend cut dropped
  rw [isMore, blank] at longer
  have same := Option.some.inj longer
  cases (Prod.mk.inj same).1
  have whole := (cutAt_eq_some.mp blank).1
  have isNamed := (cutAt_eq_some.mp cut).1
  rw [← List.append_assoc] at whole isNamed
  rw [whole] at isNamed
  have isKept := firstPiece_beyond isNamed
  rw [← List.append_assoc, firstPiece_append (unbroken.passes_mark after)]
    at isKept
  rw [← isKept, firstPiece_append (unbroken.passes_blank _),
    List.append_assoc, firstPiece_append (unbroken.passes_dashes _),
    firstPiece_separator, List.append_nil]

end Unbroken

end NvidiaBuildLb.Gateway
