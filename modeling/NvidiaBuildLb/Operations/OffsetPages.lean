import NvidiaBuildLb.Gateway.SseValidator
import NvidiaBuildLb.Hermes.AdminPages

namespace NvidiaBuildLb.Operations

open Foundation Foundation.Keyset
open Gateway (stripPrefix stripPrefix_append)
open Hermes (parseUsize)

/-! The lists that are paged by offset: a cursor is the number of items shown. -/

structure PageWindow where
  limit : Nat
  offset : Nat
  deriving DecidableEq, Repr

def pageCursorStart : List Char := "nblb-page-v1:".toList

def encodePageOffset (offset : Nat) : String :=
  base64UrlEncode (encodeUtf8 (pageCursorStart ++ (toString offset).toList))

def largestOffset : Nat := 10000000

def decodePageOffset (cursor : String) : Option Nat := do
  let bytes ← base64UrlDecode cursor
  let value ← decodeUtf8 bytes
  let digits ← stripPrefix pageCursorStart value.toList
  let offset ← parseUsize (String.ofList digits)
  if offset ≤ largestOffset then some offset else none

def invalidPageCursor : ListError where
  code := "invalid_page_cursor"
  message := "This cursor is not valid for the current snapshot."

def listWindow (query : ListQuery) : Except ListError PageWindow :=
  let limit := query.limit.getD 50
  if 1 ≤ limit ∧ limit ≤ 100 then
    match query.before with
    | none => .ok { limit, offset := 0 }
    | some cursor =>
        match decodePageOffset cursor with
        | some offset => .ok { limit, offset }
        | none => .error invalidPageCursor
  else
    .error {
      code := "invalid_limit"
      message := "limit must be between 1 and 100." }

variable {ρ : Type}

def paginate (items : List ρ) (window : PageWindow) : List ρ × Option String :=
  let shown := (items.drop window.offset).take window.limit
  let nextOffset := Core.saturatingAdd window.offset shown.length
  (shown, if nextOffset < items.length then some (encodePageOffset nextOffset) else none)

/-- `list_upstreams` and `list_models`, of the items that their query gives. -/
def offsetPage (items : List ρ) (query : ListQuery) :
    Except ListError (List ρ × Option String) :=
  (listWindow query).map (paginate items)

theorem parseUsize_toString {number : Nat} (small : number ≤ Core.u64Max) :
    parseUsize (toString number) = some number := by
  have digits : (toString number).toList = Nat.toDigits 10 number := Nat.toList_repr
  have decimal : ∀ digit ∈ Nat.toDigits 10 number, digit.isDigit = true := by
    intro digit member
    exact Nat.isDigit_of_mem_toDigits (by decide) (by decide) member
  have value : (Nat.toDigits 10 number).foldl
      (fun value digit => value * 10 + (digit.toNat - 48)) 0 = number := by
    have read := @Nat.ofDigitChars_ten_toDigits number
    rw [Nat.ofDigitChars_eq_foldl] at read
    simpa only [Nat.mul_comm, show '0'.toNat = 48 from rfl] using read
  unfold parseUsize
  rw [digits]
  cases spelled : Nat.toDigits 10 number with
  | nil => exact absurd spelled Nat.toDigits_ne_nil
  | cons first rest =>
      rw [spelled] at decimal value
      have unsigned : first ≠ '+' := by
        rintro rfl
        exact absurd (decimal '+' List.mem_cons_self) (by decide)
      have every : (first :: rest).all Char.isDigit = true := List.all_eq_true.mpr decimal
      split
      · rename_i signed
        exact absurd (List.cons.inj signed).1 unsigned
      · simp only [List.isEmpty_cons, every, Bool.not_true, Bool.or_self, Bool.false_eq_true,
          if_false, value, if_pos small]

theorem decodePageOffset_encodePageOffset {offset : Nat} (small : offset ≤ Core.u64Max) :
    decodePageOffset (encodePageOffset offset) =
      if offset ≤ largestOffset then some offset else none := by
  have text : decodeUtf8 (encodeUtf8 (pageCursorStart ++ (toString offset).toList)) =
      some (String.ofList (pageCursorStart ++ (toString offset).toList)) := by
    have decoded := decodeUtf8_encodeUtf8
      (String.ofList (pageCursorStart ++ (toString offset).toList))
    rwa [String.toList_ofList] at decoded
  simp only [decodePageOffset, encodePageOffset, base64UrlDecode_base64UrlEncode, text,
    String.toList_ofList, stripPrefix_append, String.ofList_toList, parseUsize_toString small,
    Option.bind_eq_bind, Option.bind_some]

/-- One page after another, of items that stay the same; each request names a
limit of its own. -/
def serveOffsets (items : List ρ) (limits : Nat → Option Nat) (index : Nat)
    (before : Option String) : Except ListError (List ρ × Option String) :=
  offsetPage items { limit := limits index, before }

/-- How far a walk of that many pages has come: it has shown the first items,
each page at least one, and a cursor is refused only beyond the largest offset. -/
inductive OffsetReading (items : List ρ) (pages : Nat) : Reading ρ String ListError → Prop
  | begun (first : pages = 0) :
      OffsetReading items pages { visited := [], position := .next none }
  | between (offset : Nat) (behind : offset < items.length) (moved : pages ≤ offset)
      (small : offset ≤ largestOffset + 100) :
      OffsetReading items pages {
        visited := items.take offset
        position := .next (some (encodePageOffset offset)) }
  | ended : OffsetReading items pages { visited := items, position := .ended }
  | refused (offset : Nat) (behind : offset < items.length) (beyond : largestOffset < offset) :
      OffsetReading items pages {
        visited := items.take offset
        position := .refused invalidPageCursor }

section Walk

variable {items : List ρ} {pages : Nat}

theorem paginate_reads {serve : Option String → Except ListError (List ρ × Option String)}
    {before : Option String} {window : PageWindow}
    (served : serve before = .ok (paginate items window))
    (limited : 1 ≤ window.limit ∧ window.limit ≤ 100)
    (inside : window.offset ≤ items.length) (moved : pages ≤ window.offset)
    (small : window.offset ≤ largestOffset) :
    OffsetReading items (pages + 1) (Reading.advance serve {
      visited := items.take window.offset
      position := .next before }) := by
  obtain ⟨limit, offset⟩ := window
  dsimp only at limited inside moved small
  have least : largestOffset + 100 ≤ Core.u64Max := by decide
  have shown : ((items.drop offset).take limit).length = min limit (items.length - offset) := by
    rw [List.length_take, List.length_drop]
  have next : Core.saturatingAdd offset ((items.drop offset).take limit).length =
      offset + min limit (items.length - offset) := by
    rw [shown, Core.saturatingAdd]
    exact Nat.min_eq_left (by omega)
  simp only [paginate, next] at served
  by_cases more : offset + min limit (items.length - offset) < items.length
  · have full : min limit (items.length - offset) = limit := by omega
    rw [full] at more
    rw [full, if_pos more] at served
    simp only [Reading.advance, served, ← List.take_add]
    exact .between (offset + limit) more (by omega) (by omega)
  · have rest : (items.drop offset).take limit = items.drop offset :=
      List.take_of_length_le (by rw [List.length_drop]; omega)
    rw [if_neg more, rest] at served
    simp only [Reading.advance, served, List.take_append_drop]
    exact .ended

variable {limits : Nat → Option Nat}

theorem offsetPage_of_window {index : Nat} {before : Option String} {window : PageWindow}
    (isWindow : listWindow { limit := limits index, before } = .ok window) :
    serveOffsets items limits index before = .ok (paginate items window) := by
  rw [serveOffsets, offsetPage, isWindow]
  rfl

theorem OffsetReading.advance {reading : Reading ρ String ListError}
    (stands : OffsetReading items pages reading)
    (limited : ∀ index, 1 ≤ (limits index).getD 50 ∧ (limits index).getD 50 ≤ 100) :
    OffsetReading items (pages + 1) (reading.advance (serveOffsets items limits pages)) := by
  cases stands with
  | begun first =>
      have isWindow : listWindow { limit := limits pages, before := none } =
          .ok { limit := (limits pages).getD 50, offset := 0 } :=
        if_pos (limited pages)
      exact paginate_reads (offsetPage_of_window isWindow) (limited pages) (Nat.zero_le _)
        (Nat.le_of_eq first) (Nat.zero_le _)
  | between offset behind moved small =>
      have decoded := @decodePageOffset_encodePageOffset offset
        (small.trans (by decide))
      by_cases within : offset ≤ largestOffset
      · rw [if_pos within] at decoded
        have isWindow : listWindow {
            limit := limits pages, before := some (encodePageOffset offset) } =
              .ok { limit := (limits pages).getD 50, offset } := by
          simp only [listWindow, if_pos (limited pages), decoded]
        exact paginate_reads (offsetPage_of_window isWindow) (limited pages) behind.le moved
          within
      · rw [if_neg within] at decoded
        have refused : serveOffsets items limits pages (some (encodePageOffset offset)) =
            .error invalidPageCursor := by
          simp only [serveOffsets, offsetPage, listWindow, if_pos (limited pages), decoded]
          rfl
        simp only [Reading.advance, refused]
        exact .refused offset behind (by omega)
  | ended => exact .ended
  | refused offset behind beyond => exact .refused offset behind beyond

theorem offsetReading_walk
    (limited : ∀ index, 1 ≤ (limits index).getD 50 ∧ (limits index).getD 50 ≤ 100)
    (pages : Nat) : OffsetReading items pages (walk (serveOffsets items limits) pages) := by
  induction pages with
  | zero => exact .begun rfl
  | succ pages induction => exact induction.advance limited

end Walk

/-- Items that stay the same are shown in their order, each once, whatever the
limits of the requests are; the walk ends with all of them, unless there are more
than a cursor can count. -/
theorem offset_walk_exact {items : List ρ} {limits : Nat → Option Nat}
    (limited : ∀ index, 1 ≤ (limits index).getD 50 ∧ (limits index).getD 50 ≤ 100)
    {pages : Nat} {reading : Reading ρ String ListError}
    (isWalk : walk (serveOffsets items limits) pages = reading) :
    reading.visited <+: items ∧
      (reading.position = .ended → reading.visited = items) ∧
      (∀ error, reading.position = .refused error →
        error = invalidPageCursor ∧ largestOffset < reading.visited.length) ∧
      (items.length < pages → items.length ≤ largestOffset →
        reading = { visited := items, position := .ended }) := by
  have stands : OffsetReading items pages reading := by
    rw [← isWalk]
    exact offsetReading_walk limited pages
  cases stands with
  | begun first =>
      refine ⟨List.nil_prefix, ?_, ?_, ?_⟩
      · intro ended
        cases ended
      · intro error failed
        cases failed
      · intro enough
        omega
  | between offset behind moved small =>
      refine ⟨List.take_prefix offset items, ?_, ?_, ?_⟩
      · intro ended
        cases ended
      · intro error failed
        cases failed
      · intro enough
        omega
  | ended =>
      refine ⟨List.prefix_refl items, fun _ => rfl, ?_, fun _ _ => rfl⟩
      intro error failed
      cases failed
  | refused offset behind beyond =>
      refine ⟨List.take_prefix offset items, ?_, ?_, ?_⟩
      · intro ended
        cases ended
      · intro error failed
        cases failed
        rw [List.length_take, Nat.min_eq_left behind.le]
        exact ⟨rfl, beyond⟩
      · intro _ few
        omega

theorem offset_walk_exact_five :
    walk (serveOffsets [10, 20, 30, 40, 50] fun _ => some 2) 6 =
      { visited := [10, 20, 30, 40, 50], position := .ended } :=
  (@offset_walk_exact Nat [10, 20, 30, 40, 50] (fun _ => some 2) (fun _ => by decide) 6 _
    rfl).2.2.2 (by decide) (by decide)

end NvidiaBuildLb.Operations
