import Mathlib.Data.List.Nodup
import Mathlib.Data.List.Sort

namespace NvidiaBuildLb.Foundation.Keyset

/-! Keyset pages: the rows of a table in descending order of a key, from below
the key where the last page ended.  The table may be another one at every
read. -/

section Page

variable {ρ κ : Type} [LinearOrder κ]

/-- `$1 IS NULL OR key < $1`. -/
def behind (before : Option κ) (key : κ) : Bool :=
  before.all fun bound => key < bound

/-- `ORDER BY key DESC`. -/
def descending (key : ρ → κ) (rows : List ρ) : List ρ :=
  rows.mergeSort fun left right => key right ≤ key left

def page (key : ρ → κ) (before : Option κ) (limit : Nat) (rows : List ρ) :
    List ρ :=
  (descending key (rows.filter fun row => behind before (key row))).take limit

@[simp] theorem behind_none (key : κ) : behind none key = true :=
  rfl

@[simp] theorem behind_some (bound key : κ) :
    behind (some bound) key = true ↔ key < bound := by
  simp [behind]

theorem lt_of_behind {before : Option κ} {lower upper : κ}
    (isBehind : behind before lower = true)
    (isAbove : behind before upper = false) : lower < upper := by
  cases before with
  | none => cases isAbove
  | some bound =>
      have notBelow : ¬ upper < bound := by
        simpa [behind] using isAbove
      exact ((behind_some bound lower).mp isBehind).trans_le (not_lt.mp notBelow)

@[simp] theorem mem_descending {key : ρ → κ} {rows : List ρ} {row : ρ} :
    row ∈ descending key rows ↔ row ∈ rows :=
  List.mem_mergeSort

theorem pairwise_descending {key : ρ → κ} {rows : List ρ}
    (distinct : (rows.map key).Nodup) :
    (descending key rows).Pairwise fun left right => key right < key left := by
  have ordered : (descending key rows).Pairwise fun left right =>
      decide (key right ≤ key left) = true := by
    apply List.pairwise_mergeSort
    · intro first second third firstSecond secondThird
      exact decide_eq_true
        ((of_decide_eq_true secondThird).trans (of_decide_eq_true firstSecond))
    · intro left right
      simpa using le_total (key right) (key left)
  have apart : (descending key rows).Pairwise fun left right =>
      key left ≠ key right := by
    apply List.pairwise_map.mp
    exact ((List.mergeSort_perm rows _).map key).nodup_iff.mpr distinct
  refine (ordered.and apart).imp ?_
  intro left right both
  exact lt_of_le_of_ne (of_decide_eq_true both.1) both.2.symm

private theorem mem_take_iff {key : ρ → κ} {rows : List ρ}
    (ordered : rows.Pairwise fun left right => key right < key left)
    (count : Nat) (row : ρ) :
    row ∈ rows.take count ↔
      row ∈ rows ∧ rows.countP (fun other => key row < key other) < count := by
  induction rows generalizing count with
  | nil => simp
  | cons head tail induction =>
      obtain ⟨headLast, tailOrdered⟩ := List.pairwise_cons.mp ordered
      cases count with
      | zero => simp
      | succ count =>
          rw [List.take_succ_cons, List.mem_cons, induction tailOrdered,
            List.mem_cons, List.countP_cons]
          constructor
          · intro shown
            rcases shown with rfl | ⟨inTail, few⟩
            · have noneNewer :
                  tail.countP (fun other => key row < key other) = 0 := by
                rw [List.countP_eq_zero]
                intro other member newer
                exact lt_asymm (headLast other member)
                  (of_decide_eq_true newer)
              simp [noneNewer]
            · refine ⟨.inr inTail, ?_⟩
              split <;> omega
          · intro ranked
            obtain ⟨rfl | inTail, few⟩ := ranked
            · exact .inl rfl
            · have newer := headLast row inTail
              rw [if_pos (decide_eq_true newer)] at few
              exact .inr ⟨inTail, by omega⟩

theorem mem_page_iff {key : ρ → κ} {rows : List ρ}
    (distinct : (rows.map key).Nodup) {before : Option κ} {limit : Nat}
    {row : ρ} :
    row ∈ page key before limit rows ↔
      row ∈ rows ∧ behind before (key row) = true ∧
      (rows.filter fun other => behind before (key other)).countP
        (fun other => key row < key other) < limit := by
  have kept : ((rows.filter fun other =>
      behind before (key other)).map key).Nodup :=
    distinct.sublist (List.filter_sublist.map key)
  have sameCount := (List.mergeSort_perm
    (rows.filter fun other => behind before (key other))
    fun left right => key right ≤ key left).countP_eq
      fun other => decide (key row < key other)
  unfold page
  rw [mem_take_iff (pairwise_descending kept), mem_descending,
    List.mem_filter, and_assoc]
  unfold descending
  rw [sameCount]

theorem page_pairwise {key : ρ → κ} {rows : List ρ}
    (distinct : (rows.map key).Nodup) (before : Option κ) (limit : Nat) :
    (page key before limit rows).Pairwise fun left right =>
      key right < key left := by
  have kept : ((rows.filter fun other =>
      behind before (key other)).map key).Nodup :=
    distinct.sublist (List.filter_sublist.map key)
  exact (pairwise_descending kept).sublist (List.take_sublist _ _)

theorem mem_of_mem_page {key : ρ → κ} {rows : List ρ} {before : Option κ}
    {limit : Nat} {row : ρ} (shown : row ∈ page key before limit rows) :
    row ∈ rows ∧ behind before (key row) = true := by
  have found := List.mem_of_mem_take shown
  rw [mem_descending] at found
  exact List.mem_filter.mp found

theorem omitted_of_page {key : ρ → κ} {rows : List ρ}
    (distinct : (rows.map key).Nodup) {before : Option κ} {limit : Nat}
    {row : ρ} (present : row ∈ rows)
    (isBehind : behind before (key row) = true)
    (omitted : row ∉ page key before limit rows) :
    (page key before limit rows).length = limit ∧
      ∀ shown ∈ page key before limit rows, key row < key shown := by
  have kept : ((rows.filter fun other =>
      behind before (key other)).map key).Nodup :=
    distinct.sublist (List.filter_sublist.map key)
  have ordered := pairwise_descending kept
  have found : row ∈ descending key
      (rows.filter fun other => behind before (key other)) :=
    mem_descending.mpr (List.mem_filter.mpr ⟨present, isBehind⟩)
  unfold page at omitted ⊢
  rw [← List.take_append_drop limit (descending key _)] at ordered found
  have dropped := (List.mem_append.mp found).resolve_left omitted
  constructor
  · rw [List.length_take, min_eq_left]
    by_contra short
    rw [List.drop_eq_nil_of_le (by omega)] at dropped
    cases dropped
  · intro shown member
    exact (List.pairwise_append.mp ordered).2.2 shown member row dropped

theorem page_map {σ : Type} (key : ρ → κ) (image : σ → ρ)
    (before : Option κ) (limit : Nat) (rows : List σ) :
    page key before limit (rows.map image) =
      (page (fun row => key (image row)) before limit rows).map image := by
  unfold page descending
  rw [List.filter_map, List.map_take]
  congr 1
  symm
  apply List.map_mergeSort
  intro left _ right _
  rfl

end Page

inductive Position (γ ε : Type) where
  | next (before : Option γ)
  | ended
  | refused (error : ε)
  deriving DecidableEq, Repr

structure Reading (ρ γ ε : Type) where
  visited : List ρ
  position : Position γ ε
  deriving DecidableEq, Repr

namespace Reading

variable {ρ γ ε : Type}

def start : Reading ρ γ ε where
  visited := []
  position := .next none

def advance (serve : Option γ → Except ε (List ρ × Option γ))
    (reading : Reading ρ γ ε) : Reading ρ γ ε :=
  match reading.position with
  | .ended => reading
  | .refused _ => reading
  | .next before =>
      match serve before with
      | .error error => { reading with position := .refused error }
      | .ok (items, continuation) => {
          visited := reading.visited ++ items
          position :=
            match continuation with
            | none => .ended
            | some cursor => .next (some cursor) }

end Reading

variable {ρ γ ε : Type}

/-- The reader after so many reads. -/
def walk (serve : Nat → Option γ → Except ε (List ρ × Option γ)) :
    Nat → Reading ρ γ ε
  | 0 => .start
  | count + 1 => (walk serve count).advance (serve count)

def Position.map {δ : Type} (encode : γ → δ) : Position γ ε → Position δ ε
  | .next before => .next (before.map encode)
  | .ended => .ended
  | .refused error => .refused error

/-- A server that hands its cursors out encoded walks as the one it encodes,
as long as every cursor it gives can be read back. -/
theorem walk_encoded {δ : Type} (encode : γ → δ) (legible : γ → Prop)
    {plain : Nat → Option γ → Except ε (List ρ × Option γ)}
    {served : Nat → Option δ → Except ε (List ρ × Option δ)}
    (agree : ∀ index before, (∀ cursor ∈ before, legible cursor) →
      ∃ items continuation,
        plain index before = .ok (items, continuation) ∧
        served index (before.map encode) =
          .ok (items, continuation.map encode) ∧
        ∀ cursor ∈ continuation, legible cursor) (count : Nat) :
    walk served count = {
        visited := (walk plain count).visited
        position := (walk plain count).position.map encode } ∧
      ∀ before, (walk plain count).position = .next before →
        ∀ cursor ∈ before, legible cursor := by
  induction count with
  | zero =>
      refine ⟨rfl, ?_⟩
      intro before isStart
      cases isStart
      nofun
  | succ count induction =>
      obtain ⟨sameWalk, readable⟩ := induction
      simp only [walk, sameWalk]
      generalize walk plain count = reading at readable ⊢
      obtain ⟨visited, position⟩ := reading
      cases position with
      | ended => exact ⟨rfl, nofun⟩
      | refused error => exact ⟨rfl, nofun⟩
      | next before =>
          obtain ⟨items, continuation, isPlain, isServed, legibleNext⟩ :=
            agree count before (readable before rfl)
          simp only [Reading.advance, Position.map, isPlain, isServed]
          cases continuation with
          | none => exact ⟨rfl, nofun⟩
          | some cursor =>
              refine ⟨rfl, ?_⟩
              intro next isNext
              cases isNext
              exact legibleNext

/-! One read fetches a row more than it shows, and the key of the last row it
shows is the cursor when there was one. -/

section Walk

variable {κ : Type} [LinearOrder κ]

def cut (key : ρ → κ) (limit : Nat) (items : List ρ) : List ρ × Option κ :=
  (items.take limit,
    if limit < items.length then
      (items.take limit).getLast?.map key
    else
      none)

def read (key : ρ → κ) (limit : Nat) (rows : List ρ) (before : Option κ) :
    Except ε (List ρ × Option κ) :=
  .ok (cut key limit (page key before (limit + 1) rows))

variable {key : ρ → κ} {rows : List ρ} {before : Option κ} {limit : Nat}

@[simp] theorem cut_page :
    (cut key limit (page key before (limit + 1) rows)).1 =
      page key before limit rows := by
  simp [cut, page, List.take_take]

theorem mem_page_of_cut_none (distinct : (rows.map key).Nodup)
    (positive : 0 < limit)
    (ends : (cut key limit (page key before (limit + 1) rows)).2 = none)
    {row : ρ} (present : row ∈ rows)
    (isBehind : behind before (key row) = true) :
    row ∈ page key before limit rows := by
  have short : (page key before (limit + 1) rows).length ≤ limit := by
    by_contra long
    have continues : limit < (page key before (limit + 1) rows).length := by
      omega
    simp only [cut, if_pos continues, Option.map_eq_none_iff,
      List.getLast?_eq_none_iff, List.take_eq_nil_iff] at ends
    rcases ends with isZero | isEmpty
    · omega
    · rw [isEmpty] at continues
      cases continues
  have shown : row ∈ page key before (limit + 1) rows := by
    by_contra omitted
    have full := (omitted_of_page distinct present isBehind omitted).1
    omega
  rw [← cut_page]
  simpa only [cut, List.take_of_length_le short] using shown

/-- A cursor is the key of the last row shown, and nothing between it and the
page was left out. -/
theorem cut_eq_some (distinct : (rows.map key).Nodup) {cursor : κ}
    (continues :
      (cut key limit (page key before (limit + 1) rows)).2 = some cursor) :
    behind before cursor = true ∧
      (∀ row ∈ page key before limit rows, cursor ≤ key row) ∧
      ∀ row ∈ rows, behind before (key row) = true →
        row ∈ page key before limit rows ∨ key row < cursor := by
  have shownRows : (cut key limit (page key before (limit + 1) rows)).1 =
      page key before limit rows := cut_page
  simp only [cut] at continues shownRows
  split at continues
  · rw [shownRows] at continues
    obtain ⟨last, isLast, rfl⟩ := Option.map_eq_some_iff.mp continues
    obtain ⟨earlier, split⟩ := List.getLast?_eq_some_iff.mp isLast
    have lastShown : last ∈ page key before limit rows := by
      simp [split]
    have ordered := page_pairwise distinct before limit
    refine ⟨(mem_of_mem_page lastShown).2, ?_, ?_⟩
    · intro row member
      rw [split] at ordered member
      rcases List.mem_append.mp member with isEarlier | isLast
      · exact ((List.pairwise_append.mp ordered).2.2 row isEarlier last
          (by simp)).le
      · rw [List.mem_singleton.mp isLast]
    · intro row present isBehind
      by_cases shown : row ∈ page key before limit rows
      · exact .inl shown
      · exact .inr
          ((omitted_of_page distinct present isBehind shown).2 last lastShown)
  · cases continues

variable {limits : Nat → Nat} {contents : Nat → List ρ}

/-- Where a reader stands: what it visited descends down to its cursor, and of
the rows that were there at every read it missed none above the cursor. -/
structure Standing (key : ρ → κ) (contents : Nat → List ρ) (count : Nat)
    (reading : Reading ρ κ ε) : Prop where
  ordered : reading.visited.Pairwise fun left right => key right < key left
  accepted : ∀ error, reading.position ≠ .refused error
  above : ∀ before, reading.position = .next before →
    ∀ row ∈ reading.visited, behind before (key row) = false
  complete : ∀ wanted,
    (∀ earlier < count, wanted ∈ (contents earlier).map key) →
    (∀ before, reading.position = .next before →
      behind before wanted = false) →
    wanted ∈ reading.visited.map key

theorem standing_start :
    Standing key contents 0 (.start : Reading ρ κ ε) where
  ordered := .nil
  accepted := nofun
  above := nofun
  complete := by
    intro wanted _ isAbove
    cases isAbove none rfl

theorem Standing.advance {count : Nat} {reading : Reading ρ κ ε}
    (standing : Standing key contents count reading)
    (distinct : ((contents count).map key).Nodup) (positive : 0 < limit) :
    Standing key contents (count + 1)
      (reading.advance (read key limit (contents count))) := by
  obtain ⟨visited, position⟩ := reading
  cases position with
  | ended =>
      refine ⟨standing.ordered, standing.accepted, standing.above, ?_⟩
      intro wanted present
      exact standing.complete wanted fun earlier before =>
        present earlier (before.trans (Nat.lt_succ_self count))
  | refused error => exact absurd rfl (standing.accepted error)
  | next before =>
      have visitedAbove := standing.above before rfl
      have shownBehind : ∀ row ∈ page key before limit (contents count),
          behind before (key row) = true :=
        fun row shown => (mem_of_mem_page shown).2
      have ordered : (visited ++ page key before limit (contents count)).Pairwise
          fun left right => key right < key left := by
        refine List.pairwise_append.mpr
          ⟨standing.ordered, page_pairwise distinct before limit, ?_⟩
        intro row isVisited shown isShown
        exact lt_of_behind (shownBehind shown isShown) (visitedAbove row isVisited)
      have missed : ∀ wanted,
          (∀ earlier < count + 1, wanted ∈ (contents earlier).map key) →
          wanted ∉ (visited ++ page key before limit (contents count)).map key →
          ∃ row ∈ contents count, key row = wanted ∧
            behind before wanted = true ∧
            row ∉ page key before limit (contents count) := by
        intro wanted present absent
        rw [List.map_append, List.mem_append, not_or] at absent
        obtain ⟨row, isPresent, rfl⟩ :=
          List.mem_map.mp (present count (Nat.lt_succ_self count))
        refine ⟨row, isPresent, rfl, ?_, fun shown =>
          absent.2 (List.mem_map_of_mem shown)⟩
        by_contra isAbove
        rw [Bool.not_eq_true] at isAbove
        refine absent.1 (standing.complete (key row) ?_ ?_)
        · intro earlier before
          exact present earlier (before.trans (Nat.lt_succ_self count))
        · intro other same
          cases same
          exact isAbove
      simp only [Reading.advance, read, cut_page]
      cases continues :
          (cut key limit (page key before (limit + 1) (contents count))).2 with
      | none =>
          refine ⟨ordered, nofun, nofun, ?_⟩
          intro wanted present _
          by_contra absent
          obtain ⟨row, isPresent, rfl, isBehind, omitted⟩ :=
            missed wanted present absent
          exact omitted
            (mem_page_of_cut_none distinct positive continues isPresent isBehind)
      | some cursor =>
          obtain ⟨cursorBehind, shownAbove, restBehind⟩ :=
            cut_eq_some distinct continues
          refine ⟨ordered, nofun, ?_, ?_⟩
          · intro other same row member
            cases same
            have notBelow : cursor ≤ key row := by
              rcases List.mem_append.mp member with isVisited | isShown
              · exact (lt_of_behind cursorBehind (visitedAbove row isVisited)).le
              · exact shownAbove row isShown
            simpa [behind] using notBelow
          · intro wanted present isAbove
            by_contra absent
            obtain ⟨row, isPresent, rfl, isBehind, omitted⟩ :=
              missed wanted present absent
            have below := (restBehind row isPresent isBehind).resolve_left omitted
            have notBelow := isAbove (some cursor) rfl
            rw [(behind_some cursor (key row)).mpr below] at notBelow
            cases notBelow

private theorem advance_eq_next {reading : Reading ρ κ ε}
    (distinct : (rows.map key).Nodup) {cursor : Option κ}
    (continues :
      (reading.advance (read key limit rows)).position = .next cursor) :
    ∃ before, reading.position = .next before ∧
      (∀ lower, behind cursor lower = true → behind before lower = true) ∧
      (reading.advance (read key limit rows)).visited =
        reading.visited ++ page key before limit rows ∧
      page key before limit rows ≠ [] := by
  obtain ⟨visited, position⟩ := reading
  cases position with
  | ended => cases continues
  | refused error => cases continues
  | next before =>
      simp only [Reading.advance, read, cut_page] at continues ⊢
      cases found : (cut key limit (page key before (limit + 1) rows)).2 with
      | none =>
          rw [found] at continues
          cases continues
      | some last =>
          rw [found] at continues
          cases continues
          refine ⟨before, rfl, ?_, rfl, ?_⟩
          · intro lower isBehind
            have cursorBehind := (cut_eq_some distinct found).1
            cases before with
            | none => rfl
            | some bound =>
                rw [behind_some] at isBehind cursorBehind ⊢
                exact isBehind.trans cursorBehind
          · intro isEmpty
            have shown : (cut key limit (page key before (limit + 1) rows)).1 =
                [] := by
              rw [cut_page, isEmpty]
            simp only [cut] at shown found
            simp [shown] at found

theorem standing_walk (distinct : ∀ count, ((contents count).map key).Nodup)
    (positive : ∀ count, 0 < limits count) (count : Nat) :
    Standing key contents count
      (walk (fun index => read key (limits index) (contents index)) count :
        Reading ρ κ ε) := by
  induction count with
  | zero => exact standing_start
  | succ count induction =>
      exact induction.advance (distinct count) (positive count)

abbrev keysetWalk (ε : Type) (key : ρ → κ) (limits : Nat → Nat)
    (contents : Nat → List ρ) : Nat → Reading ρ κ ε :=
  walk fun index => read key (limits index) (contents index)

private theorem bounded_of_next
    (distinct : ∀ count, ((contents count).map key).Nodup)
    {additions : List κ}
    (added : ∀ count before,
      (keysetWalk ε key limits contents (count + 1)).position = .next before →
      ∀ row ∈ contents (count + 1), key row ∉ (contents count).map key →
        behind before (key row) = true → key row ∈ additions)
    (count : Nat) {before : Option κ}
    (continues :
      (keysetWalk ε key limits contents count).position = .next before) :
    (∀ row ∈ contents count, behind before (key row) = true →
      key row ∈ (contents 0).map key ++ additions) ∧
    (∀ row ∈ (keysetWalk ε key limits contents count).visited,
      key row ∈ (contents 0).map key ++ additions) ∧
    count ≤ (keysetWalk ε key limits contents count).visited.length := by
  induction count generalizing before with
  | zero =>
      refine ⟨?_, nofun, Nat.zero_le _⟩
      intro row present _
      exact List.mem_append_left _ (List.mem_map_of_mem present)
  | succ count induction =>
      obtain ⟨earlier, wasNext, narrows, visited, shownSome⟩ :=
        advance_eq_next (distinct count) continues
      obtain ⟨restKnown, visitedKnown, counted⟩ := induction wasNext
      change (keysetWalk ε key limits contents (count + 1)).visited =
        (keysetWalk ε key limits contents count).visited ++ _ at visited
      refine ⟨?_, ?_, ?_⟩
      · intro row present isBehind
        by_cases wasThere : key row ∈ (contents count).map key
        · obtain ⟨older, isOlder, sameKey⟩ := List.mem_map.mp wasThere
          rw [← sameKey] at isBehind ⊢
          exact restKnown older isOlder (narrows _ isBehind)
        · exact List.mem_append_right _
            (added count before continues row present wasThere isBehind)
      · intro row member
        rw [visited] at member
        rcases List.mem_append.mp member with isVisited | isShown
        · exact visitedKnown row isVisited
        · obtain ⟨present, isBehind⟩ := mem_of_mem_page isShown
          exact restKnown row present isBehind
      · have shown := List.length_pos_of_ne_nil shownSome
        rw [visited, List.length_append]
        omega

/-- A walk behind whose cursor only finitely many keys are ever added ends. -/
theorem walk_ends (distinct : ∀ count, ((contents count).map key).Nodup)
    (positive : ∀ count, 0 < limits count) (additions : List κ)
    (added : ∀ count before,
      (keysetWalk ε key limits contents (count + 1)).position = .next before →
      ∀ row ∈ contents (count + 1), key row ∉ (contents count).map key →
        behind before (key row) = true → key row ∈ additions) :
    ∃ count ≤ (contents 0).length + additions.length + 1,
      (keysetWalk ε key limits contents count).position = .ended := by
  refine ⟨(contents 0).length + additions.length + 1, le_rfl, ?_⟩
  generalize isCount : (contents 0).length + additions.length + 1 = count
  have standing : Standing key contents count
      (keysetWalk ε key limits contents count) :=
    standing_walk distinct positive count
  cases position : (keysetWalk ε key limits contents count).position with
  | ended => rfl
  | refused error => exact absurd position (standing.accepted error)
  | next before =>
      obtain ⟨-, known, counted⟩ := bounded_of_next distinct added count position
      have apart : ((keysetWalk ε key limits contents count).visited.map
          key).Nodup := by
        apply List.pairwise_map.mpr
        exact standing.ordered.imp fun below => below.ne'
      have contained : (keysetWalk ε key limits contents count).visited.map key ⊆
          (contents 0).map key ++ additions := by
        intro wanted member
        obtain ⟨row, isVisited, rfl⟩ := List.mem_map.mp member
        exact known row isVisited
      have few := (List.subperm_of_subset apart contained).length_le
      simp only [List.length_map, List.length_append] at few
      omega

end Walk

end NvidiaBuildLb.Foundation.Keyset
