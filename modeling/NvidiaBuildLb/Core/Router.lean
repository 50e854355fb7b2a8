import NvidiaBuildLb.Core.Records
import NvidiaBuildLb.Foundation.RoundRobin

namespace NvidiaBuildLb.Core

open Foundation

/-! The selector of upstream keys, and the turns it gives them. -/

/-- One more than `usize::MAX`; an addition beyond it starts again at zero. -/
def usizeBound : Nat := 2 ^ 64

structure Router where
  nextSlot : Nat
  deriving DecidableEq, Repr

def KeySummary.eligible (now : Timestamp) (key : KeySummary) : Bool :=
  key.enabled && key.verified &&
    key.cooldownUntil.all fun until_ => until_ ≤ now

namespace Router

def indexAt (router : Router) (keys : List KeySummary) (offset : Nat) : Nat :=
  (router.nextSlot + offset) % usizeBound % keys.length

/-- The index at which the loop of `select` stops. -/
def chosen (router : Router) (now : Timestamp) (keys : List KeySummary) :
    Option Nat :=
  ((List.range keys.length).find? fun offset =>
    (keys[router.indexAt keys offset]?).any (KeySummary.eligible now)).map
      (router.indexAt keys)

def select (router : Router) (now : Timestamp) (keys : List KeySummary) :
    Option Uuid × Router :=
  match router.chosen now keys with
  | none => (none, router)
  | some index =>
      (keys[index]?.map KeySummary.id,
        { nextSlot := (index + 1) % keys.length })

/-- Selections one after the other, each at its own time. -/
def selections (keys : List KeySummary) :
    Router → List Timestamp → List (Option Nat)
  | _, [] => []
  | router, now :: times =>
      router.chosen now keys ::
        selections keys (router.select now keys).2 times

/-- At the times given, the keys are eligible that were at `now`. -/
def Steady (keys : List KeySummary) (now : Timestamp)
    (times : List Timestamp) : Prop :=
  ∀ time ∈ times, ∀ key ∈ keys, key.eligible time = key.eligible now

/-- What a selector is for. -/
structure Correct (router : Router) (now : Timestamp)
    (keys : List KeySummary) : Prop where
  selects : (router.select now keys).1.isSome = true ↔
    ∃ key ∈ keys, key.eligible now = true
  eligible : ∀ id, (router.select now keys).1 = some id →
    ∃ key ∈ keys, key.id = id ∧ key.eligible now = true
  range : router.nextSlot < keys.length →
    (router.select now keys).2.nextSlot < keys.length
  fair : ∀ times, Steady keys now times →
    ∀ index key, keys[index]? = some key → key.eligible now = true →
      times.length / keys.countP (KeySummary.eligible now) ≤
          (router.selections keys times).count (some index) ∧
        (router.selections keys times).count (some index) ≤
          (times.length + (keys.countP (KeySummary.eligible now) - 1)) /
            keys.countP (KeySummary.eligible now)

/-- The loop comes by the index: going up from the cursor, or after the sum
has started again at zero. -/
def Passes (router : Router) (keys : List KeySummary) (index : Nat) : Prop :=
  index + usizeBound < router.nextSlot + keys.length ∨
    ∃ offset, offset < keys.length ∧ router.nextSlot + offset < usizeBound ∧
      (router.nextSlot + offset) % keys.length = index

/-- The index holds an eligible key. -/
abbrev Free (now : Timestamp) (keys : List KeySummary) (index : Nat) : Prop :=
  (keys[index]?).any (KeySummary.eligible now) = true

section Selection

variable {router : Router} {now : Timestamp} {keys : List KeySummary}
  {index : Nat}

theorem free_iff : Free now keys index ↔
    ∃ key, keys[index]? = some key ∧ key.eligible now = true := by
  unfold Free
  cases keys[index]? <;> simp

theorem exists_free : (∃ index, Free now keys index) ↔
    ∃ key ∈ keys, key.eligible now = true := by
  simp only [free_iff, List.mem_iff_getElem?]
  constructor
  · intro ⟨index, key, found, isEligible⟩
    exact ⟨key, ⟨index, found⟩, isEligible⟩
  · intro ⟨key, ⟨index, found⟩, isEligible⟩
    exact ⟨index, key, found, isEligible⟩

theorem Free.within (free : Free now keys index) : index < keys.length := by
  obtain ⟨key, found, _⟩ := free_iff.mp free
  exact (List.getElem?_eq_some_iff.mp found).1

theorem count_free (now : Timestamp) (keys : List KeySummary) :
    keys.length.count (Free now keys) =
      keys.countP (KeySummary.eligible now) := by
  induction keys with
  | nil => rfl
  | cons key rest induction =>
      rw [List.length_cons, Nat.count_succ', List.countP_cons, ← induction]
      rfl

theorem chosen_eq_some (chose : router.chosen now keys = some index) :
    Free now keys index ∧ ∃ offset, offset < keys.length ∧
      router.indexAt keys offset = index ∧
      ∀ earlier, earlier < offset →
        ¬ Free now keys (router.indexAt keys earlier) := by
  obtain ⟨offset, found, isIndex⟩ := Option.map_eq_some_iff.mp chose
  obtain ⟨isFree, inside, skipped⟩ := List.find?_range_eq_some.mp found
  refine ⟨isIndex ▸ isFree, offset, List.mem_range.mp inside, isIndex, ?_⟩
  intro earlier before free
  have skips := skipped earlier before
  rw [free] at skips
  cases skips

theorem chosen_isSome : (router.chosen now keys).isSome = true ↔
    ∃ offset, offset < keys.length ∧
      Free now keys (router.indexAt keys offset) := by
  unfold chosen
  rw [Option.isSome_map, List.find?_isSome]
  simp only [List.mem_range]

theorem select_isSome : (router.select now keys).1.isSome = true ↔
    (router.chosen now keys).isSome = true := by
  unfold select
  split
  · rename_i none_
    simp [none_]
  · rename_i index chose
    obtain ⟨key, found, _⟩ := free_iff.mp (chosen_eq_some chose).1
    simp [chose, found]

theorem select_next (chose : router.chosen now keys = some index) :
    (router.select now keys).2 =
      { nextSlot := (index + 1) % keys.length } := by
  unfold select
  rw [chose]

theorem chosen_steady {time : Timestamp}
    (steady : ∀ key ∈ keys, key.eligible time = key.eligible now) :
    router.chosen time keys = router.chosen now keys := by
  unfold chosen
  congr 2
  funext offset
  cases found : keys[router.indexAt keys offset]? with
  | none => rfl
  | some key => exact steady key (List.mem_of_getElem? found)

theorem chosen_turn (room : keys.length < 2 ^ 63)
    (inside : router.nextSlot < keys.length)
    (chose : router.chosen now keys = some index) :
    Turn (Free now keys) keys.length router.nextSlot index := by
  obtain ⟨isFree, offset, within, isIndex, skipped⟩ := chosen_eq_some chose
  have at_ : ∀ other, other < keys.length →
      router.indexAt keys other = (router.nextSlot + other) % keys.length := by
    intro other small
    unfold indexAt usizeBound
    rw [Nat.mod_eq_of_lt (show router.nextSlot + other < 2 ^ 64 by omega)]
  have ahead : ∀ other, router.nextSlot ≤ other → other < keys.length →
      other - router.nextSlot < offset → ¬ Free now keys other := by
    intro other from_ small before
    have skips := skipped (other - router.nextSlot) before
    rwa [at_ _ (by omega), Nat.mod_eq_of_lt (by omega),
      Nat.add_sub_cancel' from_] at skips
  rw [at_ offset within] at isIndex
  refine ⟨isFree, isFree.within, ?_⟩
  rcases Nat.lt_or_ge (router.nextSlot + offset) keys.length with low | high
  · rw [Nat.mod_eq_of_lt low] at isIndex
    refine .inl ⟨by omega, fun other from_ before => ?_⟩
    exact ahead other from_ (by omega) (by omega)
  · rw [Nat.mod_eq_sub_mod high, Nat.mod_eq_of_lt (by omega)] at isIndex
    refine .inr ⟨by omega, fun other from_ small => ?_,
      fun other before => ?_⟩
    · exact ahead other from_ small (by omega)
    · have skips := skipped (other + keys.length - router.nextSlot) (by omega)
      rwa [at_ _ (by omega), show router.nextSlot +
        (other + keys.length - router.nextSlot) = other + keys.length by omega,
        Nat.add_mod_right, Nat.mod_eq_of_lt (by omega)] at skips

theorem chosen_of_inside (room : keys.length < 2 ^ 63)
    (inside : router.nextSlot < keys.length) (free : Free now keys index) :
    (router.chosen now keys).isSome = true := by
  have within := free.within
  refine chosen_isSome.mpr
    ⟨(index + keys.length - router.nextSlot) % keys.length,
      Nat.mod_lt _ (by omega), ?_⟩
  have at_ : router.indexAt keys
      ((index + keys.length - router.nextSlot) % keys.length) = index := by
    have small := Nat.mod_lt (index + keys.length - router.nextSlot)
      (show 0 < keys.length by omega)
    unfold indexAt usizeBound
    rw [Nat.mod_eq_of_lt (by omega : router.nextSlot + _ < 2 ^ 64),
      Nat.add_mod_mod, show router.nextSlot +
        (index + keys.length - router.nextSlot) = index + keys.length by omega,
      Nat.add_mod_right, Nat.mod_eq_of_lt within]
  rw [at_]
  exact free

theorem selections_length (times : List Timestamp) :
    (router.selections keys times).length = times.length := by
  induction times generalizing router with
  | nil => rfl
  | cons time times induction => exact congrArg (· + 1) induction

theorem selections_turns (room : keys.length < 2 ^ 63)
    (free : Free now keys index) {times : List Timestamp}
    (steady : Steady keys now times) (inside : router.nextSlot < keys.length) :
    ∃ places, router.selections keys times = places.map some ∧
      Turns (Free now keys) keys.length router.nextSlot places := by
  induction times generalizing router with
  | nil => exact ⟨[], rfl, .nil _⟩
  | cons time times induction =>
      have same : router.chosen time keys = router.chosen now keys :=
        chosen_steady (steady time List.mem_cons_self)
      obtain ⟨place, chose⟩ := Option.isSome_iff_exists.mp
        (chosen_of_inside room inside free)
      have next := select_next (same.trans chose)
      obtain ⟨places, areSelections, turns⟩ := @induction
        (router.select time keys).2
        (fun other member => steady other (List.mem_cons_of_mem _ member))
        (by rw [next]; exact Nat.mod_lt _ (by omega))
      refine ⟨place :: places, ?_, .cons (chosen_turn room inside chose) ?_⟩
      · simp only [selections, same, chose, areSelections, List.map_cons]
      · rw [next] at turns
        exact turns

private theorem indexAt_passes (bounded : router.nextSlot < usizeBound)
    (room : keys.length < 2 ^ 63) {offset : Nat}
    (within : offset < keys.length) :
    Passes router keys (router.indexAt keys offset) := by
  unfold Passes indexAt
  rcases Nat.lt_or_ge (router.nextSlot + offset) usizeBound with low | high
  · rw [Nat.mod_eq_of_lt low]
    exact .inr ⟨offset, within, low, rfl⟩
  · left
    unfold usizeBound at *
    rw [Nat.mod_eq_sub_mod high, Nat.mod_eq_of_lt (by omega),
      Nat.mod_eq_of_lt (by omega)]
    omega

private theorem Passes.indexAt (room : keys.length < 2 ^ 63)
    (bounded : router.nextSlot < usizeBound)
    (passes : Passes router keys index) :
    ∃ offset, offset < keys.length ∧ router.indexAt keys offset = index := by
  unfold Router.indexAt
  rcases passes with around | ⟨offset, within, low, isIndex⟩
  · unfold usizeBound at *
    refine ⟨index + 2 ^ 64 - router.nextSlot, by omega, ?_⟩
    rw [show router.nextSlot + (index + 2 ^ 64 - router.nextSlot) =
      index + 2 ^ 64 by omega, Nat.add_mod_right, Nat.mod_eq_of_lt (by omega),
      Nat.mod_eq_of_lt (by omega)]
  · exact ⟨offset, within, by rw [Nat.mod_eq_of_lt low, isIndex]⟩

theorem passes_of_room (room : router.nextSlot + keys.length ≤ usizeBound)
    (within : index < keys.length) : Passes router keys index := by
  have below := Nat.mod_lt router.nextSlot (show 0 < keys.length by omega)
  have split := Nat.div_add_mod router.nextSlot keys.length
  let offset := (index + keys.length - router.nextSlot % keys.length) %
    keys.length
  have small : offset < keys.length := Nat.mod_lt _ (by omega)
  refine .inr ⟨offset, small, by omega, ?_⟩
  rw [Nat.add_mod_mod, ← Nat.mod_add_mod,
    show router.nextSlot % keys.length +
      (index + keys.length - router.nextSlot % keys.length) =
        index + keys.length by omega, Nat.add_mod_right,
    Nat.mod_eq_of_lt within]

/-- A selector is correct exactly if it comes by an eligible key, should there
be one. -/
theorem select_correct_iff (room : keys.length < 2 ^ 63)
    (bounded : router.nextSlot < usizeBound) :
    Correct router now keys ↔
      ((∃ key ∈ keys, key.eligible now = true) →
        ∃ index key, keys[index]? = some key ∧ key.eligible now = true ∧
          Passes router keys index) := by
  constructor
  · intro correct some_
    have selected := select_isSome.mp (correct.selects.mpr some_)
    obtain ⟨offset, within, isFree⟩ := chosen_isSome.mp selected
    obtain ⟨key, found, isEligible⟩ := free_iff.mp isFree
    exact ⟨_, key, found, isEligible, indexAt_passes bounded room within⟩
  · intro reaches
    have choose : ∀ {index}, Free now keys index →
        (router.chosen now keys).isSome = true := by
      intro other isFree
      obtain ⟨index, key, found, isEligible, passes⟩ :=
        reaches (exists_free.mp ⟨other, isFree⟩)
      obtain ⟨offset, within, isIndex⟩ := passes.indexAt room bounded
      refine chosen_isSome.mpr ⟨offset, within, ?_⟩
      rw [isIndex]
      exact free_iff.mpr ⟨key, found, isEligible⟩
    refine ⟨?_, ?_, ?_, ?_⟩
    · rw [select_isSome]
      constructor
      · intro selected
        obtain ⟨offset, _, isFree⟩ := chosen_isSome.mp selected
        exact exists_free.mp ⟨_, isFree⟩
      · intro some_
        obtain ⟨index, isFree⟩ := exists_free.mpr some_
        exact choose isFree
    · intro id selected
      unfold select at selected
      split at selected
      · cases selected
      · rename_i index chose
        obtain ⟨key, found, isEligible⟩ :=
          free_iff.mp (chosen_eq_some chose).1
        rw [found] at selected
        exact ⟨key, List.mem_of_getElem? found, Option.some.inj selected,
          isEligible⟩
    · intro inside
      unfold select
      split
      · exact inside
      · exact Nat.mod_lt _ (by omega)
    · intro times steady index key found isEligible
      have isFree : Free now keys index := free_iff.mpr ⟨key, found, isEligible⟩
      have within := isFree.within
      rw [← count_free]
      cases times with
      | nil => exact ⟨by simp, by simp [selections]⟩
      | cons time times =>
          have same : router.chosen time keys = router.chosen now keys :=
            chosen_steady (steady time List.mem_cons_self)
          obtain ⟨place, chose⟩ := Option.isSome_iff_exists.mp (choose isFree)
          have first := (chosen_eq_some chose).1
          have next := select_next (same.trans chose)
          obtain ⟨places, areSelections, turns⟩ := @selections_turns
            (router.select time keys).2 now keys index room isFree times
            (fun other member => steady other (List.mem_cons_of_mem _ member))
            (by rw [next]; exact Nat.mod_lt _ (by omega))
          rw [next] at turns
          -- Wherever the cursor was, the first key chosen starts the round.
          have round : Turns (Free now keys) keys.length place
              (place :: places) := .cons (.here first first.within) turns
          have counted : router.selections keys (time :: times) =
              (place :: places).map some := by
            simp only [selections, same, chose, areSelections, List.map_cons]
          have long : (time :: times).length = (place :: places).length := by
            have lengths := congrArg List.length counted
            rwa [selections_length, List.length_map] at lengths
          rw [counted, List.count_map_of_injective _ _
            (Option.some_injective _), long]
          exact round.fair first.within isFree within

end Selection

namespace Sample

def keyOf (id : Uuid) (enabled : Bool) : KeySummary where
  id
  label := "key"
  fingerprint := ""
  enabled
  verified := true
  cooldownUntil := none
  requestCount := 0
  failureCount := 0

theorem select_correct_iff_pair :
    Correct { nextSlot := 5 } 0 [keyOf 1 false, keyOf 2 true] :=
  (select_correct_iff (by decide) (by decide)).mpr fun _ =>
    ⟨1, keyOf 2 true, rfl, rfl, .inr ⟨0, by decide, by decide, rfl⟩⟩

/-- Behind a cursor at `usize::MAX` the third of three keys is not looked at. -/
theorem third_key_missed :
    (select { nextSlot := 2 ^ 64 - 1 } 0
        [keyOf 1 false, keyOf 2 false, keyOf 3 true]).1 = none ∧
      (∃ key ∈ [keyOf 1 false, keyOf 2 false, keyOf 3 true],
        key.eligible 0 = true) ∧
      ¬ Correct { nextSlot := 2 ^ 64 - 1 } 0
        [keyOf 1 false, keyOf 2 false, keyOf 3 true] := by
  have missed : (select { nextSlot := 2 ^ 64 - 1 } 0
      [keyOf 1 false, keyOf 2 false, keyOf 3 true]).1 = none := by
    decide
  have some_ : ∃ key ∈ [keyOf 1 false, keyOf 2 false, keyOf 3 true],
      key.eligible 0 = true := ⟨keyOf 3 true, by decide, rfl⟩
  refine ⟨missed, some_, fun correct => ?_⟩
  have selected := correct.selects.mpr some_
  rw [missed] at selected
  cases selected

end Sample

end Router

end NvidiaBuildLb.Core
