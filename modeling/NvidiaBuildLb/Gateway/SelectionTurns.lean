import Mathlib.Data.List.Permutation
import NvidiaBuildLb.Gateway.Selection

namespace NvidiaBuildLb.Gateway

open Foundation NvidiaBuildLb.Core

/-! The selections of the database are the turns that the core router gives, in
the order in which the cursor is locked. -/

namespace OperationsState

variable (state : OperationsState) (now : Timestamp)

/-- A receipt of the profile counts for the key. -/
def proven (profile : String) (key : UpstreamKeyRow) : Bool :=
  state.proofRows.any fun proof =>
    proof.keyId = key.id && proof.profileId = profile && state.isFresh now proof

/-- The key as the core router is shown it. -/
def routerKey (servable : Bool) (key : UpstreamKeyRow) : KeySummary where
  id := key.id
  label := key.label
  fingerprint := hexEncode key.fingerprint
  enabled := key.enabled && servable
  verified := key.verified
  cooldownUntil := key.cooldownUntil.map fromMicros
  requestCount := key.requestCount.toNat
  failureCount := key.failureCount.toNat

/-- The keys in use, enabled only with a receipt that counts and while the
gateway's own lease is fresh. -/
def routerKeys (ownerSeen : Bool) (profile : String) : List KeySummary :=
  state.inUse.map fun key => routerKey (ownerSeen && state.proven now profile key) key

variable {state now} {profile : String} {ownerSeen : Bool}

theorem routerKey_eligible {key : UpstreamKeyRow} {servable : Bool}
    (unretired : key.retired = false) :
    (routerKey servable key).eligible now = (servable && baseEligible now key) := by
  have clock : ∀ until_ : Micros, fromMicros until_ ≤ now ↔ until_ ≤ micros now :=
    fun until_ => (Int.le_ediv_iff_mul_le (by decide)).symm
  have cooled : ((key.cooldownUntil.map fromMicros).all fun until_ => decide (until_ ≤ now)) =
      key.cooldownUntil.all fun until_ => decide (until_ ≤ micros now) := by
    cases key.cooldownUntil with
    | none => rfl
    | some until_ => simp [clock]
  simp only [KeySummary.eligible, routerKey, cooled, baseEligible, unretired]
  cases servable <;> cases key.enabled <;> simp

theorem TwoKeys.filtered (two : state.TwoKeys) :
    ∃ first second, state.inUse = [first, second] ∧ first.slotNo = 1 ∧
      second.slotNo = 2 ∧ first.retired = false ∧ second.retired = false ∧
      ∀ serves : UpstreamKeyRow → Bool,
        orderedBySlot (state.database.upstreamKeys.rows.filter fun key =>
          !key.retired && serves key) = [first, second].filter serves := by
  obtain ⟨first, second, pair, isFirst, isSecond⟩ := two.exist
  have perm : (state.database.upstreamKeys.rows.filter fun key => !key.retired).Perm
      [first, second] := by
    rw [← pair]
    exact (List.perm_insertionSort _ _).symm
  have unretired : ∀ key ∈ [first, second], key.retired = false := by
    intro key member
    simpa using (List.mem_filter.mp (perm.mem_iff.mpr member)).2
  refine ⟨first, second, pair, isFirst, isSecond, unretired _ (by simp),
    unretired _ (by simp), fun serves => ?_⟩
  have kept : (state.database.upstreamKeys.rows.filter fun key =>
      !key.retired && serves key) =
        (state.database.upstreamKeys.rows.filter fun key => !key.retired).filter serves := by
    rw [List.filter_filter]
    exact List.filter_congr fun key _ => Bool.and_comm ..
  rw [kept]
  rcases List.perm_pair.mp perm with same | same <;> rw [same]
  · cases firstServes : serves first <;> cases secondServes : serves second <;>
      simp [orderedBySlot, firstServes, secondServes, isFirst, isSecond]
  · cases firstServes : serves first <;> cases secondServes : serves second <;>
      simp [orderedBySlot, firstServes, secondServes, isFirst, isSecond]

theorem hardEligible_eq :
    state.hardEligible now profile =
      orderedBySlot (state.database.upstreamKeys.rows.filter fun key =>
        !key.retired && (baseEligible now key && state.proven now profile key)) := by
  unfold hardEligible
  congr 1
  refine List.filter_congr fun key _ => ?_
  unfold proven baseEligible
  cases key.retired <;> simp

private theorem select_pair {left right : KeySummary} {nextSlot : Nat}
    (placed : nextSlot = 1 ∨ nextSlot = 2) :
    Router.select { nextSlot := nextSlot - 1 } now [left, right] =
      if nextSlot = 1 then
        if left.eligible now then (some left.id, { nextSlot := 1 })
        else if right.eligible now then (some right.id, { nextSlot := 0 })
        else (none, { nextSlot := 0 })
      else if right.eligible now then (some right.id, { nextSlot := 0 })
      else if left.eligible now then (some left.id, { nextSlot := 1 })
      else (none, { nextSlot := 1 }) := by
  have places : List.range 2 = [0, 1] := rfl
  rcases placed with rfl | rfl <;>
    cases leftServes : left.eligible now <;> cases rightServes : right.eligible now <;>
      simp [Router.select, Router.chosen, Router.indexAt, usizeBound, places, leftServes,
        rightServes]

private theorem turnOf_pair {first second : UpstreamKeyRow} {nextSlot : Nat}
    {serves : UpstreamKeyRow → Bool} (isFirst : first.slotNo = 1)
    (isSecond : second.slotNo = 2) (placed : nextSlot = 1 ∨ nextSlot = 2) :
    turnOf nextSlot ([first, second].filter serves) =
      if nextSlot = 1 then
        if serves first then some first else if serves second then some second else none
      else if serves second then some second
      else if serves first then some first else none := by
  rcases placed with rfl | rfl <;>
    cases firstServes : serves first <;> cases secondServes : serves second <;>
      simp [turnOf, firstServes, secondServes, isFirst, isSecond]

theorem TwoKeys.served (two : state.TwoKeys) {nextSlot : Nat}
    (both : (state.candidates now ownerSeen profile).length = 2)
    (placed : nextSlot = 1 ∨ nextSlot = 2) :
    (turnOf nextSlot (state.candidates now ownerSeen profile)).map UpstreamKeyRow.slotNo =
      some nextSlot := by
  obtain ⟨first, second, -, isFirst, isSecond, -, -, filtered⟩ := two.filtered
  cases ownerSeen with
  | false => cases both
  | true =>
      rw [candidates, if_pos rfl, hardEligible_eq, filtered] at both ⊢
      have whole : [first, second].filter (fun key =>
          baseEligible now key && state.proven now profile key) = [first, second] :=
        List.filter_eq_self.mpr fun key member => by
          exact List.length_filter_eq_length_iff.mp both key member
      rw [whole]
      rcases placed with rfl | rfl <;> simp [turnOf, isFirst, isSecond]

/-- One selection is one turn of the core router, whose cursor counts from zero. -/
theorem TwoKeys.select (two : state.TwoKeys) {nextSlot : Nat}
    (placed : nextSlot = 1 ∨ nextSlot = 2) :
    Router.select { nextSlot := nextSlot - 1 } now
        (state.routerKeys now ownerSeen profile) =
      ((turnOf nextSlot (state.candidates now ownerSeen profile)).map UpstreamKeyRow.id, {
        nextSlot := ((turnOf nextSlot (state.candidates now ownerSeen profile)).map
          fun key => followingSlot key.slotNo).getD nextSlot - 1 }) := by
  obtain ⟨first, second, pair, isFirst, isSecond, firstInUse, secondInUse, filtered⟩ :=
    two.filtered
  have listed : state.candidates now ownerSeen profile =
      [first, second].filter fun key => ownerSeen &&
        (state.proven now profile key && baseEligible now key) := by
    rw [candidates, hardEligible_eq, filtered]
    cases ownerSeen with
    | true => simp [Bool.and_comm]
    | false => simp
  have shown : state.routerKeys now ownerSeen profile =
      [routerKey (ownerSeen && state.proven now profile first) first,
        routerKey (ownerSeen && state.proven now profile second) second] := by
    rw [routerKeys, pair]
    rfl
  rw [listed, shown, select_pair placed, turnOf_pair isFirst isSecond placed,
    routerKey_eligible firstInUse, routerKey_eligible secondInUse, Bool.and_assoc,
    Bool.and_assoc]
  rcases placed with rfl | rfl <;> (repeat' split) <;>
    simp_all [followingSlot, routerKey]

end OperationsState

theorem cursor_placed {nextSlot : Nat} (placed : nextSlot = 1 ∨ nextSlot = 2)
    (key : Option UpstreamKeyRow) :
    (key.map fun key => followingSlot key.slotNo).getD nextSlot = 1 ∨
      (key.map fun key => followingSlot key.slotNo).getD nextSlot = 2 := by
  cases key with
  | none => exact placed
  | some key =>
      rw [Option.map_some, Option.getD_some, followingSlot]
      split
      · exact .inr rfl
      · exact .inl rfl

def routerTurns : Router → List (Timestamp × List KeySummary) → List (Option Uuid × Router)
  | _, [] => []
  | router, (now, keys) :: asked =>
      router.select now keys :: routerTurns (router.select now keys).2 asked

def routerAfter (router : Router) (asked : List (Timestamp × List KeySummary)) : Router :=
  asked.foldl (fun router (now, keys) => (router.select now keys).2) router

theorem routerTurns_concat (router : Router) (asked : List (Timestamp × List KeySummary))
    (now : Timestamp) (keys : List KeySummary) :
    routerTurns router (asked ++ [(now, keys)]) =
      routerTurns router asked ++ [(routerAfter router asked).select now keys] := by
  induction asked generalizing router with
  | nil => rfl
  | cons first rest induction =>
      rw [List.cons_append, routerTurns, routerTurns, induction]
      rfl

theorem routerAfter_concat (router : Router) (asked : List (Timestamp × List KeySummary))
    (now : Timestamp) (keys : List KeySummary) :
    routerAfter router (asked ++ [(now, keys)]) =
      ((routerAfter router asked).select now keys).2 :=
  List.foldl_append

namespace SelectionTurn

def asked (profile : String) (turn : SelectionTurn) : Timestamp × List KeySummary :=
  (turn.now, turn.seen.routerKeys turn.now turn.ownerSeen profile)

def given (turn : SelectionTurn) : Option Uuid × Nat :=
  (turn.key.map UpstreamKeyRow.id, turn.cursor)

end SelectionTurn

def givenTurns (turns : List SelectionTurn) : List SelectionTurn :=
  turns.filter fun turn => turn.key.isSome

section Runs

variable {τ : Type} {profile : String} {start : RoutingStateRow}

/-- The turns taken from one position of the cursor's row to another. -/
inductive Chained (profile : String) (start : RoutingStateRow) :
    List SelectionTurn → RoutingStateRow → Prop
  | start : Chained profile start [] start
  | next {turns : List SelectionTurn} {routing : RoutingStateRow} {turn : SelectionTurn}
      (earlier : Chained profile start turns routing) (two : turn.seen.TwoKeys)
      (isKey : turn.key = turnOf routing.nextSlot
        (turn.seen.candidates turn.now turn.ownerSeen profile))
      (isCursor : turn.cursor =
        (turn.key.map fun key => followingSlot key.slotNo).getD routing.nextSlot)
      (isGeneration : turn.generation = routing.generation + turn.key.toList.length) :
      Chained profile start (turns ++ [turn])
        { routing with nextSlot := turn.cursor, generation := turn.generation }

/-- The row of the cursor stands where the turns have led. -/
structure InTurns (profile : String) (start : RoutingStateRow)
    (world : SelectionWorld τ) : Prop where
  standing : ∃ routing, world.state.routing profile = some routing ∧
    Chained profile start world.turns routing
  two : world.state.TwoKeys

/-- What a transaction knows while it holds the lock. -/
def KnowsTurn (profile : String) (thread : τ) (phase : SelectionPhase)
    (world : SelectionWorld τ) : Prop :=
  match phase with
  | .locked _ _ routing =>
      world.holder = some thread ∧ world.state.routing profile = some routing
  | .chosen turn => world.holder = some thread ∧ turn.seen.TwoKeys ∧
      ∃ routing, world.state.routing profile = some routing ∧
        turn.key = turnOf routing.nextSlot
          (turn.seen.candidates turn.now turn.ownerSeen profile) ∧
        turn.cursor =
          (turn.key.map fun key => followingSlot key.slotNo).getD routing.nextSlot ∧
        turn.generation = routing.generation + turn.key.toList.length
  | _ => True

theorem routing_advanceCursor {state : OperationsState} {routing : RoutingStateRow}
    (found : state.routing profile = some routing) (slotNo : Nat) :
    (state.advanceCursor profile slotNo).routing profile = some { routing with
      nextSlot := slotNo
      generation := routing.generation + 1 } := by
  have isProfile : routing.profileId = profile := Table.key_of_find? found
  have updated := Table.find?_update state.database.routingState
    (fun row => row.profileId = profile)
    (fun row => { row with nextSlot := slotNo, generation := row.generation + 1 })
    (fun _ => rfl) profile
  rw [OperationsState.routing] at found ⊢
  rw [OperationsState.advanceCursor, updated, found]
  simp [isProfile]

theorem routing_commit {world : SelectionWorld τ} {routing : RoutingStateRow}
    {turn : SelectionTurn} (found : world.state.routing profile = some routing) :
    (world.commit profile turn).state.routing profile = some { routing with
      nextSlot := (turn.key.map fun key => followingSlot key.slotNo).getD routing.nextSlot
      generation := routing.generation + turn.key.toList.length } := by
  unfold SelectionWorld.commit
  cases turn.key with
  | none => exact found
  | some key => exact routing_advanceCursor found _

theorem InTurns.commit {world : SelectionWorld τ} {thread : τ} {turn : SelectionTurn}
    (inTurns : InTurns profile start world)
    (knows : KnowsTurn profile thread (.chosen turn) world) :
    InTurns profile start (world.commit profile turn) := by
  obtain ⟨-, two, routing, found, isKey, isCursor, isGeneration⟩ := knows
  obtain ⟨same, found', chained⟩ := inTurns.standing
  obtain rfl := Option.some.inj (found.symm.trans found')
  refine ⟨⟨_, routing_commit found, ?_⟩, ⟨?_⟩⟩
  · rw [← isCursor, ← isGeneration]
    exact chained.next two isKey isCursor isGeneration
  · obtain ⟨first, second, pair, slots⟩ := inTurns.two.exist
    refine ⟨first, second, ?_, slots⟩
    rw [← pair, SelectionWorld.commit]
    cases turn.key <;> rfl

theorem InTurns.of_same {world after : SelectionWorld τ}
    (inTurns : InTurns profile start world) (turns : after.turns = world.turns)
    (routing : after.state.routing profile = world.state.routing profile)
    (two : after.state.TwoKeys) : InTurns profile start after where
  standing := by
    rw [routing, turns]
    exact inTurns.standing
  two := two

theorem inTurns_act {world : SelectionWorld τ} {thread : τ} {phase : SelectionPhase}
    (action : SelectionAction) (inTurns : InTurns profile start world)
    (knows : KnowsTurn profile thread phase world) :
    InTurns profile start (world.act profile thread action phase).1 ∧
      KnowsTurn profile thread (world.act profile thread action phase).2
        (world.act profile thread action phase).1 := by
  cases action with
  | lockCursor =>
      cases phase with
      | begun selector now =>
          rw [SelectionWorld.act, SelectionWorld.lockCursor]
          split
          · exact ⟨inTurns, trivial⟩
          · exact ⟨inTurns, trivial⟩
          · rename_i routing _ found
            exact ⟨inTurns.of_same rfl rfl inTurns.two, rfl, found⟩
      | locked selector now routing => exact ⟨inTurns, knows⟩
      | chosen turn => exact ⟨inTurns, knows⟩
      | ended => exact ⟨inTurns, knows⟩
  | loadCandidates =>
      cases phase with
      | begun selector now => exact ⟨inTurns, knows⟩
      | locked selector now routing =>
          exact ⟨inTurns, knows.1, inTurns.two, routing, knows.2, rfl, rfl, rfl⟩
      | chosen turn => exact ⟨inTurns, knows⟩
      | ended => exact ⟨inTurns, knows⟩
  | commit =>
      cases phase with
      | begun selector now => exact ⟨inTurns, knows⟩
      | locked selector now routing => exact ⟨inTurns, knows⟩
      | chosen turn => exact ⟨inTurns.commit knows, trivial⟩
      | ended => exact ⟨inTurns, knows⟩
  | fail =>
      cases phase with
      | begun selector now => exact ⟨inTurns, trivial⟩
      | locked selector now routing => exact ⟨inTurns.of_same rfl rfl inTurns.two, trivial⟩
      | chosen turn => exact ⟨inTurns.of_same rfl rfl inTurns.two, trivial⟩
      | ended => exact ⟨inTurns, trivial⟩

theorem knows_act {world : SelectionWorld τ} {thread other : τ} {phase there : SelectionPhase}
    (action : SelectionAction) (different : other ≠ thread)
    (knows : KnowsTurn profile thread phase world) (theirs : KnowsTurn profile other there world) :
    KnowsTurn profile other there (world.act profile thread action phase).1 := by
  have keeps : world.holder = some other →
      (world.act profile thread action phase).1 = world := by
    intro held
    have free : world.holder ≠ some thread := by
      intro mine
      exact different (Option.some.inj (held.symm.trans mine))
    cases action with
    | lockCursor =>
        cases phase with
        | begun selector now => rw [SelectionWorld.act, SelectionWorld.lockCursor, held]
        | locked selector now routing => rfl
        | chosen turn => rfl
        | ended => rfl
    | loadCandidates => cases phase <;> rfl
    | commit =>
        cases phase with
        | chosen turn => exact absurd knows.1 free
        | begun selector now => rfl
        | locked selector now routing => rfl
        | ended => rfl
    | fail =>
        cases phase with
        | locked selector now routing => exact absurd knows.1 free
        | chosen turn => exact absurd knows.1 free
        | begun selector now => rfl
        | ended => rfl
  cases there with
  | begun selector now => trivial
  | locked selector now routing => rw [keeps theirs.1]; exact theirs
  | chosen turn => rw [keeps theirs.1]; exact theirs
  | ended => trivial

theorem selections_proof [DecidableEq τ] (profile : String) (start : RoutingStateRow) :
    (selections τ profile).Proof (InTurns profile start) (KnowsTurn profile) where
  own := fun _ action _ _ inTurns knows => inTurns_act action inTurns knows
  others := fun _ action _ _ _ _ different _ knows theirs =>
    knows_act action different knows theirs
  surroundings := fun event _ inTurns => inTurns.of_same rfl rfl ⟨event.two.exist⟩
  surrounded := fun _ _ _ there _ theirs => by
    cases there with
    | begun selector now => trivial
    | locked selector now routing => exact theirs
    | chosen turn => exact theirs
    | ended => trivial

theorem givenTurns_concat (turns : List SelectionTurn) (turn : SelectionTurn) :
    givenTurns (turns ++ [turn]) =
      givenTurns turns ++ if turn.key.isSome then [turn] else [] := by
  rw [givenTurns, List.filter_append, List.filter_cons, List.filter_nil]
  rfl

theorem Chained.placed {turns : List SelectionTurn} {routing : RoutingStateRow}
    (chained : Chained profile start turns routing)
    (placed : start.nextSlot = 1 ∨ start.nextSlot = 2) :
    routing.nextSlot = 1 ∨ routing.nextSlot = 2 := by
  induction chained with
  | start => exact placed
  | next earlier two isKey isCursor isGeneration induction =>
      rw [isCursor]
      exact cursor_placed induction _

/-- Every turn is one of the router, and its cursor follows the row's. -/
theorem Chained.router {turns : List SelectionTurn} {routing : RoutingStateRow}
    (chained : Chained profile start turns routing)
    (placed : start.nextSlot = 1 ∨ start.nextSlot = 2) :
    turns.map SelectionTurn.given =
        (routerTurns { nextSlot := start.nextSlot - 1 }
          (turns.map (SelectionTurn.asked profile))).map
            (fun answer => (answer.1, answer.2.nextSlot + 1)) ∧
      routerAfter { nextSlot := start.nextSlot - 1 }
        (turns.map (SelectionTurn.asked profile)) =
          { nextSlot := routing.nextSlot - 1 } := by
  induction chained with
  | start => exact ⟨rfl, rfl⟩
  | @next turns routing turn earlier two isKey isCursor isGeneration induction =>
      obtain ⟨given, after⟩ := induction
      have before := earlier.placed placed
      have left := cursor_placed before turn.key
      have answer := @OperationsState.TwoKeys.select turn.seen turn.now profile turn.ownerSeen
        two routing.nextSlot before
      rw [← isKey, ← isCursor] at answer
      rw [← isCursor] at left
      have again : turn.cursor - 1 + 1 = turn.cursor := by omega
      have asking : (turns ++ [turn]).map (SelectionTurn.asked profile) =
          turns.map (SelectionTurn.asked profile) ++
            [(turn.now, turn.seen.routerKeys turn.now turn.ownerSeen profile)] := by
        rw [List.map_append]
        rfl
      constructor
      · rw [asking, routerTurns_concat, after, answer, List.map_append, List.map_append, given]
        simp only [List.map_cons, List.map_nil, SelectionTurn.given, again]
      · rw [asking, routerAfter_concat, after, answer]

theorem Chained.generations {turns : List SelectionTurn} {routing : RoutingStateRow}
    (chained : Chained profile start turns routing) :
    (givenTurns turns).map SelectionTurn.generation =
        List.range' (start.generation + 1) (givenTurns turns).length ∧
      routing.generation = start.generation + (givenTurns turns).length := by
  induction chained with
  | start => exact ⟨rfl, rfl⟩
  | @next turns routing turn earlier two isKey isCursor isGeneration induction =>
      obtain ⟨numbered, counted⟩ := induction
      rw [givenTurns_concat, List.map_append, numbered, List.length_append]
      cases chosen : turn.key with
      | none =>
          rw [chosen] at isGeneration
          simpa [isGeneration] using counted
      | some key =>
          rw [chosen] at isGeneration
          have isLast : turn.generation = routing.generation + 1 := isGeneration
          simp only [Option.isSome_some, if_true, List.map_singleton, List.length_singleton,
            List.range'_concat, isLast, counted]
          refine ⟨?_, by omega⟩
          congr 2
          omega

end Runs

theorem byTurn_iff {nextSlot : Nat} {left right : Upstream} :
    byTurn nextSlot left right = true ↔
      left.slotNo = nextSlot ∨ (right.slotNo ≠ nextSlot ∧ left.slotNo ≤ right.slotNo) := by
  unfold byTurn
  by_cases isLeft : left.slotNo = nextSlot
  · have onTurn : (left.slotNo != nextSlot) = false := by simp [isLeft]
    by_cases isRight : right.slotNo = nextSlot
    · simp [isLeft, isRight]
    · have other : (right.slotNo != nextSlot) = true := bne_iff_ne.mpr isRight
      rw [onTurn, other]
      exact iff_of_true rfl (.inl isLeft)
  · have other : (left.slotNo != nextSlot) = true := bne_iff_ne.mpr isLeft
    by_cases isRight : right.slotNo = nextSlot
    · have onTurn : (right.slotNo != nextSlot) = false := by simp [isRight]
      rw [onTurn, other]
      refine iff_of_false (by simp [compare, compareOfLessAndEq]) ?_
      rintro (isNext | ⟨unlike, _⟩)
      · exact isLeft isNext
      · exact unlike isRight
    · have others : (right.slotNo != nextSlot) = true := bne_iff_ne.mpr isRight
      simp [other, others, isLeft, isRight, Nat.isLE_compare]

theorem turnOf_first {nextSlot : Nat} {candidates : List UpstreamKeyRow} {key : UpstreamKeyRow}
    (sorted : candidates.Pairwise fun left right => left.slotNo ≤ right.slotNo)
    (isTurn : turnOf nextSlot candidates = some key) :
    key ∈ candidates ∧ ∀ other ∈ candidates, key.slotNo = nextSlot ∨
      (other.slotNo ≠ nextSlot ∧ key.slotNo ≤ other.slotNo) := by
  rcases Option.or_eq_some_iff.mp isTurn with found | ⟨none, first⟩
  · have isNext : key.slotNo = nextSlot := by simpa using List.find?_some found
    exact ⟨List.mem_of_find?_eq_some found, fun _ _ => .inl isNext⟩
  · refine ⟨List.mem_of_head? first, fun other member => .inr ⟨?_, ?_⟩⟩
    · simpa using List.find?_eq_none.mp none other member
    · obtain ⟨rest, rfl⟩ := List.head?_eq_some_iff.mp first
      rcases List.mem_cons.mp member with rfl | behind
      · exact Nat.le_refl _
      · exact List.rel_of_pairwise_cons sorted behind

theorem turnOf_isSome {nextSlot : Nat} {candidates : List UpstreamKeyRow} :
    (turnOf nextSlot candidates).isSome = !candidates.isEmpty := by
  cases candidates with
  | nil => rfl
  | cons first rest => simp [turnOf]

section Simulation

variable {state : OperationsState} {now : Timestamp} {profile endpoint : String} {stream : Bool}
  {routing : RoutingStateRow}

theorem hardEligible_sorted :
    (state.hardEligible now profile).Pairwise fun left right => left.slotNo ≤ right.slotNo := by
  have : Std.Total fun left right : UpstreamKeyRow => left.slotNo ≤ right.slotNo :=
    ⟨fun left right => Nat.le_total ..⟩
  have : IsTrans UpstreamKeyRow fun left right => left.slotNo ≤ right.slotNo :=
    ⟨fun _ _ _ => Nat.le_trans⟩
  exact List.pairwise_insertionSort _ _

theorem OperationsState.TwoKeys.slotsUnique (two : state.TwoKeys) : state.SlotsUnique := by
  obtain ⟨first, second, pair, isFirst, isSecond⟩ := two.exist
  have slots : (state.inUse.map UpstreamKeyRow.slotNo).Nodup := by
    rw [pair]
    simp [isFirst, isSecond]
  exact ((List.perm_insertionSort _ _).map UpstreamKeyRow.slotNo).nodup_iff.mp slots

theorem hardEligible_inUse {key : UpstreamKeyRow} (member : key ∈ state.hardEligible now profile) :
    key ∈ state.database.upstreamKeys.rows.filter fun key => !key.retired := by
  obtain ⟨proof, candidate, -⟩ := OperationsState.mem_hardEligible.mp member
  have ready := candidate.ready
  simp only [OperationsState.baseEligible, Bool.and_eq_true] at ready
  exact List.mem_filter.mpr ⟨candidate.isKey, ready.1.1.1⟩

theorem simulated_iff {item : Upstream} :
    item ∈ (state.upstreams now).filter (fun item =>
        (state.eligibleKeyIds now profile).contains item.id) →
      ∃ key ∈ state.hardEligible now profile, item.id = key.id ∧ item.slotNo = key.slotNo := by
  intro member
  obtain ⟨listed, among⟩ := List.mem_filter.mp member
  obtain ⟨row, isRow, rfl⟩ := List.mem_map.mp listed
  obtain ⟨key, isKey, same⟩ := List.mem_map.mp (List.contains_iff_mem.mp among)
  have isRow : row ∈ state.database.upstreamKeys.rows :=
    (List.perm_insertionSort _ _).mem_iff.mp isRow
  have known := (List.mem_filter.mp (hardEligible_inUse isKey)).1
  have alike := List.inj_on_of_nodup_map state.database.upstreamKeys.nodup known isRow same
  exact ⟨key, isKey, by rw [alike], by rw [alike]⟩

theorem simulated_of_mem {key : UpstreamKeyRow} (member : key ∈ state.hardEligible now profile) :
    ∃ item ∈ (state.upstreams now).filter (fun item =>
        (state.eligibleKeyIds now profile).contains item.id),
      item.id = key.id ∧ item.slotNo = key.slotNo := by
  have known := (List.mem_filter.mp (hardEligible_inUse member)).1
  refine ⟨_, List.mem_filter.mpr ⟨List.mem_map.mpr
    ⟨key, (List.perm_insertionSort _ _).mem_iff.mpr known, rfl⟩, ?_⟩, rfl, rfl⟩
  exact List.contains_iff_mem.mpr (List.mem_map_of_mem member)

theorem sorted_first {nextSlot : Nat} {items rest : List Upstream} {first : Upstream}
    (sorted : items.insertionSort (byTurn nextSlot · ·) = first :: rest) :
    first ∈ items ∧ ∀ other ∈ items, byTurn nextSlot first other = true := by
  have total : Std.Total fun left right : Upstream => byTurn nextSlot left right = true := by
    refine ⟨fun left right => ?_⟩
    rw [byTurn_iff, byTurn_iff]
    omega
  have transitive : IsTrans Upstream fun left right => byTurn nextSlot left right = true := by
    refine ⟨fun left middle right => ?_⟩
    rw [byTurn_iff, byTurn_iff, byTurn_iff]
    omega
  have ordered := List.pairwise_insertionSort
    (fun left right : Upstream => byTurn nextSlot left right = true) items
  have members := fun item => (List.perm_insertionSort
    (fun left right : Upstream => byTurn nextSlot left right = true) items).mem_iff (a := item)
  rw [sorted] at ordered members
  refine ⟨(members first).mp List.mem_cons_self, fun other member => ?_⟩
  rcases List.mem_cons.mp ((members other).mpr member) with rfl | behind
  · exact byTurn_iff.mpr (by omega)
  · exact List.rel_of_pairwise_cons ordered behind

theorem simulateRouting_first (supported : profile ∈ profiles) (slots : state.SlotsUnique)
    (found : state.routing profile = some routing) (small : routing.nextSlot ≤ 255) :
    ∃ simulation, simulateRouting state now profile endpoint stream = .ok simulation ∧
      simulation.eligibleOrder.head? =
        (turnOf routing.nextSlot (state.hardEligible now profile)).map UpstreamKeyRow.id := by
  unfold simulateRouting
  rw [if_neg (not_not.mpr supported)]
  refine ⟨_, rfl, ?_⟩
  simp only [found, Option.map_some, Option.getD_some, if_pos small, List.head?_map]
  cases sorted : ((state.upstreams now).filter fun item =>
      (state.eligibleKeyIds now profile).contains item.id).insertionSort
        (byTurn routing.nextSlot · ·) with
  | nil =>
      have empty : state.hardEligible now profile = [] := by
        refine List.eq_nil_iff_forall_not_mem.mpr fun key member => ?_
        obtain ⟨item, listed, -⟩ := simulated_of_mem member
        have sortedItem := (List.mem_insertionSort (byTurn routing.nextSlot · ·)).mpr listed
        rw [sorted] at sortedItem
        exact List.not_mem_nil sortedItem
      rw [empty]
      rfl
  | cons first rest =>
      obtain ⟨listed, before⟩ := sorted_first sorted
      obtain ⟨key, isKey, isId, isSlot⟩ := simulated_iff listed
      have chosen : (turnOf routing.nextSlot (state.hardEligible now profile)).isSome = true := by
        rw [turnOf_isSome]
        cases candidates : state.hardEligible now profile with
        | nil =>
            rw [candidates] at isKey
            cases isKey
        | cons => rfl
      obtain ⟨chosen, isChosen⟩ := Option.isSome_iff_exists.mp chosen
      obtain ⟨member, leads⟩ := turnOf_first hardEligible_sorted isChosen
      obtain ⟨item, isItem, itemId, itemSlot⟩ := simulated_of_mem member
      have sameSlot : chosen.slotNo = key.slotNo := by
        have ahead := byTurn_iff.mp (before item isItem)
        have behind := leads key isKey
        omega
      have same := List.inj_on_of_nodup_map slots (hardEligible_inUse member)
        (hardEligible_inUse isKey) sameSlot
      rw [isChosen, List.head?_cons, Option.map_some, Option.map_some, isId, same]

end Simulation

section Refinement

variable {τ : Type} [DecidableEq τ] {profile : String}

def selecting (world : SelectionWorld τ) (calls : τ → Selector × Timestamp) :
    Configuration τ (SelectionWorld τ) SelectionPhase where
  shared := world
  locals := fun thread => .begun (calls thread).1 (calls thread).2

def undisturbed (thread : τ) : List (Event τ SelectionAction SelectionWorld.Surroundings) :=
  [.moves thread .lockCursor, .moves thread .loadCandidates, .moves thread .commit]

/-- Keys and cursors are those of the core router on the keys shown to it, no two
turns given are one turn, and the simulation foretells the next one. -/
structure RefinesRouter (profile : String) (keysOf : SelectionTurn → List KeySummary)
    (start : RoutingStateRow) (run : Configuration τ (SelectionWorld τ) SelectionPhase) :
    Prop where
  turns : run.shared.turns.map SelectionTurn.given =
    (routerTurns { nextSlot := start.nextSlot - 1 }
      (run.shared.turns.map fun turn => (turn.now, keysOf turn))).map
        fun answer => (answer.1, answer.2.nextSlot + 1)
  cursor : (run.shared.state.routing profile).map RoutingStateRow.nextSlot =
    some ((routerAfter { nextSlot := start.nextSlot - 1 }
      (run.shared.turns.map fun turn => (turn.now, keysOf turn))).nextSlot + 1)
  once : ((givenTurns run.shared.turns).map SelectionTurn.generation).Nodup
  foretold : ∀ {thread : τ} {selector : Selector} {now later : Timestamp},
    run.locals thread = .begun selector later → run.shared.holder = none →
    run.shared.ownerSeen = true →
    run.shared.state.hardEligible later profile = run.shared.state.hardEligible now profile →
    ∀ endpoint stream, ∃ simulation turn,
      simulateRouting run.shared.state now profile endpoint stream = .ok simulation ∧
        ((selections τ profile).replay run (undisturbed thread)).shared.turns =
          run.shared.turns ++ [turn] ∧
        simulation.eligibleOrder.head? = turn.key.map UpstreamKeyRow.id

theorem selection_foretold {run : Configuration τ (SelectionWorld τ) SelectionPhase}
    {routing : RoutingStateRow} {thread : τ} {selector : Selector} {now later : Timestamp}
    {endpoint : String} {stream : Bool}
    (supported : profile ∈ profiles) (two : run.shared.state.TwoKeys)
    (found : run.shared.state.routing profile = some routing)
    (placed : routing.nextSlot = 1 ∨ routing.nextSlot = 2)
    (begun : run.locals thread = .begun selector later) (free : run.shared.holder = none)
    (ownerSeen : run.shared.ownerSeen = true)
    (unchanged : run.shared.state.hardEligible later profile =
      run.shared.state.hardEligible now profile) :
    ∃ simulation turn,
      simulateRouting run.shared.state now profile endpoint stream = .ok simulation ∧
        ((selections τ profile).replay run (undisturbed thread)).shared.turns =
          run.shared.turns ++ [turn] ∧
        simulation.eligibleOrder.head? = turn.key.map UpstreamKeyRow.id := by
  obtain ⟨simulation, simulated, first⟩ := @simulateRouting_first _ now _ endpoint stream _
    supported two.slotsUnique found (by omega)
  have locked : run.shared.lockCursor profile thread selector later =
      ({ run.shared with holder := some thread }, .locked selector later routing) := by
    rw [SelectionWorld.lockCursor, free, found]
  refine ⟨simulation, SelectionWorld.loadCandidates profile selector later routing
    { run.shared with holder := some thread }, simulated, ?_, ?_⟩
  · simp only [undisturbed, Interleaving.replay_cons, Interleaving.replay_nil,
      Interleaving.step, selections, begun, SelectionWorld.act, locked,
      Function.update_self, SelectionWorld.commit]
  · rw [first, SelectionWorld.loadCandidates, OperationsState.candidates, ownerSeen]
    simp only [if_true, unchanged]

theorem inTurns_run {world : SelectionWorld τ} {start : RoutingStateRow}
    (found : world.state.routing profile = some start) (two : world.state.TwoKeys)
    (fresh : world.turns = []) (calls : τ → Selector × Timestamp)
    (events : List (Event τ SelectionAction SelectionWorld.Surroundings)) :
    InTurns profile start
      ((selections τ profile).replay (selecting world calls) events).shared := by
  have begins : InTurns profile start world := {
    standing := by
      rw [fresh]
      exact ⟨start, found, .start⟩
    two }
  have established : Interleaving.Established (InTurns profile start) (KnowsTurn profile)
      (selecting world calls) := ⟨begins, fun _ => trivial⟩
  exact ((selections_proof profile start).replay established events).shared

/-- A key counts for the router as enabled if it is, with a receipt of the profile
that counts, while the gateway's own lease is fresh. -/
theorem selections_refine_router {world : SelectionWorld τ} {start : RoutingStateRow}
    (supported : profile ∈ profiles) (found : world.state.routing profile = some start)
    (placed : start.nextSlot = 1 ∨ start.nextSlot = 2) (two : world.state.TwoKeys)
    (fresh : world.turns = []) (calls : τ → Selector × Timestamp)
    (events : List (Event τ SelectionAction SelectionWorld.Surroundings)) :
    RefinesRouter profile
      (fun turn => turn.seen.routerKeys turn.now turn.ownerSeen profile) start
      ((selections τ profile).replay (selecting world calls) events) := by
  have inTurns := inTurns_run found two fresh calls events
  obtain ⟨routing, stands, chained⟩ := inTurns.standing
  have within := chained.placed placed
  obtain ⟨given, after⟩ := chained.router placed
  exact {
    turns := given
    cursor := by
      rw [stands, Option.map_some, Option.some.injEq]
      change routing.nextSlot =
        (routerAfter _ (List.map (SelectionTurn.asked profile) _)).nextSlot + 1
      rw [after]
      change routing.nextSlot = routing.nextSlot - 1 + 1
      omega
    once := by
      rw [chained.generations.1]
      exact List.nodup_range'
    foretold := fun begun free ownerSeen unchanged _ _ =>
      selection_foretold supported inTurns.two stands within begun free ownerSeen unchanged }

/-- While both keys may be chosen each turn goes to the other key, whatever order
the requests come in and whichever of them fail. -/
theorem Chained.alternates {start routing : RoutingStateRow} {turns : List SelectionTurn}
    (chained : Chained profile start turns routing)
    (placed : start.nextSlot = 1 ∨ start.nextSlot = 2)
    (both : ∀ turn ∈ turns,
      (turn.seen.candidates turn.now turn.ownerSeen profile).length = 2) :
    turns.map (fun turn => turn.key.map UpstreamKeyRow.slotNo) =
        (List.range turns.length).map (fun index => some ((start.nextSlot + index + 1) % 2 + 1)) ∧
      routing.nextSlot = (start.nextSlot + turns.length + 1) % 2 + 1 := by
  induction chained with
  | start =>
      refine ⟨rfl, ?_⟩
      simp only [List.length_nil]
      omega
  | @next turns routing turn earlier two isKey isCursor isGeneration induction =>
      obtain ⟨alternating, stands⟩ := induction fun other member =>
        both other (List.mem_append_left _ member)
      have cursor := earlier.placed placed
      have served : turn.key.map UpstreamKeyRow.slotNo = some routing.nextSlot := by
        rw [isKey]
        exact two.served (both turn (List.mem_append_right _ List.mem_cons_self)) cursor
      have follows : turn.cursor = followingSlot routing.nextSlot := by
        obtain ⟨key, isSome, isSlot⟩ := Option.map_eq_some_iff.mp served
        rw [isCursor, isSome, Option.map_some, Option.getD_some, isSlot]
      constructor
      · rw [List.map_append, alternating, List.length_append, List.length_singleton,
          List.range_succ, List.map_append, List.map_singleton, List.map_singleton, served,
          ← stands]
      · change turn.cursor = _
        rw [follows, followingSlot, List.length_append, List.length_singleton]
        split <;> omega

/-- In any run the slots are served turn and turn about as long as both keys may be
chosen, and the cursor names the slot that is next. -/
theorem selections_alternate {world : SelectionWorld τ} {start : RoutingStateRow}
    (found : world.state.routing profile = some start)
    (placed : start.nextSlot = 1 ∨ start.nextSlot = 2) (two : world.state.TwoKeys)
    (fresh : world.turns = []) (calls : τ → Selector × Timestamp)
    (events : List (Event τ SelectionAction SelectionWorld.Surroundings))
    (both : ∀ turn ∈ ((selections τ profile).replay (selecting world calls) events).shared.turns,
      (turn.seen.candidates turn.now turn.ownerSeen profile).length = 2) :
    let served := ((selections τ profile).replay (selecting world calls) events).shared
    served.turns.map (fun turn => turn.key.map UpstreamKeyRow.slotNo) =
        (List.range served.turns.length).map
          (fun index => some ((start.nextSlot + index + 1) % 2 + 1)) ∧
      (served.state.routing profile).map RoutingStateRow.nextSlot =
        some ((start.nextSlot + served.turns.length + 1) % 2 + 1) := by
  have inTurns := inTurns_run found two fresh calls events
  obtain ⟨routing, stands, chained⟩ := inTurns.standing
  obtain ⟨alternating, next⟩ := chained.alternates placed both
  refine ⟨alternating, ?_⟩
  rw [stands, Option.map_some, next]

end Refinement

namespace SelectionSample

open OperationsState.Sample (row receipt day)

def second : UpstreamKeyRow :=
  { row with id := 2, label := "second", slotNo := 2 }

def start : RoutingStateRow where
  profileId := textProfile
  nextSlot := 1
  generation := 0

def state (receipts : Table fun row : ProbeReceiptRow => (row.profileId, row.keyId)) :
    OperationsState where
  database := { Database.migrated { rows := [start], nodup := by decide } with
    upstreamKeys := { rows := [row, second], nodup := by decide }
    probeReceipts := receipts }
  proofFreshnessSeconds := some 604800
  advertised := []
  memory := .empty

def bothProven : OperationsState :=
  state { rows := [receipt, { receipt with keyId := 2 }], nodup := by decide }

def secondProven : OperationsState :=
  state { rows := [{ receipt with keyId := 2 }], nodup := by decide }

def world (state : OperationsState) : SelectionWorld Nat where
  state
  ownerSeen := true
  holder := none
  turns := []

def calls (_ : Nat) : Selector × Timestamp := (.selectAndStartRequest, day)

/-- The second transaction waits for the first one. -/
def events : List (Event Nat SelectionAction SelectionWorld.Surroundings) := [
  .moves 0 .lockCursor, .moves 1 .lockCursor, .moves 0 .loadCandidates, .moves 0 .commit,
  .moves 1 .lockCursor, .moves 1 .loadCandidates, .moves 1 .commit]

theorem two_bothProven : bothProven.TwoKeys :=
  ⟨row, second, by decide +kernel, rfl, rfl⟩

theorem selections_refine_router_both :
    (((selections Nat textProfile).replay (selecting (world bothProven) calls)
        events).shared.turns.map SelectionTurn.given = [(some 1, 2), (some 2, 1)]) ∧
      RefinesRouter textProfile
        (fun turn => turn.seen.routerKeys turn.now turn.ownerSeen textProfile) start
        ((selections Nat textProfile).replay (selecting (world bothProven) calls) events) :=
  ⟨by decide +kernel, selections_refine_router (by decide) (by decide +kernel) (.inl rfl)
    two_bothProven rfl calls events⟩

theorem selections_alternate_both :
    (∀ turn ∈ ((selections Nat textProfile).replay (selecting (world bothProven) calls)
        events).shared.turns,
      (turn.seen.candidates turn.now turn.ownerSeen textProfile).length = 2) ∧
      ((selections Nat textProfile).replay (selecting (world bothProven) calls)
        events).shared.turns.map (fun turn => turn.key.map UpstreamKeyRow.slotNo) =
          [some 1, some 2] := by
  have both : ∀ turn ∈ ((selections Nat textProfile).replay (selecting (world bothProven) calls)
      events).shared.turns,
        (turn.seen.candidates turn.now turn.ownerSeen textProfile).length = 2 := by
    decide +kernel
  have found : (world bothProven).state.routing textProfile = some start := by decide +kernel
  refine ⟨both, ?_⟩
  rw [(selections_alternate found (.inl rfl) two_bothProven rfl calls events both).1]
  decide +kernel

/-- Without a receipt the database passes over a key that the core router takes. -/
theorem selections_differ_unproven :
    ¬∀ (τ : Type) (_ : DecidableEq τ) (profile : String) (world : SelectionWorld τ)
      (start : RoutingStateRow) (calls : τ → Selector × Timestamp)
      (events : List (Event τ SelectionAction SelectionWorld.Surroundings)),
      profile ∈ profiles → world.state.routing profile = some start →
        (start.nextSlot = 1 ∨ start.nextSlot = 2) → world.state.TwoKeys →
        world.turns = [] →
        RefinesRouter profile
          (fun turn => turn.seen.inUse.map (OperationsState.routerKey true)) start
          ((selections τ profile).replay (selecting world calls) events) := by
  intro always
  have two : secondProven.TwoKeys := ⟨row, second, by decide +kernel, rfl, rfl⟩
  have refines := always Nat inferInstance textProfile (world secondProven) start calls events
    (by decide) (by decide +kernel) (.inl rfl) two rfl
  have differs : ¬((selections Nat textProfile).replay (selecting (world secondProven) calls)
      events).shared.turns.map SelectionTurn.given =
        (routerTurns { nextSlot := start.nextSlot - 1 }
          (((selections Nat textProfile).replay (selecting (world secondProven) calls)
            events).shared.turns.map fun turn => (turn.now,
              turn.seen.inUse.map (OperationsState.routerKey true)))).map
                fun answer => (answer.1, answer.2.nextSlot + 1) := by
    decide +kernel
  exact differs refines.turns

end SelectionSample

end NvidiaBuildLb.Gateway
