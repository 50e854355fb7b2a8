import NvidiaBuildLb.Core.Router
import NvidiaBuildLb.Foundation.Interleaving
import NvidiaBuildLb.Gateway.EligibilityAgreement

namespace NvidiaBuildLb.Gateway

open Foundation NvidiaBuildLb.Core

/-! The first key of a request.  Two transactions choose one, under the lock of
the row that holds the cursor; the administration simulates them. -/

/-- The key whose turn it is, or the first one there is. -/
def turnOf (nextSlot : Nat) (candidates : List UpstreamKeyRow) : Option UpstreamKeyRow :=
  (candidates.find? fun key => key.slotNo = nextSlot).or candidates.head?

def followingSlot (slotNo : Nat) : Nat :=
  if slotNo = 1 then 2 else 1

namespace OperationsState

variable (state : OperationsState) (now : Timestamp)

/-- The statement that loads the hard-eligible slots. -/
def candidates (ownerSeen : Bool) (profile : String) : List UpstreamKeyRow :=
  if ownerSeen then state.hardEligible now profile else []

def routing (profile : String) : Option RoutingStateRow :=
  state.database.routingState.find? profile

/-- `UPDATE nblb.routing_state SET next_slot=$2,generation=generation+1`. -/
def advanceCursor (profile : String) (slotNo : Nat) : OperationsState :=
  { state with
    database := { state.database with
      routingState := state.database.routingState.update
        (fun row => row.profileId = profile)
        (fun row => { row with
          nextSlot := slotNo
          generation := row.generation + 1 }) fun _ => rfl } }

theorem selectUpstream_eq (ownerSeen : Bool) (profile : String) :
    state.selectUpstream now ownerSeen profile =
      match state.routing profile with
      | none => .error "routing profile is missing"
      | some routing =>
          match turnOf routing.nextSlot (state.candidates now ownerSeen profile) with
          | none => .ok (none, state.database.routingState)
          | some key => .ok (some key.id,
              (state.advanceCursor profile (followingSlot key.slotNo)).database.routingState) :=
  rfl

end OperationsState

namespace OperationsState

variable (state : OperationsState) (now : Timestamp)

/-- The keys that are not retired, in the order of their slots. -/
def inUse : List UpstreamKeyRow :=
  orderedBySlot (state.database.upstreamKeys.rows.filter fun key => !key.retired)

/-- Slots 1 and 2 are taken. -/
structure TwoKeys : Prop where
  exist : ∃ first second, state.inUse = [first, second] ∧
    first.slotNo = 1 ∧ second.slotNo = 2

end OperationsState

/-- `select_and_start_request` commits a failed request where there is no key,
`select_initial_key` rolls back. -/
inductive Selector where
  | selectAndStartRequest
  | selectInitialKey
  deriving DecidableEq, Repr

/-- What a transaction read under the lock, and what it chose. -/
structure SelectionTurn where
  selector : Selector
  now : Timestamp
  seen : OperationsState
  ownerSeen : Bool
  key : Option UpstreamKeyRow
  cursor : Nat
  generation : Nat

/-- A transaction, by its statements; `now()` is the time it began at. -/
inductive SelectionPhase where
  | begun (selector : Selector) (now : Timestamp)
  | locked (selector : Selector) (now : Timestamp) (routing : RoutingStateRow)
  | chosen (turn : SelectionTurn)
  | ended

inductive SelectionAction where
  | lockCursor
  | loadCandidates
  | commit
  | fail
  deriving DecidableEq, Repr

/-- The committed rows, whether the lease of the gateway is fresh, who holds the
lock of the cursor, and the turns taken in the order of that lock. -/
structure SelectionWorld (τ : Type) where
  state : OperationsState
  ownerSeen : Bool
  holder : Option τ
  turns : List SelectionTurn

namespace SelectionWorld

variable {τ : Type} (profile : String)

def lockCursor (thread : τ) (selector : Selector) (now : Timestamp)
    (world : SelectionWorld τ) : SelectionWorld τ × SelectionPhase :=
  match world.holder, world.state.routing profile with
  | some _, _ => (world, .begun selector now)
  | none, none => (world, .ended)
  | none, some routing =>
      ({ world with holder := some thread }, .locked selector now routing)

def loadCandidates (selector : Selector) (now : Timestamp) (routing : RoutingStateRow)
    (world : SelectionWorld τ) : SelectionTurn :=
  let key := turnOf routing.nextSlot (world.state.candidates now world.ownerSeen profile)
  { selector
    now
    seen := world.state
    ownerSeen := world.ownerSeen
    key
    cursor := (key.map fun key => followingSlot key.slotNo).getD routing.nextSlot
    generation := routing.generation + key.toList.length }

def commit (turn : SelectionTurn) (world : SelectionWorld τ) : SelectionWorld τ :=
  { world with
    state :=
      match turn.key with
      | none => world.state
      | some key => world.state.advanceCursor profile (followingSlot key.slotNo)
    holder := none
    turns := world.turns ++ [turn] }

/-- A transaction that fails gives its lock back, if it has it. -/
def fail (phase : SelectionPhase) (world : SelectionWorld τ) : SelectionWorld τ :=
  match phase with
  | .locked _ _ _ => { world with holder := none }
  | .chosen _ => { world with holder := none }
  | _ => world

def act (thread : τ) (action : SelectionAction) (world : SelectionWorld τ)
    (phase : SelectionPhase) : SelectionWorld τ × SelectionPhase :=
  match action, phase with
  | .lockCursor, .begun selector now => world.lockCursor profile thread selector now
  | .loadCandidates, .locked selector now routing =>
      (world, .chosen (world.loadCandidates profile selector now routing))
  | .commit, .chosen turn => (world.commit profile turn, .ended)
  | .fail, phase => (world.fail phase, .ended)
  | _, phase => (world, phase)

/-- Whatever else is committed while two keys are in use: no other transaction
writes the cursors. -/
structure Surroundings where
  state : OperationsState
  ownerSeen : Bool
  two : state.TwoKeys

def surround (event : Surroundings) (world : SelectionWorld τ) : SelectionWorld τ :=
  { world with
    state := { event.state with
      database := { event.state.database with
        routingState := world.state.database.routingState } }
    ownerSeen := event.ownerSeen }

end SelectionWorld

/-- Any number of selections for one profile, statement by statement. -/
def selections (τ : Type) [DecidableEq τ] (profile : String) :
    Interleaving τ SelectionAction SelectionWorld.Surroundings (SelectionWorld τ)
      SelectionPhase where
  act := SelectionWorld.act profile
  surround := SelectionWorld.surround

structure Simulation where
  selectedSlot : Option Nat
  eligibleOrder : List Uuid
  retryAllowed : Bool
  reasonCodes : List String
  wouldAdvanceGeneration : Bool
  wouldPersist : Bool
  deriving DecidableEq, Repr

/-- The key of `sort_by_key`. -/
def byTurn (nextSlot : Nat) (left right : Upstream) : Bool :=
  ((compare (left.slotNo != nextSlot).toNat (right.slotNo != nextSlot).toNat).then <|
    compare left.slotNo right.slotNo).isLE

def simulateRouting (state : OperationsState) (now : Timestamp)
    (profile endpoint : String) (stream : Bool) : Except String Simulation :=
  if profile ∉ profiles then
    .error "invalid_profile"
  else
    let profileEligible := state.eligibleKeyIds now profile
    let nextSlot := ((state.routing profile).map RoutingStateRow.nextSlot).getD 1
    let slot := if nextSlot ≤ 255 then nextSlot else 1
    let eligible := ((state.upstreams now).filter fun item =>
      profileEligible.contains item.id).insertionSort (byTurn slot · ·)
    let selectedSlot := eligible.head?.map Upstream.slotNo
    .ok {
      selectedSlot
      eligibleOrder := eligible.map Upstream.id
      retryAllowed :=
        !(["/v1/images/generations", "/v1/videos/generations"].contains endpoint)
      reasonCodes :=
        (if eligible.isEmpty then ["no_eligible_upstream"] else []) ++
          if stream then ["first_frame_boundary_applies"] else []
      wouldAdvanceGeneration := selectedSlot.isSome
      wouldPersist := false }

end NvidiaBuildLb.Gateway
