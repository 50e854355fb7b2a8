import NvidiaBuildLb.Gateway.VaultStore

namespace NvidiaBuildLb.Gateway

open Foundation NvidiaBuildLb.Core

/-! Which keys may serve a profile, as routing selects them and as four views
report them. -/

/-- What routing and the views read: the rows, the row of the operations
settings, the advertised flags of the catalog, and the vault in memory. -/
structure OperationsState where
  database : Database
  proofFreshnessSeconds : Option Nat
  advertised : List (String × Bool)
  memory : VaultFile

def textProfile : String := "z-ai/glm-5.2"

/-- `num_seconds`, which cuts towards zero. -/
def numSeconds (duration : Duration) : Int :=
  duration.tdiv 1000000000

/-- The age the views compute on a receipt, in whole seconds. -/
def proofAge (now : Timestamp) (proof : ProbeReceiptRow) : Int :=
  numSeconds (now - fromMicros proof.verifiedAt)

namespace OperationsState

variable (state : OperationsState) (now : Timestamp)

def proofRows : List ProbeReceiptRow :=
  state.database.probeReceipts.rows.filter fun proof =>
    proof.invalidatedAt.isNone

/-- `coalesce` of the missing settings row in the views. -/
def freshnessSeconds : Int :=
  state.proofFreshnessSeconds.getD 604800

/-- Without a settings row the interval is null and no receipt compares. -/
def isFresh (proof : ProbeReceiptRow) : Bool :=
  state.proofFreshnessSeconds.any fun seconds =>
    micros now - seconds * 1000000 ≤ proof.verifiedAt

def baseEligible (key : UpstreamKeyRow) : Bool :=
  !key.retired && key.enabled && key.verified &&
    key.cooldownUntil.all fun until_ => until_ ≤ micros now

def orderedBySlot (rows : List UpstreamKeyRow) : List UpstreamKeyRow :=
  rows.insertionSort fun left right => left.slotNo ≤ right.slotNo

/-- The keys joined with their receipts of the profile, of which each key has
one at most. -/
def hardEligible (profile : String) : List UpstreamKeyRow :=
  orderedBySlot <| state.database.upstreamKeys.rows.filter fun key =>
    baseEligible now key && state.proofRows.any fun proof =>
      proof.keyId = key.id && proof.profileId = profile &&
        state.isFresh now proof

def eligibleKeyIds (profile : String) : List Uuid :=
  (state.hardEligible now profile).map UpstreamKeyRow.id

def baseEligibleKeyIds : List Uuid :=
  (orderedBySlot (state.database.upstreamKeys.rows.filter
    (baseEligible now))).map UpstreamKeyRow.id

/-- The key a request starts on and the cursor it leaves.  `ownerSeen` says
whether the gateway's own lease is alive. -/
def selectUpstream (ownerSeen : Bool) (profile : String) :
    Except String (Option Uuid × Table RoutingStateRow.profileId) :=
  match state.database.routingState.find? profile with
  | none => .error "routing profile is missing"
  | some routing =>
      let candidates := if ownerSeen then state.hardEligible now profile else []
      let selected :=
        (candidates.find? fun key => key.slotNo = routing.nextSlot).or
          candidates.head?
      match selected with
      | none => .ok (none, state.database.routingState)
      | some key =>
          .ok (some key.id, state.database.routingState.update
            (fun row => row.profileId = profile)
            (fun row => { row with
              nextSlot := if key.slotNo = 1 then 2 else 1
              generation := row.generation + 1 }) fun _ => rfl)

end OperationsState

/-- Where a request that failed over looks for its next key: in the rows, in a
query that is not answered, or in the vault of a gateway without a database. -/
inductive FailoverSource where
  | rows (state : OperationsState) (ownerSeen : Bool)
  | unanswered
  | memory (vault : VaultFile)

def selectFailoverKey (now : Timestamp) (profile : String)
    (attempted : List Uuid) : FailoverSource → Option Uuid
  | .rows state ownerSeen =>
      let candidates := if ownerSeen then state.hardEligible now profile else []
      (candidates.find? fun key => !attempted.contains key.id).map
        UpstreamKeyRow.id
  | .unanswered => none
  | .memory vault =>
      ((Vault.list vault).find? fun key =>
        !attempted.contains key.id && key.enabled && key.verified &&
          key.cooldownUntil.all fun until_ => until_ ≤ now).map KeySummary.id

structure ProfileProof where
  profileId : String
  status : String
  verifiedKeyCount : Nat
  lastVerifiedAt : Option Micros
  stale : Bool
  deriving DecidableEq, Repr

structure Upstream where
  id : Uuid
  slotNo : Nat
  label : String
  enabled : Bool
  verified : Bool
  retired : Bool
  eligibleNow : Bool
  cooldownUntil : Option Micros
  requestCount : Nat
  failureCount : Nat
  proofs : List ProfileProof
  deriving DecidableEq, Repr

def latest (times : List Micros) : Option Micros :=
  times.max?

def proofStatus (verifiedKeys : Nat) (noneEligible : Bool) : String :=
  if 2 ≤ verifiedKeys then "pair_verified"
  else if verifiedKeys = 1 then "provider_verified"
  else if noneEligible then "unavailable"
  else "proof_required"

namespace OperationsState

variable (state : OperationsState) (now : Timestamp)

def profileProof (eligibleIds : List Uuid) (onlyKey : Option Uuid)
    (profile : String) : ProfileProof :=
  let proofs := state.proofRows.filter fun proof =>
    proof.profileId = profile && onlyKey.all fun key => key = proof.keyId
  let verifiedKeyCount := min 2 <|
    proofs.countP fun proof => proofAge now proof ≤ state.freshnessSeconds
  let lastVerifiedAt := latest (proofs.map ProbeReceiptRow.verifiedAt)
  { profileId := profile
    status := proofStatus verifiedKeyCount eligibleIds.isEmpty
    verifiedKeyCount
    lastVerifiedAt
    stale := lastVerifiedAt.any fun verifiedAt =>
      state.freshnessSeconds < numSeconds (now - fromMicros verifiedAt) }

def upstreamEligible (key : UpstreamKeyRow) : Bool :=
  !key.retired && key.enabled && key.verified &&
    (key.cooldownUntil.all fun until_ => fromMicros until_ ≤ now) &&
      state.proofRows.any fun proof =>
        proof.keyId = key.id && proof.profileId = textProfile &&
          proofAge now proof ≤ state.freshnessSeconds

/-- `ORDER BY retired,slot_no,created_at,id`. -/
def orderedUpstreams (rows : List UpstreamKeyRow) : List UpstreamKeyRow :=
  rows.insertionSort fun left right =>
    ((compare left.retired.toNat right.retired.toNat).then <|
      (compare left.slotNo right.slotNo).then <|
        (compare left.createdAt right.createdAt).then <|
          compare left.id.toNat right.id.toNat).isLE

def upstreams : List Upstream :=
  let rows := orderedUpstreams state.database.upstreamKeys.rows
  let eligibleIds := (rows.filter (state.upstreamEligible now)).map
    UpstreamKeyRow.id
  rows.map fun row => {
    id := row.id
    slotNo := row.slotNo
    label := row.label
    enabled := row.enabled
    verified := row.verified
    retired := row.retired
    eligibleNow := eligibleIds.contains row.id
    cooldownUntil := row.cooldownUntil
    requestCount := row.requestCount.toNat
    failureCount := row.failureCount.toNat
    proofs := profiles.map (state.profileProof now eligibleIds (some row.id)) }

end OperationsState

structure SlotProfile where
  profileId : String
  proofRevision : String
  eligibleNow : Bool
  reason : Option String
  deriving DecidableEq, Repr

structure UpstreamSlot where
  slotNo : Nat
  keyId : Uuid
  label : String
  status : String
  requestCount : Nat
  failureCount : Nat
  cooldownUntil : Option Timestamp
  profiles : List SlotProfile
  deriving DecidableEq, Repr

structure ModelCapability where
  id : String
  route : String
  availableNow : Bool
  proofStatus : String
  deriving DecidableEq, Repr

def routeFor (profile : String) : String :=
  if profile ∈ ["z-ai/glm-5.2", "microsoft/phi-4-multimodal-instruct",
      "nvidia/vila"] then "/v1/chat/completions"
  else if profile = "nvidia/nvclip" then "/v1/embeddings"
  else if profile = "black-forest-labs/flux.1-kontext-dev" then
    "/v1/images/generations"
  else if profile = "stabilityai/stable-video-diffusion" then
    "/v1/videos/generations"
  else if profile = "nvidia/magpie-tts-multilingual" then "/v1/audio/speech"
  else if profile = "nvidia/parakeet-ctc-1.1b" then "/v1/audio/transcriptions"
  else "/v1/nvidia/inference"

def slotEligible (now : Timestamp) (key : KeySummary) : Bool :=
  key.enabled && key.verified &&
    key.cooldownUntil.all fun until_ => until_ ≤ now

namespace OperationsState

variable (state : OperationsState) (now : Timestamp)

def profileProofKeys (profile : String) : List Uuid :=
  (state.proofRows.filter fun proof => proof.profileId = profile).map
    ProbeReceiptRow.keyId

def slotProfile (key : KeySummary) (profile : String) : SlotProfile :=
  let eligible := slotEligible now key
  let proof := (state.profileProofKeys profile).contains key.id
  { profileId := profile
    proofRevision := if proof then "durable" else "missing"
    eligibleNow := eligible && proof
    reason :=
      if !eligible then
        some <| if !key.verified then "missing_key_probe"
          else if key.cooldownUntil.isSome then "cooldown"
          else "manual_disabled"
      else if !proof then some "missing_profile_proof"
      else none }

def upstreamSlots : List UpstreamSlot :=
  (Vault.list state.memory).mapIdx fun index key => {
    slotNo := index + 1
    keyId := key.id
    label := key.label
    status :=
      if slotEligible now key then "eligible"
      else if key.cooldownUntil.isSome then "cooldown"
      else if !key.verified then "probe_required"
      else "disabled"
    requestCount := key.requestCount
    failureCount := key.failureCount
    cooldownUntil := key.cooldownUntil
    profiles := profiles.map (state.slotProfile now key) }

def modelCapabilities : List ModelCapability :=
  let eligible := ((Vault.list state.memory).filter (slotEligible now)).map
    KeySummary.id
  profiles.map fun profile =>
    let availableNow :=
      (state.profileProofKeys profile).any fun key => eligible.contains key
    { id := profile
      route := routeFor profile
      availableNow
      proofStatus :=
        if availableNow then "provider_proof_verified"
        else if eligible.isEmpty then "pair_not_ready"
        else "provider_proof_required" }

end OperationsState

structure PublicModel where
  id : String
  advertised : Bool
  proofStatus : String
  availableNow : Bool
  verifiedAgeSeconds : Option Nat
  deriving DecidableEq, Repr

namespace OperationsState

variable (state : OperationsState) (now : Timestamp)

def publicModel (profile : String) : PublicModel :=
  let eligibleIds := state.baseEligibleKeyIds now
  let proofs := state.proofRows.filter fun proof => proof.profileId = profile
  let verifiedCount := proofs.countP fun proof =>
    proofAge now proof ≤ state.freshnessSeconds
  { id := profile
    advertised := (state.advertised.lookup profile).getD false
    proofStatus := proofStatus verifiedCount eligibleIds.isEmpty
    availableNow := proofs.any fun proof =>
      eligibleIds.contains proof.keyId &&
        proofAge now proof ≤ state.freshnessSeconds
    verifiedAgeSeconds :=
      (latest (proofs.map ProbeReceiptRow.verifiedAt)).map fun verifiedAt =>
        (numSeconds (now - fromMicros verifiedAt)).toNat }

def publicModels : List PublicModel :=
  profiles.map (state.publicModel now)

end OperationsState

end NvidiaBuildLb.Gateway
