import NvidiaBuildLb.Core.Load
import NvidiaBuildLb.Core.Router
import NvidiaBuildLb.Gateway.Eligibility

namespace NvidiaBuildLb.Gateway

open NvidiaBuildLb.Core

/-! The Retry-After a client is given when no key is available, and when a
client that waits for it finds one. -/

/-- `try_into` of a whole number of seconds. -/
def asSeconds (seconds : Int) : Option Nat :=
  if 0 ≤ seconds then some seconds.toNat else none

/-- The seconds a cooldown still lasts; one that has run out for less than a
second counts as none left. -/
def secondsLeft (now until_ : Timestamp) : Option Nat :=
  asSeconds (numSeconds (until_ - now))

def retryAfterForKeys (now : Timestamp) (keys : List KeySummary) : Option Nat :=
  if keys.isEmpty || keys.any (KeySummary.eligible now) then
    none
  else
    (((keys.filterMap KeySummary.cooldownUntil).filterMap
      (secondsLeft now)).min?).map fun seconds => max 1 (min seconds 300)

/-- Enabled, verified and not retired, whatever its cooldown. -/
def Serves (key : StoredKey) : Prop :=
  key.retired = false ∧ key.enabled = true ∧ key.verified = true

/-- Some key of the vault serves and its cooldown is over. -/
def AvailableAt (time : Timestamp) (state : VaultFile) : Prop :=
  ∃ key ∈ state.keys, Serves key ∧
    ∀ until_, key.cooldownUntil = some until_ → until_ ≤ time

/-- What the header promises: a key after that time, and none more than a
second earlier. -/
structure Promised (now : Timestamp) (seconds : Nat) (state : VaultFile) :
    Prop where
  available : AvailableAt (now + Duration.seconds seconds) state
  tight : ∀ wait : Duration, AvailableAt (now + wait) state →
    Duration.seconds seconds ≤ wait + Duration.seconds 1

/-- Some serving key is back within a second; or after a whole number of
seconds, five minutes at most, and no key in the list, serving or not, has a
cooldown that ends before it, those aside that ended a second ago. -/
def BackOnTheSecond (now : Timestamp) (state : VaultFile) : Prop :=
  ∃ key ∈ state.keys, Serves key ∧ ∃ until_, key.cooldownUntil = some until_ ∧
    (until_ ≤ now + Duration.seconds 1 ∨
      ∃ seconds : Nat, seconds ≤ 300 ∧
        until_ = now + Duration.seconds seconds ∧
        ∀ other ∈ state.keys, other.retired = false →
          ∀ ends, other.cooldownUntil = some ends →
            ends ≤ now - Duration.seconds 1 ∨ until_ ≤ ends)

section Arithmetic

theorem numSeconds_bounds (duration : Int) :
    (0 ≤ duration → numSeconds duration * 1000000000 ≤ duration ∧
      duration < (numSeconds duration + 1) * 1000000000) ∧
    (duration < 0 → duration ≤ numSeconds duration * 1000000000 ∧
      (numSeconds duration - 1) * 1000000000 < duration) := by
  unfold numSeconds
  constructor
  · intro nonneg
    rw [Int.tdiv_eq_ediv_of_nonneg nonneg]
    omega
  · intro negative
    have flipped : duration.tdiv 1000000000 = -((-duration) / 1000000000) := by
      rw [← Int.tdiv_eq_ediv_of_nonneg (by omega), Int.neg_tdiv, neg_neg]
    rw [flipped]
    omega

variable {now until_ : Int} {seconds : Nat}

theorem secondsLeft_eq_some (left : secondsLeft now until_ = some seconds) :
    now - 1000000000 < until_ ∧
      (1 ≤ seconds → now + seconds * 1000000000 ≤ until_) ∧
      until_ < now + (seconds + 1) * 1000000000 := by
  obtain ⟨ahead, behind⟩ := numSeconds_bounds (until_ - now)
  unfold secondsLeft asSeconds at left
  split at left
  case isTrue counted =>
      have isSeconds := Option.some.inj left
      omega
  case isFalse => cases left

theorem secondsLeft_of_later (later : now - 1000000000 < until_) :
    ∃ seconds, secondsLeft now until_ = some seconds := by
  obtain ⟨ahead, behind⟩ := numSeconds_bounds (until_ - now)
  have counted : 0 ≤ numSeconds (until_ - now) := by omega
  exact ⟨_, if_pos counted⟩

private theorem header_le {wait : Int} {least : Nat} (running : now < until_)
    (within : until_ ≤ now + wait)
    (left : secondsLeft now until_ = some seconds) (bound : least ≤ seconds) :
    ((max 1 (min least 300) : Nat) : Int) * 1000000000 ≤
      wait + 1 * 1000000000 := by
  obtain ⟨_, whole, _⟩ := secondsLeft_eq_some left
  omega

private theorem on_the_second {least : Nat}
    (enough : until_ ≤
      now + ((max 1 (min least 300) : Nat) : Int) * 1000000000)
    (left : secondsLeft now until_ = some seconds) (bound : least ≤ seconds) :
    until_ ≤ now + 1 * 1000000000 ∨
      (1 ≤ least ∧ least ≤ 300 ∧ until_ = now + least * 1000000000) := by
  obtain ⟨_, whole, _⟩ := secondsLeft_eq_some left
  omega

private theorem ends_later {least : Nat} (counted : 1 ≤ least)
    (left : secondsLeft now until_ = some seconds) (bound : least ≤ seconds) :
    now + least * 1000000000 ≤ until_ := by
  obtain ⟨_, whole, _⟩ := secondsLeft_eq_some left
  omega

private theorem header_enough {ends : Int} {least : Nat}
    (few : seconds ≤ 300) (shortest : secondsLeft now ends = some least)
    (apart : ends ≤ now - 1 * 1000000000 ∨
      now + seconds * 1000000000 ≤ ends) :
    now + seconds * 1000000000 ≤
      now + ((max 1 (min least 300) : Nat) : Int) * 1000000000 := by
  obtain ⟨_, _, below⟩ := secondsLeft_eq_some shortest
  omega

end Arithmetic

theorem retryAfterForKeys_eq_some {now : Timestamp} {keys : List KeySummary}
    {answer : Nat} (answered : retryAfterForKeys now keys = some answer) :
    (∀ key ∈ keys, key.eligible now = false) ∧
      ∃ least, answer = max 1 (min least 300) ∧
        (∃ key ∈ keys, ∃ until_, key.cooldownUntil = some until_ ∧
          secondsLeft now until_ = some least) ∧
        ∀ key ∈ keys, ∀ until_, key.cooldownUntil = some until_ →
          ∀ seconds, secondsLeft now until_ = some seconds →
            least ≤ seconds := by
  unfold retryAfterForKeys at answered
  split at answered
  case isTrue => cases answered
  case isFalse noneEligible =>
      obtain ⟨least, isLeast, rfl⟩ := Option.map_eq_some_iff.mp answered
      obtain ⟨member, minimal⟩ := List.min?_eq_some_iff.mp isLeast
      simp only [List.mem_filterMap] at member minimal
      obtain ⟨until_, ⟨key, inKeys, cooling⟩, left⟩ := member
      refine ⟨?_, least, rfl, ⟨key, inKeys, until_, cooling, left⟩, ?_⟩
      · simp only [Bool.or_eq_true, List.any_eq_true, not_or, not_exists,
          not_and, Bool.not_eq_true] at noneEligible
        exact noneEligible.2
      · intro other otherIn ends otherCooling seconds otherLeft
        exact minimal seconds ⟨ends, ⟨other, otherIn, otherCooling⟩, otherLeft⟩

theorem mem_list {state : VaultFile} {item : KeySummary} :
    item ∈ Vault.list state ↔
      ∃ key ∈ state.keys, key.retired = false ∧ summary key = item := by
  simp [Vault.list, and_assoc]

theorem cooling_of_serves {now : Timestamp} {key : StoredKey}
    (serves : Serves key) (notYet : (summary key).eligible now = false) :
    ∃ until_, key.cooldownUntil = some until_ ∧ now < until_ := by
  obtain ⟨_, enabled, verified⟩ := serves
  cases cooling : key.cooldownUntil with
  | none =>
      simp [KeySummary.eligible, summary, enabled, verified, cooling] at notYet
  | some until_ =>
      refine ⟨until_, rfl, ?_⟩
      simpa [KeySummary.eligible, summary, enabled, verified, cooling]
        using notYet

/-- Waiting as long as the header says is enough exactly when the first key
comes back on the second, and the header counts no other key before it. -/
theorem retryAfter_promised_iff {now : Timestamp} {state : VaultFile}
    {seconds : Nat}
    (answered : retryAfterForKeys now (Vault.list state) = some seconds) :
    Promised now seconds state ↔ BackOnTheSecond now state := by
  obtain ⟨noneEligible, least, rfl, ⟨shortest, inList, ends, itsEnd, itsLeft⟩,
    minimal⟩ := retryAfterForKeys_eq_some answered
  have cooling : ∀ key ∈ state.keys, Serves key →
      ∃ until_, key.cooldownUntil = some until_ ∧ now < until_ :=
    fun key member serves => cooling_of_serves serves
      (noneEligible _ (mem_list.mpr ⟨key, member, serves.1, rfl⟩))
  have counted : ∀ key ∈ state.keys, key.retired = false →
      ∀ until_, key.cooldownUntil = some until_ →
        now - Duration.seconds 1 < until_ →
        ∃ count, secondsLeft now until_ = some count ∧ least ≤ count := by
    intro key member live until_ isUntil later
    obtain ⟨count, left⟩ := secondsLeft_of_later later
    exact ⟨count, left, minimal _ (mem_list.mpr ⟨key, member, live, rfl⟩)
      until_ isUntil count left⟩
  have recent : ∀ {until_ : Timestamp}, now < until_ →
      now - Duration.seconds 1 < until_ :=
    fun running => lt_trans (Int.sub_lt_self now (by decide)) running
  constructor
  · intro promised
    obtain ⟨key, member, serves, elapsed⟩ := promised.available
    obtain ⟨until_, isUntil, running⟩ := cooling key member serves
    obtain ⟨count, left, bound⟩ :=
      counted key member serves.1 until_ isUntil (recent running)
    refine ⟨key, member, serves, until_, isUntil, ?_⟩
    cases on_the_second (elapsed until_ isUntil) left bound with
    | inl soon => exact .inl soon
    | inr exact_ =>
        obtain ⟨positive, few, isWhole⟩ := exact_
        refine .inr ⟨least, few, isWhole, ?_⟩
        intro other otherIn live otherEnd isEnd
        cases le_or_gt otherEnd (now - Duration.seconds 1) with
        | inl past => exact .inl past
        | inr later =>
            obtain ⟨otherCount, otherLeft, otherBound⟩ :=
              counted other otherIn live otherEnd isEnd later
            exact .inr (isWhole.trans_le
              (ends_later positive otherLeft otherBound))
  · intro ⟨key, member, serves, until_, isUntil, back⟩
    refine ⟨⟨key, member, serves, ?_⟩, ?_⟩
    · intro same isSame
      cases isUntil.symm.trans isSame
      cases back with
      | inl soon =>
          apply soon.trans
          apply Int.add_le_add_left
          exact Int.mul_le_mul_of_nonneg_right (by omega) (by decide)
      | inr whole =>
          obtain ⟨count, few, rfl, apart⟩ := whole
          obtain ⟨stored, storedIn, live, rfl⟩ := mem_list.mp inList
          exact header_enough few itsLeft (apart stored storedIn live ends itsEnd)
    · intro wait available
      obtain ⟨first, firstIn, firstServes, elapsed⟩ := available
      obtain ⟨until', isUntil', running⟩ := cooling first firstIn firstServes
      obtain ⟨count, left, bound⟩ :=
        counted first firstIn firstServes.1 until' isUntil' (recent running)
      exact header_le running (elapsed until' isUntil') left bound

namespace RetryAfter.Sample

def keyUntil (id : Uuid) (enabled : Bool) (cooldownUntil : Option Timestamp) :
    StoredKey where
  id
  label := "key"
  fingerprint := ""
  nonce := ""
  ciphertext := ""
  enabled
  verified := true
  retired := false
  cooldownUntil
  requestCount := 0
  failureCount := 1

def vault (keys : List StoredKey) : VaultFile :=
  { VaultFile.empty with keys }

def onTheSecond : VaultFile :=
  vault [keyUntil 1 true (some (Duration.seconds 2))]

theorem retryAfter_promised_iff_onTheSecond :
    retryAfterForKeys 0 (Vault.list onTheSecond) = some 2 ∧
      Promised 0 2 onTheSecond := by
  refine ⟨by decide, (retryAfter_promised_iff (by decide)).mpr ?_⟩
  refine ⟨_, List.mem_singleton_self _, ⟨rfl, rfl, rfl⟩, _, rfl, .inr
    ⟨2, by decide, by decide, ?_⟩⟩
  intro other member _ ends isEnd
  cases List.mem_singleton.mp member
  cases isEnd
  exact .inr (le_refl _)

def betweenSeconds : VaultFile :=
  vault [keyUntil 1 true (some 1500000000)]

/-- With a second and a half left the header says one second. -/
theorem early_by_half_a_second :
    retryAfterForKeys 0 (Vault.list betweenSeconds) = some 1 ∧
      ¬ AvailableAt (0 + Duration.seconds 1) betweenSeconds ∧
      ¬ ∀ now state seconds,
        retryAfterForKeys now (Vault.list state) = some seconds →
          Promised now seconds state := by
  have answered : retryAfterForKeys 0 (Vault.list betweenSeconds) = some 1 := by
    decide
  have early : ¬ AvailableAt (0 + Duration.seconds 1) betweenSeconds := by
    intro ⟨key, member, _, elapsed⟩
    cases List.mem_singleton.mp member
    exact absurd (elapsed 1500000000 rfl) (by decide)
  exact ⟨answered, early,
    fun promises => early (promises _ _ _ answered).available⟩

end RetryAfter.Sample

end NvidiaBuildLb.Gateway
