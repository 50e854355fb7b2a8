import NvidiaBuildLb.Core.Authentication
import NvidiaBuildLb.Core.Invariant
import Mathlib.Data.Set.Function

namespace NvidiaBuildLb.Core

open Foundation

/-! What a caller has seen of a vault: every operation with its answer, the
newest first.  The questions below read that history and nothing else. -/

abbrev Event := VaultOperation × Except VaultError VaultValue

def returnedToken : Event → Option (Uuid × String)
  | (.issueDownstream _ _ _ _ _, .ok (.issued issued)) =>
      some (issued.summary.id, issued.token)
  | (.rotateDownstream _ _, .ok (.issued issued)) =>
      some (issued.summary.id, issued.token)
  | _ => none

def scopesSet : Event → Option (Uuid × List String)
  | (.issueDownstream _ _ _ _ scopes, .ok (.issued issued)) =>
      some (issued.summary.id, scopes)
  | (.updateDownstreamScopes id scopes, .ok _) => some (id, scopes)
  | _ => none

def revocation : Event → Option Uuid
  | (.revokeDownstream id _, .ok _) => some id
  | _ => none

def lastToken (history : List Event) (id : Uuid) : Option String :=
  (history.filterMap returnedToken).lookup id

def lastScopes (history : List Event) (id : Uuid) : Option (List String) :=
  (history.filterMap scopesSet).lookup id

def wasRevoked (history : List Event) (id : Uuid) : Bool :=
  (history.filterMap revocation).contains id

/-- The token is the credential's latest, the credential was never revoked, and
the scope is among those it was last given. -/
structure Grants (history : List Event) (id : Uuid) (token scope : String) :
    Prop where
  token : lastToken history id = some token
  live : wasRevoked history id = false
  scope : ∃ scopes, lastScopes history id = some scopes ∧ scope ∈ scopes

structure Observed where
  world : VaultWorld
  history : List Event

def Observed.fresh (temporary : Option (Option VaultFile)) : Observed where
  world := .fresh temporary
  history := []

def Observed.attempt (primitives : Primitives) (masterKey : MasterKey)
    (observed : Observed) (attempt : Attempt) : Observed :=
  let staged := attempt.1.stage primitives masterKey observed.world.memory
  { world := observed.world.attempt primitives masterKey attempt
    history := (attempt.1, (staged.run attempt.2 observed.world.disk).1) ::
      observed.history }

def observedStep (primitives : Primitives) (masterKey : MasterKey)
    (before : Observed) (attempt : Attempt) (after : Observed) : Prop :=
  after = before.attempt primitives masterKey attempt

/-- The operations whose effect a caller reads off the history. -/
def VaultOperation.changesCredential : VaultOperation → Bool
  | .issueDownstream _ _ _ _ _ => true
  | .rotateDownstream _ _ => true
  | .revokeDownstream _ _ => true
  | .updateDownstreamScopes _ _ => true
  | _ => false

def VaultOperation.generatedToken : VaultOperation → Option String
  | .issueDownstream _ bytes _ _ _ => some (Vault.bearer bytes)
  | .rotateDownstream _ bytes => some (Vault.bearer bytes)
  | _ => none

def returnedTokens (history : List Event) : List String :=
  (history.filterMap returnedToken).map Prod.snd

def Staged.writes : Staged α → Bool
  | .persisting _ _ => true
  | _ => false

/-- Identifiers and tokens are new when they are generated. -/
structure Generated (before : Observed) (attempt : Attempt) : Prop where
  id : attempt.1.Fresh before.world.memory
  token : ∀ token, attempt.1.generatedToken = some token →
    token ∉ returnedTokens before.history

/-- No operation that changes a credential has its write refused. -/
def WritesGoThrough (primitives : Primitives) (masterKey : MasterKey)
    (before : Observed) (attempt : Attempt) : Prop :=
  attempt.1.changesCredential = true →
    (attempt.1.stage primitives masterKey before.world.memory).writes = true →
      attempt.2 = none

structure Tracked (primitives : Primitives) (history : List Event)
    (item : StoredDownstream) : Prop where
  token : ∃ bytes, lastToken history item.id = some (Vault.bearer bytes) ∧
    item.tokenDigest = fingerprint primitives (utf8 (Vault.bearer bytes))
  active : item.active = !wasRevoked history item.id
  scopes : ∃ scopes, lastScopes history item.id = some scopes ∧
    ∀ scope, scope ∈ item.scopes ↔ scope ∈ scopes

structure Tracks (primitives : Primitives) (history : List Event)
    (downstream : List StoredDownstream) : Prop where
  ids : (downstream.map StoredDownstream.id).Nodup
  tracked : ∀ item ∈ downstream, Tracked primitives history item
  known : ∀ id, id ∉ downstream.map StoredDownstream.id →
    lastToken history id = none ∧ wasRevoked history id = false
  tokens : (returnedTokens history).Nodup

structure Silent (event : Event) (id : Uuid) : Prop where
  token : ∀ token, returnedToken event ≠ some (id, token)
  scopes : ∀ scopes, scopesSet event ≠ some (id, scopes)
  revocation : revocation event ≠ some id

section Silence

variable {primitives : Primitives} {event : Event} {history : List Event}
  {id : Uuid}

private theorem lookup_cons_of_ne {tell : Event → Option (Uuid × α)}
    (silent : ∀ value, tell event ≠ some (id, value)) :
    ((event :: history).filterMap tell).lookup id =
      (history.filterMap tell).lookup id := by
  cases told : tell event with
  | none => simp [told]
  | some entry =>
      obtain ⟨other, value⟩ := entry
      have different : (id == other) = false := by
        cases same : id == other with
        | false => rfl
        | true =>
            rw [beq_iff_eq] at same
            exact absurd (same ▸ told) (silent value)
      simp [told, List.lookup_cons, different]

theorem Silent.lastToken (silent : Silent event id) :
    lastToken (event :: history) id = lastToken history id :=
  lookup_cons_of_ne silent.token

theorem Silent.lastScopes (silent : Silent event id) :
    lastScopes (event :: history) id = lastScopes history id :=
  lookup_cons_of_ne silent.scopes

theorem Silent.wasRevoked (silent : Silent event id) :
    wasRevoked (event :: history) id = wasRevoked history id := by
  have quiet := silent.revocation
  unfold Core.wasRevoked
  cases told : Core.revocation event with
  | none => simp [told]
  | some other =>
      have different : id ≠ other := fun same => quiet (same ▸ told)
      simp [told, different]

theorem Silent.tracked {before after : StoredDownstream}
    (silent : Silent event before.id)
    (tracked : Tracked primitives history before)
    (sameId : after.id = before.id)
    (sameDigest : after.tokenDigest = before.tokenDigest)
    (sameActive : after.active = before.active)
    (sameScopes : after.scopes = before.scopes) :
    Tracked primitives (event :: history) after where
  token := by
    rw [sameId, sameDigest, silent.lastToken]
    exact tracked.token
  active := by
    rw [sameId, sameActive, silent.wasRevoked]
    exact tracked.active
  scopes := by
    rw [sameId, sameScopes, silent.lastScopes]
    exact tracked.scopes

end Silence

/-- Edits of a credential that no history tells about. -/
structure SameCredential (before after : StoredDownstream) : Prop where
  id : after.id = before.id
  digest : after.tokenDigest = before.tokenDigest
  active : after.active = before.active
  scopes : after.scopes = before.scopes

theorem SameCredential.refl (item : StoredDownstream) :
    SameCredential item item :=
  ⟨rfl, rfl, rfl, rfl⟩

structure Quiet (event : Event) : Prop where
  token : returnedToken event = none
  scopes : scopesSet event = none
  revocation : revocation event = none

theorem Quiet.silent {event : Event} (quiet : Quiet event) (id : Uuid) :
    Silent event id where
  token := by simp [quiet.token]
  scopes := by simp [quiet.scopes]
  revocation := by simp [quiet.revocation]

theorem quiet_error (operation : VaultOperation) (error : VaultError) :
    Quiet (operation, .error error) := by
  cases operation <;> exact ⟨rfl, rfl, rfl⟩

theorem quiet_of_unchanged {operation : VaultOperation}
    (unchanged : operation.changesCredential = false)
    (result : Except VaultError VaultValue) : Quiet (operation, result) := by
  cases operation <;> first | exact ⟨rfl, rfl, rfl⟩ | cases unchanged

section Steps

variable {primitives : Primitives} {event : Event} {history : List Event}
  {before after : List StoredDownstream}

theorem Tracks.quiet (tracks : Tracks primitives history before)
    (quiet : Quiet event)
    (same : List.Forall₂ SameCredential before after) :
    Tracks primitives (event :: history) after := by
  have sameIds : after.map StoredDownstream.id =
      before.map StoredDownstream.id :=
    map_eq_of_forall₂ StoredDownstream.id (fun edited => edited.id) same
  refine {
    ids := sameIds ▸ tracks.ids
    tracked := ?_
    known := ?_
    tokens := ?_ }
  · intro item member
    obtain ⟨original, found, edited⟩ := exists_of_forall₂_right same member
    exact (quiet.silent original.id).tracked (tracks.tracked original found)
      edited.id edited.digest edited.active edited.scopes
  · intro id absent
    rw [(quiet.silent id).lastToken, (quiet.silent id).wasRevoked]
    exact tracks.known id (sameIds ▸ absent)
  · simpa [returnedTokens, quiet.token] using tracks.tokens

theorem Tracks.edit {select : StoredDownstream → Bool}
    {edit : StoredDownstream → StoredDownstream} {entry : StoredDownstream}
    (tracks : Tracks primitives history before)
    (found : modifyFirst? select edit before = some (after, entry))
    (keepsId : ∀ item, (edit item).id = item.id)
    (silent : ∀ item, select item = true → entry = edit item →
      ∀ id, id ≠ entry.id → Silent event id)
    (here : ∀ item, select item = true → entry = edit item →
      Tracked primitives history item →
        Tracked primitives (event :: history) entry)
    (tokens : (returnedTokens (event :: history)).Nodup) :
    Tracks primitives (event :: history) after := by
  have sameIds := modifyFirst?_map_eq StoredDownstream.id keepsId found
  obtain ⟨front, original, back, rfl, -, selected, rfl, rfl⟩ :=
    modifyFirst?_eq_some found
  have silent := silent original selected rfl
  have distinct := tracks.ids
  simp only [List.map_append, List.map_cons, List.nodup_append,
    List.nodup_cons] at distinct
  have others : ∀ item ∈ front ++ back, item.id ≠ (edit original).id := by
    rw [keepsId]
    intro item member same
    rcases List.mem_append.mp member with inFront | inBack
    · exact distinct.2.2 _ (List.mem_map_of_mem inFront) _
        List.mem_cons_self same
    · exact distinct.2.1.1 (same ▸ List.mem_map_of_mem inBack)
  have unchanged : ∀ item ∈ front ++ back,
      Tracked primitives (event :: history) item := by
    intro item member
    apply (silent item.id (others item member)).tracked ?_ rfl rfl rfl rfl
    apply tracks.tracked
    rcases List.mem_append.mp member with inFront | inBack
    · exact List.mem_append_left _ inFront
    · exact List.mem_append_right _ (List.mem_cons_of_mem _ inBack)
  refine {
    ids := sameIds ▸ tracks.ids
    tracked := ?_
    known := ?_
    tokens }
  · intro item member
    rcases List.mem_append.mp member with inFront | rest
    · exact unchanged item (List.mem_append_left _ inFront)
    rcases List.mem_cons.mp rest with rfl | inBack
    · exact here original selected rfl (tracks.tracked original (by simp))
    · exact unchanged item (List.mem_append_right _ inBack)
  · intro id absent
    have different : id ≠ (edit original).id := by
      rintro rfl
      exact absent (by simp)
    rw [(silent id different).lastToken, (silent id different).wasRevoked]
    exact tracks.known id (sameIds ▸ absent)

theorem Tracks.again {id : Uuid} {now : Timestamp} {target : StoredDownstream}
    {value : VaultValue} (tracks : Tracks primitives history before)
    (member : target ∈ before) (targetId : target.id = id)
    (dead : target.active = false)
    (silent : ∀ other, other ≠ id →
      Silent (.revokeDownstream id now, .ok value) other) :
    Tracks primitives ((.revokeDownstream id now, .ok value) :: history)
      before where
  ids := tracks.ids
  tracked := by
    intro item itemMember
    have tracked := tracks.tracked item itemMember
    by_cases same : item.id = id
    · have isTarget : item = target := List.inj_on_of_nodup_map tracks.ids
        itemMember member (same.trans targetId.symm)
      refine {
        token := tracked.token
        active := ?_
        scopes := tracked.scopes }
      rw [isTarget, dead]
      simp [wasRevoked, revocation, targetId]
    · exact (silent item.id same).tracked tracked rfl rfl rfl rfl
  known := by
    intro other absent
    have different : other ≠ id := by
      rintro rfl
      exact absent (targetId ▸ List.mem_map_of_mem member)
    rw [(silent other different).lastToken, (silent other different).wasRevoked]
    exact tracks.known other absent
  tokens := tracks.tokens

theorem Tracks.issue {entry : StoredDownstream}
    (tracks : Tracks primitives history before)
    (fresh : entry.id ∉ before.map StoredDownstream.id)
    (silent : ∀ id, id ≠ entry.id → Silent event id)
    (here : wasRevoked history entry.id = false →
      Tracked primitives (event :: history) entry)
    (tokens : (returnedTokens (event :: history)).Nodup) :
    Tracks primitives (event :: history) (before ++ [entry]) := by
  refine {
    ids := ?_
    tracked := ?_
    known := ?_
    tokens }
  · rw [List.map_append, List.nodup_append]
    refine ⟨tracks.ids, by simp, ?_⟩
    intro left member right last same
    have isEntry : right = entry.id := by simpa using last
    exact fresh (isEntry ▸ same ▸ member)
  · intro item member
    rcases List.mem_append.mp member with old | isNew
    · have different : item.id ≠ entry.id := by
        intro same
        exact fresh (same ▸ List.mem_map_of_mem old)
      exact (silent item.id different).tracked (tracks.tracked item old)
        rfl rfl rfl rfl
    · rw [List.mem_singleton.mp isNew]
      exact here (tracks.known entry.id fresh).2
  · intro id absent
    rw [List.map_append, List.mem_append, not_or] at absent
    have different : id ≠ entry.id := by simpa using absent.2
    rw [(silent id different).lastToken, (silent id different).wasRevoked]
    exact tracks.known id absent.1

end Steps

theorem Staged.run_written (value : α) (state : VaultFile) (disk : Disk) :
    ((Staged.persisting value state).run none disk).1 = .ok value :=
  rfl

section Attempts

variable {primitives : Primitives} {masterKey : MasterKey}

open Vault in
theorem VaultOperation.sameCredential {operation : VaultOperation}
    (unchanged : operation.changesCredential = false) (state : VaultFile) :
    List.Forall₂ SameCredential state.downstream
      (operation.stage primitives masterKey state).state.downstream := by
  have kept : ∀ {after : List StoredDownstream}, after = state.downstream →
      List.Forall₂ SameCredential state.downstream after := by
    rintro _ rfl
    exact List.forall₂_same.mpr fun item _ => SameCredential.refl item
  cases operation with
  | add => exact kept (by simp [stage, add_downstream])
  | setEnabled => exact kept (by simp [stage, setEnabled_downstream])
  | markVerified =>
      exact kept (by simp [stage, Vault.markVerified, editKey_downstream])
  | delete => exact kept (by simp [stage, Vault.delete, editKey_downstream])
  | quarantine =>
      exact kept (by simp [stage, Vault.quarantine, editKey_downstream])
  | recordRequest =>
      exact kept (by simp [stage, Vault.recordRequest, editKey_downstream])
  | recordFailure =>
      exact kept (by simp [stage, Vault.recordFailure, editKey_downstream])
  | setRouterCursor => exact kept rfl
  | setRouterCursorFor => exact kept rfl
  | issueDownstream => cases unchanged
  | revokeDownstream => cases unchanged
  | rotateDownstream => cases unchanged
  | updateDownstreamScopes => cases unchanged
  | recordDownstreamUse id usedAt =>
      simp only [stage, Staged.state_map, Vault.recordDownstreamUse,
        editDownstream]
      split
      · exact kept rfl
      · rename_i downstream item found
        apply modifyFirst?_forall₂ SameCredential.refl ?_ found
        exact fun original _ => ⟨rfl, rfl, rfl, rfl⟩

theorem Tracks.failed {operation : VaultOperation} {history : List Event}
    {state : VaultFile} {error : VaultError}
    (tracks : Tracks primitives history state.downstream)
    (staged : operation.stage primitives masterKey state = .failed error state)
    (fault : Option PersistStep) (disk : Disk) :
    let staged := operation.stage primitives masterKey state
    Tracks primitives ((operation, (staged.run fault disk).1) :: history)
      staged.state.downstream := by
  intro stagedValue
  simp only [stagedValue, staged]
  apply tracks.quiet (quiet_error operation error)
  exact List.forall₂_same.mpr fun item _ => SameCredential.refl item

variable {operation : VaultOperation} {history : List Event}
  {state : VaultFile} {fault : Option PersistStep} {disk : Disk}

theorem Tracks.editing {missing : VaultError}
    {select : StoredDownstream → Bool}
    {edit : StoredDownstream → StoredDownstream}
    {answer : DownstreamSummary → VaultValue}
    (tracks : Tracks primitives history state.downstream)
    (staged : operation.stage primitives masterKey state =
      (Vault.editDownstream state missing select edit).map answer)
    (written : (operation.stage primitives masterKey state).writes = true →
      fault = none)
    (keepsId : ∀ item, (edit item).id = item.id)
    (silent : ∀ item, select item = true → ∀ id, id ≠ (edit item).id →
      Silent (operation, .ok (answer (downstreamSummary (edit item)))) id)
    (here : ∀ item, select item = true → Tracked primitives history item →
      Tracked primitives
        ((operation, .ok (answer (downstreamSummary (edit item)))) :: history)
        (edit item))
    (tokens : ∀ entry, (returnedTokens
      ((operation, .ok (answer (downstreamSummary entry))) ::
        history)).Nodup) :
    Tracks primitives
      ((operation, ((operation.stage primitives masterKey state).run fault
        disk).1) :: history)
      (operation.stage primitives masterKey state).state.downstream := by
  cases found : modifyFirst? select edit state.downstream with
  | none =>
      apply tracks.failed
      rw [staged, Vault.editDownstream, found]
      rfl
  | some result =>
      obtain ⟨edited, entry⟩ := result
      have persisting : operation.stage primitives masterKey state =
          .persisting (answer (downstreamSummary entry))
            { state with downstream := edited } := by
        rw [staged, Vault.editDownstream, found]
        rfl
      rw [persisting] at written ⊢
      cases written rfl
      rw [Staged.run_written]
      refine tracks.edit found keepsId ?_ ?_ (tokens entry)
      · rintro item selected rfl
        exact silent item selected
      · rintro item selected rfl
        exact here item selected

theorem Tracks.rotate {id : Uuid} {bytes : Vector UInt8 32}
    (tracks : Tracks primitives history state.downstream)
    (unused : Vault.bearer bytes ∉ returnedTokens history)
    (written : ((VaultOperation.rotateDownstream id bytes).stage primitives
      masterKey state).writes = true → fault = none) :
    Tracks primitives
      ((.rotateDownstream id bytes, (((VaultOperation.rotateDownstream id
        bytes).stage primitives masterKey state).run fault disk).1) :: history)
      ((VaultOperation.rotateDownstream id bytes).stage primitives masterKey
        state).state.downstream := by
  have staged : (VaultOperation.rotateDownstream id bytes).stage primitives
      masterKey state =
        (Vault.editDownstream state .downstreamNotFound
          (Vault.isActiveDownstream id) fun item =>
            { item with tokenDigest :=
              fingerprint primitives (utf8 (Vault.bearer bytes)) }).map
          fun summary => .issued { summary, token := Vault.bearer bytes } := by
    simp only [VaultOperation.stage, Vault.rotateDownstream, Staged.map_map]
  apply tracks.editing staged written fun _ => rfl
  · intro item _ other different
    exact {
      token := fun _ told => different (by cases told; rfl)
      scopes := fun _ told => by cases told
      revocation := fun told => by cases told }
  · intro item _ tracked
    refine {
      token := ⟨bytes, ?_, rfl⟩
      active := tracked.active
      scopes := tracked.scopes }
    simp [lastToken, returnedToken, downstreamSummary]
  · intro entry
    exact List.nodup_cons.mpr ⟨unused, tracks.tokens⟩

theorem Tracks.updateScopes {id : Uuid} {scopes : List String}
    (tracks : Tracks primitives history state.downstream)
    (written : ((VaultOperation.updateDownstreamScopes id scopes).stage
      primitives masterKey state).writes = true → fault = none) :
    Tracks primitives
      ((.updateDownstreamScopes id scopes,
        (((VaultOperation.updateDownstreamScopes id scopes).stage primitives
          masterKey state).run fault disk).1) :: history)
      ((VaultOperation.updateDownstreamScopes id scopes).stage primitives
        masterKey state).state.downstream := by
  cases accepted : canonicalScopes scopes with
  | error error =>
      apply tracks.failed
      simp only [VaultOperation.stage, Vault.updateDownstreamScopes, accepted]
      rfl
  | ok canonical =>
      have staged : (VaultOperation.updateDownstreamScopes id scopes).stage
          primitives masterKey state =
            (Vault.editDownstream state .downstreamNotFound
              (Vault.isActiveDownstream id) fun item =>
                { item with scopes := canonical }).map .downstream := by
        simp only [VaultOperation.stage, Vault.updateDownstreamScopes, accepted]
      apply tracks.editing staged written fun _ => rfl
      · intro item selected other different
        have isTarget := Vault.isActiveDownstream_id selected
        exact {
          token := fun _ told => by cases told
          scopes := fun _ told => different (by cases told; exact isTarget.symm)
          revocation := fun told => by cases told }
      · intro item selected tracked
        have isTarget := Vault.isActiveDownstream_id selected
        refine {
          token := tracked.token
          active := tracked.active
          scopes := ⟨scopes, ?_, ?_⟩ }
        · simp [lastScopes, scopesSet, isTarget]
        · exact fun scope => (canonicalScopes_perm accepted).mem_iff
      · intro entry
        exact tracks.tokens

theorem Tracks.revoke {id : Uuid} {now : Timestamp}
    (tracks : Tracks primitives history state.downstream)
    (written : ((VaultOperation.revokeDownstream id now).stage
      primitives masterKey state).writes = true → fault = none) :
    Tracks primitives
      ((.revokeDownstream id now,
        (((VaultOperation.revokeDownstream id now).stage primitives
          masterKey state).run fault disk).1) :: history)
      ((VaultOperation.revokeDownstream id now).stage primitives
        masterKey state).state.downstream := by
  have silent : ∀ (result : Except VaultError VaultValue) (other : Uuid),
      other ≠ id → Silent (.revokeDownstream id now, result) other := by
    intro result other different
    exact {
      token := fun _ told => by cases told
      scopes := fun _ told => by cases told
      revocation := fun told => by
        cases result with
        | error => cases told
        | ok => exact different (by cases told; rfl) }
  cases found : state.downstream.find? fun item => item.id = id with
  | none =>
      apply tracks.failed
      simp only [VaultOperation.stage, Vault.revokeDownstream, found]
      rfl
  | some target =>
      have targetId : target.id = id := by simpa using List.find?_some found
      cases live : target.active with
      | true =>
          have staged : (VaultOperation.revokeDownstream id now).stage
              primitives masterKey state =
                (Vault.editDownstream state .downstreamNotFound
                  (fun item => item.id = id) fun item =>
                    { item with active := false, revokedAt := some now }).map
                  .downstream := by
            simp only [VaultOperation.stage, Vault.revokeDownstream, found,
              live, if_true]
          apply tracks.editing staged written fun _ => rfl
          · intro item selected other different
            have isTarget : item.id = id := of_decide_eq_true selected
            exact silent _ other (isTarget ▸ different)
          · intro item selected tracked
            have isTarget : item.id = id := of_decide_eq_true selected
            refine {
              token := tracked.token
              active := ?_
              scopes := tracked.scopes }
            simp [wasRevoked, revocation, isTarget]
          · intro entry
            exact tracks.tokens
      | false =>
          have staged : (VaultOperation.revokeDownstream id now).stage
              primitives masterKey state =
                .settled (.downstream (downstreamSummary target)) state := by
            simp only [VaultOperation.stage, Vault.revokeDownstream, found,
              live]
            rfl
          rw [staged]
          exact tracks.again (List.mem_of_find?_eq_some found) targetId live
            (silent _)

theorem Tracks.issueNew {id : Uuid} {bytes : Vector UInt8 32}
    {now : Timestamp} {label : String} {scopes : List String}
    (tracks : Tracks primitives history state.downstream)
    (fresh : id ∉ state.downstream.map StoredDownstream.id)
    (unused : Vault.bearer bytes ∉ returnedTokens history)
    (written : ((VaultOperation.issueDownstream id bytes now label
      scopes).stage primitives masterKey state).writes = true → fault = none) :
    Tracks primitives
      ((.issueDownstream id bytes now label scopes,
        (((VaultOperation.issueDownstream id bytes now label scopes).stage
          primitives masterKey state).run fault disk).1) :: history)
      ((VaultOperation.issueDownstream id bytes now label scopes).stage
        primitives masterKey state).state.downstream := by
  have failing : ∀ error : VaultError,
      Vault.issueDownstream primitives id bytes now label scopes state =
        .failed error state → _ := fun error failed =>
    @Tracks.failed primitives masterKey
      (.issueDownstream id bytes now label scopes) history state error tracks
      (by simp only [VaultOperation.stage, failed]; rfl) fault disk
  cases labelled : validateDownstreamLabel label with
  | error error =>
      exact failing error
        (by simp only [Vault.issueDownstream, labelled])
  | ok =>
  cases accepted : canonicalScopes scopes with
  | error error =>
      exact failing error
        (by simp only [Vault.issueDownstream, labelled, accepted])
  | ok canonical =>
  cases taken : state.downstream.any fun item =>
      item.active && item.label == label with
  | true =>
      exact failing .downstreamLabelExists
        (by simp only [Vault.issueDownstream, labelled, accepted, taken,
              if_true])
  | false =>
      let entry : StoredDownstream := {
        id
        label
        scopes := canonical
        tokenDigest := fingerprint primitives (utf8 (Vault.bearer bytes))
        active := true
        requestCount := 0
        lastUsedAt := none
        createdAt := now
        revokedAt := none }
      have persisting : (VaultOperation.issueDownstream id bytes now label
          scopes).stage primitives masterKey state =
            .persisting
              (.issued {
                summary := downstreamSummary entry
                token := Vault.bearer bytes })
              { state with downstream := state.downstream ++ [entry] } := by
        simp only [VaultOperation.stage, Vault.issueDownstream, labelled,
          accepted, taken]
        rfl
      rw [persisting] at written ⊢
      cases written rfl
      rw [Staged.run_written]
      apply tracks.issue fresh
      · intro other different
        exact {
          token := fun _ told => different (by cases told; rfl)
          scopes := fun _ told => different (by cases told; rfl)
          revocation := fun told => by cases told }
      · intro live
        refine {
          token := ⟨bytes, ?_, rfl⟩
          active := ?_
          scopes := ⟨scopes, ?_, ?_⟩ }
        · simp [lastToken, returnedToken, downstreamSummary, entry]
        · have still : wasRevoked ((.issueDownstream id bytes now label scopes,
              .ok (.issued {
                summary := downstreamSummary entry
                token := Vault.bearer bytes })) :: history) entry.id =
              wasRevoked history entry.id := rfl
          rw [still, live]
          rfl
        · simp [lastScopes, scopesSet, downstreamSummary, entry]
        · exact fun scope => (canonicalScopes_perm accepted).mem_iff
      · exact List.nodup_cons.mpr ⟨unused, tracks.tokens⟩

theorem Tracks.attempt {observed : Observed} {attempt : Attempt}
    (tracks : Tracks primitives observed.history
      observed.world.memory.downstream)
    (generated : Generated observed attempt)
    (written : WritesGoThrough primitives masterKey observed attempt) :
    Tracks primitives
      (observed.attempt primitives masterKey attempt).history
      (observed.attempt primitives masterKey
        attempt).world.memory.downstream := by
  obtain ⟨operation, fault⟩ := attempt
  simp only [Observed.attempt, VaultWorld.attempt]
  cases changes : operation.changesCredential with
  | false =>
      exact tracks.quiet (quiet_of_unchanged changes _)
        (operation.sameCredential changes _)
  | true =>
      have through := written changes
      cases operation with
      | issueDownstream id bytes now label scopes =>
          exact tracks.issueNew generated.id (generated.token _ rfl) through
      | rotateDownstream id bytes =>
          exact tracks.rotate (generated.token _ rfl) through
      | revokeDownstream id now => exact tracks.revoke through
      | updateDownstreamScopes id scopes => exact tracks.updateScopes through
      | add => cases changes
      | setEnabled => cases changes
      | markVerified => cases changes
      | delete => cases changes
      | quarantine => cases changes
      | recordRequest => cases changes
      | recordFailure => cases changes
      | setRouterCursor => cases changes
      | setRouterCursorFor => cases changes
      | recordDownstreamUse => cases changes

end Attempts

/-- The runs in which identifiers and tokens are new and no write of a
credential change is refused. -/
def trackedStep (primitives : Primitives) (masterKey : MasterKey) :
    Observed → Attempt → Observed → Prop :=
  Guarded (observedStep primitives masterKey) fun before attempt =>
    Generated before attempt ∧
      WritesGoThrough primitives masterKey before attempt

theorem Tracks.run {primitives : Primitives} {masterKey : MasterKey}
    {temporary : Option (Option VaultFile)} {attempts : List Attempt}
    {observed : Observed}
    (run : Run (trackedStep primitives masterKey) (.fresh temporary) attempts
      observed) :
    Tracks primitives observed.history observed.world.memory.downstream := by
  apply run.invariant fun observed =>
    Tracks primitives observed.history observed.world.memory.downstream
  · rintro before attempt after tracks ⟨rfl, generated, written⟩
    exact tracks.attempt generated written
  · exact ⟨List.nodup_nil, by simp [Observed.fresh, VaultWorld.fresh,
      VaultFile.empty], fun _ _ => ⟨rfl, rfl⟩, List.nodup_nil⟩

private theorem mem_of_lastToken {history : List Event} {id : Uuid}
    {token : String} (last : lastToken history id = some token) :
    (id, token) ∈ history.filterMap returnedToken := by
  obtain ⟨before, after, split, -⟩ := List.lookup_eq_some_iff.mp last
  rw [split]
  simp

theorem mem_returnedTokens {history : List Event} {id : Uuid} {token : String}
    (last : lastToken history id = some token) :
    token ∈ returnedTokens history :=
  List.mem_map.mpr ⟨_, mem_of_lastToken last, rfl⟩

theorem eq_of_lastToken {history : List Event}
    (distinct : (returnedTokens history).Nodup) {left right : Uuid}
    {token : String} (leftLast : lastToken history left = some token)
    (rightLast : lastToken history right = some token) : left = right := by
  have same := List.inj_on_of_nodup_map distinct (mem_of_lastToken leftLast)
    (mem_of_lastToken rightLast) rfl
  exact congrArg Prod.fst same

theorem sha256_of_fingerprint {primitives : Primitives} {left right : String}
    (same : fingerprint primitives (utf8 left) =
      fingerprint primitives (utf8 right)) :
    primitives.sha256 (utf8 left) = primitives.sha256 (utf8 right) :=
  Vector.toList_inj.mp (hexEncode_injective same)

/-- The tokens whose digests the run and the authentication compare. -/
def usedTokens (history : List Event) (token : String) : Set String :=
  { used | used = token ∨ used ∈ returnedTokens history }

section Authentication

variable {primitives : Primitives} {history : List Event} {state : VaultFile}
  {token scope : String} {id : Uuid} {now : Timestamp}

private theorem tracked_token
    (injective : Set.InjOn (fun used => primitives.sha256 (utf8 used))
      (usedTokens history token)) {item : StoredDownstream}
    (tracked : Tracked primitives history item)
    (same : item.tokenDigest = fingerprint primitives (utf8 token)) :
    lastToken history item.id = some token := by
  obtain ⟨bytes, last, digest⟩ := tracked.token
  have isToken : Vault.bearer bytes = token :=
    injective (.inr (mem_returnedTokens last)) (.inl rfl)
      (sha256_of_fingerprint (digest.symm.trans same))
  rw [last, isToken]

private theorem find?_of_ids {items : List StoredDownstream}
    (ids : (items.map StoredDownstream.id).Nodup) {item : StoredDownstream}
    (member : item ∈ items) {select : StoredDownstream → Bool}
    (named : ∀ other, select other = true → other.id = item.id)
    (selected : select item = true) : items.find? select = some item := by
  cases found : items.find? select with
  | none => exact absurd selected (List.find?_eq_none.mp found item member)
  | some other =>
      have same := named other (List.find?_some found)
      rw [List.inj_on_of_nodup_map ids (List.mem_of_find?_eq_some found) member
        same]

/-- What a successful authentication has checked, and on which credential. -/
private theorem authenticateDownstream_eq_persisting
    {summary : DownstreamSummary} {after : VaultFile}
    (authenticated : Vault.authenticateDownstream primitives token scope now
      state = .persisting summary after)
    (ids : (state.downstream.map StoredDownstream.id).Nodup) :
    ∃ item ∈ state.downstream, item.id = summary.id ∧ item.active = true ∧
      item.tokenDigest = fingerprint primitives (utf8 token) ∧
      scope ∈ item.scopes := by
  unfold Vault.authenticateDownstream at authenticated
  split at authenticated
  · cases authenticated
  rename_i identity identified
  split at authenticated
  · cases authenticated
  rename_i live
  split at authenticated
  · cases authenticated
  rename_i permitted
  obtain ⟨item, member, digest, rfl⟩ :=
    Vault.identifyDownstream_eq_ok identified
  have target : state.downstream.find? (fun other => other.id = item.id) =
      some item := by
    apply find?_of_ids ids member
    · exact fun other selected => of_decide_eq_true selected
    · exact decide_eq_true rfl
  have granted : scope ∈ item.scopes := by
    simp only [Vault.requireDownstreamScope, target] at permitted
    split at permitted
    · rename_i listed
      simpa using listed
    · cases permitted
  refine ⟨item, member, ?_, by simpa using live, digest, granted⟩
  simp only [Vault.recordDownstreamUse, Vault.editDownstream] at authenticated
  split at authenticated
  · cases authenticated
  · rename_i downstream entry found
    cases authenticated
    obtain ⟨original, isFound, rfl⟩ := find?_of_modifyFirst? found
    exact (Vault.isActiveDownstream_id (List.find?_some isFound)).symm

private theorem authenticateDownstream_not_settled
    (summary : DownstreamSummary) (after : VaultFile) :
    Vault.authenticateDownstream primitives token scope now state ≠
      .settled summary after := by
  unfold Vault.authenticateDownstream
  split
  · exact fun settled => by cases settled
  split
  · exact fun settled => by cases settled
  split
  · exact fun settled => by cases settled
  unfold Vault.recordDownstreamUse Vault.editDownstream
  split <;> exact fun settled => by cases settled

private theorem authenticateDownstream_of_item {item : StoredDownstream}
    (ids : (state.downstream.map StoredDownstream.id).Nodup)
    (member : item ∈ state.downstream) (live : item.active = true)
    (granted : scope ∈ item.scopes)
    (identified : Vault.identifyDownstream primitives token state =
      .ok { id := item.id, active := item.active }) :
    ∃ summary after, Vault.authenticateDownstream primitives token scope now
      state = .persisting summary after ∧ summary.id = item.id := by
  have target : state.downstream.find? (fun other => other.id = item.id) =
      some item := by
    apply find?_of_ids ids member
    · exact fun other selected => of_decide_eq_true selected
    · exact decide_eq_true rfl
  have listed : (item.scopes.any fun known => known == scope) = true := by
    simpa using granted
  cases found : modifyFirst? (Vault.isActiveDownstream item.id)
      (fun item => { item with
        requestCount := saturatingAdd item.requestCount 1
        lastUsedAt := some now }) state.downstream with
  | none =>
      have skipped := modifyFirst?_eq_none.mp found item member
      simp [Vault.isActiveDownstream, live] at skipped
  | some result =>
      obtain ⟨downstream, entry⟩ := result
      obtain ⟨original, isFound, entryEq⟩ := find?_of_modifyFirst? found
      have originalId := Vault.isActiveDownstream_id (List.find?_some isFound)
      have sameId : entry.id = item.id := by
        rw [entryEq]
        exact originalId
      refine ⟨downstreamSummary entry, { state with downstream }, ?_, sameId⟩
      simp only [Vault.authenticateDownstream, identified, live,
        Vault.requireDownstreamScope, target, listed, if_true,
        Vault.recordDownstreamUse, Vault.editDownstream, found]
      rfl

/-- Authentication answers what the history says, as long as the history's
credential changes and the authentication's own record were written. -/
theorem authenticateDownstream_iff {masterKey : MasterKey}
    {temporary : Option (Option VaultFile)} {attempts : List Attempt}
    {observed : Observed}
    (run : Run (trackedStep primitives masterKey) (.fresh temporary) attempts
      observed)
    (injective : Set.InjOn (fun used => primitives.sha256 (utf8 used))
      (usedTokens observed.history token)) :
    (∃ summary,
      ((Vault.authenticateDownstream primitives token scope now
        observed.world.memory).run none observed.world.disk).1 = .ok summary ∧
        summary.id = id) ↔
      Grants observed.history id token scope := by
  have tracks := Tracks.run run
  constructor
  · rintro ⟨summary, succeeded, rfl⟩
    rcases Staged.run_ok _ _ succeeded with settled | ⟨persisting, -⟩
    · exact absurd settled (authenticateDownstream_not_settled _ _)
    obtain ⟨item, member, sameId, live, digest, granted⟩ :=
      authenticateDownstream_eq_persisting persisting tracks.ids
    have tracked := tracks.tracked item member
    obtain ⟨scopes, last, listed⟩ := tracked.scopes
    have active := tracked.active
    rw [live] at active
    rw [← sameId]
    exact {
      token := tracked_token injective tracked digest
      live := by simpa using active.symm
      scope := ⟨scopes, last, (listed scope).mp granted⟩ }
  · rintro ⟨last, unrevoked, scopes, lastScopes, listed⟩
    have known : id ∈ observed.world.memory.downstream.map
        StoredDownstream.id := by
      by_contra absent
      rw [(tracks.known id absent).1] at last
      cases last
    obtain ⟨item, member, rfl⟩ := List.mem_map.mp known
    have tracked := tracks.tracked item member
    obtain ⟨bytes, lastBytes, digest⟩ := tracked.token
    have isToken : Vault.bearer bytes = token :=
      Option.some.inj (lastBytes.symm.trans last)
    subst isToken
    obtain ⟨itemScopes, lastItem, listedItem⟩ := tracked.scopes
    have sameScopes : itemScopes = scopes :=
      Option.some.inj (lastItem.symm.trans lastScopes)
    subst sameScopes
    have live : item.active = true := by rw [tracked.active, unrevoked]; rfl
    have identified := Vault.identifyDownstream_of_mem member digest (by
      intro other otherMember same
      have otherLast := tracked_token injective
        (tracks.tracked other otherMember) (same.trans digest)
      exact List.inj_on_of_nodup_map tracks.ids otherMember member
        (eq_of_lastToken tracks.tokens otherLast last))
      (Vault.bearer_startsWith bytes)
    obtain ⟨summary, after, persisting, sameId⟩ :=
      @authenticateDownstream_of_item _ _ _ scope now item tracks.ids
        member live ((listedItem scope).mpr listed) identified
    refine ⟨summary, ?_, sameId⟩
    rw [persisting, Staged.run_written]

end Authentication

def sampleBytes (byte : UInt8) : Vector UInt8 32 :=
  Vector.replicate 32 byte

/-- SHA-256 of the two bearers the samples use. -/
def samplePrimitives : Primitives := .tabulated [
  (utf8 (Vault.bearer (sampleBytes 1)),
    #v[
      212, 200, 18, 102, 202, 2, 227, 129, 110, 171, 181, 103, 176, 216, 242,
      23, 158, 87, 28, 59, 189, 89, 28, 64, 159, 145, 183, 34, 5, 250, 115,
      223]),
  (utf8 (Vault.bearer (sampleBytes 2)),
    #v[
      185, 51, 242, 148, 53, 23, 107, 84, 143, 162, 214, 63, 92, 156, 236,
      74, 156, 171, 94, 178, 62, 229, 116, 248, 36, 226, 173, 40, 124, 104,
      91, 136])]

def sampleMasterKey : MasterKey := Vector.replicate 32 0

def sampleIssue : Attempt :=
  (.issueDownstream 1 (sampleBytes 1) 0 "client" ["chat:write"], none)

def sampleRotation (fault : Option PersistStep) : Attempt :=
  (.rotateDownstream 1 (sampleBytes 2), fault)

def sampleIssued : Observed :=
  (Observed.fresh none).attempt samplePrimitives sampleMasterKey sampleIssue

def sampleRotated (fault : Option PersistStep) : Observed :=
  sampleIssued.attempt samplePrimitives sampleMasterKey (sampleRotation fault)

private theorem sampleIssue_generated :
    Generated (Observed.fresh none) sampleIssue where
  id := List.not_mem_nil
  token := by
    intro token isNew
    cases isNew
    exact List.not_mem_nil

private theorem sampleRotation_generated (fault : Option PersistStep) :
    Generated sampleIssued (sampleRotation fault) where
  id := trivial
  token := by
    intro token isNew
    cases isNew
    decide

private theorem sample_injective {history : List Event} {token : String}
    (tokens : ∀ used ∈ returnedTokens history,
      used = Vault.bearer (sampleBytes 1) ∨ used = Vault.bearer (sampleBytes 2))
    (among : token = Vault.bearer (sampleBytes 1) ∨
      token = Vault.bearer (sampleBytes 2)) :
    Set.InjOn (fun used => samplePrimitives.sha256 (utf8 used))
      (usedTokens history token) := by
  have known : ∀ used ∈ usedTokens history token,
      used = Vault.bearer (sampleBytes 1) ∨
        used = Vault.bearer (sampleBytes 2) := by
    rintro used (rfl | returned)
    · exact among
    · exact tokens used returned
  have different : samplePrimitives.sha256 (utf8 (Vault.bearer (sampleBytes 1))) ≠
      samplePrimitives.sha256 (utf8 (Vault.bearer (sampleBytes 2))) := by
    decide
  intro left leftUsed right rightUsed same
  rcases known left leftUsed with rfl | rfl <;>
    rcases known right rightUsed with rfl | rfl
  · rfl
  · exact absurd same different
  · exact absurd same.symm different
  · rfl

theorem authenticateDownstream_iff_rotated :
    (∃ summary,
      ((Vault.authenticateDownstream samplePrimitives
        (Vault.bearer (sampleBytes 2)) "chat:write" 5
        (sampleRotated none).world.memory).run none
        (sampleRotated none).world.disk).1 = .ok summary ∧ summary.id = 1) ↔
      Grants (sampleRotated none).history 1 (Vault.bearer (sampleBytes 2))
        "chat:write" := by
  apply @authenticateDownstream_iff samplePrimitives _ _ _ _ sampleMasterKey
    none [sampleIssue, sampleRotation none]
  · apply Run.cons
    · exact ⟨rfl, sampleIssue_generated, fun _ _ => rfl⟩
    apply Run.cons
    · exact ⟨rfl, sampleRotation_generated none, fun _ _ => rfl⟩
    exact Run.nil _
  · apply sample_injective
    · decide
    · exact .inr rfl

/-- The file refuses to be opened while a credential is rotated.  The caller is
told that the rotation failed, and the token it holds is dead. -/
theorem authenticateDownstream_after_refused_rotation :
    Run (Guarded (observedStep samplePrimitives sampleMasterKey) Generated)
        (.fresh none) [sampleIssue, sampleRotation (some .openTemporary)]
        (sampleRotated (some .openTemporary)) ∧
      Set.InjOn (fun used => samplePrimitives.sha256 (utf8 used))
        (usedTokens (sampleRotated (some .openTemporary)).history
          (Vault.bearer (sampleBytes 1))) ∧
      Grants (sampleRotated (some .openTemporary)).history 1
        (Vault.bearer (sampleBytes 1)) "chat:write" ∧
      ((Vault.authenticateDownstream samplePrimitives
        (Vault.bearer (sampleBytes 1)) "chat:write" 5
        (sampleRotated (some .openTemporary)).world.memory).run none
        (sampleRotated (some .openTemporary)).world.disk).1 =
          .error (.unauthenticated .invalidCredential) := by
  refine ⟨?_, ?_, ?_, by decide⟩
  · apply Run.cons
    · exact ⟨rfl, sampleIssue_generated⟩
    apply Run.cons
    · exact ⟨rfl, sampleRotation_generated (some .openTemporary)⟩
    exact Run.nil _
  · apply sample_injective
    · decide
    · exact .inl rfl
  · exact ⟨by decide, by decide, ["chat:write"], by decide, by decide⟩

end NvidiaBuildLb.Core
