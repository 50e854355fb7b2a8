import NvidiaBuildLb.Core.Authentication
import NvidiaBuildLb.Gateway.LostUpdates
import NvidiaBuildLb.Hermes.Records
import NvidiaBuildLb.Qa.Records

namespace NvidiaBuildLb.Qa

open Foundation NvidiaBuildLb.Core Gateway Hermes

/-! The client a traffic run issues for itself, and what becomes of it. -/

inductive TrafficError where
  | failed (reason : String)
  | store (context : String) (error : StoreError VaultError)
  | context (context : String) (cause : TrafficError)
  | both (traffic cleanup : TrafficError)
  deriving DecidableEq, Repr

structure TrafficEvidence (κ : Type) where
  httpContract : Option κ
  distributionGenerationBefore : Option Int
  distributionGenerationAfter : Option Int

/-- What the run meets: what it draws and which of its two calls of the store
fail, the answers of the database and of the server it sends its requests to,
and the calls others make of the store before the run comes to its end. -/
structure Course (κ : Type) where
  clientId : Uuid
  tokenBytes : Vector UInt8 32
  issuedAt : Timestamp
  issueFault : Option PersistStep
  issueCall : CallEnvironment
  mode : Except TrafficError Bool
  fixture : String → Except TrafficError Unit
  httpContract : Bool → Except TrafficError κ
  cursor : Except TrafficError Int
  traffic : Except TrafficError Unit
  generation : Except TrafficError Int
  meanwhile : List (CallEnvironment × StoreCall)
  revokedAt : Timestamp
  revokeFault : Option PersistStep
  revokeCall : CallEnvironment

/-- The attempt to revoke a client. -/
structure Revocation where
  clientId : Uuid
  before : VaultStore
  succeeded : Bool

structure Exercised (κ : Type) where
  returned : Except TrafficError (TrafficEvidence κ)
  issued : Option IssuedDownstream
  revocation : Option Revocation
  store : VaultStore

def qaScopes : List String := [
  "models:read", "chat:write", "embeddings:write", "images:write",
  "media:write", "audio:write"]

def qaClientLabel (runId : Uuid) : String :=
  "qa-run-" ++ uuidText runId

def qaClientAudit (action : String) (runId : Uuid)
    (clientId : Option Uuid) : VaultAuditMutation where
  action
  resourceKind := "client"
  resourceId := clientId
  requestId := runId
  detail := "\x7b\"ephemeral\":true\x7d"
  clientPolicy := none
  probeResult := none

def issuedBy : VaultValue → Option IssuedDownstream
  | .issued issued => some issued
  | _ => none

/-- The task of a run is never aborted, so that its calls are not dropped. -/
def undropped (env : CallEnvironment) : CallEnvironment :=
  { env with dropped := none }

section Exercise

variable {κ : Type} (primitives : Primitives) (masterKey : MasterKey)
  (runId : Uuid) (suite : Suite) (live mockProvider : Bool) (course : Course κ)

def issueClosure : Closure VaultError VaultValue :=
  .call (.issueDownstream course.clientId course.tokenBytes course.issuedAt
    (qaClientLabel runId) qaScopes) course.issueFault .done

def issueQaClient (store : VaultStore) :
    CallEnd (StoreError VaultError) (VaultValue × Uuid) :=
  store.mutateWithAudit primitives masterKey (undropped course.issueCall)
    (issueClosure runId course) fun value =>
      qaClientAudit "qa.client.create" runId
        ((issuedBy value).map fun issued => issued.summary.id)

def revokeQaClient (clientId : Uuid) (store : VaultStore) :
    CallEnd (StoreError VaultError) (VaultValue × Uuid) :=
  store.mutateWithAudit primitives masterKey (undropped course.revokeCall)
    (.call (.revokeDownstream clientId course.revokedAt) course.revokeFault
      .done) fun _ => qaClientAudit "qa.client.revoke" runId (some clientId)

def requirePool (store : VaultStore) (context : String) :
    Except TrafficError Unit :=
  if store.database.isSome then .ok () else .error (.failed context)

/-- The fixtures of a failover run against a live provider. -/
def armFixtures (store : VaultStore) : Except TrafficError Unit :=
  if suite = .failover then do
    requirePool store "failover QA requires PostgreSQL"
    let live ← course.mode
    if live && !mockProvider then do
      course.fixture "before_first_frame"
      course.fixture "after_first_frame"
  else
    .ok ()

/-- The steps from the issued client to the traffic. -/
def prepareTraffic (store : VaultStore) :
    Except TrafficError (TrafficEvidence κ) := do
  armFixtures suite mockProvider course store
  let httpContract ←
    if suite = .smoke then some <$> course.httpContract live else pure none
  let distributionGenerationBefore ←
    if suite = .distribution then do
      requirePool store "distribution QA requires PostgreSQL"
      some <$> course.cursor
    else
      pure none
  return {
    httpContract
    distributionGenerationBefore
    distributionGenerationAfter := none }

/-- What is read once the traffic has been sent. -/
def finalGeneration (store : VaultStore)
    (evidence : TrafficEvidence κ) :
    Except TrafficError (TrafficEvidence κ) :=
  if course.traffic.isOk && decide (suite = .distribution) then do
    requirePool store "distribution QA requires PostgreSQL"
    let generation ← course.generation
    return { evidence with distributionGenerationAfter := some generation }
  else
    .ok evidence

def combineTrafficCleanup (traffic : Except TrafficError α)
    (cleanup : Except TrafficError Unit) : Except TrafficError α :=
  match traffic, cleanup with
  | .ok value, .ok () => .ok value
  | .error traffic, .ok () =>
      .error (.context "QA traffic failed; client cleanup passed" traffic)
  | .ok _, .error cleanup =>
      .error (.context "QA traffic passed; client cleanup failed" cleanup)
  | .error traffic, .error cleanup => .error (.both traffic cleanup)

/-- A call that is not dropped returns. -/
def storeResult (context : String)
    (ended : CallEnd (StoreError VaultError) (VaultValue × Uuid)) :
    Except TrafficError VaultValue :=
  match ended.returned with
  | some (.ok (value, _)) => .ok value
  | some (.error error) => .error (.store context error)
  | none => .error (.failed context)

/-- The end of the function, which only a run that has sent its traffic
reaches. -/
def cleanUp (issued : IssuedDownstream)
    (evidence : TrafficEvidence κ) (store : VaultStore) : Exercised κ :=
  let ended := revokeQaClient primitives masterKey runId course
    issued.summary.id store
  let cleanup := storeResult "revoke ephemeral QA client" ended
  { returned := combineTrafficCleanup (course.traffic.map fun _ => evidence)
      (cleanup.map fun _ => ())
    issued := some issued
    revocation := some {
      clientId := issued.summary.id
      before := store
      succeeded := cleanup.isOk }
    store := ended.store }

def exerciseTraffic (store : VaultStore) : Exercised κ :=
  let ended := issueQaClient primitives masterKey runId course store
  match storeResult "issue ephemeral QA client" ended with
  | .error error =>
      { returned := .error error
        issued := none
        revocation := none
        store := ended.store }
  | .ok value =>
      match issuedBy value with
      | none =>
          -- The operation answers nothing else.
          { returned := .error (.failed "issue ephemeral QA client")
            issued := none
            revocation := none
            store := ended.store }
      | some issued =>
          let later := ended.store.replay primitives masterKey course.meanwhile
          match (prepareTraffic suite live mockProvider course ended.store).bind
              (finalGeneration suite course ended.store) with
          | .error error =>
              { returned := .error error
                issued := some issued
                revocation := none
                store := later }
          | .ok evidence =>
              cleanUp primitives masterKey runId course issued evidence later

end Exercise

/-- Nothing admits the client any more: neither its record nor a bearer, and
its row agrees where the rows did before. -/
structure RevokedIn (primitives : Primitives) (before after : VaultStore)
    (clientId : Uuid) : Prop where
  record : ∀ item, after.memoryClient clientId = some item →
    item.active = false
  bearers : (after.vault.memory.downstream.map StoredDownstream.id).Nodup →
    ∀ token identity, Vault.identifyDownstream primitives token
      after.vault.memory = .ok identity → identity.id = clientId →
        identity.active = false
  row : before.Agree → ∀ held, after.lifecycle clientId = some held →
    held.active = false

/-- The client was asked to be revoked before the function returned, and is
revoked if that call succeeded. -/
def Exercised.Cleaned (primitives : Primitives) (run : Exercised κ) : Prop :=
  ∀ issued, run.issued = some issued →
    ∃ revocation, run.revocation = some revocation ∧
      revocation.clientId = issued.summary.id ∧
      (revocation.succeeded = true →
        RevokedIn primitives revocation.before run.store issued.summary.id)

/-- No step between the issued client and the end of the function fails. -/
def Course.reachesEnd (course : Course κ) (suite : Suite)
    (live mockProvider : Bool) : Bool :=
  match suite with
  | .smoke => (course.httpContract live).isOk
  | .distribution =>
      course.cursor.isOk && (!course.traffic.isOk || course.generation.isOk)
  | .failover =>
      match course.mode with
      | .error _ => false
      | .ok live =>
          !(live && !mockProvider) ||
            ((course.fixture "before_first_frame").isOk &&
              (course.fixture "after_first_frame").isOk)
  | _ => true

section Cleaning

variable {primitives : Primitives} {masterKey : MasterKey}

theorem revoked_record {clientId : Uuid} {now : Timestamp}
    {fault : Option PersistStep} {world : VaultWorld} {value : VaultValue}
    (ran : ((.call (.revokeDownstream clientId now) fault .done :
      Closure VaultError VaultValue).run primitives masterKey world).1 =
        .ok value) :
    ∀ item, ((.call (.revokeDownstream clientId now) fault .done :
      Closure VaultError VaultValue).run primitives masterKey
        world).2.memory.downstream.find? (fun item => item.id = clientId) =
          some item → item.active = false := by
  intro item isItem
  simp only [Closure.run, VaultWorld.attempt, VaultOperation.stage,
    Staged.state_map, Vault.revokeDownstream] at ran isItem
  cases found : world.memory.downstream.find? fun item => item.id = clientId with
  | none =>
      rw [found] at ran
      cases ran
  | some stored =>
      rw [found] at ran isItem
      simp only at ran isItem
      split at isItem
      case isTrue active =>
          unfold Vault.editDownstream at isItem
          split at isItem
          case h_1 missing =>
              rw [Staged.state, found] at isItem
              rw [if_pos active, Vault.editDownstream, missing] at ran
              cases ran
          case h_2 edited entry modified =>
              have isClient : decide (stored.id = clientId) = true := by
                simpa using List.find?_some found
              have isEdited := find?_modifyFirst? modified (fun _ same => same)
                found isClient isClient
              rw [Staged.state, isEdited] at isItem
              cases isItem
              rfl
      case isFalse inactive =>
          rw [Staged.state, found] at isItem
          cases isItem
          exact Bool.eq_false_iff.mpr inactive

theorem revokedIn_of_succeeds {env : CallEnvironment} {store : VaultStore}
    {clientId auditId : Uuid} {now : Timestamp} {fault : Option PersistStep}
    {auditFor : VaultValue → VaultAuditMutation} {value : VaultValue}
    (returned : (store.mutateWithAudit primitives masterKey (undropped env)
      (.call (.revokeDownstream clientId now) fault .done) auditFor).returned =
        some (.ok (value, auditId))) :
    RevokedIn primitives store (store.mutateWithAudit primitives masterKey
      (undropped env) (.call (.revokeDownstream clientId now) fault .done)
        auditFor).store clientId := by
  obtain ⟨ran, vault, -, observed⟩ := mutateWithAudit_ok returned
  have record : ∀ item, (store.mutateWithAudit primitives masterKey
      (undropped env) (.call (.revokeDownstream clientId now) fault .done)
        auditFor).store.memoryClient clientId = some item →
          item.active = false := by
    unfold VaultStore.memoryClient
    rw [vault]
    exact revoked_record ran
  refine ⟨record, ?_, ?_⟩
  · intro distinct token identity identified isClient
    obtain ⟨item, member, -, rfl⟩ := Vault.identifyDownstream_eq_ok identified
    cases found : (store.mutateWithAudit primitives masterKey (undropped env)
        (.call (.revokeDownstream clientId now) fault .done)
          auditFor).store.memoryClient clientId with
    | none =>
        have missing := List.find?_eq_none.mp found item member
        exact absurd (decide_eq_true isClient) missing
    | some first =>
        have named : first.id = clientId := by
          simpa using List.find?_some found
        have same : item = first := eq_of_key distinct member
          (List.mem_of_find?_eq_some found) (isClient.trans named.symm)
        rw [same]
        exact record first found
  · intro agree held isHeld
    have leaves : LeavesNothingUnobserved (undropped env) store.vault.memory
        (StoreCall.operated primitives masterKey store (.mutateWithAudit (.call
          (.revokeDownstream clientId now) fault .done) auditFor)) :=
      fun unobserved => absurd observed unobserved
    have fresh : StoreCall.Fresh primitives masterKey store (.mutateWithAudit
        (.call (.revokeDownstream clientId now) fault .done) auditFor) :=
      ⟨trivial, trivial⟩
    have shown := (VaultStore.perform_agree primitives masterKey
      (undropped env) agree fresh leaves).shows_ clientId
    rw [show (store.perform primitives masterKey (undropped env)
      (.mutateWithAudit (.call (.revokeDownstream clientId now) fault .done)
        auditFor)).lifecycle clientId = some held from isHeld] at shown
    cases isItem : (store.perform primitives masterKey (undropped env)
        (.mutateWithAudit (.call (.revokeDownstream clientId now) fault .done)
          auditFor)).memoryClient clientId with
    | none =>
        rw [isItem] at shown
        cases shown
    | some item =>
        rw [isItem] at shown
        cases shown with
        | some shows_ =>
            rw [shows_.active]
            exact record item isItem

theorem storeResult_isOk {context : String}
    {ended : CallEnd (StoreError VaultError) (VaultValue × Uuid)}
    (succeeds : (storeResult context ended).isOk = true) :
    ∃ value auditId, ended.returned = some (.ok (value, auditId)) := by
  unfold storeResult at succeeds
  split at succeeds
  case h_1 value auditId returned => exact ⟨value, auditId, returned⟩
  all_goals cases succeeds

theorem prepared_isOk {store : VaultStore} (present : store.database.isSome)
    (suite : Suite) (live mockProvider : Bool) (course : Course κ) :
    ((prepareTraffic suite live mockProvider course store).bind
      (finalGeneration suite course store)).isOk =
        course.reachesEnd suite live mockProvider := by
  have pool : ∀ context, requirePool store context = .ok () :=
    fun context => if_pos present
  unfold prepareTraffic finalGeneration armFixtures Course.reachesEnd
  cases suite with
  | smoke =>
      cases course.httpContract live <;> simp <;> rfl
  | distribution =>
      simp only [pool]
      cases course.cursor <;> cases course.traffic <;>
        cases course.generation <;> rfl
  | failover =>
      simp only [pool]
      cases course.mode with
      | error error => rfl
      | ok liveRun =>
          cases liveRun <;> cases mockProvider <;>
            cases course.fixture "before_first_frame" <;>
            cases course.fixture "after_first_frame" <;> simp <;> rfl
  | persistence => simp; rfl
  | multimodal => simp; rfl
  | hermesE2e => simp; rfl

/-- A run that has issued a client asks for its revocation before it returns
exactly when none of the steps in between fails. -/
theorem cleaned_iff {runId : Uuid} {suite : Suite} {live mockProvider : Bool}
    {course : Course κ} {store : VaultStore} {issued : IssuedDownstream}
    (isIssued : (exerciseTraffic primitives masterKey runId suite live
      mockProvider course store).issued = some issued) :
    (exerciseTraffic primitives masterKey runId suite live mockProvider course
        store).Cleaned primitives ↔
      course.reachesEnd suite live mockProvider = true := by
  unfold exerciseTraffic at isIssued ⊢
  simp only at isIssued ⊢
  generalize issueIs : issueQaClient primitives masterKey runId course store =
    ended at isIssued ⊢
  cases called : storeResult "issue ephemeral QA client" ended with
  | error error =>
      simp only [called] at isIssued
      cases isIssued
  | ok value =>
      obtain ⟨_, _, returned⟩ := storeResult_isOk (congrArg Except.isOk called)
      rw [← issueIs] at returned
      have present := (mutateWithAudit_ok returned).2.2.1
      rw [show (store.mutateWithAudit _ _ _ _ _) = ended from issueIs] at present
      have reaches := prepared_isOk present suite live mockProvider course
      cases client : issuedBy value with
      | none =>
          simp only [called, client] at isIssued
          cases isIssued
      | some found =>
          rw [← reaches]
          cases steps : (prepareTraffic suite live mockProvider course
              ended.store).bind (finalGeneration suite course ended.store) with
          | error error =>
              -- The function returns without a word about its client.
              simp only [client]
              refine iff_of_false ?_ Bool.false_ne_true
              intro cleaned
              obtain ⟨revocation, none_, _⟩ := cleaned found rfl
              cases none_
          | ok evidence =>
              simp only [client]
              refine iff_of_true ?_ rfl
              intro issued isIssued
              cases isIssued
              refine ⟨_, rfl, rfl, ?_⟩
              intro succeeds
              obtain ⟨_, _, returned⟩ := storeResult_isOk succeeds
              exact revokedIn_of_succeeds returned

end Cleaning

namespace Exercise.Sample

def course (httpContract : Except TrafficError Unit) : Course Unit where
  clientId := 1
  tokenBytes := Vector.replicate 32 7
  issuedAt := 0
  issueFault := none
  issueCall := quietEnvironment
  mode := .ok false
  fixture := fun _ => .ok ()
  httpContract := fun _ => httpContract
  cursor := .ok 0
  traffic := .ok ()
  generation := .ok 0
  meanwhile := []
  revokedAt := 0
  revokeFault := none
  revokeCall := { quietEnvironment with auditId := 1 }

def run (httpContract : Except TrafficError Unit) : Exercised Unit :=
  exerciseTraffic (Primitives.tabulated []) (Vector.replicate 32 0) 9 .smoke
    false true (course httpContract) sampleStore

def issued : IssuedDownstream where
  summary := {
    id := 1
    label := qaClientLabel 9
    scopes := ["models:read", "chat:write", "embeddings:write", "images:write",
      "audio:write", "media:write"]
    active := true
    requestCount := 0
    lastUsedAt := none
    createdAt := 0
    revokedAt := none }
  token := Vault.bearer (Vector.replicate 32 7)

theorem cleaned_iff_answered :
    (run (.ok ())).issued = some issued ∧
      (run (.ok ())).Cleaned (Primitives.tabulated []) ∧
      (run (.ok ())).revocation.map Revocation.succeeded = some true := by
  have isIssued : (run (.ok ())).issued = some issued := by decide +kernel
  refine ⟨isIssued, ?_, by decide +kernel⟩
  exact (cleaned_iff isIssued).mpr rfl

/-- The liveness request of a smoke run is refused: the run fails, and its
client goes on with every scope. -/
theorem client_left_behind :
    (run (.error (.failed "request local liveness"))).issued = some issued ∧
      (run (.error (.failed "request local liveness"))).revocation.isNone ∧
      ((run (.error (.failed "request local liveness"))).store.memoryClient
        1).map StoredDownstream.active = some true ∧
      ((run (.error (.failed "request local liveness"))).store.lifecycle
        1).map DownstreamLifecycle.active = some true ∧
      ¬ (run (.error (.failed "request local liveness"))).Cleaned
        (Primitives.tabulated []) := by
  have isIssued : (run (.error (.failed "request local liveness"))).issued =
      some issued := by decide +kernel
  have unasked : (run (.error (.failed
      "request local liveness"))).revocation.isNone := by decide +kernel
  refine ⟨isIssued, unasked, by decide +kernel, by decide +kernel, ?_⟩
  intro cleaned
  obtain ⟨revocation, isRevocation, _⟩ := cleaned issued isIssued
  rw [isRevocation] at unasked
  cases unasked

end Exercise.Sample

end NvidiaBuildLb.Qa
