import NvidiaBuildLb.Gateway.Revocation
import NvidiaBuildLb.Hermes.AdminPages
import NvidiaBuildLb.Hermes.Records

namespace NvidiaBuildLb.Hermes

open Foundation NvidiaBuildLb.Core Gateway Operations

/-! The helper revokes the clients of the cutovers before its own, and the
gateway never lets one of them in again. -/

def clientKey (row : DownstreamCredentialRow) : PageKey :=
  pageKey row.createdAt row.id

def clientsPage (clients : Table DownstreamCredentialRow.id)
    (before : Option (Timestamp × Uuid)) (limit : Nat) : List DownstreamCredentialRow :=
  pageQuery clientKey before limit clients.rows

def listClientPage (text : CursorText) (clients : Table DownstreamCredentialRow.id) :
    ListQuery → Except ListError (List DownstreamCredentialRow × Option String) :=
  listPage text "clients" (fun item => (fromMicros item.createdAt, item.id))
    (clientsPage clients)

theorem listClients_completeWalk {text : CursorText} {limits : Nat → Option Nat}
    {clients : Nat → Table DownstreamCredentialRow.id}
    (valid : ∀ index, 1 ≤ (limits index).getD 50 ∧ (limits index).getD 50 ≤ 100)
    (roundTrips : ∀ index, ∀ row ∈ (clients index).rows,
      text.RoundTrips "clients" (fromMicros row.createdAt, row.id)) :
    CompleteWalk text "clients" DownstreamCredentialRow.createdAt DownstreamCredentialRow.id
      limits (fun index => (clients index).rows)
      fun index => listClientPage text (clients index) := by
  apply completeWalk valid
  · intro index
    exact (clients index).nodup
  · exact roundTrips
  · intro index query
    rfl

def clientItem (row : DownstreamCredentialRow) : ClientItem where
  id := row.id
  label := row.label
  active := row.active

/-- With no fuel left the pages are still being read. -/
def listClientsFrom (text : CursorText) (clients : Nat → Table DownstreamCredentialRow.id)
    (lost : Nat → Bool) (fuel : Nat) : Option (Except PageFailure (List ClientItem)) :=
  Keyset.gather
    (fun index before => getPage (listClientPage text (clients index)) (lost index) before)
    (fun rows => rows.map clientItem) (fun _ => false) fuel 0 none []

/-- What surrounds a revocation in the gateway. -/
structure RevokeRequest where
  env : CallEnvironment
  now : Timestamp
  fault : Option PersistStep
  requestId : Uuid
  readFails : Bool

def RevokeRequest.call (request : RevokeRequest) (id : Uuid) : StoreCall :=
  revoking id request.now request.fault fun _ => {
    action := "client.revoke"
    resourceKind := "client"
    resourceId := some id
    requestId := request.requestId
    detail := "\x7b\"changed\":true\x7d"
    clientPolicy := none
    probeResult := none }

section Revoke

variable (primitives : Primitives) (masterKey : MasterKey)

/-- The status of the answer, if there is one. -/
def revokeClientStatus (request : RevokeRequest) (id : Uuid) (store : VaultStore) :
    Option Nat :=
  match store.database with
  | none => some 503
  | some _ =>
      match store.answer primitives masterKey request.env (request.call id) with
      | .dropped => none
      | .failed => some 404
      | .succeeded _ =>
          if request.readFails then
            some 404
          else
            match (store.perform primitives masterKey request.env (request.call id)).client id with
            | some _ => some 200
            | none => some 404

/-- A conflict counts as revoked. -/
def revokeAccepted (status : Option Nat) : Bool :=
  status.any fun status => (200 ≤ status && status ≤ 299) || status == 409

def isPrevious (keep : Uuid) (item : ClientItem) : Bool :=
  item.id != keep && item.active && startsWith item.label clientLabelPrefix

/-- A run of `revoke_previous_clients_from` that succeeds, with whatever else the
gateway does between its requests. -/
inductive RevokesPrevious (keep : Uuid) : List ClientItem → VaultStore → VaultStore → Prop
  | done (store : VaultStore) : RevokesPrevious keep [] store store
  | skipped {item : ClientItem} {items : List ClientItem} {store after : VaultStore}
      (selected : isPrevious keep item = false) (rest : RevokesPrevious keep items store after) :
      RevokesPrevious keep (item :: items) store after
  | revoked {item : ClientItem} {items : List ClientItem} {store between after : VaultStore}
      {request : RevokeRequest} (selected : isPrevious keep item = true)
      (elsewhere : Later primitives masterKey store between) (agree : between.Agree)
      (accepted : revokeAccepted
        (revokeClientStatus primitives masterKey request item.id between) = true)
      (rest : RevokesPrevious keep items
        (between.perform primitives masterKey request.env (request.call item.id)) after) :
      RevokesPrevious keep (item :: items) store after

end Revoke

section Out

variable {primitives : Primitives} {masterKey : MasterKey} {keep : Uuid}

theorem RevokesPrevious.later {items : List ClientItem} {store after : VaultStore}
    (run : RevokesPrevious primitives masterKey keep items store after) :
    Later primitives masterKey store after := by
  induction run with
  | done store => exact .now store
  | skipped selected rest induction => exact induction
  | revoked selected elsewhere agree accepted rest induction =>
      exact (elsewhere.call _ _ revoking_fresh).trans induction

/-- A revocation that the helper takes for done was answered by the gateway with
success, and then the client is revoked in both copies. -/
theorem revoked_of_accepted {request : RevokeRequest} {id : Uuid} {store : VaultStore}
    (agree : store.Agree)
    (accepted : revokeAccepted
      (revokeClientStatus primitives masterKey request id store) = true) :
    (store.perform primitives masterKey request.env (request.call id)).Revoked id := by
  unfold revokeClientStatus at accepted
  split at accepted
  · cases accepted
  split at accepted
  · cases accepted
  · cases accepted
  · rename_i auditEventId answered
    exact revoked_of_answer agree answered

/-- After the run no listed client of an earlier cutover is let in. -/
theorem RevokesPrevious.revokes {items : List ClientItem} {store after : VaultStore}
    (run : RevokesPrevious primitives masterKey keep items store after)
    {item : ClientItem} (member : item ∈ items) (other : item.id ≠ keep)
    (labelled : startsWith item.label clientLabelPrefix = true)
    (inactive : item.active = false → store.Revoked item.id) : after.Revoked item.id := by
  induction run with
  | done store => cases member
  | skipped selected rest induction =>
      rcases List.mem_cons.mp member with rfl | later
      · refine rest.later.revoked (inactive ?_)
        simpa [isPrevious, other, labelled] using selected
      · exact induction later inactive
  | revoked selected elsewhere agree accepted rest induction =>
      rcases List.mem_cons.mp member with rfl | later
      · exact rest.later.revoked (revoked_of_accepted agree accepted)
      · refine induction later fun isInactive => ?_
        exact (elsewhere.call _ _ revoking_fresh).revoked (inactive isInactive)

def storedClients (store : VaultStore) : Table DownstreamCredentialRow.id :=
  (store.database.map Database.downstreamCredentials).getD .empty

theorem readClient_eq_some {store : VaultStore} {β : Type}
    {read : DownstreamCredentialRow → β} {id : Uuid} {value : β} :
    store.readClient read id = some value ↔
      ∃ row ∈ (storedClients store).rows, row.id = id ∧ read row = value := by
  unfold VaultStore.readClient storedClients Database.readClient
  cases store.database with
  | none => simp [Table.empty]
  | some database =>
      simp only [Option.bind_some, Option.map_some, Option.getD_some, Option.map_eq_some_iff,
        Table.find?_eq_some_iff, and_assoc]

theorem listed_of_present {text : CursorText} {stores : Nat → VaultStore} {lost : Nat → Bool}
    {fuel : Nat} {items : List ClientItem}
    (roundTrips : ∀ index, ∀ row ∈ (storedClients (stores index)).rows,
      text.RoundTrips "clients" (fromMicros row.createdAt, row.id))
    (listed : listClientsFrom text (fun index => storedClients (stores index)) lost fuel =
      some (.ok items)) {id : Uuid} {createdAt : Micros}
    (present : ∀ index, (stores index).readClient DownstreamCredentialRow.createdAt id =
      some createdAt) :
    ∃ index, ∃ row ∈ (storedClients (stores index)).rows,
      row.id = id ∧ clientItem row ∈ items := by
  have plain := Keyset.gather_of_answers (fun _ _ _ decoded => getPage_ok decoded) listed
  obtain ⟨count, -, rfl, ends⟩ := Keyset.gather_ok (fun front back => List.map_append) rfl plain
  have complete := @listClients_completeWalk text (fun _ => some 100)
    (fun index => storedClients (stores index)) (fun _ => ⟨by decide, by decide⟩) roundTrips
  cases ends with
  | sated cursor shown position visited sates => cases sates
  | ended position =>
      have visited := complete.complete count position (pageKey createdAt id) (by
        intro earlier _
        obtain ⟨row, isRow, rfl, rfl⟩ := readClient_eq_some.mp (present earlier)
        exact List.mem_map_of_mem isRow)
      have member : pageKey createdAt id ∈ _ :=
        List.count_pos_iff.mp (visited ▸ Nat.one_pos)
      obtain ⟨row, isVisited, same⟩ := List.mem_map.mp member
      obtain ⟨index, -, before, page, continuation, served, shown⟩ :=
        Keyset.served_of_mem_visited isVisited
      refine ⟨index, row, mem_of_listPage served shown, ?_, List.mem_map_of_mem isVisited⟩
      exact BitVec.eq_of_toNat_eq (congrArg (fun key => (ofLex key).2) same)

/-- When the helper's revocation of the previous clients has succeeded, no client
that an earlier cutover had left before is ever let in again. -/
theorem previous_clients_shut_out {text : CursorText} {stores : Nat → VaultStore}
    {lost : Nat → Bool} {fuel : Nat} {items : List ClientItem} {first begin after : VaultStore}
    (roundTrips : ∀ index, ∀ row ∈ (storedClients (stores index)).rows,
      text.RoundTrips "clients" (fromMicros row.createdAt, row.id))
    (reads : ∀ index, Later primitives masterKey first (stores index) ∧
      Later primitives masterKey (stores index) begin ∧ (stores index).Agree)
    (listed : listClientsFrom text (fun index => storedClients (stores index)) lost fuel =
      some (.ok items))
    (run : RevokesPrevious primitives masterKey keep items begin after)
    {row : DownstreamCredentialRow} (isRow : row ∈ (storedClients first).rows)
    (other : row.id ≠ keep) (labelled : startsWith row.label clientLabelPrefix = true)
    {later : VaultStore} (reached : Later primitives masterKey after later) :
    later.ShutOut primitives masterKey row.id := by
  have constant : ∀ {β : Type} (read : String → Micros → β),
      Constant fun row => read row.label row.createdAt := by
    intro β read
    refine ⟨⟨⟨?_⟩, ?_, ?_, ?_, ?_, ?_⟩, ?_⟩
    all_goals
      intros
      rfl
  have kept : ∀ {β : Type} (read : String → Micros → β) index,
      (stores index).readClient (fun row => read row.label row.createdAt) row.id =
        some (read row.label row.createdAt) := by
    intro β read index
    exact (reads index).1.keepsClient (constant read)
      (readClient_eq_some.mpr ⟨row, isRow, rfl, rfl⟩)
  obtain ⟨index, found, isFound, named, isListed⟩ :=
    listed_of_present roundTrips listed (kept fun _ createdAt => createdAt)
  have label : found.label = row.label := by
    obtain ⟨same, isSame, sameId, sameLabel⟩ :=
      readClient_eq_some.mp (kept (fun label _ => label) index)
    have isFoundRow := List.inj_on_of_nodup_map (storedClients (stores index)).nodup
      isFound isSame (named.trans sameId.symm)
    rw [isFoundRow, sameLabel]
  have revoked : after.Revoked row.id := by
    rw [← named] at other ⊢
    apply run.revokes isListed other (by rwa [← label] at labelled)
    intro inactive
    apply (reads index).2.1.revoked
    apply (reads index).2.2.revoked_of_row
    exact readClient_eq_some.mpr ⟨found, isFound, rfl, inactive⟩
  exact (reached.revoked revoked).shutOut

end Out

namespace PreviousSample

def digest : List UInt8 := List.replicate 32 9

def vault : VaultFile :=
  { VaultFile.empty with
    downstream := [{
      id := 1
      label := "hermes-cutover-0"
      scopes := ["chat:write"]
      tokenDigest := hexEncode digest
      active := true
      requestCount := 0
      lastUsedAt := none
      createdAt := twinTime
      revokedAt := none }] }

def row : DownstreamCredentialRow :=
  { ClientWorld.Sample.row with
    id := 1
    label := "hermes-cutover-0"
    scopes := ["chat:write"]
    createdAt := twinTime / 1000 }

def record : VaultDownstreamRecord :=
  { ClientWorld.Sample.record with
    id := 1
    label := "hermes-cutover-0"
    scopes := ["chat:write"]
    createdAt := twinTime }

def database : Database :=
  { Database.migrated .empty with
    downstreamCredentials := { rows := [row], nodup := by decide } }

def store : VaultStore where
  vault := { memory := vault, disk := { temporary := none, committed := none } }
  database := some database

private theorem vault_records : Vault.downstreamRecords vault = .ok [record] := by
  simp [Vault.downstreamRecords, vault, Vault.downstreamRecord, record,
    ClientWorld.Sample.record, ClientWorld.Sample.digest, digest, Vault.decodeField,
    Bind.bind, Except.bind, Pure.pure, Except.pure]

private theorem agree : store.Agree := by
  have exported : snapshotOf vault = .ok {
      keys := []
      downstream := [record]
      cursors := profiles.map fun profile =>
        (profile, Vault.routerCursorFor profile vault) } := by
    unfold snapshotOf
    rw [vault_records]
    rfl
  refine ⟨database, _, rfl, exported, List.nodup_nil, List.nodup_singleton _, rfl, ?_⟩
  funext id
  simp only [through, Database.downstreamView, database, Table.find?,
    snapshotView, List.find?_cons, List.find?_nil, row, record]
  cases decide ((1 : Uuid) = id) <;> rfl

def document : Json :=
  .object [
    ("at", .string "2026-07-21T12:00:00Z"),
    ("id", .string (twinId 1)),
    ("kind", .string "clients"),
    ("version", .number (.posInt 1))]

def text : CursorText :=
  { twinText with
    fromSlice := fun bytes =>
      if bytes = encodeUtf8 (plainJson document).toList then some document else none }

private theorem roundTrips : ∀ row ∈ (storedClients store).rows,
    text.RoundTrips "clients" (fromMicros row.createdAt, row.id) := by
  intro other present
  cases List.mem_singleton.mp present
  have isDocument : cursorJson text "clients" (fromMicros row.createdAt, row.id) = document :=
    rfl
  refine ⟨?_, rfl, rfl⟩
  rw [isDocument]
  simp [text, twinText]

private theorem listed : listClientsFrom text (fun _ => storedClients store)
    (fun _ => false) 1 = some (.ok [clientItem row]) := by
  have page : listClientPage text (storedClients store) { limit := some 100, before := none } =
      .ok ([row], none) := by
    simp [listClientPage, listPage, keysetWindow, clientsPage, pageQuery, Keyset.page,
      Keyset.descending, storedClients, store, database, keysetPage, Bind.bind, Except.bind]
  simp only [listClientsFrom, Keyset.gather, getPage_eq, page]
  rfl

def request : RevokeRequest where
  env := quietEnvironment
  now := twinTime
  fault := none
  requestId := 100
  readFails := false

private theorem run : RevokesPrevious (Primitives.tabulated []) (Vector.replicate 32 0) 2
    [clientItem row] store
    (store.perform (Primitives.tabulated []) (Vector.replicate 32 0) request.env
      (request.call 1)) := by
  have accepted : revokeAccepted (revokeClientStatus (Primitives.tabulated [])
      (Vector.replicate 32 0) request 1 store) = true := by
    decide +kernel
  exact .revoked (by decide) (.now store) agree accepted (.done _)

theorem previous_clients_shut_out_one :
    (store.perform (Primitives.tabulated []) (Vector.replicate 32 0) request.env
      (request.call 1)).ShutOut (Primitives.tabulated []) (Vector.replicate 32 0) 1 :=
  previous_clients_shut_out (fun _ => roundTrips)
    (fun _ => ⟨.now store, .now store, agree⟩) listed run
    (List.mem_singleton.mpr rfl : row ∈ (storedClients store).rows) (by decide) (by decide)
    (.now _)

end PreviousSample

end NvidiaBuildLb.Hermes
