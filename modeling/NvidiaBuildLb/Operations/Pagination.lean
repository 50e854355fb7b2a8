import NvidiaBuildLb.Gateway.Json
import NvidiaBuildLb.Gateway.Ledger
import NvidiaBuildLb.Gateway.VaultStore
import NvidiaBuildLb.Operations.Incidents

namespace NvidiaBuildLb.Operations

open Foundation NvidiaBuildLb.Core Gateway

/-! The keyset lists of the admin API: the cursor as text, the window a query
asks for, the pages of the repository, and the handlers. -/

/-- What `serde_json`, `chrono` and `uuid` do with a cursor. -/
structure CursorText where
  toVec : Json → Bytes
  fromSlice : Bytes → Option Json
  printTime : Timestamp → String
  parseTime : String → Option Timestamp
  printId : Uuid → String
  parseId : String → Option Uuid

structure KeysetCursor where
  version : Nat
  kind : String
  time : Timestamp
  id : Uuid
  deriving DecidableEq, Repr

/-- The derived `Deserialize`: a field is there exactly once, and fields of
other names do not matter; a sequence gives the fields in their order. -/
def KeysetCursor.deserialize (text : CursorText) (value : Json) :
    Option KeysetCursor := do
  let (version, kind, time, id) ←
    match value with
    | .object fields => do
        let once := fun (name : String) =>
          match fields.filter fun field => field.1 == name with
          | [field] => some field.2
          | _ => none
        some (← once "version", ← once "kind", ← once "at", ← once "id")
    | .array [version, kind, time, id] => some (version, kind, time, id)
    | _ => none
  let version ← version.asU64
  if 255 < version then
    none
  else
    some {
      version
      kind := ← kind.asStr
      time := ← time.asStr.bind text.parseTime
      id := ← id.asStr.bind text.parseId }

def decodeKeysetCursor (text : CursorText) (encoded kind : String) :
    Option (Timestamp × Uuid) := do
  let bytes ← base64UrlDecode encoded
  let value ← text.fromSlice bytes
  let cursor ← KeysetCursor.deserialize text value
  if cursor.version = 1 ∧ cursor.kind = kind then
    some (cursor.time, cursor.id)
  else
    none

/-- `json!`, whose fields come in the order of their names. -/
def cursorJson (text : CursorText) (kind : String) (key : Timestamp × Uuid) :
    Json :=
  .object [
    ("at", .string (text.printTime key.1)),
    ("id", .string (text.printId key.2)),
    ("kind", .string kind),
    ("version", .number (.posInt 1))]

def encodeKeysetCursor (text : CursorText) (kind : String)
    (key : Timestamp × Uuid) : String :=
  base64UrlEncode (text.toVec (cursorJson text kind key))

structure ListQuery where
  limit : Option Nat
  before : Option String
  deriving DecidableEq, Repr

/-- An operations error with status 422. -/
structure ListError where
  code : String
  message : String
  deriving DecidableEq, Repr

def keysetWindow (text : CursorText) (query : ListQuery) (kind : String) :
    Except ListError (Nat × Option (Timestamp × Uuid)) :=
  let limit := query.limit.getD 50
  if 1 ≤ limit ∧ limit ≤ 100 then
    match query.before with
    | none => .ok (limit, none)
    | some encoded =>
        match decodeKeysetCursor text encoded kind with
        | some cursor => .ok (limit, some cursor)
        | none => .error {
            code := "invalid_page_cursor"
            message := "This cursor is not valid for this list." }
  else
    .error {
      code := "invalid_limit"
      message := "limit must be between 1 and 100." }

/-- A limit is positive, so a page that goes on is not empty. -/
def keysetPage (text : CursorText) (items : List ρ) (limit : Nat)
    (kind : String) (key : ρ → Timestamp × Uuid) : List ρ × Option String :=
  (items.take limit,
    if limit < items.length then
      (items.take limit).getLast?.map fun last =>
        encodeKeysetCursor text kind (key last)
    else
      none)

/-- `WHERE ($1 IS NULL OR (at,id)<($1,$2)) ORDER BY at DESC,id DESC LIMIT`. -/
def pageQuery (key : ρ → PageKey) (before : Option (Timestamp × Uuid))
    (limit : Nat) (rows : List ρ) : List ρ :=
  Keyset.page key (before.map fun bound => pageKey (micros bound.1) bound.2)
    (max 1 (min limit 101)) rows

structure RequestFilters where
  requestId : Option Uuid
  clientId : Option Uuid
  profile : Option String
  outcome : Option String
  endpoint : Option String
  since : Option Timestamp
  until_ : Option Timestamp
  deriving DecidableEq, Repr

def outcomeText : Outcome RequestOutcome → String
  | .started => "started"
  | .ended .succeeded => "succeeded"
  | .ended .failed => "failed"
  | .ended .cancelled => "cancelled"
  | .ended .rejected => "rejected"
  | .ended .abandonedAfterRestart => "abandoned_after_restart"

def RequestFilters.selects (filters : RequestFilters) (row : ProxyRequestRow) :
    Bool :=
  (filters.requestId.all fun id => row.requestId = id) &&
    (filters.clientId.all fun id => row.downstreamCredentialId = some id) &&
    (filters.profile.all fun profile => row.profileId = profile) &&
    (filters.outcome.all fun outcome => outcomeText row.outcome = outcome) &&
    (filters.endpoint.all fun endpoint => row.endpoint = endpoint) &&
    (filters.since.all fun since => micros since ≤ row.startedAt) &&
    filters.until_.all fun until_ => row.startedAt ≤ micros until_

def requestKey (row : ProxyRequestRow) : PageKey :=
  pageKey row.startedAt row.requestId

def requestsPage (requests : Table ProxyRequestRow.requestId)
    (before : Option (Timestamp × Uuid)) (limit : Nat)
    (filters : RequestFilters) : List ProxyRequestRow :=
  pageQuery requestKey before limit (requests.rows.filter filters.selects)

def incidentsPage (database : IncidentDatabase)
    (before : Option (Timestamp × Uuid)) (limit : Nat) : List Incident :=
  attachUpdates database
    (pageQuery IncidentRow.pageKey before limit database.incidents.rows)

/-- A row of `audit_events`; its detail is a JSON document. -/
structure AuditEventRow where
  id : Uuid
  action : String
  resourceKind : String
  resourceId : Option Uuid
  actorKind : String
  requestId : Option Uuid
  outcome : String
  detail : String
  createdAt : Micros
  deriving DecidableEq, Repr

def AuditEventRow.pageKey (row : AuditEventRow) : PageKey :=
  Operations.pageKey row.createdAt row.id

def auditEventsPage (audits : Table AuditEventRow.id)
    (before : Option (Timestamp × Uuid)) (limit : Nat) : List AuditEventRow :=
  pageQuery AuditEventRow.pageKey before limit audits.rows

def listPage (text : CursorText) (kind : String) (key : ρ → Timestamp × Uuid)
    (repository : Option (Timestamp × Uuid) → Nat → List ρ)
    (query : ListQuery) : Except ListError (List ρ × Option String) := do
  let (limit, before) ← keysetWindow text query kind
  .ok (keysetPage text (repository before (limit + 1)) limit kind key)

def listRequests (text : CursorText) (filters : RequestFilters)
    (requests : Table ProxyRequestRow.requestId) :
    ListQuery → Except ListError (List ProxyRequestRow × Option String) :=
  listPage text "requests" (fun item => (fromMicros item.startedAt, item.requestId))
    fun before limit => requestsPage requests before limit filters

def listIncidents (text : CursorText) (database : IncidentDatabase) :
    ListQuery → Except ListError (List Incident × Option String) :=
  listPage text "incidents"
    (fun item => (fromMicros item.row.startedAt, item.row.id))
    (incidentsPage database)

def listAudit (text : CursorText) (audits : Table AuditEventRow.id) :
    ListQuery → Except ListError (List AuditEventRow × Option String) :=
  listPage text "audit" (fun item => (fromMicros item.createdAt, item.id))
    (auditEventsPage audits)

end NvidiaBuildLb.Operations
