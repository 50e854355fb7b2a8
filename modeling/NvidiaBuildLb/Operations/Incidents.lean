import NvidiaBuildLb.Foundation.Keyset
import NvidiaBuildLb.Foundation.Table
import NvidiaBuildLb.Foundation.Transaction
import NvidiaBuildLb.Gateway.Database
import Mathlib.Data.Prod.Lex

namespace NvidiaBuildLb.Operations

open Foundation NvidiaBuildLb.Core Gateway

/-! Incidents: their rows, the three mutations of them, and the listing from
which every mutation takes its answer. -/

inductive IncidentStatus where
  | investigating
  | identified
  | monitoring
  | resolved
  deriving DecidableEq, Repr

def IncidentStatus.ofText : String → Option IncidentStatus
  | "investigating" => some .investigating
  | "identified" => some .identified
  | "monitoring" => some .monitoring
  | "resolved" => some .resolved
  | _ => none

inductive IncidentSeverity where
  | minor
  | major
  | critical
  deriving DecidableEq, Repr

def IncidentSeverity.ofText : String → Option IncidentSeverity
  | "minor" => some .minor
  | "major" => some .major
  | "critical" => some .critical
  | _ => none

/-- `slug ~ '^[a-z0-9]+(?:-[a-z0-9]+)*$' AND length(slug) <= 120`. -/
def slugAllowed (slug : String) : Bool :=
  (slug.toList.splitOn '-').all (fun part =>
    !part.isEmpty && part.all fun character =>
      ('a' ≤ character && character ≤ 'z') ||
        ('0' ≤ character && character ≤ '9')) &&
    slug.length ≤ 120

structure IncidentFields where
  id : Uuid
  slug : String
  title : String
  status : IncidentStatus
  severity : IncidentSeverity
  isPublic : Bool
  startedAt : Micros
  resolvedAt : Option Micros
  createdAt : Micros
  updatedAt : Micros
  deriving DecidableEq, Repr

/-- The checks of the table, the resolution contract among them. -/
def IncidentFields.allowed (fields : IncidentFields) : Bool :=
  slugAllowed fields.slug &&
    1 ≤ fields.title.length && fields.title.length ≤ 200 &&
    (fields.status = .resolved : Bool) == fields.resolvedAt.isSome

structure IncidentRow extends IncidentFields where
  checked : toIncidentFields.allowed = true
  deriving DecidableEq

def IncidentFields.check (fields : IncidentFields) : Option IncidentRow :=
  if checked : fields.allowed = true then
    some { fields with checked }
  else
    none

theorem IncidentFields.check_eq_some {fields : IncidentFields}
    {row : IncidentRow} :
    fields.check = some row ↔ row.toIncidentFields = fields := by
  unfold check
  constructor
  · intro passed
    split at passed
    · cases passed
      rfl
    · cases passed
  · intro same
    subst same
    rw [dif_pos row.checked]

theorem IncidentRow.resolvedAt_isSome (row : IncidentRow) :
    row.resolvedAt.isSome = true ↔ row.status = .resolved := by
  have checked := row.checked
  simp only [IncidentFields.allowed, Bool.and_eq_true, beq_iff_eq] at checked
  rw [← checked.2]
  simp

structure IncidentUpdateRow where
  id : Uuid
  incidentId : Uuid
  status : IncidentStatus
  publicMessage : String
  publishedAt : Micros
  messageLength : 1 ≤ publicMessage.length ∧ publicMessage.length ≤ 4000
  deriving DecidableEq

/-- The `detail` of the audits of incidents. -/
inductive IncidentAuditDetail where
  | created (isPublic : Bool) (status : String)
  | updated (titleChanged statusChanged severityChanged publicChanged : Bool)
  | message (status : String)
  deriving DecidableEq, Repr

structure IncidentAudit where
  id : Uuid
  action : String
  resourceKind : String
  resourceId : Option Uuid
  requestId : Option Uuid
  outcome : String
  detail : IncidentAuditDetail
  createdAt : Micros
  deriving DecidableEq, Repr

structure IncidentDatabase where
  incidents : Table fun row : IncidentRow => row.id
  updates : Table IncidentUpdateRow.id
  audits : List IncidentAudit

/-- What a call of the repository is told from outside: the two clocks, and the
identifiers that the defaults of the tables draw. -/
structure Draws where
  transactionNow : Micros
  utcNow : Timestamp
  incidentId : Uuid
  updateId : Uuid
  auditId : Uuid
  deriving DecidableEq, Repr

abbrev IncidentTransaction := Transaction IncidentDatabase String

open Transaction

/-- `UPDATE incidents ... WHERE id=$1`, and how many rows it affected. -/
def updateIncidentRow (context : String) (id : Uuid)
    (edit : IncidentRow → Option IncidentFields) : IncidentTransaction Nat :=
  execute context fun database =>
    match database.incidents.find? id with
    | none => some (0, database)
    | some row =>
        ((edit row).bind IncidentFields.check).map fun changed =>
          (1, { database with incidents := database.incidents.put changed })

def insertIncident (fields : Option IncidentFields) :
    IncidentTransaction Uuid :=
  execute "insert incident" fun database => do
    let row ← fields.bind IncidentFields.check
    if database.incidents.rows.any fun other => other.slug = row.slug then
      none
    else
      let incidents ← database.incidents.insert? row
      some (row.id, { database with incidents })

def incidentUpdateRow (draws : Draws) (incidentId : Uuid)
    (status message : String) : Option IncidentUpdateRow := do
  let status ← IncidentStatus.ofText status
  if messageLength : 1 ≤ message.length ∧ message.length ≤ 4000 then
    some {
      id := draws.updateId
      incidentId
      status
      publicMessage := message
      publishedAt := draws.transactionNow
      messageLength }
  else
    none

def insertIncidentUpdate (context : String) (draws : Draws) (incidentId : Uuid)
    (status message : String) : IncidentTransaction PUnit :=
  execute context fun database => do
    let row ← incidentUpdateRow draws incidentId status message
    let updates ← database.updates.insert? row
    some (PUnit.unit, { database with updates })

def insertIncidentAudit (draws : Draws) (action : String) (resourceId : Uuid)
    (requestId : Uuid) (detail : IncidentAuditDetail) :
    IncidentTransaction Uuid :=
  execute "insert mutation audit event" fun database =>
    some (draws.auditId, { database with
      audits := database.audits ++ [{
        id := draws.auditId
        action
        resourceKind := "incident"
        resourceId := some resourceId
        requestId := some requestId
        outcome := "succeeded"
        detail
        createdAt := draws.transactionNow }] })

/-! The transactions of `create_incident`, `update_incident` and
`create_incident_update`. -/

structure CreateIncident where
  slug : String
  title : String
  status : String
  severity : String
  isPublic : Bool
  publicMessage : String
  requestId : Uuid
  deriving DecidableEq, Repr

def CreateIncident.fields (input : CreateIncident) (draws : Draws) :
    Option IncidentFields := do
  let status ← IncidentStatus.ofText input.status
  let severity ← IncidentSeverity.ofText input.severity
  some {
    id := draws.incidentId
    slug := input.slug
    title := input.title
    status
    severity
    isPublic := input.isPublic
    startedAt := draws.transactionNow
    resolvedAt :=
      if input.status == "resolved" then some (micros draws.utcNow) else none
    createdAt := draws.transactionNow
    updatedAt := draws.transactionNow }

def createIncidentBody (input : CreateIncident) (draws : Draws) :
    IncidentTransaction Uuid := do
  let id ← insertIncident (input.fields draws)
  insertIncidentUpdate "insert initial incident update" draws id input.status
    input.publicMessage
  insertIncidentAudit draws "incident.create" id input.requestId
    (.created input.isPublic input.status)

structure IncidentPatch where
  title : Option String
  status : Option String
  severity : Option String
  isPublic : Option Bool
  deriving DecidableEq, Repr

def IncidentPatch.statusAfter (patch : IncidentPatch) (row : IncidentRow) :
    Option IncidentStatus :=
  match patch.status with
  | none => some row.status
  | some text => IncidentStatus.ofText text

def IncidentPatch.severityAfter (patch : IncidentPatch) (row : IncidentRow) :
    Option IncidentSeverity :=
  match patch.severity with
  | none => some row.severity
  | some text => IncidentSeverity.ofText text

/-- A status that stays keeps the time of its resolution, and one that is
resolved already does too. -/
def IncidentPatch.apply (patch : IncidentPatch) (draws : Draws)
    (row : IncidentRow) : Option IncidentFields := do
  let status ← patch.statusAfter row
  let severity ← patch.severityAfter row
  some { row.toIncidentFields with
    title := patch.title.getD row.title
    status
    severity
    isPublic := patch.isPublic.getD row.isPublic
    resolvedAt :=
      match patch.status with
      | none => row.resolvedAt
      | some text =>
          if text = "resolved" then
            some (row.resolvedAt.getD draws.transactionNow)
          else
            none
    updatedAt := draws.transactionNow }

def updateIncidentBody (id : Uuid) (patch : IncidentPatch) (requestId : Uuid)
    (draws : Draws) : IncidentTransaction Uuid := do
  let affected ← updateIncidentRow "update incident" id (patch.apply draws)
  refuseIf (affected != 1) "incident not found"
  insertIncidentAudit draws "incident.update" id requestId
    (.updated patch.title.isSome patch.status.isSome patch.severity.isSome
      patch.isPublic.isSome)

/-- The time is the clock's for every message that resolves. -/
def messageEdit (status : String) (draws : Draws) (row : IncidentRow) :
    Option IncidentFields := do
  let after ← IncidentStatus.ofText status
  some { row.toIncidentFields with
    status := after
    resolvedAt :=
      if status == "resolved" then some (micros draws.utcNow) else none
    updatedAt := draws.transactionNow }

def createIncidentUpdateBody (id : Uuid) (status message : String)
    (requestId : Uuid) (draws : Draws) : IncidentTransaction Uuid := do
  let affected ←
    updateIncidentRow "update incident status" id (messageEdit status draws)
  refuseIf (affected != 1) "incident not found"
  insertIncidentUpdate "insert incident message" draws id status message
  insertIncidentAudit draws "incident.message.create" id requestId
    (.message status)

structure Incident where
  row : IncidentRow
  updates : List IncidentUpdateRow
  deriving DecidableEq

/-- `(started_at,id)` in the order of PostgreSQL. -/
abbrev PageKey := Micros ×ₗ Nat

def pageKey (time : Micros) (id : Uuid) : PageKey := toLex (time, id.toNat)

def IncidentRow.pageKey (row : IncidentRow) : PageKey :=
  Operations.pageKey row.startedAt row.id

/-- `ORDER BY published_at,id`. -/
def incidentUpdates (database : IncidentDatabase) (id : Uuid) :
    List IncidentUpdateRow :=
  (database.updates.rows.filter fun row => row.incidentId = id).mergeSort
    fun left right =>
      pageKey left.publishedAt left.id ≤ pageKey right.publishedAt right.id

def attachUpdates (database : IncidentDatabase) (rows : List IncidentRow) :
    List Incident :=
  rows.map fun row => { row, updates := incidentUpdates database row.id }

/-- What happens around a call: which of its statements the server refuses,
how the commit is answered, and what others commit before the listing reads. -/
inductive CommitAnswer where
  | committed
  | refused
  | unanswered
  deriving DecidableEq, Repr

structure Surroundings where
  refusesBegin : Bool
  refuses : Nat → Bool
  commit : CommitAnswer
  beforeListing : IncidentDatabase → IncidentDatabase
  refusesListing : Bool
  beforeUpdates : IncidentDatabase → IncidentDatabase
  refusesUpdates : Bool

def incidents (surroundings : Surroundings) (database : IncidentDatabase) :
    Except String (List Incident) :=
  let listed := surroundings.beforeListing database
  let rows := Keyset.page IncidentRow.pageKey none 100 listed.incidents.rows
  if surroundings.refusesListing then
    .error "load admin incidents"
  else if rows.isEmpty then
    .ok []
  else if surroundings.refusesUpdates then
    .error "load admin incident updates"
  else
    .ok (attachUpdates (surroundings.beforeUpdates listed) rows)

/-- Every mutation commits first and looks its answer up afterwards; with the
answer comes the database as the call itself leaves it. -/
def mutate (beginning committing missing : String)
    (body : IncidentTransaction Uuid) (id : Uuid)
    (surroundings : Surroundings) (database : IncidentDatabase) :
    Except String (Incident × Uuid) × IncidentDatabase :=
  if surroundings.refusesBegin then
    (.error beginning, database)
  else
    match body.transact surroundings.refuses database with
    | (.error error, unchanged) => (.error error, unchanged)
    | (.ok audit, changed) =>
        match surroundings.commit with
        | .refused => (.error committing, database)
        | .unanswered => (.error committing, changed)
        | .committed =>
            (do
              let listed ← incidents surroundings changed
              match listed.find? fun item => item.row.id = id with
              | none => .error missing
              | some item => .ok (item, audit), changed)

def createIncident (input : CreateIncident) (draws : Draws)
    (surroundings : Surroundings) (database : IncidentDatabase) :
    Except String (Incident × Uuid) × IncidentDatabase :=
  mutate "begin incident create" "commit incident create"
    "created incident missing" (createIncidentBody input draws)
    draws.incidentId surroundings database

def updateIncident (id : Uuid) (patch : IncidentPatch) (requestId : Uuid)
    (draws : Draws) (surroundings : Surroundings)
    (database : IncidentDatabase) :
    Except String (Incident × Uuid) × IncidentDatabase :=
  mutate "begin incident update" "commit incident update"
    "updated incident missing" (updateIncidentBody id patch requestId draws)
    id surroundings database

def createIncidentUpdate (id : Uuid) (status message : String)
    (requestId : Uuid) (draws : Draws) (surroundings : Surroundings)
    (database : IncidentDatabase) :
    Except String (Incident × Uuid) × IncidentDatabase :=
  mutate "begin incident message" "commit incident message"
    "updated incident missing"
    (createIncidentUpdateBody id status message requestId draws) id
    surroundings database

end NvidiaBuildLb.Operations
