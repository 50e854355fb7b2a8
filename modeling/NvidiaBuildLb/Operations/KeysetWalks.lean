import NvidiaBuildLb.Foundation.Utf8
import NvidiaBuildLb.Operations.Pagination

namespace NvidiaBuildLb.Operations

open Foundation NvidiaBuildLb.Core Gateway

/-! A reader that follows `next_before` through one of the lists. -/

/-- What the code relies on: a cursor's document, its time and its identifier
are read back as they were printed. -/
structure CursorText.RoundTrips (text : CursorText) (kind : String)
    (key : Timestamp × Uuid) : Prop where
  json : text.fromSlice (text.toVec (cursorJson text kind key)) =
    some (cursorJson text kind key)
  time : text.parseTime (text.printTime key.1) = some key.1
  id : text.parseId (text.printId key.2) = some key.2

theorem decodeKeysetCursor_encodeKeysetCursor {text : CursorText}
    {kind : String} {key : Timestamp × Uuid}
    (roundTrips : text.RoundTrips kind key) :
    decodeKeysetCursor text (encodeKeysetCursor text kind key) kind =
      some key := by
  simp only [decodeKeysetCursor, encodeKeysetCursor,
    base64UrlDecode_base64UrlEncode, Option.bind_eq_bind, Option.bind_some,
    roundTrips.json]
  simp [KeysetCursor.deserialize, cursorJson, Json.asU64, Json.asStr,
    roundTrips.time, roundTrips.id]

theorem decodeKeysetCursor_keysetPage {text : CursorText} {kind : String}
    {items : List ρ} {limit : Nat} {key : ρ → Timestamp × Uuid}
    (roundTrips : ∀ item ∈ items, text.RoundTrips kind (key item))
    {next : String} (continues : (keysetPage text items limit kind key).2 = some next) :
    ∃ last, (keysetPage text items limit kind key).1.getLast? = some last ∧
      decodeKeysetCursor text next kind = some (key last) := by
  simp only [keysetPage] at continues ⊢
  split at continues
  · obtain ⟨last, isLast, rfl⟩ := Option.map_eq_some_iff.mp continues
    have present := List.mem_of_mem_take (List.mem_of_getLast? isLast)
    exact ⟨last, isLast,
      decodeKeysetCursor_encodeKeysetCursor (roundTrips last present)⟩
  · cases continues

section Walk

variable {ρ : Type} (text : CursorText) (kind : String) (time : ρ → Micros)
  (id : ρ → Uuid) (limits : Nat → Option Nat) (contents : Nat → List ρ)

/-- The reads of a client that asks for its pages with these limits. -/
def follow
    (serve : Nat → ListQuery → Except ListError (List ρ × Option String)) :
    Nat → Keyset.Reading ρ String ListError :=
  Keyset.walk fun index before => serve index { limit := limits index, before }

/-- `(time,id)` as the pages order it. -/
def rowKey (row : ρ) : PageKey := pageKey (time row) (id row)

/-- Behind the cursor that the client holds. -/
def behindCursor (before : Option String) (key : PageKey) : Bool :=
  Keyset.behind
    ((before.bind fun encoded => decodeKeysetCursor text encoded kind).map
      fun bound => pageKey (micros bound.1) bound.2) key

structure CompleteWalk
    (serve : Nat → ListQuery → Except ListError (List ρ × Option String)) :
    Prop where
  accepted : ∀ count error,
    (follow limits serve count).position ≠ .refused error
  once : ∀ count,
    ((follow limits serve count).visited.map (rowKey time id)).Nodup
  complete : ∀ count, (follow limits serve count).position = .ended →
    ∀ wanted, (∀ earlier < count,
        wanted ∈ (contents earlier).map (rowKey time id)) →
      ((follow limits serve count).visited.map (rowKey time id)).count wanted =
        1
  ends : ∀ additions : List PageKey,
    (∀ count before, (follow limits serve (count + 1)).position = .next before →
      ∀ row ∈ contents (count + 1),
        rowKey time id row ∉ (contents count).map (rowKey time id) →
        behindCursor text kind before (rowKey time id row) = true →
        rowKey time id row ∈ additions) →
    ∃ count, (follow limits serve count).position = .ended

/-! On the keys themselves the handlers serve what keyset pages serve, and the
text of a cursor stands for its key. -/

variable {text kind time id limits contents}

private def cursorOf (text : CursorText) (kind : String) (key : PageKey) :
    String :=
  encodeKeysetCursor text kind
    (fromMicros (ofLex key).1, BitVec.ofNat 128 (ofLex key).2)

private def Legible (text : CursorText) (kind : String) (key : PageKey) :
    Prop :=
  ∃ at_ id, key = pageKey at_ id ∧ text.RoundTrips kind (fromMicros at_, id)

private theorem cursorOf_pageKey (at_ : Micros) (id : Uuid) :
    cursorOf text kind (pageKey at_ id) =
      encodeKeysetCursor text kind (fromMicros at_, id) := by
  simp [cursorOf, pageKey]

private theorem micros_fromMicros (time : Micros) :
    micros (fromMicros time) = time :=
  Int.mul_ediv_cancel time (by decide)

private theorem decode_cursorOf {key : PageKey}
    (legible : Legible text kind key) :
    (decodeKeysetCursor text (cursorOf text kind key) kind).map
      (fun bound => pageKey (micros bound.1) bound.2) = some key := by
  obtain ⟨at_, id, rfl, roundTrips⟩ := legible
  rw [cursorOf_pageKey, decodeKeysetCursor_encodeKeysetCursor roundTrips,
    Option.map_some, micros_fromMicros]

private theorem keysetPage_eq_cut (items : List ρ) (limit : Nat) :
    keysetPage text items limit kind
        (fun row => (fromMicros (time row), id row)) =
      ((Keyset.cut (rowKey time id) limit items).1,
        (Keyset.cut (rowKey time id) limit items).2.map
          (cursorOf text kind)) := by
  unfold keysetPage Keyset.cut
  split
  · simp only [Option.map_map]
    congr 2
    funext row
    exact (cursorOf_pageKey (time row) (id row)).symm
  · rfl

variable (text kind time id) in
/-- The handler over one state of the table. -/
private abbrev serveRows (rows : List ρ) :
    ListQuery → Except ListError (List ρ × Option String) :=
  listPage text kind (fun row => (fromMicros (time row), id row))
    fun before limit => pageQuery (rowKey time id) before limit rows

private theorem serveRows_eq {rows : List ρ} {limit : Option Nat}
    {before : Option PageKey}
    (valid : 1 ≤ limit.getD 50 ∧ limit.getD 50 ≤ 100)
    (legible : ∀ cursor ∈ before, Legible text kind cursor)
    (roundTrips : ∀ row ∈ rows,
      text.RoundTrips kind (fromMicros (time row), id row)) :
    ∃ items continuation,
      Keyset.read (rowKey time id) (limit.getD 50) rows before =
        (.ok (items, continuation) : Except ListError _) ∧
      serveRows text kind time id rows
          { limit, before := before.map (cursorOf text kind) } =
        .ok (items, continuation.map (cursorOf text kind)) ∧
      ∀ cursor ∈ continuation, Legible text kind cursor := by
  refine ⟨_, _, rfl, ?_, ?_⟩
  · have fetched : max 1 (min (limit.getD 50 + 1) 101) = limit.getD 50 + 1 := by
      omega
    cases before with
    | none =>
        simp only [serveRows, listPage, keysetWindow, Option.map_none,
          if_pos valid, Bind.bind, Except.bind, pageQuery, fetched,
          keysetPage_eq_cut]
        rfl
    | some bound =>
        obtain ⟨key, decoded, isBound⟩ :=
          Option.map_eq_some_iff.mp (decode_cursorOf (legible bound rfl))
        simp only [serveRows, listPage, keysetWindow, Option.map_some,
          if_pos valid, decoded, Bind.bind, Except.bind, pageQuery, fetched,
          isBound, keysetPage_eq_cut]
        rfl
  · intro cursor continues
    rw [Option.mem_def] at continues
    split at continues
    · obtain ⟨last, isLast, rfl⟩ := Option.map_eq_some_iff.mp continues
      have shown := List.mem_of_mem_take (List.mem_of_getLast? isLast)
      exact ⟨time last, id last, rfl,
        roundTrips last (Keyset.mem_of_mem_page shown).1⟩
    · cases continues

variable (time id limits contents) in
/-- The same walk on the keys. -/
private abbrev keyWalk : Nat → Keyset.Reading ρ PageKey ListError :=
  Keyset.keysetWalk ListError (rowKey time id)
    (fun index => (limits index).getD 50) contents

private theorem follow_eq
    {serve : Nat → ListQuery → Except ListError (List ρ × Option String)}
    (valid : ∀ index,
      1 ≤ (limits index).getD 50 ∧ (limits index).getD 50 ≤ 100)
    (roundTrips : ∀ index, ∀ row ∈ contents index,
      text.RoundTrips kind (fromMicros (time row), id row))
    (same : ∀ index query,
      serve index query = serveRows text kind time id (contents index) query)
    (count : Nat) :
    follow limits serve count = {
        visited := (keyWalk time id limits contents count).visited
        position := (keyWalk time id limits contents count).position.map
          (cursorOf text kind) } ∧
      ∀ before, (keyWalk time id limits contents count).position =
          .next before →
        ∀ cursor ∈ before, Legible text kind cursor := by
  apply Keyset.walk_encoded
  intro index before legible
  obtain ⟨items, continuation, isRead, isServed, next⟩ :=
    serveRows_eq (valid index) legible (roundTrips index)
  exact ⟨items, continuation, isRead, (same index _).trans isServed, next⟩

private theorem rowKey_nodup {rows : List ρ}
    (distinct : (rows.map id).Nodup) : (rows.map (rowKey time id)).Nodup := by
  have narrower : rows.map id = (rows.map (rowKey time id)).map fun key =>
      BitVec.ofNat 128 (ofLex key).2 := by
    rw [List.map_map]
    apply List.map_congr_left
    intro row _
    simp [rowKey, pageKey]
  rw [narrower] at distinct
  exact distinct.of_map

private theorem behindCursor_cursorOf {before : Option PageKey}
    (legible : ∀ cursor ∈ before, Legible text kind cursor) (key : PageKey) :
    behindCursor text kind (before.map (cursorOf text kind)) key =
      Keyset.behind before key := by
  cases before with
  | none => rfl
  | some cursor =>
      simp only [behindCursor, Option.map_some, Option.bind_some,
        decode_cursorOf (legible cursor rfl)]

theorem completeWalk
    {serve : Nat → ListQuery → Except ListError (List ρ × Option String)}
    (valid : ∀ index,
      1 ≤ (limits index).getD 50 ∧ (limits index).getD 50 ≤ 100)
    (distinct : ∀ index, ((contents index).map id).Nodup)
    (roundTrips : ∀ index, ∀ row ∈ contents index,
      text.RoundTrips kind (fromMicros (time row), id row))
    (same : ∀ index query,
      serve index query = serveRows text kind time id (contents index) query) :
    CompleteWalk text kind time id limits contents serve := by
  have keys : ∀ index, ((contents index).map (rowKey time id)).Nodup :=
    fun index => rowKey_nodup (distinct index)
  have positive : ∀ index, 0 < (limits index).getD 50 :=
    fun index => (valid index).1
  have followed := follow_eq valid roundTrips same
  have standing : ∀ count, Keyset.Standing (rowKey time id) contents count
      (keyWalk time id limits contents count) :=
    Keyset.standing_walk keys positive
  have visitedOnce : ∀ count,
      ((keyWalk time id limits contents count).visited.map
        (rowKey time id)).Nodup := by
    intro count
    apply List.pairwise_map.mpr
    exact (standing count).ordered.imp fun below => below.ne'
  constructor
  case accepted =>
    intro count error
    rw [(followed count).1]
    intro isRefused
    cases position : (keyWalk time id limits contents count).position with
    | next before =>
        rw [position] at isRefused
        cases isRefused
    | ended =>
        rw [position] at isRefused
        cases isRefused
    | refused other => exact (standing count).accepted other position
  case once =>
    intro count
    rw [(followed count).1]
    exact visitedOnce count
  case complete =>
    intro count ended wanted present
    rw [(followed count).1] at ended ⊢
    apply List.count_eq_one_of_mem (visitedOnce count)
    refine (standing count).complete wanted present ?_
    intro before isNext
    rw [isNext] at ended
    cases ended
  case ends =>
    intro additions added
    obtain ⟨count, -, ended⟩ := Keyset.walk_ends keys positive additions (by
      intro count before isNext row isPresent isNew isBehind
      have held := (followed (count + 1)).2 before isNext
      refine added count (before.map (cursorOf text kind)) ?_ row isPresent
        isNew ?_
      · rw [(followed (count + 1)).1, isNext]
        rfl
      · rw [behindCursor_cursorOf held]
        exact isBehind)
    refine ⟨count, ?_⟩
    rw [(followed count).1]
    exact congrArg (Keyset.Position.map (cursorOf text kind)) ended

variable (text kind time id contents) in
/-- What a client has after so many reads when it holds a cursor: nothing from
behind it, and everything above it that was there at every read. -/
structure AboveCursor (count : Nat) (before : Option String) (visited : List ρ) :
    Prop where
  above : ∀ row ∈ visited, behindCursor text kind before (rowKey time id row) = false
  complete : ∀ wanted, (∀ earlier < count,
      wanted ∈ (contents earlier).map (rowKey time id)) →
    behindCursor text kind before wanted = false →
      wanted ∈ visited.map (rowKey time id)

theorem follow_aboveCursor
    {serve : Nat → ListQuery → Except ListError (List ρ × Option String)}
    (valid : ∀ index,
      1 ≤ (limits index).getD 50 ∧ (limits index).getD 50 ≤ 100)
    (distinct : ∀ index, ((contents index).map id).Nodup)
    (roundTrips : ∀ index, ∀ row ∈ contents index,
      text.RoundTrips kind (fromMicros (time row), id row))
    (same : ∀ index query,
      serve index query = serveRows text kind time id (contents index) query)
    {count : Nat} {before : Option String}
    (isNext : (follow limits serve count).position = .next before) :
    AboveCursor text kind time id contents count before
      (follow limits serve count).visited := by
  have standing : Keyset.Standing (rowKey time id) contents count
      (keyWalk time id limits contents count) :=
    Keyset.standing_walk (fun index => rowKey_nodup (distinct index))
      (fun index => (valid index).1) count
  obtain ⟨followed, legible⟩ := follow_eq valid roundTrips same count
  rw [followed] at isNext ⊢
  cases position : (keyWalk time id limits contents count).position with
  | ended =>
      rw [position] at isNext
      cases isNext
  | refused error => exact absurd position (standing.accepted error)
  | next cursor =>
      rw [position] at isNext
      cases isNext
      have same := behindCursor_cursorOf (legible cursor position)
      constructor
      · intro row member
        rw [same]
        exact standing.above cursor position row member
      · intro wanted present isAbove
        rw [same] at isAbove
        refine standing.complete wanted present fun other isOther => ?_
        rw [position] at isOther
        cases isOther
        exact isAbove

theorem behindCursor_of_le {before : Option String} {lower upper : PageKey}
    (notBehind : behindCursor text kind before lower = false) (below : lower ≤ upper) :
    behindCursor text kind before upper = false := by
  unfold behindCursor at notBehind ⊢
  generalize Option.map _ _ = bound at notBehind ⊢
  cases bound with
  | none => exact notBehind
  | some bound =>
      simp only [Keyset.behind, Option.all_some, decide_eq_false_iff_not, not_lt]
        at notBehind ⊢
      exact notBehind.trans below

end Walk

variable {text : CursorText} {limits : Nat → Option Nat}

theorem listRequests_completeWalk (filters : RequestFilters)
    {requests : Nat → Table ProxyRequestRow.requestId}
    (valid : ∀ index,
      1 ≤ (limits index).getD 50 ∧ (limits index).getD 50 ≤ 100)
    (roundTrips : ∀ index, ∀ row ∈ (requests index).rows,
      text.RoundTrips "requests" (fromMicros row.startedAt, row.requestId)) :
    CompleteWalk text "requests" ProxyRequestRow.startedAt
      ProxyRequestRow.requestId limits
      (fun index => (requests index).rows.filter filters.selects)
      fun index => listRequests text filters (requests index) := by
  apply completeWalk valid
  · intro index
    exact (requests index).nodup.sublist (List.filter_sublist.map _)
  · intro index row selected
    exact roundTrips index row (List.mem_filter.mp selected).1
  · intro index query
    rfl

theorem listRequests_aboveCursor (filters : RequestFilters)
    {requests : Nat → Table ProxyRequestRow.requestId}
    (valid : ∀ index,
      1 ≤ (limits index).getD 50 ∧ (limits index).getD 50 ≤ 100)
    (roundTrips : ∀ index, ∀ row ∈ (requests index).rows,
      text.RoundTrips "requests" (fromMicros row.startedAt, row.requestId))
    {count : Nat} {before : Option String}
    (isNext : (follow limits (fun index => listRequests text filters (requests index))
      count).position = .next before) :
    AboveCursor text "requests" ProxyRequestRow.startedAt ProxyRequestRow.requestId
      (fun index => (requests index).rows.filter filters.selects) count before
      (follow limits (fun index => listRequests text filters (requests index))
        count).visited := by
  apply follow_aboveCursor valid _ _ _ isNext
  · intro index
    exact (requests index).nodup.sublist (List.filter_sublist.map _)
  · intro index row selected
    exact roundTrips index row (List.mem_filter.mp selected).1
  · intro index query
    rfl

theorem listIncidents_completeWalk {databases : Nat → IncidentDatabase}
    (valid : ∀ index,
      1 ≤ (limits index).getD 50 ∧ (limits index).getD 50 ≤ 100)
    (roundTrips : ∀ index, ∀ row ∈ (databases index).incidents.rows,
      text.RoundTrips "incidents" (fromMicros row.startedAt, row.id)) :
    CompleteWalk text "incidents" (fun item : Incident => item.row.startedAt)
      (fun item => item.row.id) limits
      (fun index =>
        attachUpdates (databases index) (databases index).incidents.rows)
      fun index => listIncidents text (databases index) := by
  apply completeWalk valid
  · intro index
    rw [attachUpdates, List.map_map]
    exact (databases index).incidents.nodup
  · intro index item listed
    obtain ⟨row, present, rfl⟩ := List.mem_map.mp listed
    exact roundTrips index row present
  · intro index query
    have pages : ∀ before limit,
        incidentsPage (databases index) before limit =
          pageQuery (rowKey (fun item : Incident => item.row.startedAt)
              fun item => item.row.id) before limit
            (attachUpdates (databases index)
              (databases index).incidents.rows) := by
      intro before limit
      simp only [incidentsPage, pageQuery, attachUpdates, Keyset.page_map]
      rfl
    simp only [listIncidents, serveRows, listPage, pages]

theorem listAudit_completeWalk {audits : Nat → Table AuditEventRow.id}
    (valid : ∀ index,
      1 ≤ (limits index).getD 50 ∧ (limits index).getD 50 ≤ 100)
    (roundTrips : ∀ index, ∀ row ∈ (audits index).rows,
      text.RoundTrips "audit" (fromMicros row.createdAt, row.id)) :
    CompleteWalk text "audit" AuditEventRow.createdAt AuditEventRow.id limits
      (fun index => (audits index).rows)
      fun index => listAudit text (audits index) := by
  apply completeWalk valid
  · intro index
    exact (audits index).nodup
  · exact roundTrips
  · intro index query
    rfl

/-- Whatever happens to the tables between two reads, every walk through one of
the three lists is complete, and every cursor is read back as the key it
names. -/
theorem keyset_walks_complete (text : CursorText) (limits : Nat → Option Nat)
    (filters : RequestFilters)
    (requests : Nat → Table ProxyRequestRow.requestId)
    (databases : Nat → IncidentDatabase)
    (audits : Nat → Table AuditEventRow.id)
    (valid : ∀ index,
      1 ≤ (limits index).getD 50 ∧ (limits index).getD 50 ≤ 100)
    (requestsRoundTrip : ∀ index, ∀ row ∈ (requests index).rows,
      text.RoundTrips "requests" (fromMicros row.startedAt, row.requestId))
    (incidentsRoundTrip : ∀ index, ∀ row ∈ (databases index).incidents.rows,
      text.RoundTrips "incidents" (fromMicros row.startedAt, row.id))
    (auditsRoundTrip : ∀ index, ∀ row ∈ (audits index).rows,
      text.RoundTrips "audit" (fromMicros row.createdAt, row.id)) :
    CompleteWalk text "requests" ProxyRequestRow.startedAt
      ProxyRequestRow.requestId limits
      (fun index => (requests index).rows.filter filters.selects)
      (fun index => listRequests text filters (requests index)) ∧
    CompleteWalk text "incidents" (fun item : Incident => item.row.startedAt)
      (fun item => item.row.id) limits
      (fun index =>
        attachUpdates (databases index) (databases index).incidents.rows)
      (fun index => listIncidents text (databases index)) ∧
    CompleteWalk text "audit" AuditEventRow.createdAt AuditEventRow.id limits
      (fun index => (audits index).rows)
      (fun index => listAudit text (audits index)) ∧
    ∀ (ρ : Type) (kind : String) (items : List ρ) (limit : Nat)
      (key : ρ → Timestamp × Uuid) (next : String),
      (∀ item ∈ items, text.RoundTrips kind (key item)) →
      (keysetPage text items limit kind key).2 = some next →
      ∃ last, (keysetPage text items limit kind key).1.getLast? = some last ∧
        decodeKeysetCursor text next kind = some (key last) := by
  refine ⟨listRequests_completeWalk filters valid requestsRoundTrip,
    listIncidents_completeWalk valid incidentsRoundTrip,
    listAudit_completeWalk valid auditsRoundTrip, ?_⟩
  intro ρ kind items limit key next roundTrips continues
  exact decodeKeysetCursor_keysetPage roundTrips continues

def twinTime : Timestamp := 1784635200000000000

def twinId (id : Uuid) : String :=
  if id = 1 then
    "00000000-0000-0000-0000-000000000001"
  else
    "00000000-0000-0000-0000-000000000002"

/-- The documents of cursors whose texts need no escape. -/
def plainJson : Json → String
  | .object fields =>
      let members := fields.map fun field =>
        "\"" ++ field.1 ++ "\":" ++
          match field.2 with
          | .string value => "\"" ++ value ++ "\""
          | .number (.posInt value) => toString value
          | _ => ""
      "\x7b" ++ ",".intercalate members ++ "\x7d"
  | _ => ""

def twinDocument (id : Uuid) : Json :=
  .object [
    ("at", .string "2026-07-21T12:00:00Z"),
    ("id", .string (twinId id)),
    ("kind", .string "incidents"),
    ("version", .number (.posInt 1))]

def twinText : CursorText where
  toVec value := encodeUtf8 (plainJson value).toList
  fromSlice bytes :=
    if bytes = encodeUtf8 (plainJson (twinDocument 1)).toList then
      some (twinDocument 1)
    else if bytes = encodeUtf8 (plainJson (twinDocument 2)).toList then
      some (twinDocument 2)
    else
      none
  printTime time := if time = twinTime then "2026-07-21T12:00:00Z" else ""
  parseTime given :=
    if given = "2026-07-21T12:00:00Z" then some twinTime else none
  printId := twinId
  parseId given :=
    if given = twinId 1 then some 1
    else if given = twinId 2 then some 2
    else none

def twinRow (id : Uuid) : IncidentRow where
  id
  slug := if id = 1 then "outage" else "delay"
  title := "Outage"
  status := .investigating
  severity := .minor
  isPublic := false
  startedAt := 1784635200000000
  resolvedAt := none
  createdAt := 1784635200000000
  updatedAt := 1784635200000000
  checked := by
    have slug : slugAllowed (if id = 1 then "outage" else "delay") = true := by
      split <;> decide
    have title : "Outage".length = 6 := by decide
    simp only [IncidentFields.allowed, slug, title]
    rfl

def twinDatabase : IncidentDatabase where
  incidents := {
    rows := [twinRow 1, twinRow 2]
    nodup := by decide }
  updates := .empty
  audits := []

private theorem twin_roundTrips :
    ∀ row ∈ twinDatabase.incidents.rows,
      twinText.RoundTrips "incidents" (fromMicros row.startedAt, row.id) := by
  have first : encodeUtf8 (plainJson (twinDocument 1)).toList ≠
      encodeUtf8 (plainJson (twinDocument 2)).toList := by
    decide +kernel
  intro row present
  rcases List.mem_pair.mp present with rfl | rfl
  · have document : cursorJson twinText "incidents"
        (fromMicros (twinRow 1).startedAt, (twinRow 1).id) = twinDocument 1 :=
      rfl
    refine ⟨?_, rfl, rfl⟩
    rw [document]
    simp [twinText]
  · have document : cursorJson twinText "incidents"
        (fromMicros (twinRow 2).startedAt, (twinRow 2).id) = twinDocument 2 :=
      rfl
    refine ⟨?_, rfl, rfl⟩
    rw [document]
    simp only [twinText, if_neg first.symm, if_true]

theorem keyset_walks_complete_twins :
    CompleteWalk twinText "incidents"
      (fun item : Incident => item.row.startedAt) (fun item => item.row.id)
      (fun _ => some 1)
      (fun _ => attachUpdates twinDatabase twinDatabase.incidents.rows)
      fun _ => listIncidents twinText twinDatabase := by
  have walks := keyset_walks_complete twinText (fun _ => some 1)
    ⟨none, none, none, none, none, none, none⟩
    (fun _ => (Table.empty : Table ProxyRequestRow.requestId))
    (fun _ => twinDatabase) (fun _ => (Table.empty : Table AuditEventRow.id))
  refine (walks ?_ ?_ ?_ ?_).2.1
  · intro _
    decide
  · intro _ row present
    cases present
  · intro _
    exact twin_roundTrips
  · intro _ row present
    cases present

end NvidiaBuildLb.Operations
