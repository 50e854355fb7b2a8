import NvidiaBuildLb.Foundation.KeysetReader
import NvidiaBuildLb.Foundation.PercentEncoding
import NvidiaBuildLb.Foundation.Splitting
import NvidiaBuildLb.Operations.KeysetWalks

namespace NvidiaBuildLb.Hermes

open Foundation NvidiaBuildLb.Core Operations

/-! How the helper asks the admin API for a page, and what the gateway reads out
of the query. -/

def percentEncodeQuery (value : String) : String := percentEncode value

/-- The query of a list request. -/
def listQueryText (before : Option String) : List Char :=
  "limit=100".toList ++
    match before with
    | none => []
    | some value => "&before=".toList ++ (percentEncodeQuery value).toList

def formPair (piece : List Char) : Option (String × String) :=
  let (name, value) := (splitOnce '=' piece).getD (piece, [])
  match percentDecode true (String.ofList name), percentDecode true (String.ofList value) with
  | some name, some value => some (name, value)
  | _, _ => none

/-- The pairs of a form-encoded query. -/
def formPairs (query : List Char) : Option (List (String × String)) :=
  ((query.splitOn '&').filter fun piece => !piece.isEmpty).mapM formPair

/-- `usize::from_str`. -/
def parseUsize (text : String) : Option Nat :=
  let digits := match text.toList with
    | '+' :: digits => digits
    | digits => digits
  if digits.isEmpty || !digits.all Char.isDigit then
    none
  else
    let value := digits.foldl (fun value digit => value * 10 + (digit.toNat - 48)) 0
    if value ≤ u64Max then some value else none

/-- `web::Query<ListQuery>`: a name is there once or not at all. -/
def parseListQuery (query : List Char) : Option ListQuery := do
  let pairs ← formPairs query
  let limit ←
    match pairs.filter fun pair => pair.1 == "limit" with
    | [] => some none
    | [pair] => (parseUsize pair.2).map some
    | _ => none
  let before ←
    match pairs.filter fun pair => pair.1 == "before" with
    | [] => some none
    | [pair] => some (some pair.2)
    | _ => none
  some { limit, before }

/-- Why a page was not decoded. -/
inductive PageFailure where
  | badQuery
  | refused (error : ListError)
  | lost
  deriving DecidableEq, Repr

/-- One page, which may get lost on its way. -/
def getPage (serve : ListQuery → Except ListError (List ρ × Option String)) (lost : Bool)
    (before : Option String) : Except PageFailure (List ρ × Option String) :=
  if lost then
    .error .lost
  else
    match parseListQuery (listQueryText before) with
    | none => .error .badQuery
    | some query => (serve query).mapError .refused

private theorem unreserved_of_all {text : String}
    (every : (text.toList.all fun character => decide (character.toNat < 128) &&
      isUnreserved (UInt8.ofNat character.toNat)) = true) :
    ∀ character ∈ text.toList, character.toNat < 128 ∧
      isUnreserved (UInt8.ofNat character.toNat) = true := by
  intro character member
  have plain := List.all_eq_true.mp every character member
  rwa [Bool.and_eq_true, decide_eq_true_eq] at plain

private theorem formPair_encoded {name : String} (value : String)
    (plain : ∀ character ∈ name.toList, character.toNat < 128 ∧
      isUnreserved (UInt8.ofNat character.toNat) = true)
    (noEquals : '=' ∉ name.toList) :
    formPair (name.toList ++ '=' :: (percentEncode value).toList) = some (name, value) := by
  have cut : splitOnce '=' (name.toList ++ '=' :: (percentEncode value).toList) =
      some (name.toList, (percentEncode value).toList) :=
    splitOnce_eq_some.mpr ⟨rfl, noEquals⟩
  simp only [formPair, cut, Option.getD_some, String.ofList_toList,
    percentDecode_of_unreserved plain, percentDecode_percentEncode]

private theorem formPair_limit : formPair "limit=100".toList = some ("limit", "100") := by
  have plain : percentEncode "100" = "100" :=
    percentEncode_of_unreserved (unreserved_of_all (by decide))
  have pair : formPair ("limit".toList ++ '=' :: (percentEncode "100").toList) =
      some ("limit", "100") :=
    formPair_encoded "100" (unreserved_of_all (by decide)) (by decide)
  rwa [plain] at pair

private theorem parseUsize_limit : parseUsize "100" = some 100 := by
  decide +kernel

theorem parseListQuery_listQueryText (before : Option String) :
    parseListQuery (listQueryText before) = some { limit := some 100, before } := by
  have noAmpersand : '&' ∉ "limit=100".toList := by decide
  have nonempty : "limit=100".toList ≠ [] := by decide
  cases before with
  | none =>
      have pairs : formPairs (listQueryText none) = some [("limit", "100")] := by
        have text : listQueryText none = "limit=100".toList := rfl
        rw [formPairs, text, List.splitOn_eq_singleton noAmpersand]
        simp only [List.filter_cons, List.isEmpty_eq_false_iff.mpr nonempty, Bool.not_false,
          if_true, List.filter_nil, List.mapM_cons, formPair_limit]
        rfl
      simp [parseListQuery, pairs, parseUsize_limit]
  | some cursor =>
      have absent : '&' ∉ "before".toList ++ '=' :: (percentEncode cursor).toList := by
        rw [List.mem_append, not_or, List.mem_cons, not_or]
        exact ⟨by decide, by decide, not_mem_percentEncode (by decide)⟩
      have filled : "before".toList ++ '=' :: (percentEncode cursor).toList ≠ [] := by simp
      have cursorPair := formPair_encoded cursor
        (@unreserved_of_all "before" (by decide)) (by decide)
      have pairs : formPairs (listQueryText (some cursor)) =
          some [("limit", "100"), ("before", cursor)] := by
        have text : listQueryText (some cursor) = "limit=100".toList ++
            '&' :: ("before".toList ++ '=' :: (percentEncode cursor).toList) := rfl
        rw [formPairs, text, List.splitOn_append_cons_self_of_not_mem noAmpersand,
          List.splitOn_eq_singleton absent]
        simp only [List.filter_cons, List.isEmpty_eq_false_iff.mpr nonempty,
          List.isEmpty_eq_false_iff.mpr filled, Bool.not_false, if_true, List.filter_nil,
          List.mapM_cons, formPair_limit, cursorPair]
        rfl
      simp [parseListQuery, pairs, parseUsize_limit]

theorem getPage_eq (serve : ListQuery → Except ListError (List ρ × Option String))
    (before : Option String) :
    getPage serve false before =
      (serve { limit := some 100, before }).mapError .refused := by
  simp [getPage, parseListQuery_listQueryText]

theorem mem_of_listPage {text : CursorText} {kind : String} {cursor : ρ → Timestamp × Uuid}
    {key : ρ → PageKey} {rows items : List ρ} {query : ListQuery} {next : Option String}
    {row : ρ} (served : listPage text kind cursor
      (fun before limit => pageQuery key before limit rows) query = .ok (items, next))
    (shown : row ∈ items) : row ∈ rows := by
  obtain ⟨window, -, served⟩ := ok_of_bind served
  cases served
  exact (Keyset.mem_of_mem_page (List.mem_of_mem_take shown)).1

theorem getPage_ok {serve : ListQuery → Except ListError (List ρ × Option String)}
    {lost : Bool} {before : Option String} {page : List ρ × Option String}
    (decoded : getPage serve lost before = .ok page) :
    serve { limit := some 100, before } = .ok page := by
  cases lost with
  | true => cases decoded
  | false =>
      rw [getPage_eq] at decoded
      cases served : serve { limit := some 100, before } with
      | error error =>
          rw [served] at decoded
          cases decoded
      | ok answer =>
          rw [served] at decoded
          cases decoded
          rfl

theorem getPage_of_ok {serve : ListQuery → Except ListError (List ρ × Option String)}
    {before : Option String} {page : List ρ × Option String}
    (served : serve { limit := some 100, before } = .ok page) :
    getPage serve false before = .ok page := by
  rw [getPage_eq, served]
  rfl

end NvidiaBuildLb.Hermes
