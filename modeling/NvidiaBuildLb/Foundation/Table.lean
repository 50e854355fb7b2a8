import Mathlib.Data.List.Basic
import Mathlib.Data.List.Nodup
import Mathlib.Data.Option.Basic
import Mathlib.Logic.Function.Basic

namespace NvidiaBuildLb.Foundation

/-! Tables with a primary key.  The row order carries no meaning of its own:
every law below speaks about the row found under a key. -/

/-- A finite set of rows in which no two rows share their primary key. -/
structure Table {κ ρ : Type} (key : ρ → κ) where
  rows : List ρ
  nodup : (rows.map key).Nodup

namespace Table

variable {κ ρ : Type} {key : ρ → κ}

def empty : Table key where
  rows := []
  nodup := List.nodup_nil

/-- The rows a predicate selects, as `SELECT count(*) ... WHERE` counts them. -/
def count (table : Table key) (select : ρ → Bool) : Nat :=
  table.rows.countP select

private def editRow (select : ρ → Bool) (edit : ρ → ρ) (row : ρ) : ρ :=
  if select row then edit row else row

private theorem map_editRow {γ : Type*} {select : ρ → Bool} {edit : ρ → ρ}
    {read : ρ → γ} (same : ∀ row, read (edit row) = read row) (rows : List ρ) :
    (rows.map (editRow select edit)).map read = rows.map read := by
  rw [List.map_map]
  apply List.map_congr_left
  intro row _
  simp only [Function.comp, editRow]
  split
  · exact same row
  · rfl

/-- `UPDATE ... SET edit WHERE select`; an edit never moves a row to another
primary key. -/
def update (table : Table key) (select : ρ → Bool) (edit : ρ → ρ)
    (keeps : ∀ row, key (edit row) = key row) : Table key where
  rows := table.rows.map (editRow select edit)
  nodup := by
    rw [map_editRow keeps]
    exact table.nodup

theorem map_update {γ : Type*} (table : Table key) (select : ρ → Bool)
    (edit : ρ → ρ) (keeps : ∀ row, key (edit row) = key row) {read : ρ → γ}
    (same : ∀ row, read (edit row) = read row) :
    (table.update select edit keeps).rows.map read = table.rows.map read :=
  map_editRow same table.rows

theorem mem_update {table : Table key} {select : ρ → Bool} {edit : ρ → ρ}
    {keeps : ∀ row, key (edit row) = key row} {row : ρ} :
    row ∈ (table.update select edit keeps).rows ↔
      ∃ old ∈ table.rows, (if select old then edit old else old) = row :=
  List.mem_map

/-- `DELETE ... WHERE select`. -/
def delete (table : Table key) (select : ρ → Bool) : Table key where
  rows := table.rows.filter fun row => !select row
  nodup := table.nodup.sublist (List.filter_sublist.map key)

theorem mem_delete {table : Table key} {select : ρ → Bool} {row : ρ} :
    row ∈ (table.delete select).rows ↔
      row ∈ table.rows ∧ select row = false := by
  simp [delete]

variable [DecidableEq κ]

def find? (table : Table key) (wanted : κ) : Option ρ :=
  table.rows.find? fun row => key row = wanted

/-- `INSERT`; a taken primary key is refused. -/
def insert? (table : Table key) (row : ρ) : Option (Table key) :=
  if taken : key row ∈ table.rows.map key then
    none
  else
    some {
      rows := table.rows ++ [row]
      nodup := by
        rw [List.map_append, List.nodup_append]
        refine ⟨table.nodup, by simp, ?_⟩
        intro left hleft right hright heq
        have : right = key row := by simpa using hright
        exact taken (this ▸ heq ▸ hleft) }

/-- The row under its key from now on, whether there was one or not. -/
def put (table : Table key) (row : ρ) : Table key where
  rows := table.rows.filter (fun other => key other ≠ key row) ++ [row]
  nodup := by
    rw [List.map_append, List.nodup_append]
    refine ⟨table.nodup.sublist (List.filter_sublist.map key), by simp, ?_⟩
    intro left hleft right hright heq
    have isKey : right = key row := by simpa using hright
    obtain ⟨other, member, hother⟩ := List.mem_map.mp hleft
    have different := (List.mem_filter.mp member).2
    simp only [hother, heq, isKey, ne_eq, not_true, decide_false] at different
    cases different

@[simp] theorem find?_empty (wanted : κ) :
    (empty : Table key).find? wanted = none :=
  rfl

theorem key_of_find? {table : Table key} {wanted : κ} {row : ρ}
    (found : table.find? wanted = some row) : key row = wanted := by
  simpa using List.find?_some found

theorem mem_of_find? {table : Table key} {wanted : κ} {row : ρ}
    (found : table.find? wanted = some row) : row ∈ table.rows :=
  List.mem_of_find?_eq_some found

private theorem find?_eq_of_mem {rows : List ρ}
    (nodup : (rows.map key).Nodup) {row : ρ} (member : row ∈ rows) :
    rows.find? (fun candidate => key candidate = key row) = some row := by
  induction rows with
  | nil => cases member
  | cons head tail induction =>
      rw [List.map_cons, List.nodup_cons] at nodup
      rcases List.mem_cons.mp member with rfl | memberTail
      · simp
      · have different : key head ≠ key row := by
          intro heq
          exact nodup.1 (heq ▸ List.mem_map_of_mem memberTail)
        simpa [List.find?_cons, different] using induction nodup.2 memberTail

theorem find?_eq_some_iff {table : Table key} {wanted : κ} {row : ρ} :
    table.find? wanted = some row ↔ row ∈ table.rows ∧ key row = wanted := by
  constructor
  · intro found
    exact ⟨mem_of_find? found, key_of_find? found⟩
  · rintro ⟨member, rfl⟩
    exact find?_eq_of_mem table.nodup member

theorem insert?_eq_some {table table' : Table key} {row : ρ}
    (inserted : table.insert? row = some table') :
    table.find? (key row) = none ∧ table'.rows = table.rows ++ [row] := by
  unfold insert? at inserted
  split at inserted
  · cases inserted
  · rename_i fresh
    cases inserted
    refine ⟨?_, rfl⟩
    cases found : table.find? (key row) with
    | none => rfl
    | some other =>
        have sameKey := key_of_find? found
        exact absurd (sameKey ▸ List.mem_map_of_mem (mem_of_find? found)) fresh

theorem find?_insert {table table' : Table key} {row : ρ}
    (inserted : table.insert? row = some table') (wanted : κ) :
    table'.find? wanted =
      if key row = wanted then some row else table.find? wanted := by
  obtain ⟨fresh, rows⟩ := insert?_eq_some inserted
  unfold find? at fresh ⊢
  rw [rows, List.find?_append]
  by_cases same : key row = wanted
  · subst same
    simp [fresh]
  · simp [same]

theorem find?_put (table : Table key) (row : ρ) (wanted : κ) :
    (table.put row).find? wanted =
      if key row = wanted then some row else table.find? wanted := by
  unfold find? put
  rw [List.find?_append, List.find?_filter]
  by_cases same : key row = wanted
  · subst same
    have absent : table.rows.find? (fun other =>
        decide (decide (key other ≠ key row) = true ∧
          decide (key other = key row) = true)) = none := by
      rw [List.find?_eq_none]
      intro other _
      simp
    rw [absent, if_pos rfl, Option.none_or]
    simp
  · rw [if_neg same, List.find?_singleton, decide_eq_false same]
    rw [if_neg Bool.false_ne_true, Option.or_none]
    congr 1
    funext other
    by_cases found : key other = wanted
    · have different : key other ≠ key row := fun heq => same (heq ▸ found)
      simp [found, Ne.symm same]
    · simp [found]

theorem mem_put {table : Table key} {row other : ρ} :
    other ∈ (table.put row).rows ↔
      (other ∈ table.rows ∧ key other ≠ key row) ∨ other = row := by
  simp [put]

/-- The row found under a key, with the key it is found under. -/
def lookup (table : Table key) (wanted : κ) :
    Option { row : ρ // key row = wanted } :=
  (table.find? wanted).pmap Subtype.mk fun _ found => key_of_find? found

theorem lookup_eq_some_iff {table : Table key} {wanted : κ}
    {row : { row : ρ // key row = wanted }} :
    table.lookup wanted = some row ↔ table.find? wanted = some row.val := by
  unfold lookup
  rw [Option.pmap_eq_some_iff]
  constructor
  · rintro ⟨other, _, found, rfl⟩
    exact found
  · intro found
    exact ⟨row.val, row.property, found, rfl⟩

theorem lookup_eq_none_iff {table : Table key} {wanted : κ} :
    table.lookup wanted = none ↔ table.find? wanted = none :=
  Option.pmap_eq_none_iff

theorem lookup_put (table : Table key) {placed : κ}
    (row : { row : ρ // key row = placed }) :
    (table.put row.val).lookup =
      Function.update table.lookup placed (some row) := by
  funext wanted
  by_cases same : wanted = placed
  · subst same
    rw [Function.update_self, lookup_eq_some_iff, find?_put, if_pos row.property]
  · have away : key row.val ≠ wanted := by
      rw [row.property]
      exact Ne.symm same
    rw [Function.update_of_ne same]
    cases found : table.lookup wanted with
    | none =>
        rw [lookup_eq_none_iff, find?_put, if_neg away]
        exact lookup_eq_none_iff.mp found
    | some other =>
        rw [lookup_eq_some_iff, find?_put, if_neg away]
        exact lookup_eq_some_iff.mp found

theorem find?_update (table : Table key) (select : ρ → Bool) (edit : ρ → ρ)
    (keeps : ∀ row, key (edit row) = key row) (wanted : κ) :
    (table.update select edit keeps).find? wanted =
      (table.find? wanted).map fun row =>
        if select row then edit row else row := by
  unfold find? update
  simp only [List.find?_map]
  have samePredicate :
      ((fun row => decide (key row = wanted)) ∘ editRow select edit) =
        fun row => decide (key row = wanted) := by
    funext row
    simp only [Function.comp, editRow]
    split
    · simp [keeps row]
    · rfl
  rw [samePredicate]
  rfl

theorem find?_delete (table : Table key) (select : ρ → Bool) (wanted : κ) :
    (table.delete select).find? wanted =
      (table.find? wanted).filter fun row => !select row := by
  ext row
  rw [find?_eq_some_iff, mem_delete, Option.filter_eq_some_iff,
    find?_eq_some_iff]
  simp only [Bool.not_eq_true']
  exact and_right_comm

theorem count_insert {table table' : Table key} {row : ρ}
    (inserted : table.insert? row = some table') (counted : ρ → Bool) :
    table'.count counted =
      table.count counted + if counted row then 1 else 0 := by
  obtain ⟨-, rows⟩ := insert?_eq_some inserted
  unfold count
  rw [rows, List.countP_append, List.countP_singleton]

omit [DecidableEq κ] in
theorem count_update_le (table : Table key) (select : ρ → Bool) (edit : ρ → ρ)
    (keeps : ∀ row, key (edit row) = key row) {counted : ρ → Bool}
    (leaves : ∀ row, counted (edit row) = true → counted row = true) :
    (table.update select edit keeps).count counted ≤ table.count counted := by
  simp only [count, update, List.countP_map]
  apply List.countP_mono_left
  intro row _ still
  simp only [Function.comp, editRow] at still
  split at still
  · exact leaves row still
  · exact still

/-- A statement that names one primary key changes exactly one row when that
row is there and qualifies, and none otherwise. -/
theorem count_eq_one_iff {table : Table key} {select : ρ → Bool} {wanted : κ}
    (named : ∀ row, select row = true → key row = wanted) :
    table.count select = 1 ↔
      ∃ row, table.find? wanted = some row ∧ select row = true := by
  obtain ⟨rows, nodup⟩ := table
  simp only [count, find?]
  induction rows with
  | nil => simp
  | cons head tail induction =>
      rw [List.map_cons, List.nodup_cons] at nodup
      have tailLaw := induction nodup.2
      by_cases selected : select head = true
      · have headKey := named head selected
        have noneSelected : tail.countP select = 0 := by
          rw [List.countP_eq_zero]
          intro row member rowSelected
          apply nodup.1
          rw [headKey, ← named row rowSelected]
          exact List.mem_map_of_mem member
        simp [selected, headKey, noneSelected]
      · rw [List.countP_cons_of_neg selected, tailLaw]
        by_cases headKey : key head = wanted
        · constructor
          · rintro ⟨row, found, rowSelected⟩
            have member := List.mem_of_find?_eq_some found
            have rowKey := named row rowSelected
            exact absurd (headKey.trans rowKey.symm ▸
              List.mem_map_of_mem member) nodup.1
          · rintro ⟨row, found, rowSelected⟩
            have : head = row := by
              simpa [List.find?_cons, headKey] using found
            exact absurd (this ▸ rowSelected) selected
        · simp [headKey]

end Table

end NvidiaBuildLb.Foundation
