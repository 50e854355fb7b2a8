import NvidiaBuildLb.Foundation.Interleaving
import Mathlib.Data.List.Induction

namespace NvidiaBuildLb.Foundation

/-! Transactions that run side by side on a database with row locks.  A
statement works on the rows as they are when it starts; each row it updates is
locked first and looked at once more, and stays locked until the transaction
ends.  Nobody sees a row version that is not committed. -/

/-- A state whose rows are found under keys. -/
structure Keyed (σ κ : Type) (ρ : κ → Type) [DecidableEq κ] where
  get : σ → ∀ key, Option (ρ key)
  set : σ → ∀ key, ρ key → σ
  get_set : ∀ state key row,
    get (set state key row) = Function.update (get state) key (some row)

/-- A row version that is written and not committed. -/
structure Write {κ : Type} (ρ : κ → Type) where
  key : κ
  before : Option (ρ key)
  row : ρ key

abbrev Edit (σ κ : Type) (ρ : κ → Type) :=
  σ → ∀ key, Option (ρ key) → Option (ρ key)

/-- What a transaction does.  `update` chooses candidates in the rows its
statement starts with; `edit` is given these rows and the version it finds
under the lock, and declines a row that does not qualify any more. -/
inductive Script (σ κ : Type) (ρ : κ → Type) (α : Type) where
  | commit (value : α)
  | abort (value : α)
  | read (next : σ → Script σ κ ρ α)
  | update (candidates : σ → List κ) (edit : Edit σ κ ρ)
      (next : Nat → Script σ κ ρ α)

inductive Progress (σ κ : Type) (ρ : κ → Type) (α : Type) where
  | ready (script : Script σ κ ρ α)
  | updating (snapshot : σ) (remaining : List κ) (affected : Nat)
      (edit : Edit σ κ ρ) (next : Nat → Script σ κ ρ α)
  | ended (result : Option α)

structure Work (σ κ : Type) (ρ : κ → Type) (α : Type) where
  progress : Progress σ κ ρ α
  writes : List (Write ρ)

structure Locked (σ κ τ : Type) where
  rows : σ
  locks : κ → Option τ

inductive WorkAction where
  | advance
  | fail
  deriving DecidableEq, Repr

namespace Locked

variable {σ κ τ α : Type} {ρ : κ → Type} [DecidableEq κ] [DecidableEq τ]

/-- The rows with a transaction's own versions over them. -/
def view (keyed : Keyed σ κ ρ) (rows : σ) (writes : List (Write ρ)) : σ :=
  writes.foldl (fun rows write => keyed.set rows write.key write.row) rows

def release (shared : Locked σ κ τ) (thread : τ) : Locked σ κ τ :=
  { shared with
    locks := fun key =>
      if shared.locks key = some thread then none else shared.locks key }

/-- One row of an update: it waits while somebody else has the lock. -/
def updateRow (keyed : Keyed σ κ ρ) (thread : τ) (shared : Locked σ κ τ)
    (writes : List (Write ρ)) (snapshot : σ) (key : κ) (rest : List κ)
    (affected : Nat) (edit : Edit σ κ ρ) (next : Nat → Script σ κ ρ α) :
    Locked σ κ τ × Work σ κ ρ α :=
  if shared.locks key = none ∨ shared.locks key = some thread then
    let current := keyed.get (view keyed shared.rows writes) key
    match edit snapshot key current with
    | none =>
        (shared, {
          progress := .updating snapshot rest affected edit next
          writes })
    | some row =>
        ({ shared with
          locks := Function.update shared.locks key (some thread) }, {
          progress := .updating snapshot rest (affected + 1) edit next
          writes := writes ++ [{ key, before := current, row }] })
  else
    (shared, {
      progress := .updating snapshot (key :: rest) affected edit next
      writes })

def advance (keyed : Keyed σ κ ρ) (thread : τ) (shared : Locked σ κ τ)
    (here : Work σ κ ρ α) : Locked σ κ τ × Work σ κ ρ α :=
  match here.progress with
  | .ended _ => (shared, here)
  | .ready (.commit value) =>
      ({ shared with rows := view keyed shared.rows here.writes }.release
        thread, { progress := .ended (some value), writes := [] })
  | .ready (.abort value) =>
      (shared.release thread, { progress := .ended (some value), writes := [] })
  | .ready (.read next) =>
      (shared, { here with
        progress := .ready (next (view keyed shared.rows here.writes)) })
  | .ready (.update candidates edit next) =>
      let snapshot := view keyed shared.rows here.writes
      (shared, { here with
        progress := .updating snapshot (candidates snapshot) 0 edit next })
  | .updating _ [] affected _ next =>
      (shared, { here with progress := .ready (next affected) })
  | .updating snapshot (key :: rest) affected edit next =>
      updateRow keyed thread shared here.writes snapshot key rest affected edit
        next

/-- A transaction that fails leaves nothing but its end. -/
def fail (thread : τ) (shared : Locked σ κ τ) (here : Work σ κ ρ α) :
    Locked σ κ τ × Work σ κ ρ α :=
  match here.progress with
  | .ended _ => (shared, here)
  | _ => (shared.release thread, { progress := .ended none, writes := [] })

/-- `disturb` is what else happens to the state, off the keyed rows. -/
def system (keyed : Keyed σ κ ρ) (disturb : ν → σ → σ) :
    Interleaving τ WorkAction ν (Locked σ κ τ) (Work σ κ ρ α) where
  act thread action shared here :=
    match action with
    | .advance => advance keyed thread shared here
    | .fail => fail thread shared here
  surround event shared := { shared with rows := disturb event shared.rows }

theorem view_append (keyed : Keyed σ κ ρ) (rows : σ)
    (writes more : List (Write ρ)) :
    view keyed rows (writes ++ more) =
      view keyed (view keyed rows writes) more :=
  List.foldl_append

theorem get_view_snoc (keyed : Keyed σ κ ρ) (rows : σ)
    (writes : List (Write ρ)) (write : Write ρ) :
    keyed.get (view keyed rows (writes ++ [write])) =
      Function.update (keyed.get (view keyed rows writes)) write.key
        (some write.row) := by
  rw [view_append]
  exact keyed.get_set _ _ _

theorem get_view_of_unwritten (keyed : Keyed σ κ ρ) (rows : σ)
    {writes : List (Write ρ)} {key : κ}
    (unwritten : ∀ write ∈ writes, write.key ≠ key) :
    keyed.get (view keyed rows writes) key = keyed.get rows key := by
  induction writes using List.reverseRecOn with
  | nil => rfl
  | append_singleton writes write induction =>
      rw [get_view_snoc, Function.update_of_ne (unwritten write
        (List.mem_append_right writes List.mem_cons_self)).symm]
      exact induction fun earlier member =>
        unwritten earlier (List.mem_append_left _ member)

theorem get_view_of_last (keyed : Keyed σ κ ρ) (rows : σ)
    (done : List (Write ρ)) (write : Write ρ) {rest : List (Write ρ)}
    (last : ∀ other ∈ rest, other.key ≠ write.key) :
    keyed.get (view keyed rows (done ++ write :: rest)) write.key =
      some write.row := by
  rw [view_append]
  exact (get_view_of_unwritten keyed _ last).trans
    ((congrFun (keyed.get_set _ _ _) _).trans (Function.update_self ..))

theorem get_view_congr (keyed : Keyed σ κ ρ) {rows rows' : σ}
    (writes : List (Write ρ)) {key : κ}
    (same : keyed.get rows' key = keyed.get rows key) :
    keyed.get (view keyed rows' writes) key =
      keyed.get (view keyed rows writes) key := by
  induction writes using List.reverseRecOn with
  | nil => exact same
  | append_singleton writes write induction =>
      rw [get_view_snoc, get_view_snoc]
      by_cases isKey : key = write.key
      · subst isKey
        rw [Function.update_self, Function.update_self]
      · rw [Function.update_of_ne isKey, Function.update_of_ne isKey, induction]

end Locked

section Knowledge

variable {σ κ τ α : Type} {ρ : κ → Type} [DecidableEq κ]

open Locked

structure Holds (keyed : Keyed σ κ ρ) (thread : τ) (here : Work σ κ ρ α)
    (shared : Locked σ κ τ) : Prop where
  locked : ∀ write ∈ here.writes, shared.locks write.key = some thread
  grounded : ∀ done write rest, here.writes = done ++ write :: rest →
    keyed.get (view keyed shared.rows done) write.key = write.before

theorem Holds.none {keyed : Keyed σ κ ρ} {thread : τ}
    {progress : Progress σ κ ρ α} {shared : Locked σ κ τ} :
    Holds keyed thread { progress, writes := [] } shared where
  locked := fun _ member => by cases member
  grounded := fun done write rest split => by
    cases done <;> cases split

theorem Holds.move {keyed : Keyed σ κ ρ} {thread : τ}
    {here there : Work σ κ ρ α} {shared : Locked σ κ τ}
    (holds : Holds keyed thread here shared)
    (same : there.writes = here.writes) : Holds keyed thread there shared where
  locked := same ▸ holds.locked
  grounded := same ▸ holds.grounded

theorem Holds.stable {keyed : Keyed σ κ ρ} {thread : τ}
    {here : Work σ κ ρ α} {shared after : Locked σ κ τ}
    (holds : Holds keyed thread here shared)
    (locks : ∀ key, shared.locks key = some thread →
      after.locks key = some thread)
    (rows : ∀ key, shared.locks key = some thread →
      keyed.get after.rows key = keyed.get shared.rows key) :
    Holds keyed thread here after where
  locked := fun write member => locks _ (holds.locked write member)
  grounded := by
    intro done write rest split
    rw [← holds.grounded done write rest split]
    apply get_view_congr
    apply rows
    apply holds.locked
    rw [split]
    exact List.mem_append_right done List.mem_cons_self

theorem Holds.get_view_of_locked {keyed : Keyed σ κ ρ} {thread other : τ}
    {here : Work σ κ ρ α} {shared : Locked σ κ τ}
    (holds : Holds keyed thread here shared) (different : other ≠ thread)
    {key : κ} (held : shared.locks key = some other) :
    keyed.get (view keyed shared.rows here.writes) key =
      keyed.get shared.rows key := by
  apply get_view_of_unwritten
  intro write member same
  have mine := holds.locked write member
  rw [same, held] at mine
  exact different (Option.some.inj mine)

theorem Holds.write {keyed : Keyed σ κ ρ} {thread : τ}
    {progress progress' : Progress σ κ ρ α} {writes : List (Write ρ)}
    {shared : Locked σ κ τ} (holds : Holds keyed thread { progress, writes } shared)
    (key : κ) (row : ρ key) :
    Holds keyed thread {
        progress := progress'
        writes := writes ++ [{
          key
          before := keyed.get (view keyed shared.rows writes) key
          row }] }
      { shared with
        locks := Function.update shared.locks key (some thread) } where
  locked := by
    intro write member
    by_cases same : write.key = key
    · simp only [same, Function.update_self]
    · simp only [Function.update_of_ne same]
      cases List.mem_append.mp member with
      | inl earlier => exact holds.locked write earlier
      | inr last =>
          rw [List.mem_singleton.mp last] at same
          exact absurd rfl same
  grounded := by
    intro done write rest split
    cases List.eq_nil_or_concat rest with
    | inl none =>
        subst none
        obtain ⟨earlier, last⟩ := List.append_inj' split rfl
        subst earlier
        cases List.head_eq_of_cons_eq last
        rfl
    | inr some =>
        obtain ⟨before, last, isRest⟩ := some
        rw [isRest, List.concat_eq_append, ← List.cons_append,
          ← List.append_assoc] at split
        exact holds.grounded done write before
          (List.append_inj' split rfl).1

variable [DecidableEq τ]

omit [DecidableEq κ] in
theorem release_other {shared : Locked σ κ τ} {thread other : τ}
    (different : other ≠ thread) {key : κ}
    (held : shared.locks key = some other) :
    (shared.release thread).locks key = some other := by
  unfold Locked.release
  have kept : shared.locks key ≠ some thread := by
    intro same
    exact different (Option.some.inj (held.symm.trans same))
  simp only [if_neg kept]
  exact held

/-- A transaction that does not commit keeps the rows, and ends by aborting
only. -/
theorem advance_cases (keyed : Keyed σ κ ρ) (thread : τ)
    (shared : Locked σ κ τ) (here : Work σ κ ρ α) :
    ((advance keyed thread shared here).1.rows = shared.rows ∧
      ∀ value, (advance keyed thread shared here).2.progress =
          .ended (some value) →
        here.progress = .ended (some value) ∨
          here.progress = .ready (.abort value)) ∨
      ∃ value, here.progress = .ready (.commit value) ∧
        (advance keyed thread shared here).1.rows =
          view keyed shared.rows here.writes := by
  obtain ⟨progress, writes⟩ := here
  cases progress with
  | ended result => exact .inl ⟨rfl, fun _ ended => .inl ended⟩
  | ready script =>
      cases script with
      | commit value => exact .inr ⟨value, rfl, rfl⟩
      | abort value =>
          refine .inl ⟨rfl, fun other ended => .inr ?_⟩
          cases ended
          rfl
      | read next => exact .inl ⟨rfl, fun _ ended => by cases ended⟩
      | update candidates edit next =>
          exact .inl ⟨rfl, fun _ ended => by cases ended⟩
  | updating snapshot remaining affected edit next =>
      left
      cases remaining with
      | nil => exact ⟨rfl, fun _ ended => by cases ended⟩
      | cons key rest =>
          simp only [advance, updateRow]
          split
          · split
            · exact ⟨rfl, fun _ ended => by cases ended⟩
            · exact ⟨rfl, fun _ ended => by cases ended⟩
          · exact ⟨rfl, fun _ ended => by cases ended⟩

omit [DecidableEq κ] in
theorem fail_rows (thread : τ) (shared : Locked σ κ τ) (here : Work σ κ ρ α) :
    (fail thread shared here).1.rows = shared.rows := by
  unfold fail
  split <;> rfl

theorem fail_holds {keyed : Keyed σ κ ρ} {thread : τ}
    {shared : Locked σ κ τ} {here : Work σ κ ρ α}
    (holds : Holds keyed thread here shared) :
    Holds keyed thread (fail thread shared here).2
      (fail thread shared here).1 := by
  unfold fail
  split
  · exact holds
  · exact Holds.none

theorem advance_holds {keyed : Keyed σ κ ρ} {thread : τ}
    {shared : Locked σ κ τ} {here : Work σ κ ρ α}
    (holds : Holds keyed thread here shared) :
    Holds keyed thread (advance keyed thread shared here).2
      (advance keyed thread shared here).1 := by
  unfold advance
  split
  · exact holds
  · exact Holds.none
  · exact Holds.none
  · exact holds.move rfl
  · exact holds.move rfl
  · exact holds.move rfl
  · unfold updateRow
    split
    · simp only
      split
      · exact holds.move rfl
      · exact Holds.write (holds.move rfl) _ _
    · exact holds.move rfl

theorem advance_locks {keyed : Keyed σ κ ρ} {thread other : τ}
    (different : other ≠ thread) {shared : Locked σ κ τ}
    {here : Work σ κ ρ α} {key : κ} (held : shared.locks key = some other) :
    (advance keyed thread shared here).1.locks key = some other := by
  unfold advance
  split
  · exact held
  · exact release_other different held
  · exact release_other different held
  · exact held
  · exact held
  · exact held
  · unfold updateRow
    split
    · rename_i free
      simp only
      split
      · exact held
      · rename_i target _ _ _ _ _ _ _ _
        have apart : key ≠ target := by
          intro same
          rw [← same, held] at free
          cases free with
          | inl absent => cases absent
          | inr mine => exact different (Option.some.inj mine)
        exact (Function.update_of_ne apart _ _).trans held
    · exact held

omit [DecidableEq κ] in
theorem fail_locks {thread other : τ} (different : other ≠ thread)
    {shared : Locked σ κ τ} {here : Work σ κ ρ α} {key : κ}
    (held : shared.locks key = some other) :
    (fail thread shared here).1.locks key = some other := by
  unfold fail
  split
  · exact held
  · exact release_other different held

end Knowledge

/-! Row versions that follow one another: when every edit of a transaction
respects a relation, so does what it commits. -/

section Following

variable {σ κ τ α : Type} {ρ : κ → Type}

open Locked

/-- A preorder on the versions of each row. -/
structure Succession (ρ : κ → Type) where
  follows : ∀ key, Option (ρ key) → Option (ρ key) → Prop
  refl : ∀ key row, follows key row row
  trans : ∀ key first second third, follows key first second →
    follows key second third → follows key first third

/-- Rows that stay once they are there, and change within a relation. -/
def Succession.keeping (keeps : ∀ key, ρ key → ρ key → Prop)
    (refl : ∀ key row, keeps key row row)
    (trans : ∀ key first second third, keeps key first second →
      keeps key second third → keeps key first third) : Succession ρ where
  follows := fun key before after =>
    ∀ row, before = some row → ∃ row', after = some row' ∧ keeps key row row'
  refl := fun key _ row found => ⟨row, found, refl key row⟩
  trans := by
    intro key first second third earlier later row found
    obtain ⟨row', found', kept⟩ := earlier row found
    obtain ⟨row'', found'', kept'⟩ := later row' found'
    exact ⟨row'', found'', trans key _ _ _ kept kept'⟩

variable (succession : Succession ρ)

def Edit.Respects (edit : Edit σ κ ρ) : Prop :=
  ∀ snapshot key current row, edit snapshot key current = some row →
    succession.follows key current (some row)

def Script.Respects : Script σ κ ρ α → Prop
  | .commit _ => True
  | .abort _ => True
  | .read next => ∀ rows, (next rows).Respects
  | .update _ edit next =>
      edit.Respects succession ∧ ∀ affected, (next affected).Respects

def Progress.Respects : Progress σ κ ρ α → Prop
  | .ready script => script.Respects succession
  | .updating _ _ _ edit next =>
      edit.Respects succession ∧
        ∀ affected, (next affected).Respects succession
  | .ended _ => True

structure Following (here : Work σ κ ρ α) : Prop where
  progress : here.progress.Respects succession
  writes : ∀ write ∈ here.writes,
    succession.follows write.key write.before (some write.row)

variable [DecidableEq κ] {keyed : Keyed σ κ ρ} {succession}

omit [DecidableEq κ] in
theorem Following.ended (result : Option α) :
    Following succession
      ({ progress := .ended result, writes := [] } : Work σ κ ρ α) :=
  ⟨trivial, fun _ member => by cases member⟩

theorem advance_following [DecidableEq τ] {thread : τ}
    {shared : Locked σ κ τ} {here : Work σ κ ρ α}
    (following : Following succession here) :
    Following succession (advance keyed thread shared here).2 := by
  obtain ⟨progress, writes⟩ := here
  cases progress with
  | ended result => exact following
  | ready script =>
      cases script with
      | commit value => exact Following.ended _
      | abort value => exact Following.ended _
      | read next => exact ⟨following.progress _, following.writes⟩
      | update candidates edit next =>
          exact ⟨following.progress, following.writes⟩
  | updating snapshot remaining affected edit next =>
      cases remaining with
      | nil => exact ⟨following.progress.2 affected, following.writes⟩
      | cons key rest =>
          simp only [advance, updateRow]
          split
          · split
            · exact ⟨following.progress, following.writes⟩
            · rename_i row edited
              refine ⟨following.progress, fun write member => ?_⟩
              cases List.mem_append.mp member with
              | inl earlier => exact following.writes write earlier
              | inr last =>
                  rw [List.mem_singleton.mp last]
                  exact following.progress.1 _ _ _ _ edited
          · exact ⟨following.progress, following.writes⟩

theorem view_follows {thread : τ} {here : Work σ κ ρ α}
    {shared : Locked σ κ τ} (holds : Holds keyed thread here shared)
    (following : Following succession here) (key : κ) :
    succession.follows key (keyed.get shared.rows key)
      (keyed.get (view keyed shared.rows here.writes) key) := by
  obtain ⟨progress, writes⟩ := here
  induction writes using List.reverseRecOn with
  | nil => exact succession.refl key _
  | append_singleton writes write induction =>
      have earlier := induction
        ⟨fun other member =>
            holds.locked other (List.mem_append_left _ member),
          fun done other rest split => holds.grounded done other
            (rest ++ [write]) (by simp only at split; simp [split])⟩
        ⟨following.progress, fun other member =>
          following.writes other (List.mem_append_left _ member)⟩
      simp only [get_view_snoc]
      by_cases same : key = write.key
      · subst same
        have seen := holds.grounded writes write [] rfl
        have step := following.writes write
          (List.mem_append_right writes List.mem_cons_self)
        rw [Function.update_self]
        rw [← seen] at step
        exact succession.trans _ _ _ _ earlier step
      · rw [Function.update_of_ne same]
        exact earlier

end Following

section Transactions

variable {σ κ τ α ν : Type} {ρ : κ → Type} [DecidableEq κ]

open Locked

/-- Every row of a state follows the one of an earlier state. -/
def Since (keyed : Keyed σ κ ρ) (succession : Succession ρ)
    (earlier later : σ) : Prop :=
  ∀ key, succession.follows key (keyed.get earlier key) (keyed.get later key)

variable {keyed : Keyed σ κ ρ} {succession : Succession ρ}

theorem Since.refl (rows : σ) : Since keyed succession rows rows :=
  fun key => succession.refl key _

theorem Since.trans {first second third : σ}
    (earlier : Since keyed succession first second)
    (later : Since keyed succession second third) :
    Since keyed succession first third :=
  fun key => succession.trans key _ _ _ (earlier key) (later key)

theorem Since.of_get {earlier later : σ}
    (same : keyed.get later = keyed.get earlier) :
    Since keyed succession earlier later := by
  intro key
  rw [same]
  exact succession.refl key _

theorem view_since_snoc (rows : σ) {writes : List (Write ρ)} {write : Write ρ}
    (follows : succession.follows write.key
      (keyed.get (view keyed rows writes) write.key) (some write.row)) :
    Since keyed succession (view keyed rows writes)
      (view keyed rows (writes ++ [write])) := by
  intro key
  rw [get_view_snoc]
  by_cases same : key = write.key
  · subst same
    rw [Function.update_self]
    exact follows
  · rw [Function.update_of_ne same]
    exact succession.refl key _

theorem Holds.view_since {thread : τ} {here : Work σ κ ρ α}
    {shared : Locked σ κ τ} {rows : σ} (holds : Holds keyed thread here shared)
    (since : Since keyed succession shared.rows rows)
    (locked : ∀ key, shared.locks key = some thread →
      keyed.get rows key = keyed.get shared.rows key) :
    Since keyed succession (view keyed shared.rows here.writes)
      (view keyed rows here.writes) := by
  intro key
  by_cases written : ∃ write ∈ here.writes, write.key = key
  · obtain ⟨write, member, isKey⟩ := written
    have mine := holds.locked write member
    rw [isKey] at mine
    rw [get_view_congr keyed here.writes (locked key mine)]
    exact succession.refl key _
  · have unwritten : ∀ write ∈ here.writes, write.key ≠ key := by
      intro write member isKey
      exact written ⟨write, member, isKey⟩
    rw [get_view_of_unwritten keyed _ unwritten,
      get_view_of_unwritten keyed _ unwritten]
    exact since key

variable [DecidableEq τ]

/-- A property of a transaction at its place and of the rows it sees: its own
moves keep it, and so do the versions that follow. -/
structure Closed (keyed : Keyed σ κ ρ) (succession : Succession ρ)
    (thread : τ) (property : Work σ κ ρ α → σ → Prop) : Prop where
  advance : ∀ shared here, Following succession here →
    property here (view keyed shared.rows here.writes) →
      property (Locked.advance keyed thread shared here).2
        (view keyed (Locked.advance keyed thread shared here).1.rows
          (Locked.advance keyed thread shared here).2.writes)
  later : ∀ here earlier rows, Since keyed succession earlier rows →
    property here earlier → property here rows
  ended : ∀ result rows, property { progress := .ended result, writes := [] } rows

def Knowing (keyed : Keyed σ κ ρ) (succession : Succession ρ)
    (property : τ → Work σ κ ρ α → σ → Prop) (thread : τ)
    (here : Work σ κ ρ α) (shared : Locked σ κ τ) : Prop :=
  Holds keyed thread here shared ∧ Following succession here ∧
    property thread here (view keyed shared.rows here.writes)

variable {disturb : ν → σ → σ} {property : τ → Work σ κ ρ α → σ → Prop}

theorem act_since {thread : τ} {action : WorkAction} {shared : Locked σ κ τ}
    {here : Work σ κ ρ α} (holds : Holds keyed thread here shared)
    (following : Following succession here) :
    Since keyed succession shared.rows
      ((system keyed disturb).act thread action shared here).1.rows := by
  cases action with
  | advance =>
      cases advance_cases keyed thread shared here with
      | inl same => exact Since.of_get (congrArg keyed.get same.1)
      | inr commits =>
          obtain ⟨value, -, same⟩ := commits
          intro key
          exact (congrArg (fun rows => succession.follows key _
            (keyed.get rows key)) same).mpr (view_follows holds following key)
  | fail => exact Since.of_get (congrArg keyed.get (fail_rows thread shared here))

theorem act_locked {thread other : τ} {action : WorkAction}
    {shared : Locked σ κ τ} {here : Work σ κ ρ α}
    (holds : Holds keyed thread here shared) (different : other ≠ thread)
    {key : κ} (held : shared.locks key = some other) :
    ((system keyed disturb).act thread action shared here).1.locks key =
        some other ∧
      keyed.get ((system keyed disturb).act thread action shared here).1.rows
        key = keyed.get shared.rows key := by
  cases action with
  | advance =>
      refine ⟨advance_locks different held, ?_⟩
      cases advance_cases keyed thread shared here with
      | inl same => exact congrArg (fun rows => keyed.get rows key) same.1
      | inr commits =>
          obtain ⟨value, -, same⟩ := commits
          exact (congrArg (fun rows => keyed.get rows key) same).trans
            (holds.get_view_of_locked different held)
  | fail =>
      exact ⟨fail_locks different held,
        congrArg (fun rows => keyed.get rows key) (fail_rows thread shared here)⟩

theorem work_proof (start : σ)
    (closed : ∀ thread, Closed keyed succession thread (property thread))
    (undisturbed : ∀ event rows,
      keyed.get (disturb event rows) = keyed.get rows) :
    (system keyed disturb).Proof
      (fun shared : Locked σ κ τ => Since keyed succession start shared.rows)
      (Knowing keyed succession property) where
  own := by
    intro thread action shared here since knows
    obtain ⟨holds, following, has⟩ := knows
    refine ⟨since.trans (act_since holds following), ?_⟩
    cases action with
    | advance =>
        exact ⟨advance_holds holds, advance_following following,
          (closed thread).advance shared here following has⟩
    | fail =>
        refine ⟨fail_holds holds, ?_⟩
        change Following succession (fail thread shared here).2 ∧
          property thread (fail thread shared here).2
            (view keyed (fail thread shared here).1.rows
              (fail thread shared here).2.writes)
        unfold fail
        split
        · exact ⟨following, has⟩
        · exact ⟨Following.ended none, (closed thread).ended none _⟩
  others := by
    intro thread action shared here other there different _ knows knowsOther
    obtain ⟨holds, following, -⟩ := knows
    obtain ⟨holdsOther, followingOther, hasOther⟩ := knowsOther
    refine ⟨holdsOther.stable ?_ ?_, followingOther, ?_⟩
    · exact fun key held => (act_locked holds different held).1
    · exact fun key held => (act_locked holds different held).2
    · apply (closed other).later there _ _ _ hasOther
      apply holdsOther.view_since (act_since holds following)
      exact fun key held => (act_locked holds different held).2
  surroundings := by
    intro event shared since
    exact since.trans (Since.of_get (undisturbed event shared.rows))
  surrounded := by
    intro event shared thread here _ knows
    obtain ⟨holds, following, has⟩ := knows
    have same := fun key => congrFun (undisturbed event shared.rows) key
    refine ⟨holds.stable (fun _ held => held) fun key _ => same key, following,
      ?_⟩
    apply (closed thread).later here _ _ _ has
    exact holds.view_since (Since.of_get (undisturbed event shared.rows))
      fun key _ => same key

/-- A database right when its transactions start. -/
def started (rows : σ) (script : τ → Script σ κ ρ α) :
    Configuration τ (Locked σ κ τ) (Work σ κ ρ α) where
  shared := { rows, locks := fun _ => none }
  locals := fun thread => { progress := .ready (script thread), writes := [] }

variable {start : σ} {script : τ → Script σ κ ρ α}

theorem replay_knowing (start : σ)
    (respects : ∀ thread, (script thread).Respects succession)
    (closed : ∀ thread, Closed keyed succession thread (property thread))
    (undisturbed : ∀ event rows,
      keyed.get (disturb event rows) = keyed.get rows)
    (initially : ∀ thread, property thread {
      progress := .ready (script thread), writes := [] } start)
    (events : List (Event τ WorkAction ν)) :
    Interleaving.Established
      (fun shared : Locked σ κ τ => Since keyed succession start shared.rows)
      (Knowing keyed succession property)
      ((system keyed disturb).replay (started start script) events) := by
  apply (work_proof start closed undisturbed).replay
  refine ⟨Since.refl start, fun thread => ?_⟩
  exact ⟨Holds.none, ⟨respects thread, fun _ member => by cases member⟩,
    initially thread⟩

theorem replay_since
    (respects : ∀ thread, (script thread).Respects succession)
    (undisturbed : ∀ event rows,
      keyed.get (disturb event rows) = keyed.get rows)
    (events later : List (Event τ WorkAction ν)) :
    Since keyed succession
      ((system keyed disturb).replay (started start script)
        events).shared.rows
      ((system keyed disturb).replay (started start script)
        (events ++ later)).shared.rows := by
  have anything : ∀ thread : τ, Closed keyed succession thread
      fun (_ : Work σ κ ρ α) (_ : σ) => True :=
    fun _ => ⟨fun _ _ _ _ => trivial, fun _ _ _ _ _ => trivial,
      fun _ _ => trivial⟩
  have before := replay_knowing start respects anything undisturbed
    (fun _ => trivial) events
  rw [Interleaving.replay_append]
  exact ((work_proof _ anything undisturbed).replay
    ⟨Since.refl _, before.locals⟩ later).shared

end Transactions

section Ends

variable {σ κ τ α ν : Type} {ρ : κ → Type} [DecidableEq κ]

open Locked

/-- The rows one update may write: it takes the candidates it started with one
by one, each at the version it finds by then. -/
inductive Updates (keyed : Keyed σ κ ρ) (succession : Succession ρ)
    (edit : Edit σ κ ρ) (snapshot : σ) : List κ → List (Write ρ) → Prop where
  | nil : Updates keyed succession edit snapshot [] []
  | take {rest : List κ} {writes : List (Write ρ)} (write : Write ρ)
      (edited : edit snapshot write.key write.before = some write.row)
      (follows : succession.follows write.key
        (keyed.get snapshot write.key) write.before)
      (updates : Updates keyed succession edit snapshot rest writes) :
      Updates keyed succession edit snapshot (write.key :: rest)
        (write :: writes)
  | skip {rest : List κ} {writes : List (Write ρ)} (key : κ)
      (current : Option (ρ key))
      (declined : edit snapshot key current = none)
      (updates : Updates keyed succession edit snapshot rest writes) :
      Updates keyed succession edit snapshot (key :: rest) writes

section Goals

variable (keyed : Keyed σ κ ρ) (succession : Succession ρ)
  (goal : α → List (Write ρ) → σ → Prop) (refusal : α → Prop)

/-- Whenever the script commits, the goal holds of what it has written and of
the rows it leaves; whenever it aborts, the refusal does.  `seen` is what it
has seen, and holds from then on. -/
def Script.Ends :
    Script σ κ ρ α → (σ → Prop) → List (Write ρ) → Prop
  | .commit value, seen, writes => ∀ rows, seen rows → goal value writes rows
  | .abort value, _, _ => refusal value
  | .read next, seen, writes => ∀ rows, seen rows →
      (next rows).Ends
        (fun later => seen later ∧ Since keyed succession rows later) writes
  | .update candidates edit next, seen, writes => ∀ rows more, seen rows →
      Updates keyed succession edit rows (candidates rows) more →
        (next more.length).Ends
          (fun later => seen later ∧ Since keyed succession rows later)
          (writes ++ more)

def Lasting (seen : σ → Prop) : Prop :=
  ∀ earlier later, Since keyed succession earlier later →
    seen earlier → seen later

def Work.Ends (here : Work σ κ ρ α) (rows : σ) : Prop :=
  match here.progress with
  | .ready script => ∃ seen, Lasting keyed succession seen ∧ seen rows ∧
      script.Ends keyed succession goal refusal seen here.writes
  | .updating snapshot remaining affected edit next =>
      ∃ seen, Lasting keyed succession seen ∧ seen rows ∧
        Since keyed succession snapshot rows ∧
        ∀ more, Updates keyed succession edit snapshot remaining more →
          (next (affected + more.length)).Ends keyed succession goal refusal seen
            (here.writes ++ more)
  | .ended _ => True

end Goals

variable {keyed : Keyed σ κ ρ} {succession : Succession ρ}
  {goal : α → List (Write ρ) → σ → Prop} {refusal : α → Prop}

theorem Lasting.beyond {seen : σ → Prop}
    (lasting : Lasting keyed succession seen) (rows : σ) :
    Lasting keyed succession
      fun later => seen later ∧ Since keyed succession rows later :=
  fun earlier later since both =>
    ⟨lasting earlier later since both.1, both.2.trans since⟩

theorem Updates.of_mem {edit : Edit σ κ ρ} {snapshot : σ}
    {candidates : List κ} {writes : List (Write ρ)}
    (updates : Updates keyed succession edit snapshot candidates writes)
    {write : Write ρ} (member : write ∈ writes) :
    edit snapshot write.key write.before = some write.row ∧
      succession.follows write.key (keyed.get snapshot write.key)
        write.before := by
  induction updates with
  | nil => cases member
  | take first edited follows updates induction =>
      cases List.mem_cons.mp member with
      | inl same => exact same ▸ ⟨edited, follows⟩
      | inr later => exact induction later
  | skip key current declined updates induction => exact induction member

theorem Updates.single {edit : Edit σ κ ρ} {snapshot : σ}
    {candidates : List κ} {writes : List (Write ρ)}
    (updates : Updates keyed succession edit snapshot candidates writes)
    (one : writes.length = 1) :
    ∃ write, writes = [write] ∧
      edit snapshot write.key write.before = some write.row ∧
      succession.follows write.key (keyed.get snapshot write.key)
        write.before := by
  obtain ⟨write, rfl⟩ := List.length_eq_one_iff.mp one
  exact ⟨write, rfl, updates.of_mem List.mem_cons_self⟩

theorem Updates.certain {edit : Edit σ κ ρ} {snapshot : σ} {key : κ}
    {writes : List (Write ρ)} (takes : ∀ current, edit snapshot key current ≠ none)
    (updates : Updates keyed succession edit snapshot [key] writes) :
    ∃ before row, writes = [{ key, before, row }] ∧
      edit snapshot key before = some row := by
  cases updates with
  | take write edited follows updates =>
      cases updates
      exact ⟨write.before, write.row, rfl, edited⟩
  | skip _ current declined updates => exact absurd declined (takes current)

variable [DecidableEq τ] {disturb : ν → σ → σ} {start : σ}

theorem ends_closed (thread : τ) :
    Closed keyed succession thread
      (Work.Ends keyed succession goal refusal) where
  ended := fun _ _ => trivial
  later := by
    intro here earlier rows since commits
    obtain ⟨progress, writes⟩ := here
    cases progress with
    | ended result => trivial
    | ready script =>
        obtain ⟨seen, lasting, now, will⟩ := commits
        exact ⟨seen, lasting, lasting _ _ since now, will⟩
    | updating snapshot remaining affected edit next =>
        obtain ⟨seen, lasting, now, behind, will⟩ := commits
        exact ⟨seen, lasting, lasting _ _ since now, behind.trans since, will⟩
  advance := by
    intro shared here following commits
    obtain ⟨progress, writes⟩ := here
    cases progress with
    | ended result => trivial
    | ready script =>
        obtain ⟨seen, lasting, now, will⟩ := commits
        cases script with
        | commit value => trivial
        | abort value => trivial
        | read next =>
            exact ⟨_, lasting.beyond _, ⟨now, Since.refl _⟩, will _ now⟩
        | update candidates edit next =>
            refine ⟨_, lasting.beyond _, ⟨now, Since.refl _⟩, Since.refl _, ?_⟩
            intro more updates
            rw [Nat.zero_add]
            exact will _ more now updates
    | updating snapshot remaining affected edit next =>
        obtain ⟨seen, lasting, now, behind, will⟩ := commits
        cases remaining with
        | nil =>
            have done := will [] .nil
            rw [List.append_nil] at done
            exact ⟨seen, lasting, now, done⟩
        | cons key rest =>
            simp only [advance, updateRow]
            split
            · split
              · rename_i declined
                exact ⟨seen, lasting, now, behind, fun more updates =>
                  will more (.skip key _ declined updates)⟩
              · rename_i row edited
                let write : Write ρ := {
                  key
                  before := keyed.get (view keyed shared.rows writes) key
                  row }
                have since := @view_since_snoc σ κ ρ _ keyed succession
                  shared.rows writes write
                  (following.progress.1 _ _ _ _ edited)
                refine ⟨seen, lasting, lasting _ _ since now,
                  behind.trans since, fun more updates => ?_⟩
                have taken := will (write :: more)
                  (.take write edited (behind key) updates)
                rw [List.length_cons] at taken
                simp only [List.append_assoc, List.singleton_append]
                rwa [Nat.add_assoc, Nat.add_comm 1]
            · exact ⟨seen, lasting, now, behind, will⟩

theorem Script.ends_anyway (script : Script σ κ ρ α) (seen : σ → Prop)
    (writes : List (Write ρ)) :
    script.Ends keyed succession (fun _ _ _ => True) (fun _ => True) seen
      writes := by
  induction script generalizing seen writes with
  | commit value => exact fun _ _ => trivial
  | abort value => trivial
  | read next induction => exact fun rows _ => induction rows _ _
  | update candidates edit next induction =>
      exact fun rows more _ _ => induction _ _ _

/-- A move of a transaction leaves the rows as they are, or commits all it has
written, on top of the versions it found under its locks. -/
theorem step_ends {script : τ → Script σ κ ρ α}
    (goals : τ → α → List (Write ρ) → σ → Prop) (refusals : τ → α → Prop)
    (respects : ∀ thread, (script thread).Respects succession)
    (undisturbed : ∀ event rows,
      keyed.get (disturb event rows) = keyed.get rows)
    (ends : ∀ thread, (script thread).Ends keyed succession (goals thread)
      (refusals thread) (fun _ => True) [])
    (events : List (Event τ WorkAction ν)) (thread : τ)
    (action : WorkAction) :
    let before := (system keyed disturb).replay (started start script) events
    let after := (system keyed disturb).step before (.moves thread action)
    (after.shared.rows = before.shared.rows ∧
      ∀ value, (after.locals thread).progress = .ended (some value) →
        (before.locals thread).progress = .ended (some value) ∨
          refusals thread value) ∨
      ∃ value writes, goals thread value writes after.shared.rows ∧
        after.shared.rows = view keyed before.shared.rows writes ∧
        ∀ done write rest, writes = done ++ write :: rest →
          keyed.get (view keyed before.shared.rows done) write.key =
            write.before := by
  intro before after
  have established := replay_knowing start respects
    (fun thread => @ends_closed _ _ _ _ _ _ _ _ (goals thread)
      (refusals thread) _ thread)
    undisturbed (fun thread => ⟨fun _ => True, fun _ _ _ _ => trivial, trivial,
      ends thread⟩) events
  obtain ⟨holds, -, will⟩ := established.locals thread
  have place : after.locals thread = ((system keyed disturb).act thread action
      before.shared (before.locals thread)).2 := Function.update_self ..
  rw [place]
  cases action with
  | fail =>
      refine .inl ⟨fail_rows thread _ _, fun value => ?_⟩
      change (fail thread before.shared (before.locals thread)).2.progress =
        .ended (some value) → _
      unfold fail
      split
      · exact .inl
      · intro impossible
        cases impossible
  | advance =>
      cases advance_cases keyed thread before.shared (before.locals thread) with
      | inl same =>
          refine .inl ⟨same.1, fun value ended => ?_⟩
          cases same.2 value ended with
          | inl already => exact .inl already
          | inr aborts =>
              unfold Work.Ends at will
              rw [aborts] at will
              obtain ⟨seen, -, -, will⟩ := will
              exact .inr will
      | inr committed =>
          obtain ⟨value, isCommit, same⟩ := committed
          unfold Work.Ends at will
          rw [isCommit] at will
          obtain ⟨seen, -, now, will⟩ := will
          have goal := will _ now
          rw [← same] at goal
          exact .inr ⟨value, _, goal, same, holds.grounded⟩

end Ends

end NvidiaBuildLb.Foundation
