import NvidiaBuildLb.Foundation.Transaction

namespace NvidiaBuildLb.Foundation.Transaction

/-! Transactions that run to their end while the server refuses none of their
statements. -/

variable {σ ε α β ι : Type}

def Completes (pre : σ → Prop) (body : Transaction σ ε α) (post : α → σ → Prop) : Prop :=
  ∀ session, (∀ index, session.refuses index = false) → pre session.rows →
    ∃ value after, body session = .ok (value, after) ∧
      (∀ index, after.refuses index = false) ∧ post value after.rows

namespace Completes

variable {pre : σ → Prop} {post : α → σ → Prop}

theorem pure {value : α} (ends : ∀ rows, pre rows → post value rows) :
    Completes pre (Pure.pure value : Transaction σ ε α) post :=
  fun session served holds => ⟨value, session, rfl, served, ends session.rows holds⟩

theorem bind {post : β → σ → Prop} (middle : α → σ → Prop) {first : Transaction σ ε α}
    {next : α → Transaction σ ε β} (begins : Completes pre first middle)
    (continues : ∀ value, Completes (middle value) (next value) post) :
    Completes pre (first >>= next) post := by
  intro session served holds
  obtain ⟨value, between, ran, stillServed, reached⟩ := begins session served holds
  obtain ⟨result, after, ranOn, served', ends⟩ :=
    continues value between stillServed reached
  exact ⟨result, after, bind_eq_ok.mpr ⟨value, between, ran, ranOn⟩, served', ends⟩

theorem execute {refused : ε} {statement : σ → Option (α × σ)}
    (answers : ∀ rows, pre rows → ∃ answer rows',
      statement rows = some (answer, rows') ∧ post answer rows') :
    Completes pre (execute refused statement) post := by
  intro session served holds
  obtain ⟨answer, rows', answered, ends⟩ := answers session.rows holds
  exact ⟨answer, _, execute_eq_ok.mpr ⟨served 0, rows', answered, rfl⟩,
    fun index => served (index + 1), ends⟩

theorem refuseIf {post : PUnit → σ → Prop} {condition : Bool} {error : ε}
    (ends : ∀ rows, pre rows → condition = false ∧ post PUnit.unit rows) :
    Completes pre (refuseIf condition error) post := by
  intro session served holds
  obtain ⟨passes, reached⟩ := ends session.rows holds
  exact ⟨PUnit.unit, session, refuseIf_eq_ok.mpr ⟨passes, rfl⟩, served, reached⟩

theorem forM {invariant : σ → Prop} {items : List ι} {body : ι → Transaction σ ε PUnit}
    (each : ∀ item ∈ items, Completes invariant (body item) fun _ => invariant) :
    Completes invariant (items.forM body) fun _ => invariant := by
  induction items with
  | nil => exact pure fun _ holds => holds
  | cons item rest induction =>
      refine bind (fun _ => invariant) (each item List.mem_cons_self) fun _ => ?_
      exact induction fun later member => each later (List.mem_cons_of_mem item member)

theorem forM_through {pre post : σ → Prop} {front back : List ι} {item : ι}
    {body : ι → Transaction σ ε PUnit}
    (earlier : ∀ entry ∈ front, Completes pre (body entry) fun _ => pre)
    (crosses : Completes pre (body item) fun _ => post)
    (later : ∀ entry ∈ back, Completes post (body entry) fun _ => post) :
    Completes pre ((front ++ item :: back).forM body) fun _ => post := by
  induction front with
  | nil => exact bind (fun _ => post) crosses fun _ => forM later
  | cons entry rest induction =>
      refine bind (fun _ => pre) (earlier entry List.mem_cons_self) fun _ => ?_
      exact induction fun other member => earlier other (List.mem_cons_of_mem entry member)

theorem transact {body : Transaction σ ε α} (completes : Completes pre body post)
    {refuses : Nat → Bool} (served : ∀ index, refuses index = false) {rows : σ}
    (holds : pre rows) : ∃ value after, body.transact refuses rows = (.ok value, after) := by
  obtain ⟨value, after, ran, -, -⟩ := completes ⟨rows, refuses⟩ served holds
  exact ⟨value, after.rows, transact_eq_ok.mpr ⟨after, ran, rfl⟩⟩

end Completes

end NvidiaBuildLb.Foundation.Transaction
