import Mathlib.Data.List.Basic

namespace NvidiaBuildLb.Foundation

/-! Database transactions: statements run one after another on the rows the
transaction sees, the server may refuse any of them, and only a transaction
that ran to its end leaves a trace. -/

/-- The rows as the open transaction sees them, and which of the statements
still to come the server is going to refuse. -/
structure Session (σ : Type) where
  rows : σ
  refuses : Nat → Bool

abbrev Transaction (σ ε : Type) := StateT (Session σ) (Except ε)

namespace Transaction

variable {σ ε α β ι : Type}

/-- One statement: it answers and changes the rows, or it is refused, by the
rows themselves or for a reason of the server's. -/
def execute (refused : ε) (statement : σ → Option (α × σ)) :
    Transaction σ ε α := fun session =>
  if session.refuses 0 then
    .error refused
  else
    match statement session.rows with
    | none => .error refused
    | some (answer, rows) =>
        .ok (answer, { rows, refuses := fun index => session.refuses (index + 1) })

def bail (error : ε) : Transaction σ ε α := fun _ => .error error

def refuseIf (condition : Bool) (error : ε) : Transaction σ ε PUnit :=
  if condition then bail error else pure ()

def lift (result : Except ε α) : Transaction σ ε α := fun session =>
  result.map fun value => (value, session)

/-- The rows are the transaction's own when it ends, and the ones it started
from when it does not. -/
def transact (body : Transaction σ ε α) (refuses : Nat → Bool) (rows : σ) :
    Except ε α × σ :=
  match body { rows, refuses } with
  | .error error => (.error error, rows)
  | .ok (value, session) => (.ok value, session.rows)

/-- What the caller hears of a COMMIT that took effect. -/
inductive Acknowledgement where
  | received
  | lost
  deriving DecidableEq, Repr

/-- A transaction whose COMMIT may take effect without its caller hearing of it:
the rows are the transaction's own, and the caller is told of an error. -/
def commit (body : Transaction σ ε α) (refuses : Nat → Bool)
    (acknowledgement : Acknowledgement) (unheard : ε) (rows : σ) : Except ε α × σ :=
  match body.transact refuses rows, acknowledgement with
  | (.ok _, after), .lost => (.error unheard, after)
  | ended, _ => ended

theorem pure_apply (value : α) (session : Session σ) :
    (pure value : Transaction σ ε α) session = .ok (value, session) :=
  rfl

theorem bind_eq_ok {first : Transaction σ ε α} {next : α → Transaction σ ε β}
    {session after : Session σ} {value : β} :
    (first >>= next) session = .ok (value, after) ↔
      ∃ middle between, first session = .ok (middle, between) ∧
        next middle between = .ok (value, after) := by
  cases ran : first session with
  | error error =>
      simp [Bind.bind, StateT.bind, ran, Except.bind]
  | ok reached =>
      obtain ⟨middle, between⟩ := reached
      simp [Bind.bind, StateT.bind, ran, Except.bind]

theorem execute_eq_ok {refused : ε} {statement : σ → Option (α × σ)}
    {session after : Session σ} {value : α} :
    execute refused statement session = .ok (value, after) ↔
      session.refuses 0 = false ∧
      ∃ rows, statement session.rows = some (value, rows) ∧
        after = ⟨rows, fun index => session.refuses (index + 1)⟩ := by
  unfold execute
  cases session.refuses 0 with
  | true => simp
  | false =>
      cases ran : statement session.rows with
      | none => simp
      | some result =>
          obtain ⟨answer, rows⟩ := result
          simp [eq_comm]

theorem refuseIf_eq_ok {condition : Bool} {error : ε}
    {session after : Session σ} {value : PUnit} :
    refuseIf condition error session = .ok (value, after) ↔
      condition = false ∧ after = session := by
  cases condition with
  | true => simp [refuseIf, bail]
  | false =>
      refine ⟨fun done => ⟨rfl, ?_⟩, ?_⟩
      · cases done
        rfl
      · rintro ⟨-, rfl⟩
        rfl

theorem transact_eq_ok {body : Transaction σ ε α} {refuses : Nat → Bool}
    {rows after : σ} {value : α} :
    body.transact refuses rows = (.ok value, after) ↔
      ∃ session, body ⟨rows, refuses⟩ = .ok (value, session) ∧
        session.rows = after := by
  unfold transact
  cases ran : body ⟨rows, refuses⟩ with
  | error error => simp
  | ok reached =>
      obtain ⟨result, session⟩ := reached
      simp

theorem transact_error {body : Transaction σ ε α} {refuses : Nat → Bool}
    {rows : σ} {error : ε} (failed : (body.transact refuses rows).1 = .error error) :
    (body.transact refuses rows).2 = rows := by
  unfold transact at failed ⊢
  split
  · rfl
  · rename_i value session ran
    rw [ran] at failed
    cases failed

section Commit

variable {body : Transaction σ ε α} {refuses : Nat → Bool}
  {acknowledgement : Acknowledgement} {unheard : ε} {rows after : σ}

theorem commit_received :
    body.commit refuses .received unheard rows = body.transact refuses rows := by
  unfold commit
  split
  · rename_i lost
    cases lost
  · rfl

theorem commit_rows :
    (body.commit refuses acknowledgement unheard rows).2 = (body.transact refuses rows).2 := by
  unfold commit
  split
  · rename_i ran
    rw [ran]
  · rfl

theorem commit_eq_ok {value : α} :
    body.commit refuses acknowledgement unheard rows = (.ok value, after) ↔
      acknowledgement = .received ∧ body.transact refuses rows = (.ok value, after) := by
  cases acknowledgement with
  | received => rw [commit_received, eq_self, true_and]
  | lost =>
      refine iff_of_false ?_ fun received => by cases received.1
      intro committed
      unfold commit at committed
      split at committed
      · cases committed
      · rename_i ended unlost
        exact unlost value after committed rfl

theorem commit_lost {value : α} (ran : body.transact refuses rows = (.ok value, after)) :
    body.commit refuses .lost unheard rows = (.error unheard, after) := by
  unfold commit
  rw [ran]

/-- An error stands for a transaction that did not take place, or for a COMMIT
that took effect unheard. -/
theorem commit_error {error : ε}
    (failed : body.commit refuses acknowledgement unheard rows = (.error error, after)) :
    after = rows ∨ acknowledgement = .lost ∧ error = unheard ∧
      ∃ value, body.transact refuses rows = (.ok value, after) := by
  unfold commit at failed
  split at failed
  · rename_i value committed ran
    cases failed
    exact .inr ⟨rfl, rfl, value, ran⟩
  · exact .inl ((congrArg Prod.snd failed).symm.trans
      (transact_error (congrArg Prod.fst failed)))

end Commit

/-- Whatever the transaction starts from with the precondition, it can only end
with the postcondition. -/
def Ensures (pre : σ → Prop) (body : Transaction σ ε α)
    (post : α → σ → Prop) : Prop :=
  ∀ session value after, pre session.rows →
    body session = .ok (value, after) → post value after.rows

theorem Ensures.transact {pre : σ → Prop} {body : Transaction σ ε α}
    {post : α → σ → Prop} (valid : Ensures pre body post)
    {refuses : Nat → Bool} {rows : σ} {value : α} (holds : pre rows)
    (succeeded : (body.transact refuses rows).1 = .ok value) :
    post value (body.transact refuses rows).2 := by
  unfold Transaction.transact at succeeded ⊢
  split
  · rename_i ran
    rw [ran] at succeeded
    cases succeeded
  · rename_i result session ran
    rw [ran] at succeeded
    cases succeeded
    exact valid _ _ _ holds ran

theorem Ensures.pure {pre : σ → Prop} {post : α → σ → Prop} {value : α}
    (holds : ∀ rows, pre rows → post value rows) :
    Ensures pre (Pure.pure value : Transaction σ ε α) post := by
  intro session result after start ran
  cases ran
  exact holds _ start

theorem Ensures.bail {pre : σ → Prop} {post : α → σ → Prop} (error : ε) :
    Ensures pre (bail error) post := by
  intro session result after _ ran
  cases ran

theorem Ensures.refuseIf {pre : σ → Prop} {post : PUnit → σ → Prop}
    {condition : Bool} {error : ε}
    (holds : ∀ rows, pre rows → condition = false → post ⟨⟩ rows) :
    Ensures pre (refuseIf condition error) post := by
  cases condition with
  | true => exact Ensures.bail error
  | false => exact Ensures.pure fun rows start => holds rows start rfl

theorem Ensures.bind {pre : σ → Prop} (middle : α → σ → Prop)
    {post : β → σ → Prop} {first : Transaction σ ε α}
    {next : α → Transaction σ ε β} (begins : Ensures pre first middle)
    (continues : ∀ value, Ensures (middle value) (next value) post) :
    Ensures pre (first >>= next) post := by
  intro session result after start ran
  cases firstRan : first session with
  | error error =>
      simp [Bind.bind, StateT.bind, firstRan, Except.bind] at ran
  | ok reached =>
      obtain ⟨value, between⟩ := reached
      simp only [Bind.bind, StateT.bind, firstRan, Except.bind] at ran
      exact continues value between result after
        (begins session value between start firstRan) ran

theorem Ensures.weaken {pre stronger : σ → Prop} {post weaker : α → σ → Prop}
    {body : Transaction σ ε α} (valid : Ensures pre body post)
    (before : ∀ rows, stronger rows → pre rows)
    (after : ∀ value rows, post value rows → weaker value rows) :
    Ensures stronger body weaker := by
  intro session value finish start ran
  exact after _ _ (valid session value finish (before _ start) ran)

theorem Ensures.execute {pre : σ → Prop} {post : α → σ → Prop} {refused : ε}
    {statement : σ → Option (α × σ)}
    (effect : ∀ rows answer rows', pre rows →
      statement rows = some (answer, rows') → post answer rows') :
    Ensures pre (execute refused statement) post := by
  intro session value after start ran
  unfold Transaction.execute at ran
  split at ran
  · cases ran
  · split at ran
    · cases ran
    · rename_i answer rows answered
      cases ran
      exact effect _ _ _ start answered

theorem Ensures.lift {pre : σ → Prop} {post : α → σ → Prop}
    {result : Except ε α}
    (holds : ∀ value rows, pre rows → result = .ok value → post value rows) :
    Ensures pre (lift result) post := by
  intro session value after start ran
  cases result with
  | error error => cases ran
  | ok inner =>
      cases ran
      exact holds _ _ start rfl

theorem Ensures.forM (invariant : List ι → σ → Prop) (items : List ι)
    {body : ι → Transaction σ ε PUnit}
    (each : ∀ done item rest, items = done ++ item :: rest →
      Ensures (invariant done) (body item) fun _ => invariant (done ++ [item])) :
    Ensures (invariant []) (items.forM body) fun _ => invariant items := by
  have general : ∀ done rest, items = done ++ rest →
      Ensures (invariant done) (rest.forM body) fun _ => invariant items := by
    intro done rest
    induction rest generalizing done with
    | nil =>
        intro split
        apply Ensures.pure
        intro rows holds
        simpa [split] using holds
    | cons item rest induction =>
        intro split
        refine Ensures.bind _ (each done item rest split) fun _ => ?_
        exact induction (done ++ [item]) (by simp [split])
  exact general [] items rfl

end Transaction

end NvidiaBuildLb.Foundation
