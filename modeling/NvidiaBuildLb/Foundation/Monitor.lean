import NvidiaBuildLb.Foundation.Program

namespace NvidiaBuildLb.Foundation

/-! Routines whose requests are written down, and monitors that say of what was
written down which request may come next. -/

structure Exchange (Op : Type) (Answer : Op → Type) where
  op : Op
  answer : Answer op

section Recording

variable {ς ε Op : Type} {Answer : Op → Type} {α σ : Type}
  (legal : ∀ op, Answer op → Prop) (leaves : Op → Prop)

abbrev Log (Op : Type) (Answer : Op → Type) : Type := List (Exchange Op Answer)

/-- What comes of one request: it is answered, or it was made in vain. -/
def After {ω : Type} (next : ω → ∀ op, Answer op → ω) (op : Op)
    (world after : ω) : Prop :=
  after = world ∨ ∃ answer, legal op answer ∧ after = next world op answer

/-- Any legal answer may come, and a routine that is dropped may have been
served or not. -/
def answering (ς : Type) {ω : Type} (next : ω → ∀ op, Answer op → ω) :
    Environment (ς × Op) (fun request => Answer request.2) ω where
  answers := fun request world answer after =>
    legal request.2 answer ∧ after = next world request.2 answer
  drops := fun request world after =>
    leaves request.2 ∧ After legal next request.2 world after

def recording (ς : Type) :
    Environment (ς × Op) (fun request => Answer request.2) (Log Op Answer) :=
  answering legal leaves ς fun log op answer => log ++ [⟨op, answer⟩]

structure Monitor (ς Op : Type) (Answer : Op → Type) (σ : Type) where
  initial : σ
  next : σ → ∀ op, Answer op → σ
  allows : σ → ς → Op → Prop

variable {legal} {leaves}

/-- What has been asked in a run, also what has no answer yet. -/
def Asked (log : Log Op Answer) (ending : Ending (ς × Op) α) (op : Op) : Prop :=
  (∃ answer, ⟨op, answer⟩ ∈ log) ∨ ∃ held, ending = .waiting (held, op) ∨
    ending = .dropped (held, op)

def replay (answers : Log Op Answer → ∀ op, Answer op) :
    Nat → Program (ς × Op) (fun request => Answer request.2) α → Log Op Answer →
      Log Op Answer × Ending (ς × Op) α
  | _, .done value, log => (log, .returned value)
  | 0, .ask request _, log => (log, .waiting request)
  | count + 1, .ask request next, log =>
      replay answers count (next (answers log request.2))
        (log ++ [⟨request.2, answers log request.2⟩])

theorem replay_reaches {answers : Log Op Answer → ∀ op, Answer op}
    (isLegal : ∀ log op, legal op (answers log op)) (count : Nat)
    (program : Program (ς × Op) (fun request => Answer request.2) α)
    (log : Log Op Answer) :
    Reaches (recording legal leaves ς) log program (replay answers count program log).1
      (replay answers count program log).2 := by
  induction count generalizing program log with
  | zero =>
      cases program with
      | done value => exact .returned
      | ask request next => exact .waiting
  | succ count induction =>
      cases program with
      | done value => exact .returned
      | ask request next =>
          refine .answered (answers log request.2) ⟨isLegal log request.2, rfl⟩ ?_
          exact induction (next (answers log request.2)) _

variable (monitor : Monitor ς Op Answer σ)

namespace Monitor

def state (log : Log Op Answer) : σ :=
  log.foldl (fun state exchange => monitor.next state exchange.op exchange.answer)
    monitor.initial

@[simp] theorem state_append (log : Log Op Answer) (op : Op)
    (answer : Answer op) :
    monitor.state (log ++ [⟨op, answer⟩]) =
      monitor.next (monitor.state log) op answer := by
  simp [state]

variable (legal) (leaves) in
def contract : Contract (ς × Op) (fun request => Answer request.2) σ where
  environment := answering legal leaves ς monitor.next
  waiting := fun request state => monitor.allows state request.1 request.2
  dropped := fun request after => ∃ before,
    monitor.allows before request.1 request.2 ∧
      After legal monitor.next request.2 before after

/-- Every exchange of a log was allowed when it was due. -/
inductive Conforms (legal : ∀ op, Answer op → Prop)
    (monitor : Monitor ς Op Answer σ) : Log Op Answer → Prop where
  | nil : Conforms legal monitor []
  | snoc {log : Log Op Answer} {op : Op} {answer : Answer op} (held : ς)
      (before : Conforms legal monitor log)
      (allowed : monitor.allows (monitor.state log) held op)
      (isLegal : legal op answer) : Conforms legal monitor (log ++ [⟨op, answer⟩])

/-- Where a run may stand once its exchanges are those of a log. -/
def Stands (legal : ∀ op, Answer op → Prop) (monitor : Monitor ς Op Answer σ)
    (exits : ε → ς → σ → Prop) (post : α → ς → σ → Prop)
    (log : Log Op Answer) : Ending (ς × Op) (Except ε α × ς) → Prop
  | .waiting (held, op) => monitor.allows (monitor.state log) held op
  | .returned (.ok value, held) => post value held (monitor.state log)
  | .returned (.error exit, held) => exits exit held (monitor.state log)
  | .dropped (held, op) => ∃ before, Conforms legal monitor before ∧
      monitor.allows (monitor.state before) held op ∧
      After legal (fun log op answer => log ++ [⟨op, answer⟩]) op before log

/-- A routine that meets the contract of a monitor conforms to it in every
run. -/
theorem conforms_of_wp {exits : ε → ς → σ → Prop} {post : α → ς → σ → Prop}
    {program : Program (ς × Op) (fun request => Answer request.2)
      (Except ε α × ς)} {earlier log : Log Op Answer}
    {ending : Ending (ς × Op) (Except ε α × ς)}
    (holds : program.wp (monitor.contract legal leaves)
      (fun result state =>
        match result with
        | (.ok value, held) => post value held state
        | (.error exit, held) => exits exit held state)
      (monitor.state earlier))
    (conforms : Conforms legal monitor earlier)
    (reaches : Reaches (recording legal leaves ς) earlier program log ending) :
    Conforms legal monitor log ∧
      Stands legal monitor exits post log ending := by
  induction reaches with
  | waiting => exact ⟨conforms, holds.1⟩
  | returned =>
      rename_i value
      obtain ⟨result, held⟩ := value
      cases result <;> exact ⟨conforms, holds⟩
  | @dropped world after request next drops =>
      obtain ⟨held, op⟩ := request
      have stands : Stands legal monitor exits post after
          (.dropped (held, op)) :=
        ⟨world, conforms, holds.1, drops.2⟩
      refine ⟨?_, stands⟩
      rcases drops.2 with rfl | ⟨answer, isLegal, rfl⟩
      · exact conforms
      · exact .snoc held conforms holds.1 isLegal
  | @answered world between after request next ending answer answers rest
      induction =>
      obtain ⟨held, op⟩ := request
      obtain ⟨isLegal, rfl⟩ := answers
      have later := holds.2.2 answer _ ⟨isLegal, rfl⟩
      rw [← state_append] at later
      exact induction later (.snoc held conforms holds.1 isLegal)

theorem run {exits : ε → ς → σ → Prop} {post : α → ς → σ → Prop}
    {routine : Routine ς ε Op Answer α} {held : ς} {log : Log Op Answer}
    {ending : Ending (ς × Op) (Except ε α × ς)}
    (holds : routine.wp (monitor.contract legal leaves) exits post held
      monitor.initial)
    (reaches : Reaches (recording legal leaves ς) [] (routine held) log
      ending) :
    Conforms legal monitor log ∧
      Stands legal monitor exits post log ending := by
  refine monitor.conforms_of_wp ?_ .nil reaches
  exact holds

variable {monitor}

theorem Conforms.invariant {holds : Log Op Answer → Prop} (empty : holds [])
    (step : ∀ log op answer held, Conforms legal monitor log → holds log →
      monitor.allows (monitor.state log) held op → legal op answer →
      holds (log ++ [⟨op, answer⟩]))
    {log : Log Op Answer} (conforms : Conforms legal monitor log) :
    holds log := by
  induction conforms with
  | nil => exact empty
  | snoc held before allowed isLegal induction =>
      exact step _ _ _ held before induction allowed isLegal

theorem Conforms.state {holds : σ → Prop} (initially : holds monitor.initial)
    (step : ∀ state held op answer, holds state → monitor.allows state held op →
      legal op answer → holds (monitor.next state op answer))
    {log : Log Op Answer} (conforms : Conforms legal monitor log) :
    holds (monitor.state log) := by
  induction conforms with
  | nil => exact initially
  | snoc held before allowed isLegal induction =>
      rw [state_append]
      exact step _ held _ _ induction allowed isLegal

end Monitor

end Recording

end NvidiaBuildLb.Foundation
