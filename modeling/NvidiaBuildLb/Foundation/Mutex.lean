import NvidiaBuildLb.Foundation.Tasks

namespace NvidiaBuildLb.Foundation

/-! Processes that share one mutex.  A process takes it by a request, and the
system takes it back when the process ends or is killed. -/

structure Shared (τ ω : Type) where
  world : ω
  holder : Option τ

def Shared.release {τ ω : Type} [DecidableEq τ] (shared : Shared τ ω)
    (tag : τ) : Shared τ ω :=
  if shared.holder = some tag then { shared with holder := none } else shared

/-- The answer to a process's request; the last one, `none`, is its exit. -/
abbrev ProcessAnswer {Op : Type} (τ : Type) (Answer : Op → Type) :
    τ × Option Op → Type
  | (_, some op) => Answer op
  | (_, none) => Unit

def Program.process {τ Op : Type} {Answer : Op → Type} {α : Type} (tag : τ) :
    Program Op Answer α → Program (τ × Option Op) (ProcessAnswer τ Answer) α
  | .done value => .ask (tag, none) fun _ => .done value
  | .ask op next => .ask (tag, some op) fun answer => (next answer).process tag

/-- `environment` says how a process is answered that holds the mutex, or does
not; `takes` which answers give it the mutex. -/
structure MutexSystem (Op : Type) (Answer : Op → Type) (ω α : Type) where
  environment : Bool → Environment Op Answer ω
  takes : (op : Op) → Answer op → Bool
  starts : Program Op Answer α → Prop

namespace MutexSystem

variable {τ Op : Type} {Answer : Op → Type} {ω α : Type} [DecidableEq τ]

def Answers (system : MutexSystem Op Answer ω α) (tag : τ) (op : Op)
    (shared : Shared τ ω) (answer : Answer op) (after : Shared τ ω) : Prop :=
  (system.environment (shared.holder = some tag)).answers op shared.world answer
      after.world ∧
    if system.takes op answer = true then
      shared.holder = none ∧ after.holder = some tag
    else
      after.holder = shared.holder

def Drops (system : MutexSystem Op Answer ω α) (tag : τ) (op : Op)
    (shared after : Shared τ ω) : Prop :=
  (system.environment (shared.holder = some tag)).drops op shared.world
      after.world ∧
    after.holder = (shared.release tag).holder

def processes (system : MutexSystem Op Answer ω α) :
    TaskSystem τ (τ × Option Op) (ProcessAnswer τ Answer) (Shared τ ω) α where
  environment := {
    answers := fun request shared answer after =>
      match request, answer with
      | (tag, some op), answer => system.Answers tag op shared answer after
      | (tag, none), _ => after = shared.release tag
    drops := fun request shared after =>
      match request with
      | (tag, some op) => system.Drops tag op shared after
      | (tag, none) => after = shared.release tag }
  alive := fun _ _ => True
  starts := fun tag shared program =>
    shared.holder ≠ some tag ∧
      ∃ original, system.starts original ∧ program = original.process tag
  surrounds := fun _ _ => False

/-- What a proof says about processes: `quiet` is what those may do to the
world that do not hold the mutex, `outside` what they ask for, and `inside`
what the one asks for that holds it. -/
structure Claims (Op ω : Type) where
  valid : ω → Prop
  quiet : ω → ω → Prop
  outside : Op → Prop
  inside : Op → ω → Prop

/-- The rest of a program that holds the mutex, while the others are quiet. -/
def Inside (system : MutexSystem Op Answer ω α) (claims : Claims Op ω)
    (program : Program Op Answer α) (world : ω) : Prop :=
  program.wp {
    environment := (system.environment true).among claims.quiet claims.valid
    waiting := claims.inside
    dropped := fun _ _ => True } (fun _ _ => True) world

/-- A program that does not hold the mutex yet. -/
def Enters (system : MutexSystem Op Answer ω α) (claims : Claims Op ω) :
    Program Op Answer α → Prop
  | .done _ => True
  | .ask op next =>
      claims.outside op ∧
        ∀ world answer after, claims.valid world →
          (system.environment false).answers op world answer after →
            if system.takes op answer = true then
              system.Inside claims (next answer) after
            else
              system.Enters claims (next answer)

def untaken (system : MutexSystem Op Answer ω α) (claims : Claims Op ω) :
    Contract Op Answer ω where
  environment := (system.environment false).among (fun _ _ => True) claims.valid
  waiting := fun op _ =>
    claims.outside op ∧ ∀ answer, system.takes op answer = false
  dropped := fun _ _ => True

structure Proof (system : MutexSystem Op Answer ω α) (claims : Claims Op ω) :
    Prop where
  refl : ∀ world, claims.quiet world world
  trans : ∀ first second third, claims.quiet first second →
    claims.quiet second third → claims.quiet first third
  waits : ∀ op world after, claims.quiet world after →
    claims.inside op world → claims.inside op after
  outside : ∀ op world answer after, claims.valid world → claims.outside op →
    (system.environment false).answers op world answer after →
      claims.valid after ∧ claims.quiet world after
  outsideDrops : ∀ op world after, claims.valid world → claims.outside op →
    (system.environment false).drops op world after →
      claims.valid after ∧ claims.quiet world after
  inside : ∀ op world answer after, claims.valid world →
    claims.inside op world →
    (system.environment true).answers op world answer after →
      claims.valid after
  insideDrops : ∀ op world after, claims.valid world → claims.inside op world →
    (system.environment true).drops op world after → claims.valid after
  starts : ∀ program, system.starts program → system.Enters claims program

def Claims.tasks (claims : Claims Op ω) :
    TaskSystem.Claims τ (τ × Option Op) (Shared τ ω) α where
  valid := fun shared => claims.valid shared.world
  reached := fun _ _ => True
  holds := fun _ _ => True
  others := fun tag shared after =>
    (after.holder = some tag ↔ shared.holder = some tag) ∧
      (shared.holder = some tag → claims.quiet shared.world after.world)
  permits := fun tag request shared =>
    request.1 = tag ∧ ∀ op, request.2 = some op →
      if shared.holder = some tag then claims.inside op shared.world
      else claims.outside op
  post := fun _ _ _ => True

section Soundness

variable {system : MutexSystem Op Answer ω α} {claims : Claims Op ω}

/-- Up to where it takes the mutex, a program is proved among processes that do
anything; from there on the rest of it is proved on its own. -/
theorem Enters.bind {β : Type} {program : Program Op Answer β}
    {next : β → Program Op Answer α} {world : ω}
    (holds : program.wp (system.untaken claims)
      (fun value _ => system.Enters claims (next value)) world) :
    system.Enters claims (program.bind next) := by
  induction program generalizing world with
  | done value => exact holds
  | ask op rest induction =>
      refine ⟨holds.1.1, fun before answer after valid answers => ?_⟩
      rw [if_neg (by simp [holds.1.2 answer])]
      apply induction answer
      exact holds.2.2 answer after ⟨before, trivial, valid, answers⟩

private theorem release_other {shared : Shared τ ω} {tag other : τ}
    (different : other ≠ tag) :
    (shared.release tag).holder = some other ↔ shared.holder = some other := by
  unfold Shared.release
  split
  · rename_i held
    simp only [held, Option.some.injEq, reduceCtorEq, false_iff]
    exact fun same => different same.symm
  · exact Iff.rfl

theorem release_world (shared : Shared τ ω) (tag : τ) :
    (shared.release tag).world = shared.world := by
  unfold Shared.release
  split <;> rfl

private theorem process_inside {program : Program Op Answer α} {tag : τ}
    {shared : Shared τ ω} (held : shared.holder = some tag)
    (holds : system.Inside claims program shared.world) :
    (program.process tag).wp
      (TaskSystem.Claims.contract claims.tasks
        system.processes tag)
      (fun _ _ => True) shared := by
  induction program generalizing shared with
  | done value =>
      refine ⟨⟨rfl, fun _ exits => by cases exits⟩, fun _ _ => trivial, ?_⟩
      intro _ _ _
      trivial
  | ask op next induction =>
      refine ⟨⟨rfl, ?_⟩, fun _ _ => trivial, ?_⟩
      · intro asked same
        cases same
        rw [if_pos held]
        exact holds.1
      · intro answer after ⟨between, others, steady, answered, holder⟩
        have stillHeld := others.1.mpr held
        rw [decide_eq_true stillHeld] at answered
        split at holder
        · rw [holder.1] at stillHeld
          cases stillHeld
        · refine induction answer (holder.trans stillHeld) ?_
          exact holds.2.2 answer after.world
            ⟨between.world, others.2 held, steady.1, answered⟩

private theorem process_enters {program : Program Op Answer α} {tag : τ}
    {shared : Shared τ ω} (free : shared.holder ≠ some tag)
    (enters : system.Enters claims program) :
    (program.process tag).wp
      (TaskSystem.Claims.contract claims.tasks
        system.processes tag)
      (fun _ _ => True) shared := by
  induction program generalizing shared with
  | done value =>
      refine ⟨⟨rfl, fun _ exits => by cases exits⟩, fun _ _ => trivial, ?_⟩
      intro _ _ _
      trivial
  | ask op next induction =>
      refine ⟨⟨rfl, ?_⟩, fun _ _ => trivial, ?_⟩
      · intro asked same
        cases same
        rw [if_neg free]
        exact enters.1
      · intro answer after ⟨between, others, steady, answered, holder⟩
        have stillFree := mt others.1.mp free
        rw [decide_eq_false stillFree] at answered
        have later := enters.2 between.world answer after.world steady.1 answered
        split at holder
        · rename_i takes
          rw [if_pos takes] at later
          exact process_inside holder.2 later
        · rename_i untaken
          rw [if_neg untaken] at later
          exact induction answer (holder ▸ stillFree) later

private theorem Answers.holder {tag other : τ} (different : other ≠ tag)
    {op : Op} {shared after : Shared τ ω} {answer : Answer op}
    (answers : system.Answers tag op shared answer after) :
    after.holder = some other ↔ shared.holder = some other := by
  have holder := answers.2
  split at holder
  · rw [holder.1, holder.2]
    simp [different.symm]
  · rw [holder]

/-- A process that moves while another one holds the mutex is quiet. -/
private theorem Proof.moves (proof : system.Proof claims) {tag : τ}
    {request : τ × Option Op} {shared after : Shared τ ω}
    (valid : claims.valid shared.world)
    (permitted : (@Claims.tasks τ Op ω α _ claims).permits tag request shared)
    (moves : (@processes τ Op Answer ω α _ system).Moves request shared after) :
    claims.valid after.world ∧
      (shared.holder ≠ some tag → claims.quiet shared.world after.world) ∧
      ∀ other, other ≠ tag →
        (after.holder = some other ↔ shared.holder = some other) := by
  obtain ⟨asker, op?⟩ := request
  obtain ⟨rfl, allowed⟩ := permitted
  cases op? with
  | none =>
      have released : after = shared.release asker := by
        rcases moves with ⟨_, released⟩ | released
        · exact released
        · exact released
      subst released
      rw [release_world]
      exact ⟨valid, fun _ => proof.refl _, fun _ => release_other⟩
  | some op =>
      have allowed := allowed op rfl
      by_cases held : shared.holder = some asker
      · rw [if_pos held] at allowed
        rcases moves with ⟨answer, answers⟩ | drops
        · have answered := answers.1
          rw [decide_eq_true held] at answered
          exact ⟨proof.inside op _ answer _ valid allowed answered,
            fun free => absurd held free,
            fun _ different => answers.holder different⟩
        · have dropped := drops.1
          rw [decide_eq_true held] at dropped
          refine ⟨proof.insideDrops op _ _ valid allowed dropped,
            fun free => absurd held free, fun _ different => ?_⟩
          rw [drops.2]
          exact release_other different
      · rw [if_neg held] at allowed
        rcases moves with ⟨answer, answers⟩ | drops
        · have answered := answers.1
          rw [decide_eq_false held] at answered
          have kept := proof.outside op _ answer _ valid allowed answered
          exact ⟨kept.1, fun _ => kept.2,
            fun _ different => answers.holder different⟩
        · have dropped := drops.1
          rw [decide_eq_false held] at dropped
          have kept := proof.outsideDrops op _ _ valid allowed dropped
          refine ⟨kept.1, fun _ => kept.2, fun _ different => ?_⟩
          rw [drops.2]
          exact release_other different

theorem Proof.tasks (proof : system.Proof claims) :
    (@processes τ Op Answer ω α _ system).Proof claims.tasks where
  refl := fun tag shared => ⟨Iff.rfl, fun _ => proof.refl _⟩
  trans := fun tag first second third earlier later =>
    ⟨later.1.trans earlier.1, fun held => proof.trans _ _ _ (earlier.2 held)
      (later.2 (earlier.1.mpr held))⟩
  waits := by
    intro tag request shared after others permitted
    refine ⟨permitted.1, fun op same => ?_⟩
    have allowed := permitted.2 op same
    by_cases held : shared.holder = some tag
    · rw [if_pos held] at allowed
      rw [if_pos (others.1.mpr held)]
      exact proof.waits op _ _ (others.2 held) allowed
    · rw [if_neg held] at allowed
      rw [if_neg (mt others.1.mp held)]
      exact allowed
  ends := fun _ _ _ _ _ _ => trivial
  steady := fun _ _ _ _ _ => trivial
  starts := by
    intro tag shared program valid ⟨free, original, starts, isProgram⟩
    subst isProgram
    exact ⟨trivial, trivial, process_enters free (proof.starts original starts)⟩
  answers := fun tag request shared answer after valid _ permitted answers =>
    ⟨(proof.moves valid permitted (.inl ⟨answer, answers⟩)).1, trivial⟩
  drops := fun tag request shared after valid _ permitted drops =>
    (proof.moves valid permitted (.inr drops)).1
  alive := fun _ _ _ _ _ _ => trivial
  reached := fun _ _ _ _ _ _ => trivial
  guarantee := by
    intro tag other request shared after different valid _ _ _ _ permitted moves
    obtain ⟨-, quiet, holders⟩ := proof.moves valid permitted moves
    refine ⟨holders other different, fun held => quiet ?_⟩
    intro also
    rw [held] at also
    exact different (Option.some.inj also)
  surrounds := fun _ _ _ surrounds => surrounds.elim

theorem Proof.asks (proof : system.Proof claims)
    {initial : Shared τ ω} (valid : claims.valid initial.world)
    {labels : List (TaskLabel τ (τ × Option Op))}
    {tasks : Tasks τ (τ × Option Op) (ProcessAnswer τ Answer) (Shared τ ω) α}
    (run : Run system.processes.Step (TaskSystem.idle initial) labels tasks) :
    claims.valid tasks.world.world ∧
      ∀ tag request next, tasks.standing tag = .running (.ask request next) →
        (@Claims.tasks τ Op ω α _ claims).permits tag request tasks.world := by
  have established := proof.tasks.run (.idle valid) run
  refine ⟨established.world, fun tag request next waiting => ?_⟩
  exact (established.waiting waiting trivial).2

end Soundness

end MutexSystem

end NvidiaBuildLb.Foundation
