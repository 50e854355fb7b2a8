import NvidiaBuildLb.Foundation.Program
import NvidiaBuildLb.Foundation.Run
import Mathlib.Logic.Function.Basic

namespace NvidiaBuildLb.Foundation

/-! Programs that run side by side on one world.  Between two answers to a
program the others move, and it may be dropped while it waits. -/

section Interference

variable {Op : Type} {Answer : Op → Type} {ω α : Type}

/-- An environment in which others move first.  `steady` is what holds of
every world they leave. -/
def Environment.among (environment : Environment Op Answer ω)
    (others : ω → ω → Prop) (steady : ω → Prop) : Environment Op Answer ω where
  answers := fun op world answer after =>
    ∃ between, others world between ∧ steady between ∧
      environment.answers op between answer after
  drops := fun op world after =>
    ∃ between, others world between ∧ steady between ∧
      environment.drops op between after

/-- What a program is proved to do among others, it does after they moved. -/
theorem Program.wp_among {environment : Environment Op Answer ω}
    {others : ω → ω → Prop} {steady : ω → Prop} {waiting dropped : Op → ω → Prop}
    {post : α → ω → Prop}
    (trans : ∀ {first second third}, others first second →
      others second third → others first third)
    (waits : ∀ op {world after}, others world after → waiting op world →
      waiting op after)
    (ends : ∀ value {world after}, others world after → post value world →
      post value after)
    {program : Program Op Answer α} {world after : ω} (moved : others world after)
    (holds : program.wp ⟨environment.among others steady, waiting, dropped⟩ post
      world) :
    program.wp ⟨environment.among others steady, waiting, dropped⟩ post
      after := by
  cases program with
  | done value => exact ends value moved holds
  | ask op next =>
      refine ⟨waits op moved holds.1, ?_, ?_⟩
      · intro finish drops
        obtain ⟨between, later, steadily, drops⟩ := drops
        exact holds.2.1 finish ⟨between, trans moved later, steadily, drops⟩
      · intro answer finish answers
        obtain ⟨between, later, steadily, answers⟩ := answers
        exact holds.2.2 answer finish
          ⟨between, trans moved later, steadily, answers⟩

end Interference

inductive Standing (Op : Type) (Answer : Op → Type) (α : Type) where
  | unborn
  | running (program : Program Op Answer α)
  | gone

structure Tasks (τ Op : Type) (Answer : Op → Type) (ω α : Type) where
  world : ω
  standing : τ → Standing Op Answer α

inductive TaskLabel (τ Op : Type) where
  | started (tag : τ)
  | answered (tag : τ) (op : Op)
  | dropped (tag : τ) (op : Op)
  | surrounded
  deriving DecidableEq, Repr

/-- `starts` says which programs may start in a world, and `alive` which ones
can still be answered there. -/
structure TaskSystem (τ Op : Type) (Answer : Op → Type) (ω α : Type) where
  environment : Environment Op Answer ω
  alive : τ → ω → Prop
  starts : τ → ω → Program Op Answer α → Prop
  surrounds : ω → ω → Prop

namespace TaskSystem

variable {τ Op : Type} {Answer : Op → Type} {ω α : Type} [DecidableEq τ]

inductive Step (system : TaskSystem τ Op Answer ω α) :
    Tasks τ Op Answer ω α → TaskLabel τ Op → Tasks τ Op Answer ω α → Prop where
  | started {tasks : Tasks τ Op Answer ω α} {tag : τ}
      {program : Program Op Answer α}
      (unborn : tasks.standing tag = .unborn)
      (starts : system.starts tag tasks.world program) :
      Step system tasks (.started tag) {
        tasks with
        standing := Function.update tasks.standing tag (.running program) }
  | answered {tasks : Tasks τ Op Answer ω α} {tag : τ} {op : Op}
      {next : Answer op → Program Op Answer α} {answer : Answer op} {after : ω}
      (waiting : tasks.standing tag = .running (.ask op next))
      (alive : system.alive tag tasks.world)
      (answers : system.environment.answers op tasks.world answer after) :
      Step system tasks (.answered tag op) {
        world := after
        standing := Function.update tasks.standing tag
          (.running (next answer)) }
  | dropped {tasks : Tasks τ Op Answer ω α} {tag : τ} {op : Op}
      {next : Answer op → Program Op Answer α} {after : ω}
      (waiting : tasks.standing tag = .running (.ask op next))
      (alive : system.alive tag tasks.world)
      (drops : system.environment.drops op tasks.world after) :
      Step system tasks (.dropped tag op) {
        world := after
        standing := Function.update tasks.standing tag .gone }
  | surrounded {tasks : Tasks τ Op Answer ω α} {after : ω}
      (surrounds : system.surrounds tasks.world after) :
      Step system tasks .surrounded { tasks with world := after }

/-- An answer to a request, or the loss of the one who made it. -/
def Moves (system : TaskSystem τ Op Answer ω α) (op : Op) (world after : ω) :
    Prop :=
  (∃ answer, system.environment.answers op world answer after) ∨
    system.environment.drops op world after

theorem Step.world {system : TaskSystem τ Op Answer ω α}
    {tasks finish : Tasks τ Op Answer ω α} {label : TaskLabel τ Op}
    (step : system.Step tasks label finish) :
    finish.world = tasks.world ∨
      (∃ op, system.Moves op tasks.world finish.world) ∨
      system.surrounds tasks.world finish.world := by
  cases step with
  | started unborn starts => exact .inl rfl
  | answered waiting alive answers => exact .inr (.inl ⟨_, .inl ⟨_, answers⟩⟩)
  | dropped waiting alive drops => exact .inr (.inl ⟨_, .inr drops⟩)
  | surrounded surrounds => exact .inr (.inr surrounds)

/-- What a proof says about a system: `valid` holds of every world; `holds` is
what a task may always count on, `permits` what it knows when it asks, `post`
what it knows at its end, and `others` what the rest may do around it.  A task
that has started is `reached` forever. -/
structure Claims (τ Op ω α : Type) where
  valid : ω → Prop
  reached : τ → ω → Prop
  holds : τ → ω → Prop
  others : τ → ω → ω → Prop
  permits : τ → Op → ω → Prop
  post : τ → α → ω → Prop

def Claims.contract (claims : Claims τ Op ω α)
    (system : TaskSystem τ Op Answer ω α) (tag : τ) : Contract Op Answer ω where
  environment := system.environment.among (claims.others tag)
    fun world => claims.valid world ∧ claims.holds tag world
  waiting := claims.permits tag
  dropped := fun _ _ => True

/-- A proof for every task alone, and that no task disturbs another. -/
structure Proof (system : TaskSystem τ Op Answer ω α)
    (claims : Claims τ Op ω α) : Prop where
  refl : ∀ tag world, claims.others tag world world
  trans : ∀ tag first second third, claims.others tag first second →
    claims.others tag second third → claims.others tag first third
  waits : ∀ tag op world after, claims.others tag world after →
    claims.permits tag op world → claims.permits tag op after
  ends : ∀ tag value world after, claims.others tag world after →
    claims.post tag value world → claims.post tag value after
  steady : ∀ tag world after, claims.others tag world after →
    claims.holds tag world → claims.holds tag after
  starts : ∀ tag world program, claims.valid world →
    system.starts tag world program → claims.reached tag world ∧
      claims.holds tag world ∧
      program.wp (claims.contract system tag) (claims.post tag) world
  answers : ∀ tag op world answer after, claims.valid world →
    claims.holds tag world → claims.permits tag op world →
    system.environment.answers op world answer after →
      claims.valid after ∧ claims.holds tag after
  drops : ∀ tag op world after, claims.valid world → claims.holds tag world →
    claims.permits tag op world → system.environment.drops op world after →
      claims.valid after
  alive : ∀ tag op world after, system.Moves op world after →
    system.alive tag after → system.alive tag world
  reached : ∀ tag op world after, system.Moves op world after →
    claims.reached tag world → claims.reached tag after
  guarantee : ∀ tag other op world after, other ≠ tag → claims.valid world →
    claims.holds tag world → claims.holds other world →
    system.alive tag world → system.alive other world →
    claims.permits tag op world → system.Moves op world after →
      claims.others other world after
  surrounds : ∀ world after, claims.valid world →
    system.surrounds world after → claims.valid after ∧
      ∀ tag, claims.reached tag world → claims.reached tag after ∧
        (system.alive tag after →
          system.alive tag world ∧ claims.others tag world after)

section Soundness

variable {system : TaskSystem τ Op Answer ω α} {claims : Claims τ Op ω α}

def Knows (system : TaskSystem τ Op Answer ω α) (claims : Claims τ Op ω α)
    (world : ω) (tag : τ) (program : Program Op Answer α) : Prop :=
  claims.reached tag world ∧ (system.alive tag world →
    claims.holds tag world ∧
      program.wp (claims.contract system tag) (claims.post tag) world)

structure Established (system : TaskSystem τ Op Answer ω α)
    (claims : Claims τ Op ω α) (tasks : Tasks τ Op Answer ω α) : Prop where
  world : claims.valid tasks.world
  tasks : ∀ tag program, tasks.standing tag = .running program →
    Knows system claims tasks.world tag program

omit [DecidableEq τ] in
theorem Knows.moved (proof : system.Proof claims) {world after : ω} {tag : τ}
    {program : Program Op Answer α} (knows : Knows system claims world tag program)
    (reached : claims.reached tag world → claims.reached tag after)
    (others : claims.holds tag world → system.alive tag after →
      system.alive tag world → claims.others tag world after)
    (alive : system.alive tag after → system.alive tag world) :
    Knows system claims after tag program := by
  refine ⟨reached knows.1, fun aliveAfter => ?_⟩
  obtain ⟨held, safe⟩ := knows.2 (alive aliveAfter)
  have moved := others held aliveAfter (alive aliveAfter)
  refine ⟨proof.steady tag world after moved held, ?_⟩
  exact Program.wp_among (fun {first second third} =>
      proof.trans tag first second third)
    (fun op {world after} => proof.waits tag op world after)
    (fun value {world after} => proof.ends tag value world after) moved safe

omit [DecidableEq τ] in
theorem Established.waiting {tasks : Tasks τ Op Answer ω α}
    (established : Established system claims tasks) {tag : τ} {op : Op}
    {next : Answer op → Program Op Answer α}
    (running : tasks.standing tag = .running (.ask op next))
    (alive : system.alive tag tasks.world) :
    claims.holds tag tasks.world ∧ claims.permits tag op tasks.world := by
  obtain ⟨held, safe⟩ := (established.tasks tag _ running).2 alive
  exact ⟨held, safe.1⟩

omit [DecidableEq τ] in
private theorem Established.others_keep (proof : system.Proof claims)
    {tasks : Tasks τ Op Answer ω α}
    (established : Established system claims tasks) {tag other : τ}
    (different : other ≠ tag) {op : Op} {after : ω}
    (held : claims.holds tag tasks.world)
    (alive : system.alive tag tasks.world)
    (permitted : claims.permits tag op tasks.world)
    (moves : system.Moves op tasks.world after)
    {program : Program Op Answer α}
    (running : tasks.standing other = .running program) :
    Knows system claims after other program := by
  refine (established.tasks other program running).moved proof
    (proof.reached other op _ _ moves) ?_ (proof.alive other op _ _ moves)
  intro otherHeld _ otherAlive
  exact proof.guarantee tag other op _ _ different established.world held
    otherHeld alive otherAlive permitted moves

theorem Proof.step (proof : system.Proof claims)
    {tasks finish : Tasks τ Op Answer ω α} {label : TaskLabel τ Op}
    (established : Established system claims tasks)
    (step : system.Step tasks label finish) :
    Established system claims finish := by
  cases step with
  | @started tag program unborn starts =>
      refine ⟨established.world, fun other running standing => ?_⟩
      by_cases same : other = tag
      · subst same
        have first := proof.starts other _ _ established.world starts
        simp only [Function.update_self, Standing.running.injEq] at standing
        subst standing
        exact ⟨first.1, fun _ => first.2⟩
      · simp only [Function.update_of_ne same] at standing
        exact established.tasks other running standing
  | @answered tag op next answer after waiting alive answers =>
      obtain ⟨held, permitted⟩ := established.waiting waiting alive
      have kept := proof.answers tag op _ answer after established.world held
        permitted answers
      refine ⟨kept.1, fun other running standing => ?_⟩
      by_cases same : other = tag
      · subst same
        simp only [Function.update_self, Standing.running.injEq] at standing
        subst standing
        obtain ⟨before, knows⟩ := established.tasks other _ waiting
        refine ⟨proof.reached other op _ _ (.inl ⟨answer, answers⟩) before,
          fun _ => ⟨kept.2, ?_⟩⟩
        exact (knows alive).2.2.2 answer after
          ⟨_, proof.refl other _, ⟨established.world, held⟩, answers⟩
      · simp only [Function.update_of_ne same] at standing
        exact established.others_keep proof same held alive permitted
          (.inl ⟨answer, answers⟩) standing
  | @dropped tag op next after waiting alive drops =>
      obtain ⟨held, permitted⟩ := established.waiting waiting alive
      refine ⟨proof.drops tag op _ after established.world held permitted drops,
        fun other running standing => ?_⟩
      by_cases same : other = tag
      · subst same
        simp only [Function.update_self] at standing
        cases standing
      · simp only [Function.update_of_ne same] at standing
        exact established.others_keep proof same held alive permitted (.inr drops)
          standing
  | @surrounded after surrounds =>
      obtain ⟨kept, everyone⟩ :=
        proof.surrounds _ after established.world surrounds
      refine ⟨kept, fun tag program standing => ?_⟩
      have knows := established.tasks tag program standing
      obtain ⟨later, still⟩ := everyone tag knows.1
      refine knows.moved proof (fun _ => later) ?_ fun alive => (still alive).1
      exact fun _ alive _ => (still alive).2

theorem Proof.run (proof : system.Proof claims)
    {tasks finish : Tasks τ Op Answer ω α} {labels : List (TaskLabel τ Op)}
    (established : Established system claims tasks)
    (run : Run system.Step tasks labels finish) :
    Established system claims finish :=
  run.invariant _ (fun before step => proof.step before step) established

/-- Nothing has started yet. -/
def idle (world : ω) : Tasks τ Op Answer ω α where
  world
  standing := fun _ => .unborn

omit [DecidableEq τ] in
theorem Established.idle {world : ω} (initially : claims.valid world) :
    Established system claims (idle world) where
  world := initially
  tasks := fun _ _ standing => by cases standing

end Soundness

end TaskSystem

end NvidiaBuildLb.Foundation
