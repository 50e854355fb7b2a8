import NvidiaBuildLb.Foundation.Mutex
import NvidiaBuildLb.Hermes.Looking

namespace NvidiaBuildLb.Hermes

open Foundation NvidiaBuildLb.Core

/-! Helper processes that run side by side on one machine, each of which takes
`cutover.lock` at some point. -/

/-- Nothing in a directory differs. -/
structure World.SameFiles (before after : World) : Prop where
  files : after.files = before.files
  temporaries : after.temporaries = before.temporaries
  stages : after.stages = before.stages
  generations : after.generations = before.generations

theorem World.SameFiles.refl (world : World) : world.SameFiles world :=
  ⟨rfl, rfl, rfl, rfl⟩

theorem World.SameFiles.trans {first second third : World}
    (earlier : first.SameFiles second) (later : second.SameFiles third) :
    first.SameFiles third where
  files := later.files.trans earlier.files
  temporaries := later.temporaries.trans earlier.temporaries
  stages := later.stages.trans earlier.stages
  generations := later.generations.trans earlier.generations

section Requests

variable {primitives : Primitives} {op : Op} {world after : World}

theorem Performs.sameFiles {value : Value op} (spares : op.mutates = false)
    (performs : Performs primitives op world value after) :
    world.SameFiles after := by
  cases op <;> simp only [Op.mutates, Bool.true_eq_false] at spares <;>
    simp only [Performs] at performs
  case newUuid =>
      obtain ⟨-, rfl⟩ := performs
      exact ⟨rfl, rfl, rfl, rfl⟩
  case createClient label =>
      cases value with
      | created response =>
          obtain ⟨-, -, -, -, rfl⟩ := performs
          exact ⟨rfl, rfl, rfl, rfl⟩
      | conflict =>
          obtain ⟨-, rfl⟩ := performs
          exact .refl _
      | rejected status =>
          cases performs
          exact .refl _
  case revokeClient id =>
      obtain ⟨-, rfl⟩ := performs
      exact ⟨rfl, rfl, rfl, rfl⟩
  case completeRun id completion =>
      cases completion with
      | passed receipt =>
          cases performs
          exact ⟨rfl, rfl, rfl, rfl⟩
      | failed =>
          obtain ⟨-, rfl⟩ := performs
          exact .refl _
  all_goals
    have same : after = world := by
      first
        | exact performs
        | exact performs.2
        | exact performs.2.2
    exact same ▸ .refl _

theorem refused_sameFiles (op : Op) (world : World) :
    world.SameFiles (refused op world) := by
  unfold refused
  split
  · split
    · split
      · exact ⟨rfl, rfl, rfl, rfl⟩
      · exact .refl _
    · exact .refl _
  · exact .refl _

theorem faulty_answers_sameFiles {memory : Memory} {answer : Answer op}
    (spares : op.mutates = false)
    (answers : (faulty primitives).answers (memory, op) world answer after) :
    world.SameFiles after := by
  cases answer with
  | ok value => exact Performs.sameFiles spares answers
  | error failure =>
      obtain ⟨-, -, unchanged | ⟨-, value, performs⟩⟩ := answers
      · exact unchanged ▸ refused_sameFiles op world
      · exact performs.sameFiles spares

theorem faulty_drops_sameFiles {memory : Memory} (spares : op.mutates = false)
    (drops : (faulty primitives).drops (memory, op) world after) :
    world.SameFiles after := by
  rcases drops with rfl | ⟨value, performs⟩
  · exact .refl _
  · exact performs.sameFiles spares

end Requests

/-- `lock_exclusive` returns, which it does while no other process has the
lock. -/
def takesLock (op : Op) (answer : Answer op) : Bool :=
  op.acquiresLock && answer.toBool

abbrev HelperEnvironment : Type :=
  Environment (Memory × Op) (fun request => Answer request.2) World

abbrev HelperProgram : Type :=
  Program (Memory × Op) (fun request => Answer request.2)
    (Except Failure Unit × Memory)

def helpers (environment : Bool → HelperEnvironment) :
    MutexSystem (Memory × Op) (fun request => Answer request.2) World
      (Except Failure Unit × Memory) where
  environment
  takes := fun request answer => takesLock request.2 answer
  starts := fun program => ∃ embeddedCommit expectedCommit action,
    program = Helper.run embeddedCommit expectedCommit action .initial

abbrev Helpers : Type :=
  Tasks Nat (Nat × Option (Memory × Op))
    (ProcessAnswer Nat fun request : Memory × Op => Answer request.2)
    (Shared Nat World) (Except Failure Unit × Memory)

abbrev HelperLabel : Type :=
  TaskLabel Nat (Nat × Option (Memory × Op))

def emptyWorld : World where
  files := fun _ => none
  temporaries := []
  stages := []
  generations := []
  clients := []
  passedRuns := []
  used := []
  commits := []
  misreported := []

/-- A machine on which no helper runs. -/
abbrev unattended (home : World) : Helpers :=
  TaskSystem.idle { world := home, holder := none }

abbrev HelperStep (environment : Bool → HelperEnvironment) :
    Helpers → HelperLabel → Helpers → Prop :=
  (helpers environment).processes.Step

namespace Helper

variable (embeddedCommit expectedCommit : String)

/-- What `run` does once it has the lock, unless it retires a backup. -/
def underLock (action : Action) (intent : QaRunIntent) : Helper Unit := do
  cleanupAtomicTemps .hermesDirectory [.env, .config]
  let reconciledRuns ← recoverIncompleteCutovers embeddedCommit
  match action.qaRunId with
  | none => perform embeddedCommit action
  | some runId =>
      if ← confirmsReconciled embeddedCommit expectedCommit runId intent
          reconciledRuns then
        pure ()
      else
        perform embeddedCommit action

def beforeLock (action : Action) : Helper QaRunIntent := do
  call (.inspect "process identity, pinned commit and admin token")
  match action with
  | .retireBackup .. => pure .start
  | _ => qaIntent embeddedCommit expectedCommit action.qaRunId

def afterLock (action : Action) (intent : QaRunIntent) : Helper Unit :=
  match action with
  | .retireBackup generation providerRevoked =>
      retireBackup embeddedCommit generation providerRevoked
  | _ => underLock embeddedCommit expectedCommit action intent

theorem run_eq (action : Action) :
    run embeddedCommit expectedCommit action =
      beforeLock embeddedCommit expectedCommit action >>= fun intent =>
        call (.inspect "acquire the cutover lock") >>= fun _ =>
          afterLock embeddedCommit expectedCommit action intent := by
  unfold run beforeLock
  cases action <;> simp only [bind_assoc, pure_bind] <;> rfl

theorem keeps_beforeLock {contract : HelperContract}
    {condition : Memory → World → Prop} (looks : Looks contract condition)
    (cleans : ∀ generation, Routine.Keeps contract condition
      (cleanupAtomicTemps (.generation generation) (snapshotPaths generation)))
    (action : Action) :
    Routine.Keeps contract condition
      (beforeLock embeddedCommit expectedCommit action) := by
  refine Routine.Keeps.bind (looks.call rfl) fun _ => ?_
  cases action with
  | retireBackup generation providerRevoked => exact keeps_pure
  | preflight => exact keeps_qaIntent looks cleans _ _ _
  | apply qaRunId => exact keeps_qaIntent looks cleans _ _ _
  | verify => exact keeps_qaIntent looks cleans _ _ _

end Helper

section Rules

variable {environment : Bool → HelperEnvironment}
  {claims : MutexSystem.Claims (Memory × Op) World}

theorem enters_bind {α : Type} {first : Helper α} {next : α → Helper Unit}
    {memory : Memory} {world : World}
    (holds : first.wp ((helpers environment).untaken claims)
      (fun _ _ _ => True)
      (fun value memory _ =>
        (helpers environment).Enters claims (next value memory))
      memory world) :
    (helpers environment).Enters claims ((first >>= next) memory) := by
  refine @MutexSystem.Enters.bind _ _ _ _ _ _ _ _ _ world
    (Program.wp_mono ?_ holds)
  intro result world later
  obtain ⟨result, memory⟩ := result
  cases result with
  | ok value => exact later
  | error failure => trivial

theorem enters_lock {next : Helper Unit} {memory : Memory}
    (outside : claims.outside (memory, .inspect "acquire the cutover lock"))
    (inside : ∀ world after, claims.valid world →
      (environment false).answers
        (memory, .inspect "acquire the cutover lock") world (.ok ()) after →
      (helpers environment).Inside claims (next memory) after) :
    (helpers environment).Enters claims
      ((Helper.call (.inspect "acquire the cutover lock") >>= fun _ =>
        next) memory) := by
  refine ⟨outside, fun world answer after valid answers => ?_⟩
  cases answer with
  | ok value =>
      refine (if_pos ?_).mpr (inside world after valid answers)
      rfl
  | error failure =>
      refine (if_neg ?_).mpr trivial
      exact Bool.false_ne_true

theorem run_enters {embeddedCommit expectedCommit : String}
    {action : Helper.Action}
    (outside : ∀ memory,
      claims.outside (memory, .inspect "acquire the cutover lock"))
    (before : Routine.Keeps ((helpers environment).untaken claims)
      (fun memory _ => memory = .initial)
      (Helper.beforeLock embeddedCommit expectedCommit action))
    (after : ∀ intent world later, claims.valid world →
      (environment false).answers
        (.initial, .inspect "acquire the cutover lock") world (.ok ()) later →
      (helpers environment).Inside claims
        (Helper.afterLock embeddedCommit expectedCommit action intent .initial)
        later) :
    (helpers environment).Enters claims
      (Helper.run embeddedCommit expectedCommit action .initial) := by
  rw [Helper.run_eq]
  apply @enters_bind _ _ _ _ _ _ emptyWorld
  refine Routine.wp_mono (Routine.wp_mono_exits (before .initial emptyWorld rfl)
    fun _ _ _ _ => trivial) ?_
  intro intent memory _ same
  subst same
  exact enters_lock (outside _) (after intent)

end Rules

end NvidiaBuildLb.Hermes
