import NvidiaBuildLb.Hermes.Critical
import NvidiaBuildLb.Hermes.Scheduler

namespace NvidiaBuildLb.Hermes

open Foundation NvidiaBuildLb.Core

/-! Who changes files while several helpers run: the process that has the
lock, unless a scan before the lock finds something to clean up. -/

/-- No write to one of the targets is under way or was interrupted. -/
def World.Tidy (world : World) (targets : List Path) : Prop :=
  ∀ temporary ∈ world.temporaries, temporary.target ∉ targets

theorem World.Tidy.temporary? {world : World} {targets : List Path}
    (tidy : world.Tidy targets) {target : Path} (among : target ∈ targets)
    (nonce : Uuid) : world.temporary? target nonce = none := by
  apply List.find?_eq_none.mpr
  intro temporary member same
  have isTarget := (of_decide_eq_true same).1
  exact tidy temporary member (isTarget ▸ among)

/-- No scan of a process without the lock finds a temporary. -/
def Undisturbed (processes : Helpers) (label : HelperLabel) : Prop :=
  ∀ tag pid memory targets,
    label = .answered tag (pid, some (memory, .listTemporaries targets)) →
      processes.world.holder ≠ some pid → processes.world.world.Tidy targets

/-- What is left of the machine for the processes without the lock. -/
def undisturbed (primitives : Primitives) (holds : Bool) :
    HelperEnvironment where
  answers := fun request world answer after =>
    (holds = false → ∀ targets, request.2 = .listTemporaries targets →
      world.Tidy targets) ∧
      (faulty primitives).answers request world answer after
  drops := (faulty primitives).drops

section Undisturbed

variable {primitives : Primitives} {before after : Helpers}
  {label : HelperLabel}

theorem undisturbed_step
    (step : Guarded (HelperStep fun _ => faulty primitives) Undisturbed before
      label after) :
    HelperStep (undisturbed primitives) before label after := by
  obtain ⟨step, spared⟩ := step
  cases step with
  | started unborn starts => exact .started unborn starts
  | surrounded surrounds => exact surrounds.elim
  | @dropped tag request next after waiting alive drops =>
      refine .dropped waiting alive ?_
      obtain ⟨pid, request?⟩ := request
      cases request? <;> exact drops
  | @answered tag request next answer after waiting alive answers =>
      refine .answered waiting alive ?_
      obtain ⟨pid, request?⟩ := request
      cases request? with
      | none => exact answers
      | some request =>
          refine ⟨⟨fun free targets lists => ?_, answers.1⟩, answers.2⟩
          obtain ⟨memory, op⟩ := request
          cases lists
          exact spared tag pid memory targets rfl (of_decide_eq_false free)

/-- A process without the lock leaves every file alone. -/
def lockHolderWrites : MutexSystem.Claims (Memory × Op) World where
  valid := fun _ => True
  quiet := World.SameFiles
  outside := fun request => request.2.mutates = false
  inside := fun _ _ => True

private theorem inside_any (environment : Bool → HelperEnvironment)
    (program : HelperProgram) (world : World) :
    (helpers environment).Inside lockHolderWrites program world := by
  induction program generalizing world with
  | done value => trivial
  | ask op next induction =>
      exact ⟨trivial, fun _ _ => trivial, fun answer after _ =>
        induction answer after⟩

namespace Helper

/-- What a helper may count on before it has the lock. -/
abbrev Waiting (primitives : Primitives) : HelperContract :=
  (helpers (undisturbed primitives)).untaken lockHolderWrites

theorem waiting_looks (condition : Memory → Prop) :
    Looks (Waiting primitives) fun memory _ => condition memory where
  ask := fun op isLook => by
    simp only [Op.looks, Bool.and_eq_true, Bool.not_eq_true'] at isLook
    intro memory world holds
    refine Routine.wp_ask.mpr ⟨⟨isLook.1.2, fun answer => ?_⟩,
      fun _ _ => trivial, fun _ _ _ => holds⟩
    exact Bool.and_eq_false_iff.mpr (.inl isLook.2)

theorem waiting_cleans (condition : Memory → Prop) (generation : Uuid) :
    Routine.Keeps (Waiting primitives) (fun memory _ => condition memory)
      (cleanupAtomicTemps (.generation generation)
        (snapshotPaths generation)) := by
  have looks := @waiting_looks primitives condition
  refine Routine.Keeps.bind (keeps_pathExists looks _) fun found => ?_
  cases found with
  | false => exact keeps_pure
  | true =>
      refine Routine.Keeps.bind (looks.call rfl) fun _ => ?_
      have finds : Routine.Meets (Waiting primitives)
          (fun memory _ => condition memory)
          (call (.listTemporaries (snapshotPaths generation)))
          (fun found memory _ => found = [] ∧ condition memory)
          (fun memory _ => condition memory) := by
        apply @Routine.Meets.bind _ _ _ _ _ _ _ _ _ _ _ _
          (fun answer memory _ => condition memory ∧
            ∀ found, answer = .ok found → found = [])
        · intro memory world holds
          refine Routine.wp_ask.mpr ⟨⟨rfl, fun _ => rfl⟩, fun _ _ => trivial, ?_⟩
          intro answer after ⟨between, _, _, tidy, answers⟩
          refine ⟨holds, fun found isFound => ?_⟩
          subst isFound
          obtain ⟨-, lists, -⟩ := answers
          apply List.eq_nil_iff_forall_not_mem.mpr
          intro entry member
          obtain ⟨among, present⟩ := (lists entry).mp member
          have none_ := (tidy rfl _ rfl).temporary? among entry.2
          rw [none_] at present
          cases present
        · intro answer
          cases answer with
          | ok found => exact fun _ _ holds => ⟨holds.2 found rfl, holds.1⟩
          | error failure => exact fun _ _ holds => holds.1
      refine Routine.Meets.learn finds fun found none_ => ?_
      subst none_
      exact keeps_pure

theorem waiting_run (embeddedCommit expectedCommit : String)
    (action : Action) :
    (helpers (undisturbed primitives)).Enters lockHolderWrites
      (run embeddedCommit expectedCommit action .initial) := by
  apply run_enters
  · exact fun _ => rfl
  · exact keeps_beforeLock _ _ (waiting_looks _) (waiting_cleans _) action
  · exact fun _ _ _ _ _ => inside_any _ _ _

end Helper

theorem lockHolderWrites_proof :
    (helpers (undisturbed primitives)).Proof lockHolderWrites where
  refl := World.SameFiles.refl
  trans := fun _ _ _ earlier later => earlier.trans later
  waits := fun _ _ _ _ _ => trivial
  outside := fun request _ _ _ _ spares answers =>
    ⟨trivial, faulty_answers_sameFiles spares answers.2⟩
  outsideDrops := fun request _ _ _ spares drops =>
    ⟨trivial, faulty_drops_sameFiles spares drops⟩
  inside := fun _ _ _ _ _ _ _ => trivial
  insideDrops := fun _ _ _ _ _ _ => trivial
  starts := by
    intro program ⟨embeddedCommit, expectedCommit, action, isRun⟩
    subst isRun
    exact Helper.waiting_run embeddedCommit expectedCommit action

def pidOf : HelperLabel → Option Nat
  | .started pid => some pid
  | .answered _ request => some request.1
  | .dropped _ request => some request.1
  | .surrounded => none

/-- What a process asks for in a step, whether it is served, refused or killed
over it. -/
def requestOf : HelperLabel → Option Op
  | .answered _ request => request.2.map Prod.snd
  | .dropped _ request => request.2.map Prod.snd
  | _ => none

/-- Only the process with the lock asks to change a directory, and the steps of
the others leave every file, temporary and directory as it is. -/
structure LockRespected (processes : Helpers) (label : HelperLabel)
    (after : Helpers) : Prop where
  asks : ∀ op, requestOf label = some op → op.mutates = true →
    ∃ pid, pidOf label = some pid ∧ processes.world.holder = some pid
  spares : (∀ pid, pidOf label = some pid →
      processes.world.holder ≠ some pid) →
    processes.world.world.SameFiles after.world.world

private theorem respected_of {pid : Nat} {request : Memory × Op}
    (asks : requestOf label = some request.2) (by_ : pidOf label = some pid)
    (permitted : if before.world.holder = some pid then
      lockHolderWrites.inside request before.world.world
      else lockHolderWrites.outside request)
    (spares : request.2.mutates = false →
      before.world.world.SameFiles after.world.world) :
    LockRespected before label after := by
  split at permitted
  · rename_i held
    exact ⟨fun _ _ _ => ⟨pid, by_, held⟩,
      fun free => absurd held (free pid by_)⟩
  · refine ⟨fun op asked mutates => ?_, fun _ => spares permitted⟩
    cases asks.symm.trans asked
    rw [show request.2.mutates = false from permitted] at mutates
    cases mutates

theorem lock_respected {home : World} {labels : List HelperLabel}
    (run : Run (Guarded (HelperStep fun _ => faulty primitives) Undisturbed)
      (unattended home) labels before)
    (step : HelperStep (fun _ => faulty primitives) before label after)
    (spared : Undisturbed before label) :
    LockRespected before label after := by
  have known := (lockHolderWrites_proof.asks trivial
    (run.mono undisturbed_step)).2
  cases step with
  | started unborn starts =>
      exact ⟨fun _ asked => (Option.some_ne_none _ asked.symm).elim,
        fun _ => .refl _⟩
  | surrounded surrounds => exact surrounds.elim
  | @answered tag request next answer after waiting alive answers =>
      obtain ⟨rfl, permitted⟩ := known tag request next waiting
      obtain ⟨pid, request?⟩ := request
      cases request? with
      | none =>
          refine ⟨fun _ asked => (Option.some_ne_none _ asked.symm).elim, ?_⟩
          intro _
          have released : after = before.world.release pid := answers
          rw [released]
          exact MutexSystem.release_world before.world pid ▸ .refl _
      | some request =>
          exact respected_of rfl rfl (permitted request rfl)
            fun spares => faulty_answers_sameFiles spares answers.1
  | @dropped tag request next after waiting alive drops =>
      obtain ⟨rfl, permitted⟩ := known tag request next waiting
      obtain ⟨pid, request?⟩ := request
      cases request? with
      | none =>
          refine ⟨fun _ asked => (Option.some_ne_none _ asked.symm).elim, ?_⟩
          intro _
          have released : after = before.world.release pid := drops
          rw [released]
          exact MutexSystem.release_world before.world pid ▸ .refl _
      | some request =>
          exact respected_of rfl rfl (permitted request rfl)
            fun spares => faulty_drops_sameFiles spares drops.1

end Undisturbed

namespace Beside

def Op.replacesJournal : Op → Bool
  | .replace (.snapshot _ .journal) _ => true
  | _ => false

/-- Whether a process without the lock would find a temporary. -/
def undisturbed? (pid : Nat) (processes : Helpers) : Bool :=
  match waitsFor pid processes with
  | some (some (.listTemporaries targets)) =>
      processes.world.holder = some pid ||
        processes.world.world.temporaries.all fun temporary =>
          temporary.target ∉ targets
  | _ => true

def moves (made : Move) (processes : Helpers) : Option Helpers :=
  move cutoverPrimitives "commit" made processes

/-- A helper that applies a cutover is about to rename its journal. -/
def writing : Option Helpers :=
  (moves (.starts 0 (.apply 7)) (unattended freshWorld)).bind
    (serves cutoverPrimitives "commit" undisturbed?
      (Option.any Op.replacesJournal) 0 200)

/-- A second one, for the same QA run, is about to remove what it found. -/
def scanning : Option Helpers :=
  writing.bind fun processes =>
    (moves (.starts 1 (.apply 7)) processes).bind
      (serves cutoverPrimitives "commit" (fun _ _ => true)
        (Option.any Op.removesTemporary) 1 200)

private theorem undisturbed_of_check {processes : Helpers} {pid : Nat}
    {request : Option (Memory × Op)}
    {next : ProcessAnswer Nat (fun request : Memory × Op => Answer request.2)
        (pid, request) → Program (Nat × Option (Memory × Op))
      (ProcessAnswer Nat fun request : Memory × Op => Answer request.2)
      (Except Failure Unit × Memory)} {label : HelperLabel}
    (waiting : processes.standing pid = .running (.ask (pid, request) next))
    (check : undisturbed? pid processes = true)
    (isLabel : label = .answered pid (pid, request) ∨
      label = .dropped pid (pid, request)) :
    Undisturbed processes label := by
  intro tag asker memory targets isListing free
  rcases isLabel with rfl | rfl
  · cases isListing
    have waits := waitsFor_of_standing waiting
    simp only [undisturbed?, waits, Option.map_some, Bool.or_eq_true,
      decide_eq_true_eq, List.all_eq_true] at check
    exact check.resolve_left free
  · cases isListing

private theorem undisturbed_start (processes : Helpers) (pid : Nat) :
    Undisturbed processes (.started pid) := by
  intro _ _ _ _ isListing
  cases isListing

private theorem writing_run {processes : Helpers}
    (isWriting : writing = some processes) :
    ∃ labels, Run (Guarded (HelperStep fun _ => faulty cutoverPrimitives)
      Undisturbed) (unattended freshWorld) labels processes := by
  obtain ⟨begun, starts, served⟩ := Option.bind_eq_some_iff.mp isWriting
  obtain ⟨labels, run⟩ := @serves_run _ _ _ _ Undisturbed _ _ _ _
    (fun _ _ _ _ waiting check isLabel =>
      undisturbed_of_check waiting check isLabel) served
  exact ⟨_, .cons ⟨move_starts starts, undisturbed_start _ 0⟩ run⟩

private theorem scanning_run {processes : Helpers}
    (isScanning : scanning = some processes) :
    ∃ labels, Run (HelperStep fun _ => faulty cutoverPrimitives)
      (unattended freshWorld) labels processes := by
  obtain ⟨before, isWriting, rest⟩ := Option.bind_eq_some_iff.mp isScanning
  obtain ⟨begun, starts, served⟩ := Option.bind_eq_some_iff.mp rest
  obtain ⟨_, first⟩ := writing_run isWriting
  obtain ⟨_, second⟩ := @serves_run _ _ _ _ (fun _ _ => True) _ _ _ _
    (fun _ _ _ _ _ _ _ => trivial) served
  exact ⟨_, (first.mono fun step => step.1).append
    (.cons (move_starts starts) (second.mono fun step => step.1))⟩

theorem lock_respected_writing :
    ∃ before label after, before.world.holder = some 0 ∧
      (requestOf label).any Op.replacesJournal = true ∧
      LockRespected before label after := by
  have shows_ : (writing.any fun before =>
      before.world.holder = some 0 &&
        ((waitsFor 0 before).any (Option.any Op.replacesJournal) &&
          (moves (.takes 0 .serve) before).isSome)) = true := by
    decide +kernel
  cases isWriting : writing with
  | none =>
      rw [isWriting] at shows_
      cases shows_
  | some before =>
      rw [isWriting] at shows_
      simp only [Option.any_some, Bool.and_eq_true, decide_eq_true_eq] at shows_
      obtain ⟨holder, waits, moved⟩ := shows_
      obtain ⟨after, moved⟩ := Option.isSome_iff_exists.mp moved
      obtain ⟨labels, run⟩ := writing_run isWriting
      obtain ⟨request, next, waiting, label, isLabel, step⟩ := move_takes moved
      rw [waitsFor_of_standing waiting] at waits
      have asked : requestOf label = request.map Prod.snd := by
        rcases isLabel with rfl | rfl <;> rfl
      have spared : Undisturbed before label := by
        intro tag pid memory targets isListing
        subst isListing
        rw [← asked] at waits
        cases waits
      exact ⟨before, label, after, holder, asked ▸ waits,
        lock_respected run step spared⟩

def overtakes (before : Helpers) : Bool :=
  match waitsFor 0 before, waitsFor 1 before with
  | some (some (.replace target nonce)), some (some (.removeTemporary other same)) =>
      (before.world.holder = some 0 && (target = other && nonce = same)) &&
        ((before.world.world.temporary? target nonce).isSome &&
          (moves (.takes 1 .serve) before).any fun after =>
            (after.world.world.temporary? target nonce).isNone)
  | _, _ => false

/-- While the helper with the lock is about to rename its journal, one that
only scans removes the file it is about to rename. -/
theorem scan_removes_write :
    ∃ labels before label after target nonce,
      Run (HelperStep fun _ => faulty cutoverPrimitives)
        (unattended freshWorld) labels before ∧
      HelperStep (fun _ => faulty cutoverPrimitives) before label after ∧
      before.world.holder = some 0 ∧
      waitsFor 0 before = some (some (.replace target nonce)) ∧
      (before.world.world.temporary? target nonce).isSome = true ∧
      pidOf label = some 1 ∧
      requestOf label = some (.removeTemporary target nonce) ∧
      after.world.world.temporary? target nonce = none ∧
      ¬ LockRespected before label after := by
  have shows_ : scanning.any overtakes = true := by
    decide +kernel
  cases isScanning : scanning with
  | none =>
      rw [isScanning] at shows_
      cases shows_
  | some before =>
      rw [isScanning, Option.any_some, overtakes] at shows_
      split at shows_
      · rename_i target nonce other same writes removes
        simp only [Bool.and_eq_true, decide_eq_true_eq, Option.any_eq_true,
          Option.isNone_iff_eq_none] at shows_
        obtain ⟨⟨holder, isTarget, isNonce⟩, present, after, moved, gone⟩ :=
          shows_
        subst isTarget
        subst isNonce
        obtain ⟨labels, run⟩ := scanning_run isScanning
        obtain ⟨request, next, waiting, label, isLabel, step⟩ :=
          move_takes moved
        rw [waitsFor_of_standing waiting] at removes
        have asked : requestOf label = some (.removeTemporary target nonce) := by
          rcases isLabel with rfl | rfl <;> exact Option.some.inj removes
        have scanner : pidOf label = some 1 := by
          rcases isLabel with rfl | rfl <;> rfl
        refine ⟨labels, before, label, after, target, nonce, run, step, holder,
          writes, present, scanner, asked, gone, ?_⟩
        intro respected
        obtain ⟨pid, isPid, held⟩ := respected.asks _ asked rfl
        rw [scanner] at isPid
        rw [holder] at held
        cases isPid.trans held.symm
      · cases shows_

end Beside

end NvidiaBuildLb.Hermes
