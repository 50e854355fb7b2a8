import NvidiaBuildLb.Hermes.Driver
import NvidiaBuildLb.Hermes.Processes

namespace NvidiaBuildLb.Hermes

open Foundation NvidiaBuildLb.Core

/-! Runs of several helpers that can be computed: whose turn it is, and what
comes of its request. -/

/-- The driver's answers, and those about the temporaries of one write. -/
def serveBeside (primitives : Primitives) (commit : String) :
    (op : Op) → World → Option (Value op × World)
  | .listTemporaries targets, world =>
      match world.temporaries with
      | [file] =>
          some (if file.target ∈ targets then [(file.target, file.nonce)]
            else [], world)
      | _ => serve primitives commit (.listTemporaries targets) world
  | .removeTemporary target nonce, world =>
      if (world.temporary? target nonce).isSome then
        some ((), world.dropTemporary target nonce)
      else
        none
  | op, world => serve primitives commit op world

theorem serveBeside_performs {primitives : Primitives} {commit : String}
    {op : Op} {world after : World} {value : Value op}
    (served : serveBeside primitives commit op world = some (value, after)) :
    Performs primitives op world value after := by
  cases op with
  | listTemporaries targets =>
      simp only [serveBeside] at served
      split at served
      · rename_i file single
        cases served
        refine ⟨by split <;> simp, fun entry => ?_, rfl⟩
        obtain ⟨target, nonce⟩ := entry
        have only : (world.temporary? target nonce).isSome = true ↔
            file.target = target ∧ file.nonce = nonce := by
          simp [World.temporary?, single]
        rw [only]
        by_cases listed : file.target ∈ targets
        · rw [if_pos listed, List.mem_singleton, Prod.mk.injEq]
          constructor
          · rintro ⟨isTarget, isNonce⟩
            exact ⟨isTarget ▸ listed, isTarget.symm, isNonce.symm⟩
          · rintro ⟨_, isTarget, isNonce⟩
            exact ⟨isTarget.symm, isNonce.symm⟩
        · rw [if_neg listed]
          constructor
          · intro member
            cases member
          · rintro ⟨among, isTarget, _⟩
            exact absurd (isTarget ▸ among) listed
      · exact serve_performs served
  | removeTemporary target nonce =>
      simp only [serveBeside, Option.ite_none_right_eq_some, Option.some.injEq,
        Prod.mk.injEq] at served
      obtain ⟨present, -, rfl⟩ := served
      exact ⟨present, rfl⟩
  | _ => exact @serve_performs _ commit _ _ _ _ served

inductive Move where
  | starts (pid : Nat) (action : Helper.Action)
  | takes (pid : Nat) (turn : Turn)

variable (primitives : Primitives) (commit : String)

def answerTo (pid : Nat) (processes : Helpers) {request : Memory × Op}
    (next : Answer request.2 → Program (Nat × Option (Memory × Op))
      (ProcessAnswer Nat fun request : Memory × Op => Answer request.2)
      (Except Failure Unit × Memory))
    (answer : Answer request.2) (world : World) : Option Helpers :=
  if takesLock request.2 answer = true then
    if processes.world.holder = none then
      some {
        world := { world, holder := some pid }
        standing := Function.update processes.standing pid
          (.running (next answer)) }
    else
      none
  else
    some {
      world := { world, holder := processes.world.holder }
      standing := Function.update processes.standing pid
        (.running (next answer)) }

/-- What a process waits for; its exit is `none`. -/
def waitsFor (pid : Nat) (processes : Helpers) : Option (Option Op) :=
  match processes.standing pid with
  | .running (.ask request _) => some (request.2.map Prod.snd)
  | _ => none

def move : Move → Helpers → Option Helpers
  | .starts pid action, processes =>
      match processes.standing pid with
      | .unborn =>
          if processes.world.holder = some pid then
            none
          else
            some { processes with
              standing := Function.update processes.standing pid
                (.running ((Helper.run commit commit action .initial).process
                  pid)) }
      | _ => none
  | .takes pid turn, processes =>
      match processes.standing pid with
      | .running (.ask (asker, some request) next) =>
          if asker = pid then
            match turn with
            | .serve =>
                match serveBeside primitives commit request.2
                    processes.world.world with
                | some (value, after) =>
                    answerTo pid processes next (.ok value) after
                | none => none
            | .refuse =>
                if request.2.fallible = true then
                  answerTo pid processes next (.error .system)
                    (refused request.2 processes.world.world)
                else
                  none
            | .kill => some {
                world := processes.world.release pid
                standing := Function.update processes.standing pid .gone }
            | .watch => none
          else
            none
      | .running (.ask (asker, none) next) =>
          if asker = pid then
            some {
              world := processes.world.release pid
              standing := Function.update processes.standing pid
                (.running (next ())) }
          else
            none
      | _ => none

/-- Serves a process until it waits for something the test is about, as long as
the check passes. -/
def serves (spares : Nat → Helpers → Bool) (until_ : Option Op → Bool)
    (pid : Nat) : Nat → Helpers → Option Helpers
  | 0, _ => none
  | fuel + 1, processes =>
      match waitsFor pid processes with
      | some waiting =>
          if until_ waiting then
            some processes
          else if spares pid processes then
            match move primitives commit (.takes pid .serve) processes with
            | some after => serves spares until_ pid fuel after
            | none => none
          else
            none
      | none => none

section Soundness

variable {primitives : Primitives} {commit : String}
  {processes after : Helpers}

theorem waitsFor_of_standing {pid : Nat}
    {request : Nat × Option (Memory × Op)}
    {next : ProcessAnswer Nat (fun request : Memory × Op => Answer request.2)
        request → Program (Nat × Option (Memory × Op))
      (ProcessAnswer Nat fun request : Memory × Op => Answer request.2)
      (Except Failure Unit × Memory)}
    (waiting : processes.standing pid = .running (.ask request next)) :
    waitsFor pid processes = some (request.2.map Prod.snd) := by
  unfold waitsFor
  rw [waiting]

private theorem answerTo_step {pid : Nat} {request : Memory × Op}
    {next : Answer request.2 → Program (Nat × Option (Memory × Op))
      (ProcessAnswer Nat fun request : Memory × Op => Answer request.2)
      (Except Failure Unit × Memory)}
    {answer : Answer request.2} {world : World}
    (waiting : processes.standing pid = .running (.ask (pid, some request) next))
    (answers : (faulty primitives).answers request processes.world.world answer
      world)
    (answered : answerTo pid processes next answer world = some after) :
    HelperStep (fun _ => faulty primitives) processes
      (.answered pid (pid, some request)) after := by
  unfold answerTo at answered
  split at answered
  · rename_i takes
    split at answered
    · rename_i free
      cases answered
      refine .answered waiting trivial ⟨answers, ?_⟩
      exact (if_pos takes).mpr ⟨free, rfl⟩
    · cases answered
  · rename_i untaken
    cases answered
    refine .answered waiting trivial ⟨answers, ?_⟩
    exact (if_neg untaken).mpr rfl

theorem move_starts {pid : Nat} {action : Helper.Action}
    (moved : move primitives commit (.starts pid action) processes =
      some after) :
    HelperStep (fun _ => faulty primitives) processes (.started pid) after := by
  simp only [move] at moved
  split at moved
  · rename_i unborn
    split at moved
    · cases moved
    · rename_i free
      cases moved
      exact .started unborn ⟨free, _, ⟨commit, commit, action, rfl⟩, rfl⟩
  · cases moved

theorem move_takes {pid : Nat} {turn : Turn}
    (moved : move primitives commit (.takes pid turn) processes = some after) :
    ∃ request next, processes.standing pid = .running (.ask (pid, request) next) ∧
      ∃ label, (label = .answered pid (pid, request) ∨
          label = .dropped pid (pid, request)) ∧
        HelperStep (fun _ => faulty primitives) processes label after := by
  simp only [move] at moved
  split at moved
  · rename_i asker request next waiting
    split at moved
    · rename_i same
      subst same
      refine ⟨some request, next, waiting, ?_⟩
      split at moved
      · split at moved
        · rename_i value between served
          exact ⟨_, .inl rfl, @answerTo_step _ _ _ _ _ _ (.ok value) between
            waiting (serveBeside_performs served) moved⟩
        · cases moved
      · split at moved
        · rename_i fallible
          exact ⟨_, .inl rfl, @answerTo_step _ _ _ _ _ _ (.error .system)
            (refused request.2 processes.world.world) waiting
            ⟨rfl, fallible, .inl rfl⟩ moved⟩
        · cases moved
      · cases moved
        refine ⟨_, .inr rfl, .dropped waiting trivial ⟨.inl ?_, rfl⟩⟩
        exact MutexSystem.release_world _ _
      · cases moved
    · cases moved
  · rename_i asker next waiting
    split at moved
    · rename_i same
      subst same
      cases moved
      exact ⟨none, next, waiting, _, .inl rfl, .answered waiting trivial rfl⟩
    · cases moved
  · cases moved

theorem move_step {made : Move}
    (moved : move primitives commit made processes = some after) :
    ∃ label, HelperStep (fun _ => faulty primitives) processes label after := by
  cases made with
  | starts pid action => exact ⟨_, move_starts moved⟩
  | takes pid turn =>
      obtain ⟨_, _, _, label, _, step⟩ := move_takes moved
      exact ⟨label, step⟩

theorem serves_run {allowed : Helpers → HelperLabel → Prop}
    {spares : Nat → Helpers → Bool} {until_ : Option Op → Bool} {pid fuel : Nat}
    (permits : ∀ processes request next label,
      processes.standing pid = .running (.ask (pid, request) next) →
        spares pid processes = true →
        label = .answered pid (pid, request) ∨
            label = .dropped pid (pid, request) →
          allowed processes label)
    (served : serves primitives commit spares until_ pid fuel processes =
      some after) :
    ∃ labels, Run (Guarded (HelperStep fun _ => faulty primitives) allowed)
      processes labels after := by
  induction fuel generalizing processes with
  | zero => cases served
  | succ fuel induction =>
      simp only [serves] at served
      split at served
      · split at served
        · cases served
          exact ⟨[], .nil _⟩
        · split at served
          · rename_i check
            split at served
            · rename_i between moved
              obtain ⟨request, next, waiting, label, isLabel, step⟩ :=
                move_takes moved
              have allows := permits _ request next label waiting check isLabel
              obtain ⟨labels, run⟩ := induction served
              exact ⟨label :: labels, .cons ⟨step, allows⟩ run⟩
            · cases served
          · cases served
      · cases served

end Soundness

end NvidiaBuildLb.Hermes
