import NvidiaBuildLb.Hermes.History
import NvidiaBuildLb.Hermes.Resumption

namespace NvidiaBuildLb.Hermes

open Foundation NvidiaBuildLb.Core

/-! A cutover is all or nothing, wherever it is cut off. -/

variable {primitives : Primitives}

theorem serve_dependable {commit : String} {op : Op} {world after : World}
    {value : Value op}
    (served : serve primitives commit op world = some (value, after)) :
    Dependable op value := by
  cases op with
  | docker command =>
      simp only [serve, Option.some.injEq, Prod.mk.injEq] at served
      cases command <;> first | exact served.1.symm | trivial
  | createClient label =>
      simp only [serve, Option.ite_none_right_eq_some, Option.some.injEq,
        Prod.mk.injEq] at served
      obtain ⟨-, rfl, -⟩ := served
      trivial
  | _ => trivial

theorem drive_reliable {α : Type} {commit : String}
    {program : Program (Memory × Op) (fun request => Answer request.2) α}
    {world after : World} {ending : Ending (Memory × Op) α}
    (driven : drive primitives commit (fun _ _ _ => .serve) program world =
      some (after, ending)) :
    Reaches (reliable primitives) world program after ending := by
  induction program generalizing world with
  | done value =>
      simp only [drive, Option.some.injEq, Prod.mk.injEq] at driven
      obtain ⟨rfl, rfl⟩ := driven
      exact .returned
  | ask request next induction =>
      simp only [drive] at driven
      split at driven
      · rename_i value between served
        exact .answered (.ok value)
          ⟨serve_dependable served, serve_performs served⟩
          (induction _ driven)
      · cases driven

/-- A cutover of the QA run 7, as the driver runs it. -/
structure Cutover where
  start : World
  memory : Memory
  crashed : World
  ending : Ending (Memory × Op) (Except Failure Unit × Memory)

def cutover (turns : Memory → Op → World → Turn) : Option Cutover :=
  match drive cutoverPrimitives "commit" (fun _ _ _ => .serve)
      (Helper.opening "commit" "commit" 7 .initial) freshWorld with
  | some (start, .returned (.ok true, memory)) =>
      (drive cutoverPrimitives "commit" turns (Helper.apply "commit" 7 memory)
        start).map fun crash =>
          { start, memory, crashed := crash.1, ending := crash.2 }
  | _ => none

theorem cutover_reaches {turns : Memory → Op → World → Turn} {ran : Cutover}
    (driven : cutover turns = some ran) :
    Reaches (faulty cutoverPrimitives) freshWorld
        (Helper.opening "commit" "commit" 7 .initial) ran.start
        (.returned (.ok true, ran.memory)) ∧
      Reaches (faulty cutoverPrimitives) ran.start
        (Helper.apply "commit" 7 ran.memory) ran.crashed ran.ending := by
  unfold cutover at driven
  split at driven
  · rename_i start memory opened
    obtain ⟨crash, applied, rfl⟩ := Option.map_eq_some_iff.mp driven
    exact ⟨drive_reaches opened, drive_reaches applied⟩
  · cases driven

def recoveredAfter (ran : Cutover) :
    Option (World × Ending (Memory × Op) (Except Failure (List Uuid) × Memory)) :=
  drive cutoverPrimitives "commit" (fun _ _ _ => .serve)
    (Helper.recoverIncompleteCutovers "commit" .initial) ran.crashed

/-- Killed when the commit is on disk and the QA run still to be completed. -/
def killedAtCompletion (_ : Memory) (op : Op) (_ : World) : Turn :=
  match op with
  | .completeRun _ (.passed _) => .kill
  | _ => .serve

/-- The directory sync after the rename of the committed journal is refused,
and the process is killed when the original files are back. -/
def killedInRollback (memory : Memory) (op : Op) (world : World) : Turn :=
  if refusesCommit memory op world then
    .refuse
  else
    match op with
    | .docker .start => if world.misreported.isEmpty then .serve else .kill
    | _ => .serve

def hasReturned {α : Type} : Ending (Memory × Op) α → Bool
  | .returned _ => true
  | _ => false

end NvidiaBuildLb.Hermes
