import Mathlib.Logic.Function.Basic
import Mathlib.Data.List.Basic

namespace NvidiaBuildLb.Foundation

/-! Threads that take turns on a shared state.  A schedule is a list of events;
an event names the thread that moves, or is something the surroundings do. -/

structure Interleaving (τ ι κ σ ℓ : Type) where
  act : τ → ι → σ → ℓ → σ × ℓ
  surround : κ → σ → σ

structure Configuration (τ σ ℓ : Type) where
  shared : σ
  locals : τ → ℓ

inductive Event (τ ι κ : Type) where
  | moves (thread : τ) (action : ι)
  | surrounds (event : κ)
  deriving DecidableEq, Repr

namespace Interleaving

variable {τ ι κ σ ℓ : Type} [DecidableEq τ] (system : Interleaving τ ι κ σ ℓ)

def step (configuration : Configuration τ σ ℓ) :
    Event τ ι κ → Configuration τ σ ℓ
  | .moves thread action =>
      let moved := system.act thread action configuration.shared
        (configuration.locals thread)
      { shared := moved.1
        locals := Function.update configuration.locals thread moved.2 }
  | .surrounds event =>
      { configuration with
        shared := system.surround event configuration.shared }

def replay (configuration : Configuration τ σ ℓ) (events : List (Event τ ι κ)) :
    Configuration τ σ ℓ :=
  events.foldl system.step configuration

@[simp] theorem replay_nil (configuration : Configuration τ σ ℓ) :
    system.replay configuration [] = configuration :=
  rfl

@[simp] theorem replay_cons (configuration : Configuration τ σ ℓ)
    (event : Event τ ι κ) (events : List (Event τ ι κ)) :
    system.replay configuration (event :: events) =
      system.replay (system.step configuration event) events :=
  rfl

theorem replay_append (configuration : Configuration τ σ ℓ)
    (events later : List (Event τ ι κ)) :
    system.replay configuration (events ++ later) =
      system.replay (system.replay configuration events) later :=
  List.foldl_append

/-- A property of the shared state, and what each thread knows about it from
where it stands: its own moves keep both, and nobody else's move takes the
thread's knowledge away. -/
structure Proof (valid : σ → Prop) (knows : τ → ℓ → σ → Prop) : Prop where
  own : ∀ thread action shared here, valid shared → knows thread here shared →
    valid (system.act thread action shared here).1 ∧
      knows thread (system.act thread action shared here).2
        (system.act thread action shared here).1
  others : ∀ thread action shared here other there, other ≠ thread →
    valid shared → knows thread here shared → knows other there shared →
      knows other there (system.act thread action shared here).1
  surroundings : ∀ event shared, valid shared →
    valid (system.surround event shared)
  surrounded : ∀ event shared thread here, valid shared →
    knows thread here shared → knows thread here (system.surround event shared)

/-- The two halves of a proof hold together. -/
structure Established (valid : σ → Prop) (knows : τ → ℓ → σ → Prop)
    (configuration : Configuration τ σ ℓ) : Prop where
  shared : valid configuration.shared
  locals : ∀ thread,
    knows thread (configuration.locals thread) configuration.shared

variable {system} {valid : σ → Prop} {knows : τ → ℓ → σ → Prop}

theorem Proof.step (proof : system.Proof valid knows)
    {configuration : Configuration τ σ ℓ}
    (established : Established valid knows configuration)
    (event : Event τ ι κ) :
    Established valid knows (system.step configuration event) := by
  cases event with
  | moves thread action =>
      have moved := proof.own thread action configuration.shared
        (configuration.locals thread) established.shared
        (established.locals thread)
      refine ⟨moved.1, fun other => ?_⟩
      simp only [Interleaving.step]
      by_cases same : other = thread
      · subst same
        rw [Function.update_self]
        exact moved.2
      · rw [Function.update_of_ne same]
        exact proof.others thread action _ _ other _ same established.shared
          (established.locals thread) (established.locals other)
  | surrounds event =>
      refine ⟨proof.surroundings event _ established.shared, fun thread => ?_⟩
      exact proof.surrounded event _ thread _ established.shared
        (established.locals thread)

theorem Proof.replay (proof : system.Proof valid knows)
    {configuration : Configuration τ σ ℓ}
    (established : Established valid knows configuration)
    (events : List (Event τ ι κ)) :
    Established valid knows (system.replay configuration events) := by
  induction events generalizing configuration with
  | nil => exact established
  | cons event events induction => exact induction (proof.step established event)

end Interleaving

end NvidiaBuildLb.Foundation
