import NvidiaBuildLb.Qa.Programs

namespace NvidiaBuildLb.Qa

open Foundation NvidiaBuildLb.Core Gateway

/-! The proof of the whole system. -/

section Proof

variable {world after : QaWorld} {tag other : Tag} {op : Unit × QaOp}

private theorem serve_process {op : QaOp} {luck : Luck} :
    (serve op luck world).2.process.epoch = world.process.epoch ∧
      (world.process.listening = true →
        (serve op luck world).2.process.listening = true) := by
  cases (serve_effect op luck world).process with
  | inl same => exact ⟨congrArg Process.epoch same, fun is => same ▸ is⟩
  | inr listens =>
      rw [listens.2]
      exact ⟨rfl, fun _ => rfl⟩

private theorem epoch_moves (moves : gateway.Moves op world after) :
    after.process.epoch = world.process.epoch := by
  cases moves_iff moves with
  | inl same => rw [same]
  | inr served =>
      obtain ⟨luck, rfl⟩ := served
      exact serve_process.1

private theorem listening_moves (moves : gateway.Moves op world after)
    (listening : world.process.listening = true) :
    after.process.listening = true := by
  cases moves_iff moves with
  | inl same => exact same ▸ listening
  | inr served =>
      obtain ⟨luck, rfl⟩ := served
      exact serve_process.2 listening

private theorem Valid.moves (valid : Valid world)
    (permitted : Permitted tag op.2 world)
    (moves : gateway.Moves op world after) : Valid after := by
  cases moves_iff moves with
  | inl same => exact same ▸ valid
  | inr served =>
      obtain ⟨luck, rfl⟩ := served
      exact valid.serve permitted

private theorem starts_holds {program : QaProgram}
    (starts : Starts tag world program) :
    claims.reached tag world ∧ claims.holds tag world ∧
      program.wp (claims.contract gateway tag) (claims.post tag) world := by
  cases starts with
  | recovery quiet =>
      exact ⟨Nat.le_refl _, .inl rfl, Program.wp_mono (fun _ _ _ => trivial)
        (does_start () world ⟨rfl, quiet⟩)⟩
  | creation listening runId input requestId =>
      exact ⟨Nat.le_refl _, .inr listening, Program.wp_mono
        (fun _ _ _ => trivial)
        (does_createQaRunRequest rfl input requestId () world trivial)⟩
  | completion listening serial runId input requestId =>
      exact ⟨Nat.le_refl _, .inr listening, Program.wp_mono
        (fun _ _ _ => trivial)
        (does_completeHermesQaRun input requestId () world trivial)⟩

private theorem guarantee (different : other ≠ tag)
    (otherHolds : claims.holds other world) (alive : gateway.alive tag world)
    (otherAlive : gateway.alive other world)
    (permitted : Permitted tag op.2 world)
    (moves : gateway.Moves op world after) : Others other world after := by
  have sameEpoch : other.epoch = tag.epoch := otherAlive.trans alive.symm
  cases moves_iff moves with
  | inl same => exact same ▸ .refl
  | inr served =>
      obtain ⟨luck, rfl⟩ := served
      refine ⟨?_, fun _ _ found => persists_serve found, ?_⟩
      · cases (serve_effect op.2 luck world).process with
        | inl same => exact same
        | inr listens =>
            exfalso
            rw [listens.1] at permitted
            cases otherHolds with
            | inl recovers =>
                obtain ⟨epoch, duty⟩ := tag
                obtain ⟨otherEpoch, otherDuty⟩ := other
                exact different (congrArg₂ Tag.mk sameEpoch
                  (recovers.trans permitted.1.symm))
            | inr listening =>
                have silent := permitted.2
                rw [listening] at silent
                cases silent
      · intro runId entry duty found notHermes
        have listening : world.process.listening = true := by
          cases otherHolds with
          | inl recovers =>
              rw [duty] at recovers
              cases recovers
          | inr listening => exact listening
        exact own_serve different sameEpoch duty listening permitted found
          notHermes

private theorem surrounds_holds (valid : Valid world)
    (surrounds : Surrounds world after) : Valid after ∧
      ∀ tag, claims.reached tag world → claims.reached tag after ∧
        (gateway.alive tag after →
          gateway.alive tag world ∧ Others tag world after) := by
  cases surrounds with
  | restarted settings =>
      refine ⟨⟨valid.linked, valid.sound, valid.closed⟩, fun tag reached =>
        ⟨Nat.le_succ_of_le reached, fun alive => ?_⟩⟩
      have later : tag.epoch = world.process.epoch + 1 := alive
      have before : tag.epoch ≤ world.process.epoch := reached
      omega
  | served traffic =>
      exact ⟨⟨valid.linked, valid.sound, valid.closed⟩, fun _ reached =>
        ⟨reached, fun alive => ⟨alive, rfl,
          fun _ entry found => ⟨entry, found, rfl⟩, fun _ _ _ found _ => found⟩⟩⟩
  | audited event foreign =>
      exact ⟨⟨valid.linked, valid.sound, valid.closed⟩, fun _ reached =>
        ⟨reached, fun alive => ⟨alive, rfl,
          fun _ entry found => ⟨entry, found, rfl⟩, fun _ _ _ found _ => found⟩⟩⟩

theorem gateway_proof : gateway.Proof claims where
  refl := fun _ _ => .refl
  trans := fun _ _ _ _ first second => first.trans second
  waits := fun _ _ _ _ others permitted => others.permitted permitted
  ends := fun _ _ _ _ _ holds => holds
  steady := fun _ _ _ others holds =>
    holds.imp_right fun listening => others.process ▸ listening
  starts := fun _ _ _ _ starts => starts_holds starts
  answers := fun _ _ _ answer _ valid holds permitted answers =>
    have moves := .inl ⟨answer, answers⟩
    ⟨valid.moves permitted moves, holds.imp_right (listening_moves moves)⟩
  drops := fun _ _ _ _ valid _ permitted drops =>
    valid.moves permitted (.inr drops)
  alive := fun _ _ _ _ moves alive => alive.trans (epoch_moves moves)
  reached := fun _ _ _ _ moves reached =>
    Nat.le_trans reached (Nat.le_of_eq (epoch_moves moves).symm)
  guarantee := fun _ _ _ _ _ different _ _ otherHolds alive otherAlive permitted
    moves => guarantee different otherHolds alive otherAlive permitted moves
  surrounds := fun _ _ valid surrounds => surrounds_holds valid surrounds

end Proof

theorem Valid.fresh (traffic : Traffic) (settings : Settings) :
    Valid (QaWorld.fresh traffic settings) where
  linked := fun _ member => by cases member
  sound := fun _ _ found => by cases found
  closed := fun _ _ found => by cases found

abbrev Reached (traffic : Traffic) (settings : Settings) (tasks : QaTasks) :
    Prop :=
  ∃ labels, Run gateway.Step (TaskSystem.idle (.fresh traffic settings)) labels
    tasks

theorem Reached.established {traffic : Traffic} {settings : Settings}
    {tasks : QaTasks} (reached : Reached traffic settings tasks) :
    TaskSystem.Established gateway claims tasks := by
  obtain ⟨_, run⟩ := reached
  exact gateway_proof.run (.idle (.fresh traffic settings)) run

end NvidiaBuildLb.Qa
