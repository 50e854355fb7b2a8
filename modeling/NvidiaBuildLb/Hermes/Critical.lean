import NvidiaBuildLb.Hermes.Rules
import NvidiaBuildLb.Hermes.Processes

namespace NvidiaBuildLb.Hermes

open Foundation NvidiaBuildLb.Core

/-! Rules for what a helper does under the lock while others, without it,
scan the generations. -/

/-- What a scan may have done to the machine. -/
structure World.Scanned (before after : World) : Prop where
  same : before.Same after
  temporaries : ∀ temporary ∈ after.temporaries,
    temporary ∈ before.temporaries
  stages : after.stages = before.stages

theorem World.Scanned.refl (world : World) : world.Scanned world :=
  ⟨.refl world, fun _ member => member, rfl⟩

theorem World.Scanned.trans {first second third : World}
    (earlier : first.Scanned second) (later : second.Scanned third) :
    first.Scanned third where
  same := earlier.same.trans later.same
  temporaries := fun temporary member =>
    earlier.temporaries temporary (later.temporaries temporary member)
  stages := later.stages.trans earlier.stages

def Op.removesTemporary : Op → Bool
  | .removeTemporary .. => true
  | _ => false

def Op.scans (op : Op) : Bool :=
  op.calm && (!op.mutates || op.removesTemporary)

theorem Performs.scanned {primitives : Primitives} {op : Op}
    {world after : World} {value : Value op} (scans : op.scans = true)
    (performs : Performs primitives op world value after) :
    world.Scanned after := by
  simp only [Op.scans, Bool.and_eq_true, Bool.or_eq_true,
    Bool.not_eq_true'] at scans
  have same := performs.same scans.1
  rcases scans.2 with spares | removes
  · have files := performs.sameFiles spares
    exact ⟨same, fun temporary member => files.temporaries ▸ member,
      files.stages⟩
  · cases op <;> simp only [Op.removesTemporary, Bool.false_eq_true] at removes
    case removeTemporary target nonce =>
        obtain ⟨-, rfl⟩ := performs
        exact ⟨same, fun _ member => (List.mem_filter.mp member).1, rfl⟩

theorem calm_of_scans {op : Op} (scans : op.scans = true) : op.calm = true := by
  simp only [Op.scans, Bool.and_eq_true] at scans
  exact scans.1

theorem faulty_answers_scanned {primitives : Primitives} {memory : Memory}
    {op : Op} {world after : World} {answer : Answer op}
    (scans : op.scans = true)
    (answers : (faulty primitives).answers (memory, op) world answer after) :
    world.Scanned after := by
  cases answer with
  | ok value => exact Performs.scanned scans answers
  | error failure =>
      obtain ⟨-, -, unchanged | ⟨-, value, performs⟩⟩ := answers
      · rw [refused_of_calm (calm_of_scans scans)] at unchanged
        exact unchanged ▸ .refl world
      · exact performs.scanned scans

theorem faulty_drops_scanned {primitives : Primitives} {memory : Memory}
    {op : Op} {world after : World} (scans : op.scans = true)
    (drops : (faulty primitives).drops (memory, op) world after) :
    world.Scanned after := by
  rcases drops with rfl | ⟨value, performs⟩
  · exact .refl _
  · exact performs.scanned scans

/-- What holds of the machine at any time, whoever has the lock. -/
structure Robust (valid : World → Prop) : Prop where
  same : ∀ {before after : World}, before.Same after → valid before →
    valid after
  refused : ∀ op {world : World}, valid world → valid (refused op world)

/-- Whatever scans do before a request is served, it leaves the machine
valid. -/
def Permitted (primitives : Primitives) (valid : World → Prop) (op : Op)
    (world : World) : Prop :=
  ∀ between value after, world.Scanned between → valid between →
    Performs primitives op between value after → valid after

def critical (primitives : Primitives) (valid : World → Prop) :
    HelperContract where
  environment := (faulty primitives).among World.Scanned valid
  waiting := fun request world => Permitted primitives valid request.2 world
  dropped := fun _ _ => True

/-- Conditions on what only changes under the lock. -/
def Stable (condition : Memory → World → Prop) : Prop :=
  ∀ memory before after, before.Same after → condition memory before →
    condition memory after

theorem Stable.and {condition : Memory → World → Prop}
    (stable : Stable condition) {fact : World → Prop}
    (keeps : ∀ before after, World.Same before after → fact before →
      fact after) :
    Stable fun memory world => condition memory world ∧ fact world :=
  fun memory before after same holds =>
    ⟨stable memory before after same holds.1,
      keeps before after same holds.2⟩

/-- A temporary of the write, if it is still there, is complete. -/
def World.Filled (world : World) (target : Path) (nonce : Uuid)
    (content : Content) : Prop :=
  ∀ temporary ∈ world.temporaries, temporary.target = target →
    temporary.nonce = nonce → temporary.content = some content

theorem World.Filled.scanned {before after : World} {target : Path}
    {nonce : Uuid} {content : Content} (scanned : before.Scanned after)
    (filled : before.Filled target nonce content) :
    after.Filled target nonce content :=
  fun temporary member => filled temporary (scanned.temporaries _ member)

theorem World.Filled.put (world : World) (target : Path) (nonce : Uuid)
    (content : Content) :
    (world.putTemporary { target, nonce, content := some content }).Filled
      target nonce content := by
  intro temporary member isTarget isNonce
  rcases List.mem_cons.mp member with rfl | old
  · rfl
  · have other := (List.mem_filter.mp old).2
    simp [isTarget, isNonce] at other

namespace Critical

open Helper

variable {primitives : Primitives} {valid : World → Prop}

theorem meets_ask {op : Op} {pre : Memory → World → Prop}
    {post : Answer op → Memory → World → Prop} {fails : Memory → World → Prop}
    (scanned : ∀ memory before after, before.Scanned after →
      pre memory before → pre memory after)
    (refusal : ∀ memory world, pre memory world → valid world →
      op.fallible = true → post (.error .system) memory (refused op world))
    (performed : ∀ memory world value after, pre memory world → valid world →
      Performs primitives op world value after →
        valid after ∧ post (.ok value) memory after ∧
          (op.remote = true → post (.error .system) memory after)) :
    Routine.Meets (critical primitives valid) pre
      (Routine.ask op : Helper (Answer op)) post fails := by
  intro memory world before
  refine Routine.wp_ask.mpr ⟨?_, fun _ _ => trivial, ?_⟩
  · intro between value after moved steady performs
    exact (performed memory between value after
      (scanned memory world between moved before) steady performs).1
  · intro answer after ⟨between, moved, steady, answers⟩
    have now := scanned memory world between moved before
    cases answer with
    | ok value =>
        exact (performed memory between value after now steady answers).2.1
    | error failure =>
        obtain ⟨rfl, fallible, unchanged | ⟨remote, value, performs⟩⟩ := answers
        · exact unchanged ▸ refusal memory between now steady fallible
        · exact (performed memory between value after now steady
            performs).2.2 remote

theorem meets_call {op : Op} {pre : Memory → World → Prop}
    {post : Value op → Memory → World → Prop} {fails : Memory → World → Prop}
    (scanned : ∀ memory before after, before.Scanned after →
      pre memory before → pre memory after)
    (refusal : ∀ memory world, pre memory world → valid world →
      fails memory (refused op world))
    (performed : ∀ memory world value after, pre memory world → valid world →
      Performs primitives op world value after →
        valid after ∧ post value memory after ∧
          (op.remote = true → fails memory after)) :
    Routine.Meets (critical primitives valid) pre (call op) post fails := by
  apply @Routine.Meets.bind _ _ _ _ _ _ _ _ _ _ _ _
    (fun answer memory world =>
      match answer with
      | .ok value => post value memory world
      | .error _ => fails memory world)
  · apply meets_ask scanned
    · exact fun memory world before steady _ =>
        refusal memory world before steady
    · exact performed
  · intro answer
    cases answer with
    | ok value => exact Routine.Meets.pure
    | error failure => exact Routine.Meets.leave

section Conditions

variable (robust : Robust valid) {condition : Memory → World → Prop}
  (stable : Stable condition)
include robust stable

theorem meets_look {op : Op} (calm : op.calm = true)
    {learnt : Value op → World → Prop}
    (learns : ∀ world value after,
      Performs primitives op world value after → learnt value after) :
    Routine.Meets (critical primitives valid) condition (call op)
      (fun value memory world => condition memory world ∧ learnt value world)
      condition := by
  apply meets_call
  · exact fun memory before after moved => stable memory before after moved.same
  · intro memory world holds _
    rw [refused_of_calm calm]
    exact holds
  · intro memory world value after holds steady performs
    have same := performs.same calm
    have later := stable memory world after same holds
    exact ⟨robust.same same steady,
      ⟨later, learns world value after performs⟩, fun _ => later⟩

theorem keeps_call {op : Op} (calm : op.calm = true) :
    Routine.Keeps (critical primitives valid) condition (call op) :=
  (meets_look robust stable calm (fun _ _ _ _ => trivial)).consequence
    (fun _ _ holds => holds) (fun _ _ _ holds => holds.1)
    (fun _ _ holds => holds)

theorem looks : Looks (critical primitives valid) condition where
  ask := by
    intro op isLook
    simp only [Op.looks, Bool.and_eq_true] at isLook
    apply meets_ask
    · exact fun memory before after moved =>
        stable memory before after moved.same
    · intro memory world holds _ _
      rw [refused_of_calm isLook.1.1]
      exact holds
    · intro memory world value after holds steady performs
      have same := performs.same isLook.1.1
      have later := stable memory world after same holds
      exact ⟨robust.same same steady, later, fun _ => later⟩

theorem keeps_cleanupAtomicTemps (directory : Place) (targets : List Path) :
    Routine.Keeps (critical primitives valid) condition
      (cleanupAtomicTemps directory targets) := by
  refine Routine.Keeps.bind
    (keeps_pathExists (looks robust stable) directory) fun found => ?_
  cases found with
  | false => exact keeps_pure
  | true =>
      refine Routine.Keeps.bind (keeps_call robust stable rfl) fun _ => ?_
      refine Routine.Keeps.bind (keeps_call robust stable rfl) fun found => ?_
      refine Routine.Keeps.bind (Routine.Keeps.each ?_ found) fun _ => ?_
      · intro temporary
        exact Routine.Keeps.bind (keeps_call robust stable rfl) fun _ =>
          keeps_call robust stable rfl
      · split
        · exact keeps_call robust stable rfl
        · exact keeps_pure

end Conditions

theorem meets_atomicWrite (robust : Robust valid)
    {pre post fails : Memory → World → Prop} (stablePre : Stable pre)
    (stablePost : Stable post) (stableFails : Stable fails) {target : Path}
    {content : Content}
    (replaced : ∀ memory world, pre memory world → valid world →
      valid (world.replaceFile target content) ∧
        post memory (world.replaceFile target content))
    (unwritten : ∀ memory world, pre memory world → fails memory world)
    (unsynced : ∀ memory world, post memory world →
      fails memory (refused (.syncDirectory (.replaced target)) world)) :
    Routine.Meets (critical primitives valid) pre (atomicWrite target content)
      (fun _ => post) fails := by
  have failing : ∀ {op : Op}, op.calm = true →
      Routine.Meets (critical primitives valid) pre (call op)
        (fun _ => pre) fails := fun isCalm =>
    (keeps_call robust stablePre isCalm).consequence (fun _ _ holds => holds)
      (fun _ _ _ holds => holds) unwritten
  refine Routine.Meets.bind (failing rfl) fun nonce => ?_
  have written : Routine.Meets (critical primitives valid) pre
      (do
        call (.createTemporary target nonce)
        call (.writeTemporary target nonce content)
        call (.syncTemporary target nonce)
        call (.protectTemporary target nonce)
        call (.replace target nonce)
        call (.syncDirectory (.replaced target)) : Helper Unit)
      (fun _ => post) fails := by
    refine Routine.Meets.bind (failing rfl) fun _ => ?_
    let complete : Memory → World → Prop := fun memory world =>
      pre memory world ∧ world.Filled target nonce content
    have fills : Routine.Meets (critical primitives valid) pre
        (call (.writeTemporary target nonce content))
        (fun _ => complete) fails := by
      refine (meets_look robust stablePre rfl ?_).consequence
        (fun _ _ holds => holds) (fun _ _ _ holds => holds) unwritten
      intro world _ after performs
      obtain ⟨-, rfl⟩ := performs
      exact .put world target nonce content
    have scannedComplete : ∀ memory before after, before.Scanned after →
        complete memory before → complete memory after :=
      fun memory before after moved holds =>
        ⟨stablePre memory before after moved.same holds.1,
          holds.2.scanned moved⟩
    have stays : ∀ {op : Op}, op.calm = true →
        (∀ {world value after}, Performs primitives op world value after →
          after = world) →
        Routine.Meets (critical primitives valid) complete (call op)
          (fun _ => complete) fails := by
      intro op isCalm unchanged
      apply meets_call scannedComplete
      · intro memory world holds _
        rw [refused_of_calm isCalm]
        exact unwritten memory world holds.1
      · intro memory world value after holds steady performs
        have same := unchanged performs
        subst same
        exact ⟨steady, holds, fun _ => unwritten memory after holds.1⟩
    refine Routine.Meets.bind fills fun _ => ?_
    refine Routine.Meets.bind (stays rfl fun performs => performs) fun _ => ?_
    refine Routine.Meets.bind (stays rfl fun performs => performs) fun _ => ?_
    refine @Routine.Meets.bind _ _ _ _ _ _ _ _ _ _ _ _ (fun _ => post) _ ?_ ?_
    · apply meets_call scannedComplete
      · exact fun memory world holds _ => unwritten memory world holds.1
      · intro memory world _ after holds steady performs
        obtain ⟨found, isFound, rfl⟩ := performs
        have isContent : found = content := by
          have same := holds.2 _ (List.mem_of_find?_eq_some isFound) rfl rfl
          exact Option.some.inj same
        subst isContent
        have dropped := same_dropTemporary world target nonce
        have later := replaced memory _ (stablePre memory world _ dropped
          holds.1) (robust.same dropped steady)
        exact ⟨later.1, later.2, fun remote => by cases remote⟩
    · intro _
      apply meets_call
      · exact fun memory before after moved =>
          stablePost memory before after moved.same
      · exact fun memory world holds _ => unsynced memory world holds
      · intro memory world _ after holds steady performs
        have same : after = world := performs
        subst same
        exact ⟨steady, holds, fun remote => by cases remote⟩
  refine Routine.Meets.bind (Routine.Meets.attempt written) fun result => ?_
  cases result with
  | ok value => exact fun _ _ holds => holds
  | error failure =>
      have calmFails := @looks primitives _ robust _ stableFails
      refine Routine.Meets.bind (keeps_temporaryExists calmFails target nonce)
        fun found => ?_
      cases found with
      | false => exact Routine.Meets.leave
      | true =>
          refine Routine.Meets.bind
            (keeps_ignore (keeps_call robust stableFails rfl)) fun _ => ?_
          refine Routine.Meets.bind
            (keeps_ignore (keeps_call robust stableFails rfl)) fun _ => ?_
          exact Routine.Meets.leave

end Critical

end NvidiaBuildLb.Hermes
