import NvidiaBuildLb.Hermes.Looking

namespace NvidiaBuildLb.Hermes

open Foundation NvidiaBuildLb.Core

/-! Rules for the helper's requests, and for the routines that leave the files
of Hermes, the generations and the gateway as they are. -/

/-- Every temporary left is an older one or bears a known identifier. -/
def World.KeepsNonces (before after : World) : Prop :=
  ∀ temporary ∈ after.temporaries,
    (∃ old ∈ before.temporaries, old.nonce = temporary.nonce) ∨
      temporary.nonce ∈ after.used

theorem World.keepsNonces_of_subset {before after : World}
    (subset : ∀ temporary ∈ after.temporaries,
      ∃ old ∈ before.temporaries, old.nonce = temporary.nonce) :
    before.KeepsNonces after :=
  fun temporary member => .inl (subset temporary member)

theorem World.keepsNonces_rfl {before after : World}
    (same : after.temporaries = before.temporaries) :
    before.KeepsNonces after :=
  keepsNonces_of_subset fun temporary member => ⟨temporary, same ▸ member, rfl⟩

/-- Worlds that differ in temporaries at most. -/
structure World.Same (before after : World) : Prop where
  files : after.files = before.files
  generations : after.generations = before.generations
  clients : after.clients = before.clients
  passedRuns : after.passedRuns = before.passedRuns
  commits : after.commits = before.commits
  misreported : after.misreported = before.misreported
  used : ∀ id ∈ before.used, id ∈ after.used
  nonces : before.KeepsNonces after

theorem World.Same.refl (world : World) : world.Same world :=
  ⟨rfl, rfl, rfl, rfl, rfl, rfl, fun _ member => member,
    World.keepsNonces_rfl rfl⟩

theorem World.KeepsNonces.trans {first second third : World}
    (earlier : first.KeepsNonces second) (later : second.KeepsNonces third)
    (used : ∀ id ∈ second.used, id ∈ third.used) :
    first.KeepsNonces third := by
  intro temporary member
  rcases later temporary member with ⟨between, isBetween, same⟩ | known
  · rcases earlier between isBetween with ⟨old, isOld, sameOld⟩ | known
    · exact .inl ⟨old, isOld, sameOld.trans same⟩
    · exact .inr (same ▸ used _ known)
  · exact .inr known

theorem World.Same.trans {first second third : World}
    (earlier : first.Same second) (later : second.Same third) :
    first.Same third where
  files := later.files.trans earlier.files
  generations := later.generations.trans earlier.generations
  clients := later.clients.trans earlier.clients
  passedRuns := later.passedRuns.trans earlier.passedRuns
  commits := later.commits.trans earlier.commits
  misreported := later.misreported.trans earlier.misreported
  used := fun id member => later.used id (earlier.used id member)
  nonces := earlier.nonces.trans later.nonces later.used

/-- A world without what differs between two such worlds. -/
def World.visible (world : World) : World :=
  { world with temporaries := [], stages := [], used := [] }

theorem World.Same.visible {before after : World} (same : before.Same after) :
    after.visible = before.visible := by
  unfold World.visible
  rw [same.files, same.generations, same.clients, same.passedRuns,
    same.commits, same.misreported]

theorem World.Same.fact {before after : World} (same : before.Same after)
    {fact : World → Prop} (looks : ∀ world, fact world.visible ↔ fact world)
    (holds : fact before) : fact after :=
  (looks after).mp (same.visible ▸ (looks before).mpr holds)

theorem same_dropTemporary (world : World) (target : Path) (nonce : Uuid) :
    world.Same (world.dropTemporary target nonce) :=
  ⟨rfl, rfl, rfl, rfl, rfl, rfl, fun _ member => member,
    World.keepsNonces_of_subset fun temporary member =>
      ⟨temporary, (List.mem_filter.mp member).1, rfl⟩⟩

private theorem mem_putTemporary {world : World} {file temporary : Temporary}
    (member : temporary ∈ (world.putTemporary file).temporaries) :
    temporary = file ∨ temporary ∈ world.temporaries := by
  rcases List.mem_cons.mp member with same | old
  · exact .inl same
  · exact .inr (List.mem_filter.mp old).1

theorem Performs.same {primitives : Primitives} {op : Op}
    {world after : World} {value : Value op} (calm : op.calm = true)
    (performs : Performs primitives op world value after) :
    world.Same after := by
  cases op <;> simp only [Op.calm, Bool.false_eq_true] at calm <;>
    simp only [Performs] at performs
  case newUuid =>
      obtain ⟨-, rfl⟩ := performs
      exact ⟨rfl, rfl, rfl, rfl, rfl, rfl, fun id member =>
        List.mem_cons_of_mem _ member, World.keepsNonces_rfl rfl⟩
  case inspect =>
      subst performs
      exact World.Same.refl _
  case validate =>
      obtain ⟨-, rfl⟩ := performs
      exact World.Same.refl _
  case pathExists =>
      obtain ⟨-, rfl⟩ := performs
      exact World.Same.refl _
  case read =>
      obtain ⟨-, rfl⟩ := performs
      exact World.Same.refl _
  case sha256File =>
      obtain ⟨-, rfl⟩ := performs
      exact World.Same.refl _
  case listBackupRoot =>
      obtain ⟨-, -, rfl⟩ := performs
      exact World.Same.refl _
  case listDirectory =>
      obtain ⟨-, -, rfl⟩ := performs
      exact World.Same.refl _
  case listTemporaries =>
      obtain ⟨-, -, rfl⟩ := performs
      exact World.Same.refl _
  case createTemporary =>
      obtain ⟨-, rfl⟩ := performs
      refine ⟨rfl, rfl, rfl, rfl, rfl, rfl, fun id member =>
        List.mem_cons_of_mem _ member, ?_⟩
      intro temporary member
      rcases mem_putTemporary member with rfl | old
      · exact .inr List.mem_cons_self
      · exact .inl ⟨temporary, old, rfl⟩
  case writeTemporary target nonce content =>
      obtain ⟨present, rfl⟩ := performs
      refine ⟨rfl, rfl, rfl, rfl, rfl, rfl, fun id member => member,
        World.keepsNonces_of_subset ?_⟩
      intro temporary member
      rcases mem_putTemporary member with rfl | old
      · obtain ⟨file, found⟩ := Option.isSome_iff_exists.mp present
        have chosen := List.find?_some found
        simp only [decide_eq_true_eq] at chosen
        exact ⟨file, List.mem_of_find?_eq_some found, chosen.2⟩
      · exact ⟨temporary, old, rfl⟩
  case temporaryExists =>
      obtain ⟨-, rfl⟩ := performs
      exact World.Same.refl _
  case removeTemporary =>
      obtain ⟨-, rfl⟩ := performs
      exact same_dropTemporary _ _ _
  case getRun =>
      obtain ⟨-, rfl⟩ := performs
      exact World.Same.refl _
  case listClients =>
      obtain ⟨-, rfl⟩ := performs
      exact World.Same.refl _
  case rotateClient =>
      obtain ⟨-, rfl⟩ := performs
      exact World.Same.refl _
  all_goals
    subst performs
    exact World.Same.refl _

theorem refused_of_calm {op : Op} (calm : op.calm = true) (world : World) :
    refused op world = world := by
  cases op <;> try rfl
  case syncDirectory cause =>
      cases cause <;> simp [Op.calm] at calm <;> rfl

/-- Requests that take something from Hermes, from a client or from a QA
run. -/
def Op.guarded : Op → Bool
  | .replace .. | .revokeClient _ | .completeRun .. => true
  | _ => false

theorem unguarded_of_calm {op : Op} (calm : op.calm = true) :
    op.guarded = false := by
  cases op <;> first | rfl | simp [Op.calm] at calm

/-! Contracts: a condition that holds whenever the process may be killed, and
one on every request at the moment it is made. -/

def underFaults (primitives : Primitives) (kept : Memory → World → Prop)
    (safe : Memory → Op → World → Prop) : HelperContract where
  environment := faulty primitives
  waiting := fun request world =>
    kept request.1 world ∧ safe request.1 request.2 world
  dropped := fun request world => kept request.1 world

namespace Helper

section Faults

variable {primitives : Primitives} {kept : Memory → World → Prop}
  {safe : Memory → Op → World → Prop}

theorem meets_ask {op : Op} {pre : Memory → World → Prop}
    {post : Answer op → Memory → World → Prop} {fails : Memory → World → Prop}
    (keeps : ∀ memory world, pre memory world → kept memory world)
    (asks : ∀ memory world, pre memory world → safe memory op world)
    (refusal : ∀ memory world, pre memory world → op.fallible = true →
      post (.error .system) memory (refused op world))
    (performed : ∀ memory world value after, pre memory world →
      Performs primitives op world value after →
        kept memory after ∧ post (.ok value) memory after ∧
          (op.remote = true → post (.error .system) memory after)) :
    Routine.Meets (underFaults primitives kept safe) pre
      (Routine.ask op : Helper (Answer op)) post fails := by
  intro memory world before
  refine Routine.wp_ask.mpr ⟨?_, ?_, ?_⟩
  · exact ⟨keeps memory world before, asks memory world before⟩
  · intro after drops
    rcases drops with rfl | ⟨value, performs⟩
    · exact keeps memory _ before
    · exact (performed memory world value after before performs).1
  · intro answer after answers
    cases answer with
    | ok value =>
        exact (performed memory world value after before answers).2.1
    | error failure =>
        obtain ⟨rfl, fallible, unchanged | ⟨remote, value, performs⟩⟩ := answers
        · exact unchanged ▸ refusal memory world before fallible
        · exact (performed memory world value after before performs).2.2 remote

theorem meets_call {op : Op} {pre : Memory → World → Prop}
    {post : Value op → Memory → World → Prop} {fails : Memory → World → Prop}
    (keeps : ∀ memory world, pre memory world → kept memory world)
    (asks : ∀ memory world, pre memory world → safe memory op world)
    (refusal : ∀ memory world, pre memory world →
      fails memory (refused op world))
    (performed : ∀ memory world value after, pre memory world →
      Performs primitives op world value after →
        kept memory after ∧ post value memory after ∧
          (op.remote = true → fails memory after)) :
    Routine.Meets (underFaults primitives kept safe) pre (call op) post
      fails := by
  apply @Routine.Meets.bind _ _ _ _ _ _ _ _ _ _ _ _
    (fun answer memory world =>
      match answer with
      | .ok value => post value memory world
      | .error _ => fails memory world)
  · apply meets_ask keeps asks
    · exact fun memory world before _ => refusal memory world before
    · exact performed
  · intro answer
    cases answer with
    | ok value => exact Routine.Meets.pure
    | error failure => exact Routine.Meets.leave

/-- A condition that only looks at what calm requests leave alone. -/
structure Calm (kept : Memory → World → Prop)
    (safe : Memory → Op → World → Prop) (condition : Memory → World → Prop) :
    Prop where
  keeps : ∀ memory world, condition memory world → kept memory world
  asks : ∀ memory world op, condition memory world → op.guarded = false →
    safe memory op world
  stable : ∀ memory before after, before.Same after →
    condition memory before → condition memory after

variable {condition : Memory → World → Prop}

theorem keeps_call (calm : Calm kept safe condition) {op : Op}
    (isCalm : op.calm = true) :
    Routine.Keeps (underFaults primitives kept safe) condition (call op) := by
  apply meets_call calm.keeps
  · intro memory world holds
    exact calm.asks memory world op holds (unguarded_of_calm isCalm)
  · intro memory world holds
    rw [refused_of_calm isCalm]
    exact holds
  · intro memory world value after holds performs
    have later := calm.stable memory world after (performs.same isCalm) holds
    exact ⟨calm.keeps memory after later, later, fun _ => later⟩

theorem keeps_ask (calm : Calm kept safe condition) {op : Op}
    (isCalm : op.calm = true) :
    Routine.Keeps (underFaults primitives kept safe) condition
      (Routine.ask op : Helper (Answer op)) := by
  apply meets_ask calm.keeps
  · intro memory world holds
    exact calm.asks memory world op holds (unguarded_of_calm isCalm)
  · intro memory world holds _
    rw [refused_of_calm isCalm]
    exact holds
  · intro memory world value after holds performs
    have later := calm.stable memory world after (performs.same isCalm) holds
    exact ⟨calm.keeps memory after later, later, fun _ => later⟩

theorem Calm.and (calm : Calm kept safe condition) {fact : World → Prop}
    (stable : ∀ before after, before.Same after → fact before → fact after) :
    Calm kept safe fun memory world => condition memory world ∧ fact world where
  keeps := fun memory world holds => calm.keeps memory world holds.1
  asks := fun memory world op holds => calm.asks memory world op holds.1
  stable := fun memory before after same holds =>
    ⟨calm.stable memory before after same holds.1,
      stable before after same holds.2⟩

theorem meets_look (calm : Calm kept safe condition) {op : Op}
    (isCalm : op.calm = true) {learnt : Value op → World → Prop}
    (learns : ∀ world value after,
      Performs primitives op world value after → learnt value after) :
    Routine.Meets (underFaults primitives kept safe) condition (call op)
      (fun value memory world => condition memory world ∧ learnt value world)
      condition := by
  apply meets_call calm.keeps
  · intro memory world holds
    exact calm.asks memory world op holds (unguarded_of_calm isCalm)
  · intro memory world holds
    rw [refused_of_calm isCalm]
    exact holds
  · intro memory world value after holds performs
    have later := calm.stable memory world after (performs.same isCalm) holds
    exact ⟨calm.keeps memory after later,
      ⟨later, learns world value after performs⟩, fun _ => later⟩

theorem Calm.looks (calm : Calm kept safe condition) :
    Looks (underFaults primitives kept safe) condition where
  ask := fun op isLook => by
    simp only [Op.looks, Bool.and_eq_true] at isLook
    exact keeps_ask calm isLook.1.1

theorem keeps_cleanupAtomicTemps (calm : Calm kept safe condition)
    (directory : Place) (targets : List Path) :
    Routine.Keeps (underFaults primitives kept safe) condition
      (cleanupAtomicTemps directory targets) := by
  refine Routine.Keeps.bind (keeps_pathExists calm.looks directory) fun found => ?_
  cases found with
  | false => exact keeps_pure
  | true =>
      refine Routine.Keeps.bind (keeps_call calm rfl) fun _ => ?_
      refine Routine.Keeps.bind (keeps_call calm rfl) fun found => ?_
      refine Routine.Keeps.bind (Routine.Keeps.each ?_ found) fun _ => ?_
      · intro temporary
        exact Routine.Keeps.bind (keeps_call calm rfl) fun _ =>
          keeps_call calm rfl
      · split
        · exact keeps_call calm rfl
        · exact keeps_pure

theorem Calm.cleans (calm : Calm kept safe condition) (generation : Uuid) :
    Routine.Keeps (underFaults primitives kept safe) condition
      (cleanupAtomicTemps (.generation generation) (snapshotPaths generation)) :=
  keeps_cleanupAtomicTemps calm _ _

private theorem temporary?_put (world : World) (file : Temporary) :
    (world.putTemporary file).temporary? file.target file.nonce =
      some file := by
  simp [World.putTemporary, World.temporary?]

/-- A write either takes effect, or fails before it has, or is taken for failed
because the directory was not synced. -/
theorem meets_atomicWrite {pre post fails : Memory → World → Prop}
    (calmPre : Calm kept safe pre) (calmPost : Calm kept safe post)
    (calmFails : Calm kept safe fails) {target : Path} {content : Content}
    (asks : ∀ memory world nonce, pre memory world →
      safe memory (.replace target nonce) world)
    (replaced : ∀ memory world, pre memory world →
      post memory (world.replaceFile target content))
    (unwritten : ∀ memory world, pre memory world → fails memory world)
    (unsynced : ∀ memory world, post memory world →
      fails memory (refused (.syncDirectory (.replaced target)) world)) :
    Routine.Meets (underFaults primitives kept safe) pre
      (atomicWrite target content) (fun _ => post) fails := by
  have failing : ∀ {op : Op}, op.calm = true →
      Routine.Meets (underFaults primitives kept safe) pre (call op)
        (fun _ => pre) fails := fun isCalm =>
    (keeps_call calmPre isCalm).consequence (fun _ _ holds => holds)
      (fun _ _ _ holds => holds) unwritten
  refine Routine.Meets.bind (failing rfl) fun nonce => ?_
  have written : Routine.Meets (underFaults primitives kept safe) pre
      (do
        call (.createTemporary target nonce)
        call (.writeTemporary target nonce content)
        call (.syncTemporary target nonce)
        call (.protectTemporary target nonce)
        call (.replace target nonce)
        call (.syncDirectory (.replaced target)) : Helper Unit)
      (fun _ => post) fails := by
    refine Routine.Meets.bind (failing rfl) fun _ => ?_
    let complete : World → Prop := fun world =>
      world.temporary? target nonce =
        some { target, nonce, content := some content }
    have fills : Routine.Meets (underFaults primitives kept safe) pre
        (call (.writeTemporary target nonce content))
        (fun _ memory world => pre memory world ∧ complete world) fails := by
      refine (meets_look calmPre rfl ?_).consequence (fun _ _ holds => holds)
        (fun _ _ _ holds => holds) unwritten
      intro world _ after performs
      obtain ⟨-, rfl⟩ := performs
      exact temporary?_put world _
    have stays : ∀ {op : Op}, op.calm = true →
        (∀ {world value after}, Performs primitives op world value after →
          after = world) →
        Routine.Meets (underFaults primitives kept safe)
          (fun memory world => pre memory world ∧ complete world) (call op)
          (fun _ memory world => pre memory world ∧ complete world) fails := by
      intro op isCalm unchanged
      apply meets_call
      · exact fun memory world holds => calmPre.keeps memory world holds.1
      · exact fun memory world holds =>
          calmPre.asks memory world op holds.1 (unguarded_of_calm isCalm)
      · intro memory world holds
        rw [refused_of_calm isCalm]
        exact unwritten memory world holds.1
      · intro memory world value after holds performs
        have same := unchanged performs
        subst same
        exact ⟨calmPre.keeps memory after holds.1, holds,
          fun _ => unwritten memory after holds.1⟩
    refine Routine.Meets.bind fills fun _ => ?_
    refine Routine.Meets.bind (stays rfl fun performs => performs) fun _ => ?_
    refine Routine.Meets.bind (stays rfl fun performs => performs) fun _ => ?_
    refine @Routine.Meets.bind _ _ _ _ _ _ _ _ _ _ _ _ (fun _ => post) _ ?_ ?_
    · apply meets_call
      · exact fun memory world holds => calmPre.keeps memory world holds.1
      · exact fun memory world holds => asks memory world nonce holds.1
      · exact fun memory world holds => unwritten memory world holds.1
      · intro memory world _ after holds performs
        obtain ⟨found, isFound, rfl⟩ := performs
        have isContent : found = content := by
          have same := isFound.symm.trans holds.2
          simpa using same
        subst isContent
        have later := replaced memory _ (calmPre.stable memory world _
          (same_dropTemporary world target nonce) holds.1)
        exact ⟨calmPost.keeps memory _ later, later, fun remote => by
          cases remote⟩
    · intro _
      apply meets_call calmPost.keeps
      · exact fun memory world holds => calmPost.asks memory world _ holds rfl
      · exact unsynced
      · intro memory world _ after holds performs
        have same : after = world := performs
        subst same
        exact ⟨calmPost.keeps memory after holds, holds, fun remote => by
          cases remote⟩
  refine Routine.Meets.bind (Routine.Meets.attempt written) fun result => ?_
  cases result with
  | ok value => exact fun _ _ holds => holds
  | error failure =>
      refine Routine.Meets.bind (keeps_temporaryExists calmFails.looks target nonce)
        fun found => ?_
      cases found with
      | false => exact Routine.Meets.leave
      | true =>
          refine Routine.Meets.bind (keeps_ignore (keeps_call calmFails rfl))
            fun _ => ?_
          refine Routine.Meets.bind (keeps_ignore (keeps_call calmFails rfl))
            fun _ => ?_
          exact Routine.Meets.leave

end Faults

end Helper

end NvidiaBuildLb.Hermes
