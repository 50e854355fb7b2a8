import NvidiaBuildLb.Hermes.Recovery

namespace NvidiaBuildLb.Hermes

open Foundation NvidiaBuildLb.Core

/-! Runs in which nothing comes between a rollback and the journal that records
it, and rules for the helper's requests in them. -/

/-- The journals of the generations that the run rolled back call for no
rollback. -/
def RollbacksRecorded (memory : Memory) (world : World) : Prop :=
  ∀ generation ∈ memory.rolledBack, ∀ journal,
    JournalAt world generation journal →
      journal.state.callsForRollback = false

def RefusesClient : (op : Op) → Answer op → Prop
  | .createClient _, .error _ => True
  | .createClient _, .ok (.rejected _) => True
  | _, _ => False

/-- Clients are issued; and while a rollback is not recorded, no request is
refused and the process is not killed. -/
def uninterrupted (primitives : Primitives) :
    Environment (Memory × Op) (fun request => Answer request.2) World where
  answers := fun request world answer after =>
    (faulty primitives).answers request world answer after ∧
      ¬ RefusesClient request.2 answer ∧
      (answer.isOk = false → RollbacksRecorded request.1 world)
  drops := fun request world after =>
    (faulty primitives).drops request world after ∧
      RollbacksRecorded request.1 world

def Path.holdsJournal : Path → Bool
  | .snapshot _ .journal => true
  | _ => false

/-- Requests that put no journal in place and issue no client. -/
def Op.fades : Op → Bool
  | .replace target _ => !target.holdsJournal
  | .publishStage _ | .createClient _ => false
  | _ => true

/-- Journals at most disappear, and no label is new. -/
structure World.Fades (before after : World) : Prop where
  journals : ∀ generation journal, JournalAt after generation journal →
    JournalAt before generation journal
  labels : ∀ item ∈ after.clients, ∃ old ∈ before.clients,
    old.label = item.label

theorem World.Fades.of_eq {before after : World}
    (files : ∀ generation, after.files (.snapshot generation .journal) =
      before.files (.snapshot generation .journal))
    (clients : after.clients = before.clients) : before.Fades after where
  journals := by
    intro generation journal at_
    unfold JournalAt at at_ ⊢
    rw [← files]
    exact at_
  labels := fun item member => ⟨item, clients ▸ member, rfl⟩

theorem World.Same.fades {before after : World} (same : before.Same after) :
    before.Fades after :=
  .of_eq (fun _ => congrFun same.files _) same.clients

theorem World.Fades.trans {first second third : World}
    (earlier : first.Fades second) (later : second.Fades third) :
    first.Fades third where
  journals := fun generation journal at_ =>
    earlier.journals generation journal (later.journals generation journal at_)
  labels := by
    intro item member
    obtain ⟨between, isBetween, same⟩ := later.labels item member
    obtain ⟨old, isOld, sameOld⟩ := earlier.labels between isBetween
    exact ⟨old, isOld, sameOld.trans same⟩

theorem fades_replaceFile {world : World} {target : Path}
    (elsewhere : target.holdsJournal = false) (content : Content) :
    world.Fades (world.replaceFile target content) := by
  refine World.Fades.of_eq ?_ rfl
  intro generation
  rw [replaceFile_files]
  split
  · rename_i same
    rw [← same] at elsewhere
    cases elsewhere
  · rfl

theorem fades_revoke (world : World) (id : Uuid) :
    world.Fades (world.revoke id) where
  journals := fun _ _ at_ => at_
  labels := by
    intro item member
    rcases Helper.mem_revoke_clients.mp member with ⟨kept, -⟩ |
      ⟨original, isOriginal, -, rfl⟩
    · exact ⟨item, kept, rfl⟩
    · exact ⟨original, isOriginal, rfl⟩

theorem fades_refused (op : Op) (world : World) :
    world.Fades (refused op world) :=
  have unseen := refused_unseen op world
  .of_eq unseen.journals unseen.clients

theorem Performs.fades {primitives : Primitives} {op : Op}
    {world after : World} {value : Value op} (fades : op.fades = true)
    (performs : Performs primitives op world value after) :
    world.Fades after := by
  by_cases calm : op.calm = true
  · exact (performs.same calm).fades
  cases op <;> simp only [Op.fades, Bool.false_eq_true, Bool.not_eq_true']
    at fades <;> simp only [Op.calm, not_true_eq_false] at calm <;>
    simp only [Performs] at performs
  case replace target nonce =>
      obtain ⟨content, -, rfl⟩ := performs
      exact (same_dropTemporary world target nonce).fades.trans
        (fades_replaceFile fades content)
  case createStage generation =>
      obtain ⟨-, rfl⟩ := performs
      exact .of_eq (fun _ => rfl) rfl
  case removeFile path =>
      obtain ⟨-, rfl⟩ := performs
      refine ⟨fun generation journal at_ => ?_, fun item member =>
        ⟨item, member, rfl⟩⟩
      unfold JournalAt at at_
      rw [setFile_files] at at_
      split at at_
      · cases at_
      · exact at_
  case removeStage generation =>
      obtain ⟨-, -, rfl⟩ := performs
      exact .of_eq (fun _ => rfl) rfl
  case removeGeneration generation =>
      obtain ⟨-, -, rfl⟩ := performs
      exact .of_eq (fun _ => rfl) rfl
  case revokeClient id =>
      obtain ⟨-, rfl⟩ := performs
      exact fades_revoke world id
  case completeRun id completion =>
      cases completion with
      | passed receipt =>
          subst performs
          exact .of_eq (fun _ => rfl) rfl
      | failed =>
          obtain ⟨-, rfl⟩ := performs
          exact .of_eq (fun _ => rfl) rfl
  case syncDirectory cause =>
      subst performs
      exact .of_eq (fun _ => rfl) rfl

/-- A condition that lasts while nothing is recorded or issued. -/
structure Fading (condition : Memory → World → Prop) : Prop where
  world : ∀ {memory before after}, before.Fades after →
    condition memory before → condition memory after
  memory : ∀ {before after : Memory} {world},
    after.rolledBack = before.rolledBack → condition before world →
      condition after world

theorem fading_recorded : Fading RollbacksRecorded where
  world := fun fades recorded generation member journal at_ =>
    recorded generation member journal (fades.journals generation journal at_)
  memory := fun same recorded generation member =>
    recorded generation (same ▸ member)

/-- The generation alone may have been rolled back without a record. -/
def RecordedBut (generation : Uuid) (memory : Memory) (world : World) : Prop :=
  ∀ other ∈ memory.rolledBack, other ≠ generation → ∀ journal,
    JournalAt world other journal → journal.state.callsForRollback = false

theorem fading_recordedBut (generation : Uuid) :
    Fading (RecordedBut generation) where
  world := fun fades recorded other member different journal at_ =>
    recorded other member different journal (fades.journals other journal at_)
  memory := fun same recorded other member =>
    recorded other (same ▸ member)

theorem RollbacksRecorded.but {memory : Memory} {world : World}
    (recorded : RollbacksRecorded memory world) (generation : Uuid) :
    RecordedBut generation memory world :=
  fun other member _ => recorded other member

/-- The run has not rolled the generation back. -/
def Unrolled (generation : Uuid) (memory : Memory) (world : World) : Prop :=
  RollbacksRecorded memory world ∧ generation ∉ memory.rolledBack

theorem fading_unrolled (generation : Uuid) : Fading (Unrolled generation) where
  world := fun fades holds => ⟨fading_recorded.world fades holds.1, holds.2⟩
  memory := fun same holds =>
    ⟨fading_recorded.memory same holds.1, same ▸ holds.2⟩

def Unissued (generation : Uuid) (memory : Memory) (world : World) : Prop :=
  Unrolled generation memory world ∧
    ∀ item ∈ world.clients, item.label ≠ operationLabelOf generation

theorem fading_unissued (generation : Uuid) : Fading (Unissued generation) where
  world := by
    intro memory before after fades holds
    refine ⟨(fading_unrolled generation).world fades holds.1, ?_⟩
    intro item member
    obtain ⟨old, isOld, same⟩ := fades.labels item member
    exact same ▸ holds.2 old isOld
  memory := fun same holds =>
    ⟨(fading_unrolled generation).memory same holds.1, holds.2⟩

def recording (primitives : Primitives) (earlier : List Uuid) :
    HelperContract where
  environment := (uninterrupted primitives).within fun request world =>
    Lasting earlier request.1 world
  waiting := fun _ _ => True
  dropped := fun request world => RollbacksRecorded request.1 world

namespace Recording

open Helper

variable {primitives : Primitives} {earlier : List Uuid}
  {condition : Memory → World → Prop}

theorem meets_ask {op : Op} {pre : Memory → World → Prop}
    {post : Answer op → Memory → World → Prop} {fails : Memory → World → Prop}
    (refusal : ∀ memory world, pre memory world →
      ¬ RefusesClient op (.error .system) → RollbacksRecorded memory world →
        post (.error .system) memory (refused op world))
    (performed : ∀ memory world value after, pre memory world →
      Lasting earlier memory world → ¬ RefusesClient op (.ok value) →
      Performs primitives op world value after →
        post (.ok value) memory after)
    (recorded : ∀ memory world value after, pre memory world →
      RollbacksRecorded memory world →
      Performs primitives op world value after →
        RollbacksRecorded memory after ∧
          (¬ RefusesClient op (.error .system) →
            post (.error .system) memory after)) :
    Routine.Meets (recording primitives earlier) pre
      (Routine.ask op : Helper (Answer op)) post fails := by
  intro memory world before
  refine Routine.wp_ask.mpr ⟨trivial, ?_, ?_⟩
  · intro after dropped
    obtain ⟨-, drops, held⟩ := dropped
    rcases drops with rfl | ⟨value, performs⟩
    · exact held
    · exact (recorded memory world value after before held performs).1
  · intro answer after answered
    obtain ⟨lasting, answers, issues, settled⟩ := answered
    cases answer with
    | ok value =>
        exact performed memory world value after before lasting issues answers
    | error failure =>
        have held := settled rfl
        obtain ⟨rfl, -, rfl | ⟨-, value, performs⟩⟩ := answers
        · exact refusal memory world before issues held
        · exact (recorded memory world value after before held performs).2 issues

theorem meets_call {op : Op} {pre : Memory → World → Prop}
    {post : Value op → Memory → World → Prop} {fails : Memory → World → Prop}
    (refusal : ∀ memory world, pre memory world →
      ¬ RefusesClient op (.error .system) → RollbacksRecorded memory world →
        fails memory (refused op world))
    (performed : ∀ memory world value after, pre memory world →
      Lasting earlier memory world → ¬ RefusesClient op (.ok value) →
      Performs primitives op world value after → post value memory after)
    (recorded : ∀ memory world value after, pre memory world →
      RollbacksRecorded memory world →
      Performs primitives op world value after →
        RollbacksRecorded memory after ∧
          (¬ RefusesClient op (.error .system) → fails memory after)) :
    Routine.Meets (recording primitives earlier) pre (call op) post fails := by
  apply @Routine.Meets.bind _ _ _ _ _ _ _ _ _ _ _ _
    (fun answer memory world =>
      match answer with
      | .ok value => post value memory world
      | .error _ => fails memory world)
  · exact meets_ask refusal performed recorded
  · intro answer
    cases answer with
    | ok value => exact Routine.Meets.pure
    | error failure => exact Routine.Meets.leave

theorem meets_fading (fading : Fading condition) {op : Op}
    (fades : op.fades = true) :
    Routine.Meets (recording primitives earlier) condition (call op)
      (fun _ => condition)
      (fun memory world => condition memory world ∧
        RollbacksRecorded memory world) := by
  apply meets_call
  · intro memory world holds _ held
    have refused := fades_refused op world
    exact ⟨fading.world refused holds, fading_recorded.world refused held⟩
  · intro memory world value after holds _ _ performs
    exact fading.world (performs.fades fades) holds
  · intro memory world value after holds held performs
    have later := fading_recorded.world (performs.fades fades) held
    exact ⟨later, fun _ => ⟨fading.world (performs.fades fades) holds, later⟩⟩

section Fading

variable (fading : Fading condition)
include fading

theorem keeps_call {op : Op} (fades : op.fades = true) :
    Routine.Keeps (recording primitives earlier) condition (call op) :=
  (meets_fading fading fades).consequence (fun _ _ holds => holds)
    (fun _ _ _ holds => holds) fun _ _ holds => holds.1

theorem looks : Looks (recording primitives earlier) condition where
  ask := by
    intro op isLook
    have fades : op.fades = true := by
      cases op <;> first | rfl | cases isLook
    apply meets_ask
    · exact fun memory world holds _ _ =>
        fading.world (fades_refused op world) holds
    · exact fun memory world value after holds _ _ performs =>
        fading.world (performs.fades fades) holds
    · exact fun memory world value after holds held performs =>
        ⟨fading_recorded.world (performs.fades fades) held,
          fun _ => fading.world (performs.fades fades) holds⟩

theorem keeps_update {change : Memory → Memory}
    (same : ∀ memory, (change memory).rolledBack = memory.rolledBack) :
    Routine.Keeps (recording primitives earlier) condition
      (Routine.update change : Helper Unit) :=
  fun memory _ holds => fading.memory (same memory) holds

theorem cleans (directory : Place) (targets : List Path) :
    Routine.Keeps (recording primitives earlier) condition
      (cleanupAtomicTemps directory targets) := by
  refine Routine.Keeps.bind (keeps_pathExists (looks fading) _) fun found => ?_
  cases found with
  | false => exact keeps_pure
  | true =>
      refine Routine.Keeps.bind (keeps_call fading rfl) fun _ => ?_
      refine Routine.Keeps.bind (keeps_call fading rfl) fun found => ?_
      refine Routine.Keeps.bind (Routine.Keeps.each (fun temporary =>
        Routine.Keeps.bind (keeps_call fading rfl) fun _ =>
          keeps_call fading rfl) found) fun _ => ?_
      split
      · exact keeps_call fading rfl
      · exact keeps_pure

end Fading

theorem meets_atomicWrite {pre post fails : Memory → World → Prop}
    (fadingPre : Fading pre) (fadingPost : Fading post)
    (fadingFails : Fading fails) {target : Path} {content : Content}
    (replaced : ∀ memory world, pre memory world →
      post memory (world.replaceFile target content))
    (recorded : ∀ memory world, pre memory world →
      RollbacksRecorded memory world →
        RollbacksRecorded memory (world.replaceFile target content))
    (unwritten : ∀ memory world, pre memory world →
      RollbacksRecorded memory world → fails memory world)
    (unsynced : ∀ memory world, post memory world →
      RollbacksRecorded memory world → fails memory world) :
    Routine.Meets (recording primitives earlier) pre
      (atomicWrite target content) (fun _ => post) fails := by
  have failing : ∀ {op : Op}, op.fades = true →
      Routine.Meets (recording primitives earlier) pre (call op)
        (fun _ => pre) fails := fun fades =>
    (meets_fading fadingPre fades).consequence (fun _ _ holds => holds)
      (fun _ _ _ holds => holds) fun memory world holds =>
        unwritten memory world holds.1 holds.2
  refine Routine.Meets.bind (failing rfl) fun nonce => ?_
  have written : Routine.Meets (recording primitives earlier) pre
      (do
        call (.createTemporary target nonce)
        call (.writeTemporary target nonce content)
        call (.syncTemporary target nonce)
        call (.protectTemporary target nonce)
        call (.replace target nonce)
        call (.syncDirectory (.replaced target)) : Helper Unit)
      (fun _ => post) fails := by
    let complete : Memory → World → Prop := fun memory world =>
      pre memory world ∧ world.temporary? target nonce =
        some { target, nonce, content := some content }
    refine Routine.Meets.bind (failing rfl) fun _ => ?_
    have fills : Routine.Meets (recording primitives earlier) pre
        (call (.writeTemporary target nonce content)) (fun _ => complete)
        fails := by
      apply meets_call
      · exact fun memory world holds _ held =>
          unwritten memory world holds held
      · intro memory world _ after holds _ _ performs
        have fades := performs.fades rfl
        obtain ⟨-, rfl⟩ := performs
        refine ⟨fadingPre.world fades holds, ?_⟩
        simp [World.putTemporary, World.temporary?]
      · intro memory world _ after holds held performs
        have fades := performs.fades rfl
        have later := fading_recorded.world fades held
        exact ⟨later, fun _ =>
          unwritten memory after (fadingPre.world fades holds) later⟩
    have stays : ∀ {op : Op}, (∀ world, refused op world = world) →
        (∀ {world value after}, Performs primitives op world value after →
          after = world) →
        Routine.Meets (recording primitives earlier) complete (call op)
          (fun _ => complete) fails := by
      intro op harmless unchanged
      apply meets_call
      · intro memory world holds _ held
        rw [harmless]
        exact unwritten memory world holds.1 held
      · intro memory world value after holds _ _ performs
        cases unchanged performs
        exact holds
      · intro memory world value after holds held performs
        cases unchanged performs
        exact ⟨held, fun _ => unwritten memory world holds.1 held⟩
    refine Routine.Meets.bind fills fun _ => ?_
    refine Routine.Meets.bind (stays (fun _ => rfl) fun performs => performs)
      fun _ => ?_
    refine Routine.Meets.bind (stays (fun _ => rfl) fun performs => performs)
      fun _ => ?_
    refine @Routine.Meets.bind _ _ _ _ _ _ _ _ _ _ _ _ (fun _ => post) _ ?_ ?_
    · have turns : ∀ {memory world value after}, complete memory world →
          Performs primitives (.replace target nonce) world value after →
          pre memory (world.dropTemporary target nonce) ∧
            after = (world.dropTemporary target nonce).replaceFile target
              content := by
        intro memory world value after holds performs
        obtain ⟨found, isFound, rfl⟩ := performs
        have isContent := isFound.symm.trans holds.2
        simp only [Option.some.injEq, Temporary.mk.injEq, true_and] at isContent
        cases isContent
        exact ⟨fadingPre.world (same_dropTemporary world target nonce).fades
          holds.1, rfl⟩
      apply meets_call
      · exact fun memory world holds _ held =>
          unwritten memory world holds.1 held
      · intro memory world value after holds _ _ performs
        obtain ⟨before, rfl⟩ := turns holds performs
        exact replaced memory _ before
      · intro memory world value after holds held performs
        obtain ⟨before, rfl⟩ := turns holds performs
        have later := recorded memory _ before (fading_recorded.world
          (same_dropTemporary world target nonce).fades held)
        exact ⟨later, fun _ =>
          unsynced memory _ (replaced memory _ before) later⟩
    · intro _
      exact (meets_fading fadingPost rfl).consequence (fun _ _ holds => holds)
        (fun _ _ _ holds => holds) fun memory world holds =>
          unsynced memory world holds.1 holds.2
  refine Routine.Meets.bind (Routine.Meets.attempt written) fun result => ?_
  cases result with
  | ok value => exact fun _ _ holds => holds
  | error failure =>
      refine Routine.Meets.bind (keeps_temporaryExists (looks fadingFails) _ _)
        fun found => ?_
      cases found with
      | false => exact Routine.Meets.leave
      | true =>
          refine Routine.Meets.bind (keeps_ignore (keeps_call fadingFails rfl))
            fun _ => ?_
          refine Routine.Meets.bind (keeps_ignore (keeps_call fadingFails rfl))
            fun _ => ?_
          exact Routine.Meets.leave

theorem keeps_write (fading : Fading condition) {target : Path}
    (elsewhere : target.holdsJournal = false) (content : Content) :
    Routine.Keeps (recording primitives earlier) condition
      (atomicWrite target content) := by
  apply meets_atomicWrite fading fading fading
  · exact fun memory world holds =>
      fading.world (fades_replaceFile elsewhere content) holds
  · exact fun memory world _ held =>
      fading_recorded.world (fades_replaceFile elsewhere content) held
  · exact fun _ _ holds _ => holds
  · exact fun _ _ holds _ => holds

private theorem recorded_replace {memory : Memory} {world : World}
    {generation : Uuid} {journal : RecoveryJournal}
    (recorded : RecordedBut generation memory world)
    (written : generation ∈ memory.rolledBack →
      journal.state.callsForRollback = false) :
    RollbacksRecorded memory (world.replaceFile (.snapshot generation .journal)
      (.journal journal)) := by
  intro other member found at_
  rcases journalAt_replaceFile.mp at_ with ⟨rfl, rfl⟩ | ⟨different, at_⟩
  · exact written member
  · exact recorded other member different found at_

theorem meets_record {generation : Uuid} {state : JournalState}
    (records : state.callsForRollback = false)
    (operationLabel : Option String) (clientId : Option Uuid) :
    Routine.Meets (recording primitives earlier) (RecordedBut generation)
      (writeJournal (.snapshot generation .journal) state operationLabel
        clientId) (fun _ => RollbacksRecorded) RollbacksRecorded := by
  apply meets_atomicWrite (fading_recordedBut generation) fading_recorded
    fading_recorded
  · exact fun memory world holds => recorded_replace holds fun _ => records
  · exact fun memory world holds _ => recorded_replace holds fun _ => records
  · exact fun _ _ _ held => held
  · exact fun _ _ _ held => held

theorem keeps_record {generation : Uuid} {state : JournalState}
    (records : state.callsForRollback = false)
    (operationLabel : Option String) (clientId : Option Uuid) :
    Routine.Keeps (recording primitives earlier) RollbacksRecorded
      (writeJournal (.snapshot generation .journal) state operationLabel
        clientId) :=
  (meets_record records operationLabel clientId).strengthen
    fun _ _ holds => holds.but generation

theorem keeps_writeUnrolled {generation : Uuid} (state : JournalState)
    (operationLabel : Option String) (clientId : Option Uuid) :
    Routine.Keeps (recording primitives earlier) (Unrolled generation)
      (writeJournal (.snapshot generation .journal) state operationLabel
        clientId) := by
  have fading := fading_unrolled generation
  have written : ∀ memory world, Unrolled generation memory world →
      RollbacksRecorded memory (world.replaceFile
        (.snapshot generation .journal) (.journal {
          schemaVersion := journalSchema
          state
          operationLabel
          clientId })) := fun memory world holds =>
    recorded_replace (holds.1.but generation)
      fun member => absurd member holds.2
  apply meets_atomicWrite fading fading fading
  · exact fun memory world holds => ⟨written memory world holds, holds.2⟩
  · exact fun memory world holds _ => written memory world holds
  · exact fun _ _ holds _ => holds
  · exact fun _ _ holds _ => holds

end Recording

end NvidiaBuildLb.Hermes
