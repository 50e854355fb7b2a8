import NvidiaBuildLb.Foundation.Run
import NvidiaBuildLb.Hermes.Driver
import NvidiaBuildLb.Hermes.RecordedRuns
import NvidiaBuildLb.Hermes.Runs

namespace NvidiaBuildLb.Hermes

open Foundation NvidiaBuildLb.Core

/-! Histories: runs of the helper, each ended or killed anywhere, and the
operator's edits between them. -/

/-- Before the first run of the helper. -/
structure World.Fresh (world : World) : Prop where
  journals : ∀ generation, world.files (.snapshot generation .journal) = none
  retirements : ∀ generation, world.files (.retirement generation) = none
  commits : world.commits = []
  misreported : world.misreported = []
  nonces : ∀ temporary ∈ world.temporaries, temporary.nonce ∈ world.used
  clients : (world.clients.map ClientItem.id).Nodup
  active : ((world.clients.filter ClientItem.active).map
    ClientItem.label).Nodup
  issued : ∀ item ∈ world.clients, ∀ generation,
    item.label = operationLabelOf generation → generation ∈ world.used

theorem World.Fresh.inv {world : World} (fresh : world.Fresh) :
    Inv [] world where
  labels := by
    intro left leftMember right rightMember same
    rw [List.inj_on_of_nodup_map fresh.clients leftMember rightMember same]
  active := by
    intro left leftMember right rightMember leftActive rightActive same
    rw [List.inj_on_of_nodup_map fresh.active
      (List.mem_filter.mpr ⟨leftMember, leftActive⟩)
      (List.mem_filter.mpr ⟨rightMember, rightActive⟩) same]
  issued := fresh.issued
  reported := by
    rw [fresh.misreported]
    intro generation member
    cases member
  retired := by
    intro generation retired
    rw [fresh.retirements] at retired
    cases retired
  nonces := fresh.nonces
  journals := by
    intro generation journal at_
    unfold JournalAt at at_
    rw [fresh.journals] at at_
    cases at_
  generated := by
    rw [fresh.commits]
    intro commit member
    cases member
  commits := by
    intro commit standing
    have member := standing.1
    rw [fresh.commits] at member
    cases member
  latest := by
    intro generation journal at_
    unfold JournalAt at at_
    rw [fresh.journals] at at_
    cases at_
  known := by
    intro generation member
    cases member
  settled := by
    intro generation member
    cases member

/-- Between two runs: the world, and the generations that runs so far have
rolled back. -/
structure Site where
  world : World
  rolledBack : List Uuid

def Site.initial (world : World) : Site where
  world
  rolledBack := []

inductive Event where
  | ran (embeddedCommit expectedCommit : String) (action : Helper.Action)
      (memory : Memory)
  | editedEnv (content : Option Content)
  | editedConfig (content : Option Content)

def memoryOf : Ending (Memory × Op) (Except Failure Unit × Memory) → Memory
  | .waiting request | .dropped request => request.1
  | .returned result => result.2

def siteStep (primitives : Primitives) : Site → Event → Site → Prop
  | before, .ran embeddedCommit expectedCommit action memory, after =>
      (∃ ending, memoryOf ending = memory ∧
        Reaches (faulty primitives) before.world
          (Helper.run embeddedCommit expectedCommit action .initial)
          after.world ending) ∧
        after.rolledBack = memory.rolledBack ++ before.rolledBack
  | before, .editedEnv content, after =>
      after = { before with world := before.world.setFile .env content }
  | before, .editedConfig content, after =>
      after = { before with world := before.world.setFile .config content }

/-- A run that rolls a generation back is uninterrupted to its end. -/
def recordedStep (primitives : Primitives) (before : Site) (event : Event)
    (after : Site) : Prop :=
  siteStep primitives before event after ∧
    match event with
    | .ran embeddedCommit expectedCommit action memory =>
        memory.rolledBack ≠ [] → ∃ ending, memoryOf ending = memory ∧
          (∀ request, ending ≠ .waiting request) ∧
          Reaches (uninterrupted primitives) before.world
            (Helper.run embeddedCommit expectedCommit action .initial)
            after.world ending
    | _ => True

variable {primitives : Primitives} {earlier : List Uuid}

theorem setFile_hermes_unseen (world : World) {path : Path}
    (hermes : path = .env ∨ path = .config) (content : Option Content) :
    Unseen world (world.setFile path content) := by
  rcases hermes with rfl | rfl <;>
    exact ⟨fun _ => rfl, fun _ => rfl, fun _ => rfl, rfl, rfl, rfl, rfl,
      fun _ member => member, fun _ member => .inl member,
      fun _ member => member, World.keepsNonces_rfl rfl⟩

/-- However a run of the helper ends, the invariant holds, and every request it
makes is in order. -/
theorem run_keeps {embeddedCommit expectedCommit : String}
    {action : Helper.Action} {world after : World}
    {ending : Ending (Memory × Op) (Except Failure Unit × Memory)}
    (inv : Inv earlier world)
    (reaches : Reaches (faulty primitives) world
      (Helper.run embeddedCommit expectedCommit action .initial) after ending) :
    Lasting earlier (memoryOf ending) after ∧
      ∀ request, ending = .waiting request →
        Safe earlier request.1 request.2 after := by
  have start : Lasting earlier Memory.initial world := by
    refine ⟨inv, ?_⟩
    intro generation member
    cases member
  have held := Program.wp_sound (@Helper.keeps_run primitives earlier
    embeddedCommit expectedCommit action Memory.initial world start) reaches
  cases ending with
  | waiting request =>
      refine ⟨held.1, ?_⟩
      intro other same
      cases same
      exact held.2
  | dropped request =>
      refine ⟨held, ?_⟩
      intro other same
      cases same
  | returned result =>
      refine ⟨?_, ?_⟩
      · obtain ⟨result, memory⟩ := result
        cases result <;> exact held
      · intro other same
        cases same

theorem inv_of_history {start : World} {events : List Event} {site : Site}
    (fresh : start.Fresh)
    (history : Run (siteStep primitives) (.initial start) events site) :
    Inv [] site.world := by
  apply history.invariant fun site => Inv [] site.world
  · intro before event after inv step
    cases event with
    | ran embeddedCommit expectedCommit action memory =>
        obtain ⟨⟨ending, -, reaches⟩, -⟩ := step
        exact (run_keeps inv reaches).1.1
    | editedEnv content =>
        subst step
        exact inv.unseen (setFile_hermes_unseen _ (.inl rfl) content)
    | editedConfig content =>
        subst step
        exact inv.unseen (setFile_hermes_unseen _ (.inr rfl) content)
  · exact fresh.inv

theorem run_records {embeddedCommit expectedCommit : String}
    {action : Helper.Action} {world after : World}
    {ending : Ending (Memory × Op) (Except Failure Unit × Memory)}
    (inv : Inv earlier world) (ended : ∀ request, ending ≠ .waiting request)
    (reaches : Reaches (uninterrupted primitives) world
      (Helper.run embeddedCommit expectedCommit action .initial) after ending) :
    RollbacksRecorded (memoryOf ending) after := by
  have start : Lasting earlier Memory.initial world := by
    refine ⟨inv, ?_⟩
    intro generation member
    cases member
  have lasting : Reaches (recording primitives earlier).environment world
      (Helper.run embeddedCommit expectedCommit action .initial) after
      ending := by
    apply Program.reaches_within _ _ (@Helper.keeps_run primitives earlier
      embeddedCommit expectedCommit action Memory.initial world start) reaches
    · exact fun _ _ _ _ answers => answers.1
    · exact fun _ _ holds => holds.1
  have untouched : RollbacksRecorded Memory.initial world := by
    intro generation member
    cases member
  have held := Program.wp_sound (@Recording.keeps_run primitives earlier
    embeddedCommit expectedCommit action Memory.initial world untouched) lasting
  cases ending with
  | waiting request => exact absurd rfl (ended request)
  | dropped request => exact held
  | returned result =>
      obtain ⟨result, memory⟩ := result
      cases result <;> exact held

/-- After such runs the journals of all generations rolled back so far call
for no rollback. -/
theorem inv_of_recorded {start : World} {events : List Event} {site : Site}
    (fresh : start.Fresh)
    (history : Run (recordedStep primitives) (.initial start) events site) :
    Inv site.rolledBack site.world := by
  apply history.invariant fun site => Inv site.rolledBack site.world
  · intro before event after inv step
    obtain ⟨step, quiet⟩ := step
    cases event with
    | ran embeddedCommit expectedCommit action memory =>
        obtain ⟨⟨ending, rfl, reaches⟩, rolledBack⟩ := step
        have lasting := (run_keeps inv reaches).1
        have recorded : RollbacksRecorded (memoryOf ending) after.world := by
          by_cases none_ : (memoryOf ending).rolledBack = []
          · intro generation member
            rw [none_] at member
            cases member
          · obtain ⟨other, same, ended, reaches⟩ := quiet none_
            exact same ▸ run_records inv ended reaches
        refine { lasting.1 with known := ?_, settled := ?_ }
        · intro generation member
          rw [rolledBack] at member
          rcases List.mem_append.mp member with new | old
          · exact lasting.2 generation new
          · exact lasting.1.known generation old
        · intro generation member
          rw [rolledBack] at member
          rcases List.mem_append.mp member with new | old
          · exact recorded generation new
          · exact lasting.1.settled generation old
    | editedEnv content =>
        subst step
        exact inv.unseen (setFile_hermes_unseen _ (.inl rfl) content)
    | editedConfig content =>
        subst step
        exact inv.unseen (setFile_hermes_unseen _ (.inr rfl) content)
  · exact fresh.inv

/-- A request that would take a commit back: its snapshot over the present
files, its QA run as failed, or the revocation of its client, except where the
reconciliation of the newest commit revokes it as a previous client. -/
def TakesBack (commit : Commit) (memory : Memory) (op : Op) (world : World) :
    Prop :=
  match op with
  | .replace .env _ | .replace .config _ =>
      memory.restoring = some commit.generation
  | .revokeClient id => commit.clientId = some id ∧
      ¬ ∃ newest ∈ world.commits.head?, newest.generation ≠ commit.generation ∧
        memory.reconciling = some newest.generation
  | .completeRun runId .failed => commit.qaRunId = some runId
  | _ => False

/-- The helper takes no commit back, unless the write of its journal was
reported as failed. -/
theorem commit_stands {start world : World} {events : List Event} {site : Site}
    {embeddedCommit expectedCommit : String} {action : Helper.Action}
    {memory : Memory} {op : Op} (fresh : start.Fresh)
    (history : Run (siteStep primitives) (.initial start) events site)
    (reaches : Reaches (faulty primitives) site.world
      (Helper.run embeddedCommit expectedCommit action .initial) world
      (.waiting (memory, op))) :
    ∀ commit ∈ world.commits, commit.generation ∉ world.misreported →
      ¬ TakesBack commit memory op world := by
  intro commit member reported takesBack
  have safe := (run_keeps (inv_of_history fresh history) reaches).2 _ rfl
  unfold TakesBack at takesBack
  split at takesBack
  · exact (safe _ takesBack).2 commit ⟨member, reported⟩ rfl
  · exact (safe _ takesBack).2 commit ⟨member, reported⟩ rfl
  · obtain ⟨isClient, alone⟩ := takesBack
    obtain ⟨newest, isNewest, reconciling, different⟩ :=
      safe commit ⟨member, reported⟩ isClient
    exact alone ⟨newest, isNewest, different, reconciling⟩
  · exact safe commit ⟨member, reported⟩ takesBack
  · exact takesBack

instance {commit : Commit} {memory : Memory} {op : Op} {world : World} :
    Decidable (TakesBack commit memory op world) := by
  unfold TakesBack
  split <;> infer_instance

theorem freshWorld_fresh : freshWorld.Fresh where
  journals _ := rfl
  retirements _ := rfl
  commits := rfl
  misreported := rfl
  nonces := by decide
  clients := by decide
  active := by decide
  issued := by
    intro item member
    cases member

/-- A commit stands while its QA run is being completed. -/
theorem commit_stands_completion :
    ∃ world memory op, ∃ commit ∈ world.commits,
      commit.generation ∉ world.misreported ∧
        ¬ TakesBack commit memory op world := by
  obtain ⟨world, memory, op, reaches, seen⟩ := @watched_reaches
    cutoverPrimitives "commit"
    (turnsOf (fun _ _ world => !world.commits.isEmpty) fun _ _ _ => false)
    (.apply 7) freshWorld
    (fun _ _ world => world.commits.any fun commit =>
      decide (commit.generation ∉ world.misreported))
    (by decide +kernel)
  obtain ⟨commit, member, reported⟩ := List.any_eq_true.mp seen
  simp only [decide_eq_true_eq] at reported
  exact ⟨world, memory, op, commit, member, reported,
    commit_stands freshWorld_fresh (.nil _) reaches commit member reported⟩

/-- On a machine on which the helper has not run yet, its first run gets to a
request of the kind that takes back a commit. -/
def ReachesTakingBack (kind : Op → Bool) : Prop :=
  ∃ world memory op,
    Reaches (faulty cutoverPrimitives) freshWorld
      (Helper.run "commit" "commit" (.apply 7) .initial) world
      (.waiting (memory, op)) ∧
    kind op = true ∧ ∃ commit ∈ world.commits, TakesBack commit memory op world

def takesBack (memory : Memory) (op : Op) (world : World) : Bool :=
  world.commits.any fun commit => decide (TakesBack commit memory op world)

/-- Refuses the sync of the directory after the rename of a commit's journal. -/
def refusesCommit (_ : Memory) (op : Op) (world : World) : Bool :=
  match op with
  | .syncDirectory (.replaced (.snapshot _ .journal)) =>
      !world.commits.isEmpty && world.misreported.isEmpty
  | _ => false

theorem reachesTakingBack {kind : Op → Bool}
    (seen : watched cutoverPrimitives "commit"
      (turnsOf (fun memory op world => kind op && takesBack memory op world)
        refusesCommit)
      (.apply 7) freshWorld
      (fun memory op world => kind op && takesBack memory op world) = true) :
    ReachesTakingBack kind := by
  obtain ⟨world, memory, op, reaches, seen⟩ := watched_reaches seen
  rw [Bool.and_eq_true] at seen
  obtain ⟨commit, member, back⟩ := List.any_eq_true.mp seen.2
  exact ⟨world, memory, op, reaches, seen.1, commit, member,
    of_decide_eq_true back⟩

theorem commit_taken_back :
    freshWorld.Fresh ∧ ReachesTakingBack Op.restores ∧
      ReachesTakingBack Op.revokes ∧ ReachesTakingBack Op.reportsFailed :=
  ⟨freshWorld_fresh, reachesTakingBack (by decide +kernel),
    reachesTakingBack (by decide +kernel), reachesTakingBack (by decide +kernel)⟩

def RestoresAgain (rolledBack : List Uuid) (memory : Memory) : Op → Prop
  | .replace .env _ | .replace .config _ =>
      ∃ generation ∈ rolledBack, memory.restoring = some generation
  | _ => False

/-- No snapshot is restored by a run after one that rolled it back, as long as
clients are issued and nothing comes between a rollback and its record. -/
theorem restored_once {start world : World} {events : List Event} {site : Site}
    {embeddedCommit expectedCommit : String} {action : Helper.Action}
    {memory : Memory} {op : Op} (fresh : start.Fresh)
    (history : Run (recordedStep primitives) (.initial start) events site)
    (reaches : Reaches (faulty primitives) site.world
      (Helper.run embeddedCommit expectedCommit action .initial) world
      (.waiting (memory, op))) :
    ¬ RestoresAgain site.rolledBack memory op := by
  intro again
  have safe := (run_keeps (inv_of_recorded fresh history) reaches).2 _ rfl
  unfold RestoresAgain at again
  split at again
  · obtain ⟨generation, member, restoring⟩ := again
    exact (safe generation restoring).1 member
  · obtain ⟨generation, member, restoring⟩ := again
    exact (safe generation restoring).1 member
  · exact again

def siteAfter (refuses : Memory → Op → World → Bool) (action : Helper.Action)
    (site : Site) : Option (Memory × Site) :=
  match drive cutoverPrimitives "commit" (turnsOf (fun _ _ _ => false) refuses)
      (Helper.run "commit" "commit" action .initial) site.world with
  | some (after, .returned (_, memory)) => some (memory, {
      world := after
      rolledBack := memory.rolledBack ++ site.rolledBack })
  | _ => none

theorem siteAfter_driven {refuses : Memory → Op → World → Bool}
    {action : Helper.Action} {before after : Site} {memory : Memory}
    (driven : siteAfter refuses action before = some (memory, after)) :
    after.rolledBack = memory.rolledBack ++ before.rolledBack ∧
      ∃ result, drive cutoverPrimitives "commit"
        (turnsOf (fun _ _ _ => false) refuses)
        (Helper.run "commit" "commit" action .initial) before.world =
          some (after.world, .returned (result, memory)) := by
  unfold siteAfter at driven
  split at driven
  · rename_i world result memory driven_
    cases driven
    exact ⟨rfl, result, driven_⟩
  · cases driven

theorem siteAfter_step {refuses : Memory → Op → World → Bool}
    {action : Helper.Action} {before after : Site} {memory : Memory}
    (driven : siteAfter refuses action before = some (memory, after)) :
    siteStep cutoverPrimitives before (.ran "commit" "commit" action memory)
      after := by
  obtain ⟨rolledBack, result, driven⟩ := siteAfter_driven driven
  exact ⟨⟨.returned (result, memory), rfl, drive_reaches driven⟩, rolledBack⟩

theorem issues_of_refusesClient {op : Op} {answer : Answer op}
    (refuses : RefusesClient op answer) : op.issues = true := by
  cases op <;> first | rfl | cases refuses

theorem serve_issues {commit : String} {op : Op} {world after : World}
    {value : Value op}
    (served : serve primitives commit op world = some (value, after)) :
    ¬ RefusesClient op (.ok value) := by
  intro refuses
  cases op with
  | createClient label =>
      simp only [serve, Option.ite_none_right_eq_some, Option.some.injEq,
        Prod.mk.injEq] at served
      rw [← served.2.1] at refuses
      cases refuses
  | _ => cases refuses

theorem siteAfter_recorded {refuses : Memory → Op → World → Bool}
    {action : Helper.Action} {before after : Site} {memory : Memory}
    (early : ∀ memory op world, refuses memory op world = true →
      memory.rolledBack = [] ∧ op.issues = false)
    (driven : siteAfter refuses action before = some (memory, after)) :
    recordedStep cutoverPrimitives before
      (.ran "commit" "commit" action memory) after := by
  refine ⟨siteAfter_step driven, fun _ => ?_⟩
  obtain ⟨-, result, driven⟩ := siteAfter_driven driven
  refine ⟨.returned (result, memory), rfl, ?_, ?_⟩
  · intro request same
    cases same
  apply drive_reaches_in _ _ _ driven
  · intro request world value world' served
    refine ⟨serve_performs served, serve_issues served, ?_⟩
    intro failed
    cases failed
  · intro request world turn fallible
    have refusing : refuses request.1 request.2 world = true := by
      unfold turnsOf at turn
      simpa using turn
    obtain ⟨untouched, issues⟩ := early _ _ _ refusing
    refine ⟨⟨rfl, fallible, .inl rfl⟩, ?_, ?_⟩
    · intro refusing
      rw [issues_of_refusesClient refusing] at issues
      cases issues
    · intro _ generation member
      rw [untouched] at member
      cases member
  · intro request world turn
    unfold turnsOf at turn
    split at turn
    · cases turn
    · split at turn <;> cases turn

def refusesIssue (_ : Memory) (op : Op) (_ : World) : Bool :=
  op.issues

def refusesCandidate (memory : Memory) (op : Op) (world : World) : Bool :=
  op.verifies && memory.rolledBack.isEmpty && !world.clients.isEmpty

theorem refusesCandidate_early (memory : Memory) (op : Op) (world : World)
    (refuses : refusesCandidate memory op world = true) :
    memory.rolledBack = [] ∧ op.issues = false := by
  unfold refusesCandidate at refuses
  simp only [Bool.and_eq_true, List.isEmpty_iff] at refuses
  refine ⟨refuses.1.2, ?_⟩
  cases op <;> first | rfl | cases refuses.1.1

def restoresAgain (rolledBack : List Uuid) (memory : Memory) (op : Op) : Bool :=
  op.restores && rolledBack.any fun generation =>
    memory.restoring == some generation

theorem restoresAgain_of_check {rolledBack : List Uuid} {memory : Memory}
    {op : Op} (checked : restoresAgain rolledBack memory op = true) :
    RestoresAgain rolledBack memory op := by
  unfold restoresAgain at checked
  rw [Bool.and_eq_true, List.any_eq_true] at checked
  obtain ⟨restores, generation, member, same⟩ := checked
  have restoring := beq_iff_eq.mp same
  unfold RestoresAgain
  split
  · exact ⟨generation, member, restoring⟩
  · exact ⟨generation, member, restoring⟩
  · rename_i other otherwise
    unfold Op.restores at restores
    split at restores
    · exact other _ rfl
    · exact otherwise _ rfl
    · cases restores

def editedEnv : Option Content :=
  some (.bytes (utf8 "NVIDIA_API_KEY=edited\n"))

/-- After a candidate that was rolled back and the operator's edit, the next run
gets to the replacement of Hermes's files, by those of its own candidate. -/
theorem restored_once_candidate :
    ∃ (site : Site) (world : World) (memory : Memory) (op : Op),
      Reaches (faulty cutoverPrimitives) site.world
        (Helper.run "commit" "commit" (.apply 8) .initial) world
        (.waiting (memory, op)) ∧
      site.rolledBack ≠ [] ∧ site.world.files .env = editedEnv ∧
        op.restores = true ∧ ¬ RestoresAgain site.rolledBack memory op := by
  have checked : ((siteAfter refusesCandidate (.apply 7)
      (.initial freshWorld)).any fun left =>
        !left.2.rolledBack.isEmpty &&
        watched cutoverPrimitives "commit"
          (turnsOf (fun _ op _ => op.restores) fun _ _ _ => false) (.apply 8)
          (left.2.world.setFile .env editedEnv)
          (fun _ op _ => op.restores)) = true := by
    decide +kernel
  obtain ⟨left, known, checked⟩ := Option.any_eq_true _ _ |>.mp checked
  simp only [Bool.and_eq_true, Bool.not_eq_true'] at checked
  obtain ⟨world, memory, op, reaches, restores⟩ := watched_reaches checked.2
  refine ⟨{ left.2 with world := left.2.world.setFile .env editedEnv }, world,
    memory, op, reaches, ?_, rfl, restores, ?_⟩
  · intro none_
    rw [show left.2.rolledBack = [] from none_] at checked
    cases checked.1
  · have edited : recordedStep cutoverPrimitives left.2 (.editedEnv editedEnv)
        { left.2 with world := left.2.world.setFile .env editedEnv } :=
      ⟨rfl, trivial⟩
    exact restored_once freshWorld_fresh
      (.cons (siteAfter_recorded refusesCandidate_early known)
        (.cons edited (.nil _))) reaches

/-- A run whose client is refused rolls back and returns; the next run, after
the operator's edit, rolls back over the edit. -/
theorem restored_again :
    ∃ (memory : Memory) (site : Site) (world : World) (second : Memory)
      (op : Op),
      Run (siteStep cutoverPrimitives) (.initial freshWorld)
        [.ran "commit" "commit" (.apply 7) memory, .editedEnv editedEnv]
        site ∧
      Reaches (faulty cutoverPrimitives) site.world
        (Helper.run "commit" "commit" .verify .initial) world
        (.waiting (second, op)) ∧
      RestoresAgain site.rolledBack second op := by
  have checked : ((siteAfter refusesIssue (.apply 7)
      (.initial freshWorld)).any fun left =>
        watched cutoverPrimitives "commit"
          (turnsOf (fun memory op _ =>
            restoresAgain left.2.rolledBack memory op) fun _ _ _ => false)
          .verify (left.2.world.setFile .env editedEnv)
          (fun memory op _ => restoresAgain left.2.rolledBack memory op)) =
      true := by
    decide +kernel
  obtain ⟨left, known, seen⟩ := Option.any_eq_true _ _ |>.mp checked
  obtain ⟨world, second, op, reaches, again⟩ := watched_reaches seen
  exact ⟨left.1, { left.2 with world := left.2.world.setFile .env _ }, world,
    second, op, .cons (siteAfter_step known) (.cons rfl (.nil _)), reaches,
    restoresAgain_of_check again⟩

end NvidiaBuildLb.Hermes
