import NvidiaBuildLb.Hermes.History
import NvidiaBuildLb.Hermes.Scheduler
import NvidiaBuildLb.Hermes.SoleRetiring

namespace NvidiaBuildLb.Hermes

open Foundation NvidiaBuildLb.Core

/-! However helpers are interleaved, killed and refused, one generation at most
is under way, and one at most commits a QA run. -/

/-- No cutover was made on the machine yet. -/
structure World.Untouched (world : World) : Prop where
  journals : ∀ generation, world.files (.snapshot generation .journal) = none
  retirements : ∀ generation, world.files (.retirement generation) = none
  commits : world.commits = []

theorem World.Fresh.untouched {world : World} (fresh : world.Fresh) :
    world.Untouched where
  journals := fresh.journals
  retirements := fresh.retirements
  commits := fresh.commits

theorem World.Untouched.sole {world : World} (untouched : world.Untouched) :
    Sole world := by
  have quiescent : ∀ generation journal,
      ¬ JournalAt world generation journal := by
    intro generation journal at_
    unfold JournalAt at at_
    rw [untouched.journals] at at_
    cases at_
  have uncommitted : ∀ commit, ¬ world.standing commit := by
    intro commit standing
    have member := standing.1
    rw [untouched.commits] at member
    cases member
  exact {
    live := fun left _ ⟨journal, at_, _⟩ =>
      absurd at_ (quiescent left journal)
    published := fun generation ⟨journal, at_, _⟩ =>
      absurd at_ (quiescent generation journal)
    decided := fun commit standing => absurd standing (uncommitted commit)
    receipts := fun commit standing => absurd standing (uncommitted commit)
    known := fun commit standing => absurd standing (uncommitted commit)
    placed := fun generation journal at_ =>
      absurd at_ (quiescent generation journal)
    once := fun left _ _ standing => absurd standing (uncommitted left)
    retired := fun generation isRetired => by
      rw [untouched.retirements] at isRetired
      cases isRetired }

variable {primitives : Primitives}

/-- Without the lock a helper scans; with it, it works on one generation. -/
def oneAtATime (primitives : Primitives) :
    MutexSystem.Claims (Memory × Op) World where
  valid := Sole
  quiet := World.Scanned
  outside := fun request => request.2.scans = true
  inside := fun request world => Permitted primitives Sole request.2 world

namespace Helper

/-- What a helper may count on before it has the lock, which is nothing. -/
abbrev Scanning (primitives : Primitives) : HelperContract :=
  (helpers fun _ => faulty primitives).untaken (oneAtATime primitives)

private theorem scanning_ask {condition : Memory → Prop} {op : Op}
    (scans : op.scans = true) (takes : op.acquiresLock = false) :
    Routine.Keeps (Scanning primitives) (fun memory _ => condition memory)
      (Routine.ask op : Helper (Answer op)) := by
  intro memory world holds
  refine Routine.wp_ask.mpr ⟨⟨scans, fun answer => ?_⟩, fun _ _ => trivial,
    fun _ _ _ => holds⟩
  exact Bool.and_eq_false_iff.mpr (.inl takes)

theorem scanning_looks (condition : Memory → Prop) :
    Looks (Scanning primitives) fun memory _ => condition memory where
  ask := fun op isLook => by
    simp only [Op.looks, Bool.and_eq_true, Bool.not_eq_true'] at isLook
    apply scanning_ask _ isLook.2
    simp [Op.scans, isLook]

theorem scanning_cleans (condition : Memory → Prop) (directory : Place)
    (targets : List Path) :
    Routine.Keeps (Scanning primitives) (fun memory _ => condition memory)
      (cleanupAtomicTemps directory targets) := by
  have looking := @scanning_looks primitives condition
  refine Routine.Keeps.bind (keeps_pathExists looking _) fun found => ?_
  cases found with
  | false => exact keeps_pure
  | true =>
      refine Routine.Keeps.bind (looking.call rfl) fun _ => ?_
      refine Routine.Keeps.bind (looking.call rfl) fun found => ?_
      refine Routine.Keeps.bind (Routine.Keeps.each ?_ found) fun _ => ?_
      · intro temporary
        refine Routine.Keeps.bind (looking.call rfl) fun _ => ?_
        exact Routine.Keeps.bind (scanning_ask rfl rfl) fun _ =>
          Routine.Keeps.lift
      · split
        · exact looking.call rfl
        · exact keeps_pure

theorem scanning_run (embeddedCommit expectedCommit : String)
    (action : Action) :
    (helpers fun _ => faulty primitives).Enters (oneAtATime primitives)
      (run embeddedCommit expectedCommit action .initial) := by
  apply run_enters
  · exact fun _ => rfl
  · exact keeps_beforeLock _ _ (scanning_looks _)
      (fun _ => scanning_cleans _ _ _) action
  · intro intent _ later _ _
    exact Program.wp_mono (fun _ _ _ => trivial)
      (Sequel.meets_afterLock embeddedCommit expectedCommit action intent
        .initial later trivial)

end Helper

theorem oneAtATime_proof :
    (helpers fun _ => faulty primitives).Proof (oneAtATime primitives) where
  refl := World.Scanned.refl
  trans := fun _ _ _ earlier later => earlier.trans later
  waits := fun _ _ _ scanned permitted between value after scannedOn =>
    permitted between value after (scanned.trans scannedOn)
  outside := by
    intro request world answer after sole scans answers
    have scanned := faulty_answers_scanned scans answers
    exact ⟨sole.alike (.of_same scanned.same), scanned⟩
  outsideDrops := by
    intro request world after sole scans drops
    have scanned := faulty_drops_scanned scans drops
    exact ⟨sole.alike (.of_same scanned.same), scanned⟩
  inside := by
    intro request world answer after sole permitted answers
    cases answer with
    | ok value => exact permitted world value after (.refl world) sole answers
    | error failure =>
        obtain ⟨-, -, unchanged | ⟨-, value, performs⟩⟩ := answers
        · exact unchanged ▸ sole_robust.refused request.2 sole
        · exact permitted world value after (.refl world) sole performs
  insideDrops := by
    intro request world after sole permitted drops
    rcases drops with rfl | ⟨value, performs⟩
    · exact sole
    · exact permitted world value after (.refl world) sole performs
  starts := by
    intro program ⟨embeddedCommit, expectedCommit, action, isRun⟩
    subst isRun
    exact Helper.scanning_run embeddedCommit expectedCommit action

theorem sole_of_run {home : World} (untouched : home.Untouched)
    {labels : List HelperLabel} {processes : Helpers}
    (run : Run (HelperStep fun _ => faulty primitives) (unattended home) labels
      processes) : Sole processes.world.world := by
  have valid : (oneAtATime primitives).valid home := untouched.sole
  exact (oneAtATime_proof.asks valid run).1

/-- One generation at most has a journal that is not terminal, and one at most
has committed a QA run none of whose commits was taken for failed. -/
structure OneGeneration (world : World) : Prop where
  live : ∀ left right, world.Live left → world.Live right → left = right
  committed : ∀ runId,
    (∀ commit ∈ world.commits, commit.qaRunId = some runId →
      commit.generation ∉ world.misreported) →
    ∀ left ∈ world.commits, ∀ right ∈ world.commits,
      left.qaRunId = some runId → right.qaRunId = some runId →
        left.generation = right.generation

theorem one_generation {home : World} (untouched : home.Untouched)
    {labels : List HelperLabel} {processes : Helpers}
    (run : Run (HelperStep fun _ => faulty primitives) (unattended home) labels
      processes) : OneGeneration processes.world.world := by
  have sole := sole_of_run untouched run
  refine ⟨sole.live, ?_⟩
  intro runId reported left leftMember right rightMember leftRun rightRun
  exact sole.once left right runId
    ⟨leftMember, reported left leftMember leftRun⟩
    ⟨rightMember, reported right rightMember rightRun⟩ leftRun rightRun

namespace OneCommit

def moves (made : Move) (processes : Helpers) : Option Helpers :=
  move cutoverPrimitives "commit" made processes

def until_ (awaited : Option Op → Bool) (pid : Nat) (processes : Helpers) :
    Option Helpers :=
  serves cutoverPrimitives "commit" (fun _ _ => true) awaited pid 300 processes

def Op.replacesReceipt : Op → Bool
  | .replace (.receipt _) _ => true
  | _ => false

def Op.syncsJournal : Op → Bool
  | .syncDirectory (.replaced (.snapshot _ .journal)) => true
  | _ => false

def Op.completesRun : Op → Bool
  | .completeRun .. => true
  | _ => false

/-- A helper that applies a cutover has put the committing journal in place and
is about to sync its directory. -/
def committing (pid : Nat) (processes : Helpers) : Option Helpers :=
  (moves (.starts pid (.apply 7)) processes).bind fun processes =>
    (until_ (Option.any Op.replacesReceipt) pid processes).bind
      (until_ (Option.any Op.syncsJournal) pid)

/-- The sync is refused, then the report that the QA run failed, and the helper
is gone. -/
def failing (processes : Helpers) : Option Helpers :=
  (moves (.takes 0 .refuse) processes).bind fun processes =>
    (until_ (Option.any Op.completesRun) 0 processes).bind fun processes =>
      (moves (.takes 0 .refuse) processes).bind fun processes =>
        (until_ Option.isNone 0 processes).bind (moves (.takes 0 .serve))

/-- Some steps of the helpers lead from one state to the other. -/
abbrev Leads (before after : Helpers) : Prop :=
  ∃ labels, Run (HelperStep fun _ => faulty cutoverPrimitives) before labels
    after

private theorem Leads.trans {first second third : Helpers}
    (earlier : Leads first second) (later : Leads second third) :
    Leads first third := by
  obtain ⟨_, earlier⟩ := earlier
  obtain ⟨_, later⟩ := later
  exact ⟨_, earlier.append later⟩

section Scenario

variable {pid : Nat} {processes after : Helpers}

private theorem moves_leads {made : Move}
    (moved : moves made processes = some after) : Leads processes after := by
  obtain ⟨label, step⟩ := move_step moved
  exact ⟨[label], .cons step (.nil _)⟩

private theorem until_leads {awaited : Option Op → Bool}
    (served : until_ awaited pid processes = some after) :
    Leads processes after := by
  obtain ⟨labels, run⟩ := @serves_run _ _ _ _ (fun _ _ => True) _ _ _ _
    (fun _ _ _ _ _ _ _ => trivial) served
  exact ⟨labels, run.mono fun step => step.1⟩

private theorem committing_leads
    (isAfter : committing pid processes = some after) :
    Leads processes after := by
  obtain ⟨started, starts, rest⟩ := Option.bind_eq_some_iff.mp isAfter
  obtain ⟨receipted, receipts, syncs⟩ := Option.bind_eq_some_iff.mp rest
  exact (moves_leads starts).trans
    ((until_leads receipts).trans (until_leads syncs))

private theorem failing_leads (isAfter : failing processes = some after) :
    Leads processes after := by
  obtain ⟨unsynced, refuses, rest⟩ := Option.bind_eq_some_iff.mp isAfter
  obtain ⟨rolledBack, reports, rest⟩ := Option.bind_eq_some_iff.mp rest
  obtain ⟨unreported, lost, rest⟩ := Option.bind_eq_some_iff.mp rest
  obtain ⟨finished, ends, exits⟩ := Option.bind_eq_some_iff.mp rest
  exact (moves_leads refuses).trans ((until_leads reports).trans
    ((moves_leads lost).trans ((until_leads ends).trans (moves_leads exits))))

end Scenario

def commitsRun (runId : Uuid) (world : World) : List Commit :=
  world.commits.filter fun commit => commit.qaRunId = some runId

theorem one_generation_committing :
    ∃ processes, Leads (unattended freshWorld) processes ∧
      commitsRun 7 processes.world.world ≠ [] ∧
      OneGeneration processes.world.world := by
  have shows_ : ((committing 0 (unattended freshWorld)).any fun processes =>
      !(commitsRun 7 processes.world.world).isEmpty) = true := by
    decide +kernel
  obtain ⟨processes, isProcesses, commits⟩ := (Option.any_eq_true _ _).mp shows_
  obtain ⟨labels, run⟩ := committing_leads isProcesses
  refine ⟨processes, ⟨labels, run⟩, fun none_ => ?_,
    one_generation freshWorld_fresh.untouched run⟩
  rw [none_] at commits
  cases commits

/-- A first helper takes its commit for failed and rolls back; its report is
lost, and a second one commits the same QA run. -/
theorem run_committed_twice :
    ∃ processes, Leads (unattended freshWorld) processes ∧
      ∃ left ∈ processes.world.world.commits,
        ∃ right ∈ processes.world.world.commits,
          left.qaRunId = some 7 ∧ right.qaRunId = some 7 ∧
            left.generation ≠ right.generation := by
  have shows_ : (((committing 0 (unattended freshWorld)).bind
      failing).bind (committing 1)).any (fun processes =>
        processes.world.world.commits.any fun left =>
          processes.world.world.commits.any fun right =>
            left.qaRunId = some 7 && (right.qaRunId = some 7 &&
              left.generation ≠ right.generation)) = true := by
    decide +kernel
  obtain ⟨processes, isProcesses, twice⟩ := (Option.any_eq_true _ _).mp shows_
  obtain ⟨failed, isFailed, again⟩ := Option.bind_eq_some_iff.mp isProcesses
  obtain ⟨committed, first, fails⟩ := Option.bind_eq_some_iff.mp isFailed
  obtain ⟨left, leftMember, others⟩ := List.any_eq_true.mp twice
  obtain ⟨right, rightMember, found⟩ := List.any_eq_true.mp others
  simp only [Bool.and_eq_true, decide_eq_true_eq] at found
  obtain ⟨leftRun, rightRun, different⟩ := found
  refine ⟨processes, (committing_leads first).trans
    ((failing_leads fails).trans (committing_leads again)), ?_⟩
  exact ⟨left, leftMember, right, rightMember, leftRun, rightRun, different⟩

end OneCommit

end NvidiaBuildLb.Hermes
