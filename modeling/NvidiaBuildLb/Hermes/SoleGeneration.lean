import NvidiaBuildLb.Hermes.Critical
import NvidiaBuildLb.Hermes.Invariant

namespace NvidiaBuildLb.Hermes

open Foundation NvidiaBuildLb.Core

/-! At most one generation is under way, and a QA run is committed by one
generation only: what holds of the machine at any time. -/

/-- Nothing is left to do for the generation. -/
def JournalState.terminal : JournalState → Bool
  | .reconciled | .rolledBack | .recovered => true
  | _ => false

namespace World

def Live (world : World) (generation : Uuid) : Prop :=
  ∃ journal, JournalAt world generation journal ∧
    journal.state.terminal = false

def Unfinished (world : World) (generation : Uuid) : Prop :=
  ∃ journal, JournalAt world generation journal ∧
    journal.state.unfinished = true

/-- The QA runs of the generation's standing commits have passed. -/
def Closed (world : World) (generation : Uuid) : Prop :=
  ∀ commit, world.standing commit → commit.generation = generation →
    ∀ runId, commit.qaRunId = some runId → runId ∈ world.passedRuns

end World

theorem live_of_unfinished {world : World} {generation : Uuid}
    (unfinished : world.Unfinished generation) : world.Live generation := by
  obtain ⟨journal, at_, state⟩ := unfinished
  refine ⟨journal, at_, ?_⟩
  cases isState : journal.state <;> rw [isState] at state <;>
    first | rfl | cases state

structure Sole (world : World) : Prop where
  live : ∀ left right, world.Live left → world.Live right → left = right
  published : ∀ generation, world.Live generation →
    generation ∈ world.generations
  decided : ∀ commit, world.standing commit →
    world.Unfinished commit.generation ∨ world.Closed commit.generation
  receipts : ∀ commit, world.standing commit →
    commit.qaRunId = world.receiptRun commit.generation
  known : ∀ commit, world.standing commit → commit.generation ∈ world.used
  placed : ∀ generation journal, JournalAt world generation journal →
    generation ∈ world.used
  once : ∀ left right runId, world.standing left → world.standing right →
    left.qaRunId = some runId → right.qaRunId = some runId →
      left.generation = right.generation
  retired : ∀ generation,
    (world.files (.retirement generation)).isSome = true →
      generation ∈ world.used ∧ ¬ world.Unfinished generation

/-- Nothing differs that the invariant looks at. -/
structure Alike (before after : World) : Prop where
  journals : ∀ generation, after.files (.snapshot generation .journal) =
    before.files (.snapshot generation .journal)
  receipts : ∀ generation,
    after.files (.receipt generation) = before.files (.receipt generation)
  retirements : ∀ generation,
    after.files (.retirement generation) =
      before.files (.retirement generation)
  generations : after.generations = before.generations
  passedRuns : after.passedRuns = before.passedRuns
  commits : after.commits = before.commits
  misreported : ∀ generation ∈ before.misreported,
    generation ∈ after.misreported
  used : ∀ id ∈ before.used, id ∈ after.used

namespace Alike

variable {before after : World}

theorem refl (world : World) : Alike world world :=
  ⟨fun _ => rfl, fun _ => rfl, fun _ => rfl, rfl, rfl, rfl,
    fun _ member => member, fun _ member => member⟩

theorem of_same (same : before.Same after) : Alike before after where
  journals := fun _ => by rw [same.files]
  receipts := fun _ => by rw [same.files]
  retirements := fun _ => by rw [same.files]
  generations := same.generations
  passedRuns := same.passedRuns
  commits := same.commits
  misreported := fun _ member => same.misreported ▸ member
  used := same.used

theorem journalAt (alike : Alike before after) {generation : Uuid}
    {journal : RecoveryJournal} :
    JournalAt after generation journal ↔
      JournalAt before generation journal := by
  unfold JournalAt
  rw [alike.journals]

theorem live (alike : Alike before after) {generation : Uuid} :
    after.Live generation ↔ before.Live generation := by
  unfold World.Live
  simp only [alike.journalAt]

theorem unfinished (alike : Alike before after) {generation : Uuid} :
    after.Unfinished generation ↔ before.Unfinished generation := by
  unfold World.Unfinished
  simp only [alike.journalAt]

theorem standing (alike : Alike before after) {commit : Commit}
    (standing : after.standing commit) : before.standing commit :=
  ⟨alike.commits ▸ standing.1, fun member =>
    standing.2 (alike.misreported _ member)⟩

theorem receiptRun (alike : Alike before after) (generation : Uuid) :
    after.receiptRun generation = before.receiptRun generation := by
  unfold World.receiptRun
  rw [alike.receipts]

theorem closed (alike : Alike before after) {generation : Uuid}
    (closed : before.Closed generation) : after.Closed generation := by
  intro commit standing isGeneration runId isRun
  rw [alike.passedRuns]
  exact closed commit (alike.standing standing) isGeneration runId isRun

end Alike

theorem Sole.alike {before after : World} (sole : Sole before)
    (alike : Alike before after) : Sole after where
  live := fun left right isLeft isRight =>
    sole.live left right (alike.live.mp isLeft) (alike.live.mp isRight)
  published := fun generation isLive =>
    alike.generations ▸ sole.published generation (alike.live.mp isLive)
  decided := fun commit standing =>
    (sole.decided commit (alike.standing standing)).imp alike.unfinished.mpr
      alike.closed
  receipts := fun commit standing =>
    (sole.receipts commit (alike.standing standing)).trans
      (alike.receiptRun _).symm
  known := fun commit standing =>
    alike.used _ (sole.known commit (alike.standing standing))
  placed := fun generation journal at_ =>
    alike.used _ (sole.placed generation journal (alike.journalAt.mp at_))
  once := fun left right runId isLeft isRight =>
    sole.once left right runId (alike.standing isLeft) (alike.standing isRight)
  retired := by
    intro generation isRetired
    rw [alike.retirements] at isRetired
    have known := sole.retired generation isRetired
    exact ⟨alike.used _ known.1, mt alike.unfinished.mp known.2⟩

theorem alike_refused (op : Op) (world : World) :
    Alike world (refused op world) := by
  unfold refused
  split
  · split
    · split
      · exact ⟨fun _ => rfl, fun _ => rfl, fun _ => rfl, rfl, rfl, rfl,
          fun _ member => List.mem_cons_of_mem _ member, fun _ member => member⟩
      · exact .refl _
    · exact .refl _
  · exact .refl _

theorem sole_robust : Robust Sole where
  same := fun same sole => sole.alike (.of_same same)
  refused := fun op _ sole => sole.alike (alike_refused op _)

/-- Files that are neither a journal in place nor a receipt. -/
def Path.mild : Path → Bool
  | .snapshot _ .journal | .receipt _ | .retirement _ => false
  | _ => true

theorem alike_setFile {world : World} {path : Path} (mild : path.mild = true)
    (content : Option Content) : Alike world (world.setFile path content) := by
  refine ⟨?_, ?_, ?_, rfl, rfl, rfl, fun _ member => member,
    fun _ member => member⟩ <;>
  · intro generation
    refine if_neg fun same => ?_
    rw [← same] at mild
    cases mild

theorem commitOf_mild {world : World} {path : Path} (mild : path.mild = true)
    (content : Content) : world.commitOf path content = none := by
  unfold World.commitOf
  split
  · cases mild
  · rfl

theorem alike_replaceFile {world : World} {path : Path}
    (mild : path.mild = true) (content : Content) :
    Alike world (world.replaceFile path content) := by
  have alike := @alike_setFile world path mild (some content)
  refine { alike with commits := ?_ }
  unfold World.replaceFile
  rw [commitOf_mild mild]
  rfl

/-- Requests that the invariant does not notice. -/
def Op.mild : Op → Bool
  | .createStage _ | .removeStage _ | .createClient _ | .revokeClient _
  | .completeRun _ .failed | .syncDirectory _ => true
  | .removeFile path => path.mild
  | op => op.calm

theorem Performs.alike {primitives : Primitives} {op : Op}
    {world after : World} {value : Value op} (mild : op.mild = true)
    (performs : Performs primitives op world value after) :
    Alike world after := by
  cases isCalm : op.calm with
  | true => exact .of_same (performs.same isCalm)
  | false =>
      cases op <;> simp only [Op.calm, reduceCtorEq] at isCalm <;>
        simp only [Op.mild, Op.calm, Bool.false_eq_true] at mild
      case syncDirectory cause =>
          have same : after = world := performs
          exact same ▸ .refl _
      case createStage generation =>
          obtain ⟨-, rfl⟩ := performs
          exact .of_same ⟨rfl, rfl, rfl, rfl, rfl, rfl, fun _ member => member,
            World.keepsNonces_rfl rfl⟩
      case removeFile path =>
          obtain ⟨-, rfl⟩ := performs
          exact alike_setFile mild none
      case removeStage generation =>
          obtain ⟨-, -, rfl⟩ := performs
          exact .of_same ⟨rfl, rfl, rfl, rfl, rfl, rfl, fun _ member => member,
            World.keepsNonces_rfl rfl⟩
      case createClient label =>
          cases value with
          | created response =>
              obtain ⟨-, -, -, -, rfl⟩ := performs
              exact { Alike.refl world with }
          | conflict =>
              obtain ⟨-, rfl⟩ := performs
              exact .refl _
          | rejected status =>
              cases performs
              exact .refl _
      case revokeClient id =>
          obtain ⟨-, rfl⟩ := performs
          exact { Alike.refl world with }
      case completeRun id completion =>
          cases completion with
          | passed receipt => cases mild
          | failed =>
              obtain ⟨-, rfl⟩ := performs
              exact .refl _

section Changes

variable {world : World} {generation : Uuid}

theorem journalAt_replace {journal other : RecoveryJournal} {at_ : Uuid} :
    JournalAt (world.replaceFile (.snapshot generation .journal)
        (.journal journal)) at_ other ↔
      if at_ = generation then other = journal
      else JournalAt world at_ other := by
  unfold JournalAt World.replaceFile World.setFile
  by_cases same : at_ = generation
  · simp [same, eq_comm]
  · simp [same]

private theorem live_replace {journal : RecoveryJournal} {at_ : Uuid}
    (isLive : (world.replaceFile (.snapshot generation .journal)
      (.journal journal)).Live at_) :
    (at_ = generation ∧ journal.state.terminal = false) ∨
      (at_ ≠ generation ∧ world.Live at_) := by
  obtain ⟨other, isOther, state⟩ := isLive
  rw [journalAt_replace] at isOther
  split at isOther
  · rename_i same
    exact .inl ⟨same, isOther ▸ state⟩
  · rename_i different
    exact .inr ⟨different, other, isOther, state⟩

private theorem unfinished_replace {journal : RecoveryJournal} {at_ : Uuid} :
    (world.replaceFile (.snapshot generation .journal)
        (.journal journal)).Unfinished at_ ↔
      (at_ = generation ∧ journal.state.unfinished = true) ∨
        (at_ ≠ generation ∧ world.Unfinished at_) := by
  constructor
  · intro ⟨other, isOther, state⟩
    rw [journalAt_replace] at isOther
    split at isOther
    · rename_i same
      exact .inl ⟨same, isOther ▸ state⟩
    · rename_i different
      exact .inr ⟨different, other, isOther, state⟩
  · rintro (⟨same, state⟩ | ⟨different, other, isOther, state⟩)
    · exact ⟨journal, journalAt_replace.mpr (by rw [if_pos same]), state⟩
    · exact ⟨other, journalAt_replace.mpr (by rwa [if_neg different]), state⟩

private theorem standing_replace {journal : RecoveryJournal} {commit : Commit}
    (standing : (world.replaceFile (.snapshot generation .journal)
      (.journal journal)).standing commit) :
    world.standing commit ∨ (journal.state = .committed ∧
      commit.generation = generation ∧
      commit.qaRunId = world.receiptRun generation) := by
  obtain ⟨member, reported⟩ := standing
  rcases List.mem_append.mp member with added | old
  · right
    simp only [World.commitOf] at added
    split at added
    · rename_i committed
      cases List.mem_singleton.mp added
      exact ⟨committed, rfl, rfl⟩
    · cases added
  · exact .inl ⟨old, reported⟩

private theorem closed_replace {journal : RecoveryJournal} {at_ : Uuid}
    (other : at_ ≠ generation ∨ journal.state ≠ .committed)
    (closed : world.Closed at_) :
    (world.replaceFile (.snapshot generation .journal)
      (.journal journal)).Closed at_ := by
  intro commit standing isAt
  rcases standing_replace standing with old | ⟨committed, isGeneration, -⟩
  · exact closed commit old isAt
  · rcases other with different | uncommitted
    · exact absurd (isAt.symm.trans isGeneration) different
    · exact absurd committed uncommitted

theorem Sole.journal (sole : Sole world) {journal : RecoveryJournal}
    (used : generation ∈ world.used)
    (alone : journal.state.terminal = false →
      generation ∈ world.generations ∧
        ∀ other, world.Live other → other = generation)
    (unretired : journal.state.unfinished = true →
      world.files (.retirement generation) = none)
    (closed : journal.state.unfinished = false → world.Closed generation)
    (only : journal.state = .committed → ∀ commit runId,
      world.standing commit → commit.qaRunId = some runId →
        world.receiptRun generation = some runId →
          commit.generation = generation) :
    Sole (world.replaceFile (.snapshot generation .journal)
      (.journal journal)) := by
  have unfinished_of_committed : journal.state = .committed →
      journal.state.unfinished = true := fun committed => by
    rw [committed]
    rfl
  refine ⟨?_, ?_, ?_, ?_, ?_, ?_, ?_, ?_⟩
  · intro left right isLeft isRight
    rcases live_replace isLeft with ⟨rfl, state⟩ | ⟨_, left_⟩ <;>
      rcases live_replace isRight with ⟨rfl, state'⟩ | ⟨_, right_⟩
    · rfl
    · exact ((alone state).2 right right_).symm
    · exact (alone state').2 left left_
    · exact sole.live left right left_ right_
  · intro at_ isLive
    rcases live_replace isLive with ⟨rfl, state⟩ | ⟨_, old⟩
    · exact (alone state).1
    · exact sole.published at_ old
  · intro commit standing
    by_cases same : commit.generation = generation
    · cases state : journal.state.unfinished with
      | true => exact .inl (unfinished_replace.mpr (.inl ⟨same, state⟩))
      | false =>
          rw [same]
          refine .inr (closed_replace (.inr ?_) (closed state))
          intro committed
          rw [unfinished_of_committed committed] at state
          cases state
    · have old : world.standing commit := by
        rcases standing_replace standing with old | ⟨-, isGeneration, -⟩
        · exact old
        · exact absurd isGeneration same
      refine (sole.decided commit old).imp ?_ (closed_replace (.inl same))
      exact fun unfinished => unfinished_replace.mpr (.inr ⟨same, unfinished⟩)
  · intro commit standing
    rcases standing_replace standing with old | ⟨-, isGeneration, isRun⟩
    · exact sole.receipts commit old
    · exact isRun.trans (congrArg _ isGeneration).symm
  · intro commit standing
    rcases standing_replace standing with old | ⟨-, isGeneration, -⟩
    · exact sole.known commit old
    · exact isGeneration ▸ used
  · intro at_ other isOther
    rw [journalAt_replace] at isOther
    split at isOther
    · rename_i same
      exact same ▸ used
    · exact sole.placed at_ other isOther
  · intro left right runId isLeft isRight leftRun rightRun
    rcases standing_replace isLeft with left_ | ⟨committed, named, ran⟩ <;>
      rcases standing_replace isRight with right_ | ⟨committed', named', ran'⟩
    · exact sole.once left right runId left_ right_ leftRun rightRun
    · exact (only committed' left runId left_ leftRun
        (ran'.symm.trans rightRun)).trans named'.symm
    · exact named.trans (only committed right runId right_ rightRun
        (ran.symm.trans leftRun)).symm
    · exact named.trans named'.symm
  · intro at_ isRetired
    have known := sole.retired at_ isRetired
    refine ⟨known.1, fun unfinished => ?_⟩
    rcases unfinished_replace.mp unfinished with ⟨rfl, state⟩ | ⟨_, old⟩
    · have none_ := unretired state
      have same : (world.replaceFile (.snapshot at_ .journal)
          (.journal journal)).files (.retirement at_) =
            world.files (.retirement at_) := rfl
      rw [same, none_] at isRetired
      cases isRetired
    · exact known.2 old

theorem Sole.receipt (sole : Sole world) {content : Content}
    (uncommitted : ∀ commit, world.standing commit →
      commit.generation ≠ generation) :
    Sole (world.replaceFile (.receipt generation) content) := by
  have commits : (world.replaceFile (.receipt generation) content).commits =
      world.commits := by
    cases content <;> rfl
  have standing_of : ∀ {commit : Commit},
      (world.replaceFile (.receipt generation) content).standing commit →
        world.standing commit := fun standing => ⟨commits ▸ standing.1,
          standing.2⟩
  exact {
    live := sole.live
    published := sole.published
    decided := fun commit standing =>
      (sole.decided commit (standing_of standing)).imp id
        fun closed other isOther => closed other (standing_of isOther)
    receipts := by
      intro commit standing
      have old := standing_of standing
      refine (sole.receipts commit old).trans ?_
      have same : (world.replaceFile (.receipt generation) content).files
          (.receipt commit.generation) =
            world.files (.receipt commit.generation) :=
        if_neg fun same => uncommitted commit old (by injection same)
      unfold World.receiptRun
      rw [same]
    known := fun commit standing => sole.known commit (standing_of standing)
    placed := sole.placed
    once := fun left right runId isLeft isRight =>
      sole.once left right runId (standing_of isLeft) (standing_of isRight)
    retired := sole.retired }

theorem Sole.retirement (sole : Sole world) {content : Content}
    (used : generation ∈ world.used)
    (finished : ¬ world.Unfinished generation) :
    Sole (world.replaceFile (.retirement generation) content) := by
  have commits : (world.replaceFile (.retirement generation) content).commits =
      world.commits := by
    cases content <;> rfl
  have standing_of : ∀ {commit : Commit},
      (world.replaceFile (.retirement generation) content).standing commit →
        world.standing commit := fun standing => ⟨commits ▸ standing.1,
          standing.2⟩
  exact {
    live := sole.live
    published := sole.published
    decided := fun commit standing =>
      (sole.decided commit (standing_of standing)).imp id
        fun closed other isOther => closed other (standing_of isOther)
    receipts := fun commit standing =>
      sole.receipts commit (standing_of standing)
    known := fun commit standing => sole.known commit (standing_of standing)
    placed := sole.placed
    once := fun left right runId isLeft isRight =>
      sole.once left right runId (standing_of isLeft) (standing_of isRight)
    retired := by
      intro at_ isRetired
      by_cases same : at_ = generation
      · subst same
        exact ⟨used, finished⟩
      · refine sole.retired at_ ?_
        have old : (world.replaceFile (.retirement generation) content).files
            (.retirement at_) = world.files (.retirement at_) :=
          if_neg fun equal => same (by injection equal)
        exact old ▸ isRetired }

private theorem journalAt_publish {at_ : Uuid} {journal : RecoveryJournal} :
    JournalAt (world.publish generation) at_ journal ↔
      if at_ = generation then
        world.files (.staged generation .journal) = some (.journal journal)
      else JournalAt world at_ journal := by
  unfold JournalAt World.publish
  by_cases same : at_ = generation <;> simp [same]

theorem live_publish {at_ : Uuid}
    (isLive : (world.publish generation).Live at_) :
    at_ = generation ∨ world.Live at_ := by
  obtain ⟨journal, isJournal, state⟩ := isLive
  rw [journalAt_publish] at isJournal
  split at isJournal
  · rename_i same
    exact .inl same
  · exact .inr ⟨journal, isJournal, state⟩

theorem Sole.publish (sole : Sole world) (used : generation ∈ world.used)
    (alone : ∀ other, world.Live other → other = generation)
    (closed : world.Closed generation)
    (staged : ∀ journal, world.files (.staged generation .journal) =
      some (.journal journal) → journal.state.unfinished = false) :
    Sole (world.publish generation) := by
  have unfinished_iff : ∀ at_, (world.publish generation).Unfinished at_ ↔
      at_ ≠ generation ∧ world.Unfinished at_ := by
    intro at_
    constructor
    · intro ⟨journal, isJournal, state⟩
      rw [journalAt_publish] at isJournal
      split at isJournal
      · rw [staged journal isJournal] at state
        cases state
      · rename_i different
        exact ⟨different, journal, isJournal, state⟩
    · intro ⟨different, journal, isJournal, state⟩
      refine ⟨journal, journalAt_publish.mpr ?_, state⟩
      rwa [if_neg different]
  exact {
    live := by
      have alone_ : ∀ at_, (world.publish generation).Live at_ →
          at_ = generation :=
        fun at_ isLive => (live_publish isLive).elim id (alone at_)
      exact fun left right isLeft isRight =>
        (alone_ left isLeft).trans (alone_ right isRight).symm
    published := fun at_ isLive => by
      rcases live_publish isLive with rfl | old
      · exact List.mem_cons_self
      · exact List.mem_cons_of_mem _ (sole.published at_ old)
    decided := by
      intro commit standing
      by_cases same : commit.generation = generation
      · exact .inr (same ▸ closed)
      · exact (sole.decided commit standing).imp
          (fun unfinished => (unfinished_iff _).mpr ⟨same, unfinished⟩) id
    receipts := sole.receipts
    known := sole.known
    placed := by
      intro at_ journal isJournal
      rw [journalAt_publish] at isJournal
      split at isJournal
      · rename_i same
        exact same ▸ used
      · exact sole.placed at_ journal isJournal
    once := sole.once
    retired := fun at_ isRetired => by
      have known := sole.retired at_ isRetired
      exact ⟨known.1, fun unfinished =>
        known.2 ((unfinished_iff at_).mp unfinished).2⟩ }

theorem Sole.removeFile (sole : Sole world)
    (retired : (world.files (.retirement generation)).isSome = true)
    (file : SnapshotFile) :
    Sole (world.setFile (.snapshot generation file) none) := by
  have finished := (sole.retired generation retired).2
  have journals : ∀ {at_ : Uuid} {journal : RecoveryJournal},
      JournalAt (world.setFile (.snapshot generation file) none) at_ journal →
        JournalAt world at_ journal := by
    intro at_ journal isJournal
    have left := isJournal
    simp only [JournalAt, World.setFile] at left
    split at left
    · cases left
    · exact left
  have other : ∀ {at_ : Uuid}, at_ ≠ generation →
      world.Unfinished at_ →
        (world.setFile (.snapshot generation file) none).Unfinished at_ := by
    rintro at_ different ⟨journal, isJournal, state⟩
    refine ⟨journal, (if_neg fun same => ?_).trans isJournal, state⟩
    injection same with same
    exact different same
  have live_of : ∀ {at_ : Uuid},
      (world.setFile (.snapshot generation file) none).Live at_ →
        world.Live at_ := by
    rintro at_ ⟨journal, isJournal, state⟩
    exact ⟨journal, journals isJournal, state⟩
  exact {
    live := fun left right isLeft isRight =>
      sole.live left right (live_of isLeft) (live_of isRight)
    published := fun at_ isLive => sole.published at_ (live_of isLive)
    decided := by
      intro commit standing
      rcases sole.decided commit standing with unfinished | closed
      · by_cases same : commit.generation = generation
        · exact absurd (same ▸ unfinished) finished
        · exact .inl (other same unfinished)
      · exact .inr closed
    receipts := sole.receipts
    known := sole.known
    placed := fun at_ journal isJournal =>
      sole.placed at_ journal (journals isJournal)
    once := sole.once
    retired := fun at_ isRetired => by
      have known := sole.retired at_ isRetired
      refine ⟨known.1, ?_⟩
      rintro ⟨journal, isJournal, state⟩
      exact known.2 ⟨journal, journals isJournal, state⟩ }

theorem Sole.removeGeneration (sole : Sole world)
    (empty : ∀ entry, ¬ world.holdsEntry (.generation generation) entry) :
    Sole { world with
      generations := world.generations.filter (· ≠ generation) } := by
  refine { sole with published := ?_ }
  intro at_ isLive
  refine List.mem_filter.mpr ⟨sole.published at_ isLive, ?_⟩
  obtain ⟨journal, isJournal, -⟩ := isLive
  have present : world.files (.snapshot at_ .journal) =
      some (.journal journal) := isJournal
  simp only [ne_eq, decide_not, Bool.not_eq_true', decide_eq_false_iff_not]
  intro same
  subst same
  refine empty (.file .journal) ?_
  simp [World.holdsEntry, present]

theorem Sole.passed (sole : Sole world) (runId : Uuid) :
    Sole { world with passedRuns := runId :: world.passedRuns } :=
  { sole with
    decided := fun commit standing =>
      (sole.decided commit standing).imp id
        fun closed other isOther isGeneration id isRun =>
          List.mem_cons_of_mem _ (closed other isOther isGeneration id isRun) }

end Changes

end NvidiaBuildLb.Hermes
