import NvidiaBuildLb.Hermes.Cutover
import NvidiaBuildLb.Hermes.Retiring

namespace NvidiaBuildLb.Hermes

open Foundation NvidiaBuildLb.Core

/-! Runs of the helper, one after the other, with the operator's edits in
between. -/

namespace Helper

variable {primitives : Primitives} {earlier : List Uuid}

/-- Recovery is over and the QA run not yet passed. -/
def Recovered (primitives : Primitives) (earlier : List Uuid)
    (memory : Memory) (world : World) : Prop :=
  Lasting earlier memory world ∧ Settled primitives world

theorem calm_recovered :
    Calm (Lasting earlier) (Safe earlier) (Recovered primitives earlier) :=
  calm_lasting.and fun _ _ same settled => same.aside.framed.settled settled

private theorem relaxes_during {embeddedCommit : String} {start : World}
    {qaRunId : Uuid} :
    (underFaults primitives (Lasting earlier) (Safe earlier)).Relaxes
      (underFaults primitives
        (During primitives embeddedCommit earlier start qaRunId)
        (Safe earlier)) where
  answers := fun _ _ _ _ answers => answers
  drops := fun _ _ _ drops => drops
  waiting := fun _ _ holds => ⟨holds.1.1, holds.2⟩
  dropped := fun _ _ holds => holds.1

theorem meets_validateQaRunTarget {kept condition : Memory → World → Prop}
    (calm : Calm kept (Safe earlier) condition)
    (embeddedCommit expectedCommit : String) (requestedId : Uuid) :
    Routine.Meets (underFaults primitives kept (Safe earlier)) condition
      (validateQaRunTarget embeddedCommit requestedId expectedCommit)
      (fun target memory world => condition memory world ∧
        (requestedId ∈ world.passedRuns → target.status = .passed))
      condition := by
  refine Routine.Meets.bind (@meets_look _ _ _ _ calm (.getRun requestedId) rfl
    (fun target world => requestedId ∈ world.passedRuns →
      target.status = .passed) ?_) fun target => ?_
  · intro world target after performs
    obtain ⟨passed, rfl⟩ := performs
    exact passed
  dsimp only
  repeat' first
    | exact fun _ _ holds => holds
    | exact fun _ _ holds => holds.1
    | split

private theorem meets_decision {runId : Uuid} {status : QaRunStatus} (intent : QaRunIntent)
    (localReconciled : Bool) :
    Routine.Meets (underFaults primitives (Lasting earlier) (Safe earlier))
      (fun memory world => Recovered primitives earlier memory world ∧
        (runId ∈ world.passedRuns → status = .passed))
      (do
        match ← Routine.lift (postLockQaDecision status localReconciled) with
        | .complete => return true
        | .start =>
            if intent = .start then
              return false
            else
              bail "matching committed Hermes recovery was not reconciled" :
        Helper Bool)
      (fun confirmed memory world => Recovered primitives earlier memory world ∧
        (confirmed = false → runId ∉ world.passedRuns))
      (Lasting earlier) := by
  refine Routine.Meets.learn (Routine.Meets.lift fun _ _ holds => holds.1.1)
    fun decision decided => ?_
  cases decision with
  | complete =>
      intro memory world holds
      exact ⟨holds.1, fun unconfirmed => by cases unconfirmed⟩
  | start =>
      have running : status = .running := by
        unfold postLockQaDecision at decided
        split at decided <;> first | rfl | cases decided
      dsimp only
      split
      · intro memory world holds
        refine ⟨holds.1, ?_⟩
        intro _ passed
        have status := holds.2 passed
        rw [running] at status
        cases status
      · exact fun _ _ holds => holds.1.1

theorem meets_confirmsReconciled (embeddedCommit expectedCommit : String)
    (runId : Uuid) (intent : QaRunIntent) (reconciledRuns : List Uuid) :
    Routine.Meets (underFaults primitives (Lasting earlier) (Safe earlier))
      (Recovered primitives earlier)
      (confirmsReconciled embeddedCommit expectedCommit runId intent
        reconciledRuns)
      (fun confirmed memory world => Recovered primitives earlier memory world ∧
        (confirmed = false → runId ∉ world.passedRuns))
      (Lasting earlier) := by
  refine Routine.Meets.bind ((meets_validateQaRunTarget calm_recovered
    embeddedCommit expectedCommit runId).consequence (fun _ _ holds => holds)
    (fun _ _ _ holds => holds) fun _ _ holds => holds.1) fun target => ?_
  have calm := @Calm.and _ _ _ (@calm_recovered primitives earlier)
    (fun world => runId ∈ world.passedRuns → target.status = .passed)
    fun before after same => @World.Same.fact before after same (fun world =>
      runId ∈ world.passedRuns → target.status = .passed) fun _ => Iff.rfl
  dsimp only
  split
  · exact meets_decision intent true
  · exact Routine.Meets.bind ((keeps_hasMatchingLocalGeneration calm.looks calm.cleans _ _
      _).consequence (fun _ _ holds => holds) (fun _ _ _ holds => holds)
      fun _ _ holds => holds.1.1) (meets_decision intent)

private theorem keeps_reportRunnable (runId : Uuid) :
    Routine.Keeps (underFaults primitives (Lasting earlier) (Safe earlier))
      (fun memory world => Recovered primitives earlier memory world ∧
        runId ∉ world.passedRuns) (reportFailedHermesRun runId) := by
  apply meets_call
  · exact fun _ _ holds => holds.1.1
  · intro memory world holds commit standing isRun
    obtain ⟨passedRun, passed, isPassed⟩ := holds.1.2.passed holds.1.1.1 standing
    rw [isRun, Option.some.injEq] at isPassed
    exact holds.2 (isPassed ▸ passed)
  · exact fun _ _ holds => holds
  · intro memory world _ after holds performs
    obtain ⟨-, rfl⟩ := performs
    exact ⟨holds.1.1, holds, fun _ => holds⟩

/-- What `run` does before it applies a cutover, and whether it comes to
that. -/
def opening (embeddedCommit expectedCommit : String) (qaRunId : Uuid) :
    Helper Bool := do
  call (.inspect "process identity, pinned commit and admin token")
  let intent ← qaIntent embeddedCommit expectedCommit (some qaRunId)
  call (.inspect "acquire the cutover lock")
  cleanupAtomicTemps .hermesDirectory [.env, .config]
  let reconciledRuns ← recoverIncompleteCutovers embeddedCommit
  if ← confirmsReconciled embeddedCommit expectedCommit qaRunId intent
      reconciledRuns then
    return false
  match (← Routine.attempt preflight : Except Failure Unit) with
  | .ok () => return true
  | .error failure =>
      ignore (reportFailedHermesRun qaRunId)
      Routine.leave failure

theorem run_apply (embeddedCommit expectedCommit : String) (qaRunId : Uuid) :
    run embeddedCommit expectedCommit (Action.apply qaRunId) = (do
      if ← opening embeddedCommit expectedCommit qaRunId then
        Helper.apply embeddedCommit qaRunId) := by
  unfold run opening
  simp only [bind_assoc]
  refine congrArg (call _ >>= ·) (funext fun _ => ?_)
  refine congrArg (qaIntent _ _ _ >>= ·) (funext fun intent => ?_)
  refine congrArg (call _ >>= ·) (funext fun _ => ?_)
  refine congrArg (cleanupAtomicTemps _ _ >>= ·) (funext fun _ => ?_)
  refine congrArg (recoverIncompleteCutovers _ >>= ·) (funext fun _ => ?_)
  refine congrArg (confirmsReconciled _ _ _ _ _ >>= ·) (funext fun confirmed => ?_)
  cases confirmed with
  | true => rfl
  | false =>
      refine Eq.trans ?_ (bind_assoc (Routine.attempt preflight) _ _).symm
      refine congrArg (Routine.attempt preflight >>= ·)
        (funext fun result => ?_)
      cases result with
      | ok value => rfl
      | error failure =>
          refine Eq.trans ?_
            (bind_assoc (ignore (reportFailedHermesRun qaRunId)) _ _).symm
          rfl
theorem meets_opening (embeddedCommit expectedCommit : String)
    (qaRunId : Uuid) :
    Routine.Meets (underFaults primitives (Lasting earlier) (Safe earlier))
      (Lasting earlier) (opening embeddedCommit expectedCommit qaRunId)
      (fun opened memory world => Lasting earlier memory world ∧
        (opened = true → Ready primitives earlier world qaRunId memory world))
      (Lasting earlier) := by
  have calm := @calm_lasting earlier
  refine Routine.Meets.bind (keeps_call calm rfl) fun _ => ?_
  refine Routine.Meets.bind (keeps_qaIntent calm.looks calm.cleans _ _ _) fun intent => ?_
  refine Routine.Meets.bind (keeps_call calm rfl) fun _ => ?_
  refine Routine.Meets.bind (keeps_cleanupAtomicTemps calm _ _) fun _ => ?_
  refine Routine.Meets.bind (meets_recoverIncompleteCutovers embeddedCommit)
    fun reconciledRuns => ?_
  refine Routine.Meets.bind (meets_confirmsReconciled embeddedCommit
    expectedCommit qaRunId intent reconciledRuns) fun confirmed => ?_
  have calmRunnable := @Calm.and _ _ _ (@calm_recovered primitives earlier)
    (fun world => qaRunId ∉ world.passedRuns) fun before after same =>
      @World.Same.fact before after same (fun world =>
        qaRunId ∉ world.passedRuns) fun _ => Iff.rfl
  cases confirmed with
  | true => exact fun _ _ holds => ⟨holds.1.1, fun opened => by cases opened⟩
  | false =>
      refine Routine.Meets.bind (Routine.Meets.attempt ((keeps_preflight
        calmRunnable.looks).strengthen fun _ _ holds => ⟨holds.1, holds.2 rfl⟩))
        fun result => ?_
      cases result with
      | ok value =>
          exact fun _ _ holds => ⟨holds.1.1, fun _ =>
            ⟨rfl, holds.1.1, holds.1.2, holds.2⟩⟩
      | error failure =>
          refine Routine.Meets.bind ((keeps_ignore
            (keeps_reportRunnable qaRunId)).consequence (fun _ _ holds => holds)
            (fun _ _ _ holds => holds) fun _ _ holds => holds.1.1)
            fun _ _ _ holds => holds.1.1

theorem keeps_run (embeddedCommit expectedCommit : String) (action : Action) :
    Routine.Keeps (underFaults primitives (Lasting earlier) (Safe earlier))
      (Lasting earlier) (run embeddedCommit expectedCommit action) := by
  have calm := @calm_lasting earlier
  have recovers : ∀ {next : Helper Unit}, Routine.Keeps
        (underFaults primitives (Lasting earlier) (Safe earlier))
        (Lasting earlier) next →
      Routine.Keeps (underFaults primitives (Lasting earlier) (Safe earlier))
        (Lasting earlier) (do
          call (.inspect "process identity, pinned commit and admin token")
          let _ ← qaIntent embeddedCommit expectedCommit none
          call (.inspect "acquire the cutover lock")
          cleanupAtomicTemps .hermesDirectory [.env, .config]
          let _ ← recoverIncompleteCutovers embeddedCommit
          match (← Routine.attempt preflight : Except Failure Unit) with
          | .ok () => next
          | .error failure => Routine.leave failure) := by
    intro next keeps
    refine Routine.Keeps.bind (keeps_call calm rfl) fun _ => ?_
    refine Routine.Keeps.bind (keeps_qaIntent calm.looks calm.cleans _ _ _) fun intent => ?_
    refine Routine.Keeps.bind (keeps_call calm rfl) fun _ => ?_
    refine Routine.Keeps.bind (keeps_cleanupAtomicTemps calm _ _) fun _ => ?_
    refine Routine.Meets.bind ((meets_recoverIncompleteCutovers
      embeddedCommit).consequence (fun _ _ holds => holds)
      (fun _ _ _ holds => holds.1) fun _ _ holds => holds) fun _ => ?_
    refine Routine.Keeps.bind (Routine.Keeps.attempt (keeps_preflight calm.looks))
      fun result => ?_
    cases result with
    | ok value => exact keeps
    | error failure => exact Routine.Meets.leave
  cases action with
  | retireBackup generation providerRevoked =>
      refine Routine.Keeps.bind (keeps_call calm rfl) fun _ => ?_
      exact Routine.Keeps.bind (keeps_call calm rfl) fun _ =>
        keeps_retireBackup embeddedCommit generation providerRevoked
  | preflight => exact @recovers (pure ()) keeps_pure
  | verify =>
      apply recovers
      refine Routine.Keeps.bind (keeps_call calm rfl) fun clients => ?_
      split
      · exact Routine.Keeps.bind (keeps_call calm rfl) fun _ => keeps_pure
      · exact keeps_bail
  | apply qaRunId =>
      rw [run_apply]
      refine Routine.Meets.bind (meets_opening embeddedCommit expectedCommit
        qaRunId) fun opened => ?_
      cases opened with
      | false => exact fun _ _ holds => holds.1
      | true =>
          intro memory world holds
          exact ((@meets_apply primitives embeddedCommit earlier world
            qaRunId).relax relaxes_during).consequence (fun _ _ holds => holds)
            (fun _ _ _ holds => holds.1) (fun _ _ holds => holds.1) memory world
            (holds.2 rfl)

end Helper

end NvidiaBuildLb.Hermes
