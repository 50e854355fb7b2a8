import NvidiaBuildLb.Foundation.Frame
import NvidiaBuildLb.Gateway.Delta

namespace NvidiaBuildLb.Gateway

open Foundation NvidiaBuildLb.Core
open Transaction (Untouched)

/-! What the steps of the incremental sync leave alone: any part of the rows
that does not look at the tables a step writes. -/

variable {π : Type} {part : Database → π}

theorem affectOne_leaves {context conflict : String}
    {statement : Database → Option (Nat × Database)}
    (leaves : ∀ rows affected rows', statement rows = some (affected, rows') →
      part rows' = part rows) :
    Untouched part (affectOne context conflict statement) :=
  Untouched.bind (Untouched.execute leaves) fun _ => Untouched.refuseIf _ _

theorem updateOne_leaves {context conflict : String} {update : Database → Nat × Database}
    (leaves : ∀ rows, part (update rows).2 = part rows) :
    Untouched part (updateOne context conflict update) := by
  apply affectOne_leaves
  intro rows affected rows' answered
  rw [← leaves rows, Option.some.inj answered]

theorem whenChanged_same [DecidableEq α] {previous current : α} {update : Sync Unit}
    (same : previous = current) : Untouched part (whenChanged previous current update) := by
  unfold whenChanged
  rw [if_neg (not_not_intro same.symm)]
  exact Untouched.pure _

theorem whenChanged_leaves [DecidableEq α] {previous current : α} {update : Sync Unit}
    (leaves : Untouched part update) : Untouched part (whenChanged previous current update) := by
  unfold whenChanged
  split
  · exact leaves
  · exact Untouched.pure _

theorem syncCounter_leaves {overflow deltaOverflow : String} {previous current : Nat}
    {add : Int → Sync Unit} (leaves : ∀ delta, Untouched part (add delta)) :
    Untouched part (syncCounter overflow deltaOverflow previous current add) := by
  apply whenChanged_leaves
  apply Untouched.bind (Untouched.lift _)
  intro currentCount
  apply Untouched.bind (Untouched.lift _)
  intro previousCount
  apply Untouched.bind (Untouched.lift _)
  exact leaves

theorem control_leaves (context : String) : Untouched part (control context) := by
  apply Untouched.execute
  intro rows answer rows' answered
  cases answered
  rfl

section Keys

variable (blindToKeys : ∀ rows upstreamKeys,
    part { rows with upstreamKeys := upstreamKeys } = part rows)
  (blindToReceipts : ∀ rows probeReceipts,
    part { rows with probeReceipts := probeReceipts } = part rows)

include blindToKeys in
theorem insertUpstreamKey_leaves (now : Micros) (current : VaultKeyRecord) :
    Untouched part (insertUpstreamKey now current) := by
  apply Untouched.bind
  · apply Untouched.execute
    intro rows answer rows' answered
    cases answered
    rfl
  intro activeCount
  apply Untouched.bind (Untouched.refuseIf _ _)
  intro _
  apply Untouched.bind (Untouched.lift _)
  intro requestCount
  apply Untouched.bind (Untouched.lift _)
  intro failureCount
  apply affectOne_leaves
  intro rows affected rows' answered
  obtain ⟨slotNo, -, stored⟩ := Option.map_eq_some_iff.mp answered
  split at stored
  · cases stored
    rfl
  · cases stored
    exact blindToKeys rows _

include blindToReceipts in
theorem syncKeyReceipts_leaves (now : Micros) (previous current : VaultKeyRecord) :
    Untouched part (syncKeyReceipts now previous current) := by
  unfold syncKeyReceipts
  split
  · apply Untouched.execute
    intro rows answer rows' answered
    cases answered
    exact blindToReceipts rows _
  · exact Untouched.pure _

include blindToKeys blindToReceipts in
theorem syncKey_leaves (now : Micros) (previous : List VaultKeyRecord)
    (current : VaultKeyRecord) : Untouched part (syncKey now previous current) := by
  unfold syncKey
  split
  · exact insertUpstreamKey_leaves blindToKeys now current
  · apply Untouched.bind (whenChanged_leaves (updateOne_leaves fun rows => blindToKeys rows _))
    intro _
    apply Untouched.bind (whenChanged_leaves (updateOne_leaves fun rows => blindToKeys rows _))
    intro _
    apply Untouched.bind (whenChanged_leaves (updateOne_leaves fun rows => blindToKeys rows _))
    intro _
    apply Untouched.bind (syncKeyReceipts_leaves blindToReceipts now _ current)
    intro _
    apply Untouched.bind (whenChanged_leaves (updateOne_leaves fun rows => blindToKeys rows _))
    intro _
    apply Untouched.bind (syncCounter_leaves fun _ =>
      updateOne_leaves fun rows => blindToKeys rows _)
    intro _
    exact syncCounter_leaves fun _ => updateOne_leaves fun rows => blindToKeys rows _

end Keys

section Downstream

variable (blindToClients : ∀ rows downstreamCredentials,
    part { rows with downstreamCredentials := downstreamCredentials } = part rows)

include blindToClients

theorem insertDownstreamCredential_leaves (current : VaultDownstreamRecord) :
    Untouched part (insertDownstreamCredential current) := by
  apply Untouched.bind (Untouched.lift _)
  intro requestCount
  apply affectOne_leaves
  intro rows affected rows' answered
  split at answered
  · cases answered
    rfl
  · cases answered
    exact blindToClients rows _

theorem syncDownstream_leaves (now : Micros) (previous : List VaultDownstreamRecord)
    (current : VaultDownstreamRecord) : Untouched part (syncDownstream now previous current) := by
  unfold syncDownstream
  split
  · exact insertDownstreamCredential_leaves blindToClients current
  · apply Untouched.bind (whenChanged_leaves (updateOne_leaves fun rows => blindToClients rows _))
    intro _
    apply Untouched.bind (whenChanged_leaves (updateOne_leaves fun rows => blindToClients rows _))
    intro _
    apply Untouched.bind (whenChanged_leaves (updateOne_leaves fun rows => blindToClients rows _))
    intro _
    apply Untouched.bind (whenChanged_leaves (updateOne_leaves fun rows => blindToClients rows _))
    intro _
    apply Untouched.bind (syncCounter_leaves fun _ =>
      updateOne_leaves fun rows => blindToClients rows _)
    intro _
    exact whenChanged_leaves (updateOne_leaves fun rows => blindToClients rows _)

theorem applyClientPolicy_leaves (policy : ClientPolicyMutation) :
    Untouched part (applyClientPolicy policy) :=
  updateOne_leaves fun rows => blindToClients rows _

end Downstream

theorem syncCursor_leaves (blindToCursors : ∀ rows routingState,
      part { rows with routingState := routingState } = part rows)
    (previous current : RouterCursors) (profile : String) :
    Untouched part (syncCursor previous current profile) := by
  unfold syncCursor
  split
  · exact updateOne_leaves fun rows => blindToCursors rows _
  · exact Untouched.pure _

theorem recordProbe_leaves (blindToRuns : ∀ rows probeRuns,
      part { rows with probeRuns := probeRuns } = part rows)
    (blindToReceipts : ∀ rows probeReceipts,
      part { rows with probeReceipts := probeReceipts } = part rows)
    (now : Micros) (probe : ProbeAuditMutation) : Untouched part (recordProbe now probe) := by
  apply Untouched.bind
  · apply Untouched.execute
    intro rows answer rows' answered
    obtain ⟨probeRuns, -, stored⟩ := Option.map_eq_some_iff.mp answered
    cases stored
    exact blindToRuns rows _
  intro _
  split
  · split
    · exact Untouched.pure _
    · apply Untouched.execute
      intro rows answer rows' answered
      cases answered
      unfold Database.storeReceipt
      split <;> exact blindToReceipts rows _
  split
  · apply Untouched.execute
    intro rows answer rows' answered
    cases answered
    exact blindToReceipts rows _
  · exact Untouched.pure _

theorem recordIfAudited_leaves
    (policies : ∀ policy, Untouched part (applyClientPolicy policy))
    (blindToRuns : ∀ rows probeRuns,
      part { rows with probeRuns := probeRuns } = part rows)
    (blindToReceipts : ∀ rows probeReceipts,
      part { rows with probeReceipts := probeReceipts } = part rows)
    (blindToEvents : ∀ rows auditEvents,
      part { rows with auditEvents := auditEvents } = part rows)
    (now : Micros) (auditId : Uuid) (audit : Option VaultAuditMutation) :
    Untouched part (recordIfAudited now auditId audit) := by
  cases audit with
  | none => exact Untouched.pure _
  | some mutation =>
      refine Untouched.bind (Untouched.bind (Untouched.optional policies _)
        fun _ => Untouched.bind (Untouched.optional (recordProbe_leaves
          blindToRuns blindToReceipts now) _) fun _ => ?_) fun _ => Untouched.pure _
      apply Untouched.execute
      intro rows recorded rows' answered
      obtain ⟨auditEvents, -, stored⟩ := Option.map_eq_some_iff.mp answered
      cases stored
      exact blindToEvents rows _

theorem syncDatabaseDelta_leaves {previous current : VaultSyncSnapshot}
    {now : Micros} {auditId : Uuid} {audit : Option VaultAuditMutation}
    {refuses : Nat → Bool} {acknowledgement : Transaction.Acknowledgement}
    {recorded : Option Uuid} {database rows : Database}
    (keys : ∀ record ∈ current.keys,
      Untouched part (syncKey now previous.keys record))
    (clients : ∀ record ∈ current.downstream,
      Untouched part (syncDownstream now previous.downstream record))
    (cursors : ∀ profile ∈ profiles,
      Untouched part (syncCursor previous.cursors current.cursors profile))
    (records : Untouched part (recordIfAudited now auditId audit))
    (ran : syncDatabaseDelta now auditId previous current audit refuses
      acknowledgement database = (.ok recorded, rows)) :
    part rows = part database := by
  refine Untouched.transact ?_ (syncDatabaseDelta_eq_ok.mp ran).2
  refine Untouched.bind (control_leaves _) fun _ => ?_
  refine Untouched.bind (control_leaves _) fun _ => ?_
  refine Untouched.bind (Untouched.forM_mem keys) fun _ => ?_
  refine Untouched.bind (Untouched.forM_mem clients) fun _ => ?_
  refine Untouched.bind (Untouched.forM_mem cursors) fun _ => ?_
  refine Untouched.bind records fun _ => ?_
  exact Untouched.bind (control_leaves _) fun _ => Untouched.pure _

end NvidiaBuildLb.Gateway
