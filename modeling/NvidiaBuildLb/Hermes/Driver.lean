import NvidiaBuildLb.Hermes.Rules

namespace NvidiaBuildLb.Hermes

open Foundation NvidiaBuildLb.Core

/-! A driver that answers the helper's requests one by one, to run it on an
example. -/

/-- What the driver does about a request: serve it, refuse it, or kill the
process while it waits; `watch` only looks at the world at that point. -/
inductive Turn where
  | serve
  | refuse
  | kill
  | watch

def freshId (count : Nat) : Uuid :=
  BitVec.ofNat 128 (count + 1)

def serve (primitives : Primitives) (commit : String) :
    (op : Op) → World → Option (Value op × World)
  | .newUuid, world =>
      let id := freshId world.used.length
      if id ∈ world.used then
        none
      else
        some (id, { world with used := id :: world.used })
  | .inspect _, world => some ((), world)
  | .validate place, world =>
      if world.holds place = true then some ((), world) else none
  | .pathExists place, world => some (world.holds place, world)
  | .read path, world => (world.files path).map fun content => (content, world)
  | .sha256File path, world =>
      match world.files path with
      | some (.bytes value) => some (fingerprint primitives value, world)
      | _ => none
  | .listBackupRoot, world =>
      if world.stages = [] ∧ world.generations.Nodup then
        some (world.generations.map BackupEntry.generation, world)
      else
        none
  | .listTemporaries _, world =>
      if world.temporaries = [] then some ([], world) else none
  | .createTemporary target nonce, world =>
      if world.temporary? target nonce = none then
        some ((), {
          world.putTemporary { target, nonce, content := none } with
          used := nonce :: world.used })
      else
        none
  | .writeTemporary target nonce content, world =>
      if (world.temporary? target nonce).isSome then
        some ((), world.putTemporary { target, nonce, content := some content })
      else
        none
  | .syncTemporary .., world => some ((), world)
  | .protectTemporary .., world => some ((), world)
  | .replace target nonce, world =>
      match world.temporary? target nonce with
      | some { content := some content, .. } =>
          some ((),
            (world.dropTemporary target nonce).replaceFile target content)
      | _ => none
  | .temporaryExists target nonce, world =>
      some ((world.temporary? target nonce).isSome, world)
  | .syncDirectory _, world => some ((), world)
  | .createStage generation, world =>
      if generation ∈ world.stages then
        none
      else
        some ((), { world with stages := generation :: world.stages })
  | .publishStage generation, world =>
      if generation ∈ world.stages ∧ generation ∉ world.generations then
        some ((), world.publish generation)
      else
        none
  | .docker _, world => some ("healthy", world)
  | .verifyHermes _, world =>
      some ({
        doctor := true
        marker := true
        tool := true
        toolOutputSha256 := ""
        lbRequests := [] }, world)
  | .collectSecretScan _, world => some ({ matchCounts := [] }, world)
  | .getRun id, world =>
      some ({
        id
        suite := "hermes-e2e"
        live := true
        providerIdentity := "nvidia_hosted"
        deploymentCommit := commit
        status := if id ∈ world.passedRuns then .passed else .running }, world)
  | .createClient label, world =>
      let item : ClientItem := {
        id := freshId world.clients.length
        label
        active := true }
      if (∀ known ∈ world.clients, known.active = true → known.label ≠ label) ∧
          ∀ known ∈ world.clients, known.id ≠ item.id then
        some (.created { item, token := "new" },
          { world with clients := world.clients ++ [item] })
      else
        none
  | .listClients, world => some (world.clients, world)
  | .revokeClient id, world =>
      if ∃ item ∈ world.clients, item.id = id then
        some ((), world.revoke id)
      else
        none
  | .completeRun id completion, world =>
      match completion with
      | .passed _ =>
          some ((), { world with passedRuns := id :: world.passedRuns })
      | .failed => if id ∈ world.passedRuns then none else some ((), world)
  | .listDirectory _, _ => none
  | .removeTemporary .., _ => none
  | .removeFile _, _ => none
  | .removeStage _, _ => none
  | .removeGeneration _, _ => none
  | .rotateClient _, _ => none

theorem serve_performs {primitives : Primitives} {commit : String} {op : Op}
    {world after : World} {value : Value op}
    (served : serve primitives commit op world = some (value, after)) :
    Performs primitives op world value after := by
  cases op with
  | validate place =>
      simp only [serve, Option.ite_none_right_eq_some, Option.some.injEq,
        Prod.mk.injEq] at served
      exact ⟨served.1, served.2.2.symm⟩
  | newUuid =>
      simp only [serve, Option.ite_none_left_eq_some, Option.some.injEq,
        Prod.mk.injEq] at served
      obtain ⟨fresh, rfl, rfl⟩ := served
      exact ⟨fresh, rfl⟩
  | read path =>
      simp only [serve, Option.map_eq_some_iff, Prod.mk.injEq] at served
      obtain ⟨content, held, rfl, rfl⟩ := served
      exact ⟨held, rfl⟩
  | sha256File path =>
      simp only [serve] at served
      split at served
      · rename_i bytes held
        cases served
        exact ⟨⟨bytes, held, rfl⟩, rfl⟩
      · cases served
  | listBackupRoot =>
      simp only [serve, Option.ite_none_right_eq_some, Option.some.injEq,
        Prod.mk.injEq] at served
      obtain ⟨⟨unstaged, distinct⟩, rfl, rfl⟩ := served
      refine ⟨distinct.map (by intro left right same; cases same; rfl), ?_, rfl⟩
      intro entry
      cases entry <;> simp [unstaged]
  | listTemporaries targets =>
      simp only [serve, Option.ite_none_right_eq_some, Option.some.injEq,
        Prod.mk.injEq] at served
      obtain ⟨none_, rfl, rfl⟩ := served
      refine ⟨List.nodup_nil, ?_, rfl⟩
      intro entry
      simp [World.temporary?, none_]
  | createTemporary target nonce =>
      simp only [serve, Option.ite_none_right_eq_some, Option.some.injEq,
        Prod.mk.injEq] at served
      obtain ⟨new, -, rfl⟩ := served
      exact ⟨new, rfl⟩
  | writeTemporary target nonce content =>
      simp only [serve, Option.ite_none_right_eq_some, Option.some.injEq,
        Prod.mk.injEq] at served
      obtain ⟨present, -, rfl⟩ := served
      exact ⟨present, rfl⟩
  | replace target nonce =>
      simp only [serve] at served
      split at served
      · rename_i file content found
        cases served
        have same := List.find?_some found
        simp only [decide_eq_true_eq] at same
        obtain ⟨rfl, rfl⟩ := same
        exact ⟨content, found, rfl⟩
      · cases served
  | createStage generation =>
      simp only [serve, Option.ite_none_left_eq_some, Option.some.injEq,
        Prod.mk.injEq] at served
      obtain ⟨new, -, rfl⟩ := served
      exact ⟨new, rfl⟩
  | publishStage generation =>
      simp only [serve, Option.ite_none_right_eq_some, Option.some.injEq,
        Prod.mk.injEq] at served
      obtain ⟨⟨staged, new⟩, -, rfl⟩ := served
      exact ⟨staged, new, rfl⟩
  | getRun id =>
      simp only [serve, Option.some.injEq, Prod.mk.injEq] at served
      obtain ⟨rfl, rfl⟩ := served
      exact ⟨fun passed => if_pos passed, rfl⟩
  | createClient label =>
      simp only [serve, Option.ite_none_right_eq_some, Option.some.injEq,
        Prod.mk.injEq] at served
      obtain ⟨⟨unlabelled, unknown⟩, rfl, rfl⟩ := served
      exact ⟨unlabelled, unknown, rfl, rfl, rfl⟩
  | revokeClient id =>
      simp only [serve, Option.ite_none_right_eq_some, Option.some.injEq,
        Prod.mk.injEq] at served
      obtain ⟨present, -, rfl⟩ := served
      exact ⟨present, rfl⟩
  | completeRun id completion =>
      cases completion with
      | passed receipt =>
          simp only [serve, Option.some.injEq, Prod.mk.injEq] at served
          exact served.2.symm
      | failed =>
          simp only [serve, Option.ite_none_left_eq_some, Option.some.injEq,
            Prod.mk.injEq] at served
          exact ⟨served.1, served.2.2.symm⟩
  | pathExists place =>
      simp only [serve, Option.some.injEq, Prod.mk.injEq] at served
      exact ⟨served.1.symm, served.2.symm⟩
  | temporaryExists target nonce =>
      simp only [serve, Option.some.injEq, Prod.mk.injEq] at served
      exact ⟨served.1.symm, served.2.symm⟩
  | listClients =>
      simp only [serve, Option.some.injEq, Prod.mk.injEq] at served
      exact ⟨served.1.symm, served.2.symm⟩
  | listDirectory place => cases served
  | removeTemporary target nonce => cases served
  | removeFile path => cases served
  | removeStage generation => cases served
  | removeGeneration generation => cases served
  | rotateClient id => cases served
  | _ =>
      simp only [serve, Option.some.injEq, Prod.mk.injEq] at served
      exact served.2.symm

/-- The driver's run of a program, until the process is killed or watched. -/
def drive {α : Type} (primitives : Primitives) (commit : String)
    (turns : Memory → Op → World → Turn) :
    Program (Memory × Op) (fun request => Answer request.2) α → World →
      Option (World × Ending (Memory × Op) α)
  | .done value, world => some (world, .returned value)
  | .ask request next, world =>
      match turns request.1 request.2 world with
      | .serve =>
          match serve primitives commit request.2 world with
          | some (value, after) => drive primitives commit turns
              (next (.ok value)) after
          | none => none
      | .refuse =>
          if request.2.fallible = true then
            drive primitives commit turns (next (.error .system))
              (refused request.2 world)
          else
            none
      | .kill => some (world, .dropped request)
      | .watch => some (world, .waiting request)

theorem drive_reaches_in {α : Type} {primitives : Primitives} {commit : String}
    {turns : Memory → Op → World → Turn}
    {environment : Environment (Memory × Op)
      (fun request => Answer request.2) World}
    (serves : ∀ request world value after,
      serve primitives commit request.2 world = some (value, after) →
        environment.answers request world (.ok value) after)
    (refuses : ∀ request world,
      turns request.1 request.2 world = .refuse → request.2.fallible = true →
        environment.answers request world (.error .system)
          (refused request.2 world))
    (kills : ∀ request world, turns request.1 request.2 world = .kill →
      environment.drops request world world)
    {program : Program (Memory × Op) (fun request => Answer request.2) α}
    {world after : World} {ending : Ending (Memory × Op) α}
    (driven : drive primitives commit turns program world =
      some (after, ending)) :
    Reaches environment world program after ending := by
  induction program generalizing world with
  | done value =>
      simp only [drive, Option.some.injEq, Prod.mk.injEq] at driven
      obtain ⟨rfl, rfl⟩ := driven
      exact .returned
  | ask request next induction =>
      unfold drive at driven
      split at driven
      · split at driven
        · rename_i value between served
          exact .answered (.ok value) (serves _ _ _ _ served)
            (induction _ driven)
        · cases driven
      · rename_i refusing
        split at driven
        · rename_i fallible
          exact .answered (.error .system) (refuses _ _ refusing fallible)
            (induction _ driven)
        · cases driven
      · rename_i killing
        simp only [Option.some.injEq, Prod.mk.injEq] at driven
        obtain ⟨rfl, rfl⟩ := driven
        exact .dropped (kills _ _ killing)
      · simp only [Option.some.injEq, Prod.mk.injEq] at driven
        obtain ⟨rfl, rfl⟩ := driven
        exact .waiting

theorem drive_reaches {α : Type} {primitives : Primitives} {commit : String}
    {turns : Memory → Op → World → Turn}
    {program : Program (Memory × Op) (fun request => Answer request.2) α}
    {world after : World} {ending : Ending (Memory × Op) α}
    (driven : drive primitives commit turns program world =
      some (after, ending)) :
    Reaches (faulty primitives) world program after ending := by
  apply drive_reaches_in _ _ _ driven
  · exact fun _ _ _ _ served => serve_performs served
  · exact fun _ _ _ fallible => ⟨rfl, fallible, .inl rfl⟩
  · exact fun _ _ _ => .inl rfl

/-- The driver gets to a request at which the test holds. -/
def watched (primitives : Primitives) (commit : String)
    (turns : Memory → Op → World → Turn) (action : Helper.Action)
    (world : World) (test : Memory → Op → World → Bool) : Bool :=
  match drive primitives commit turns
      (Helper.run commit commit action .initial) world with
  | some (after, .waiting (memory, op)) => test memory op after
  | _ => false

theorem watched_reaches {primitives : Primitives} {commit : String}
    {turns : Memory → Op → World → Turn} {action : Helper.Action}
    {world : World} {test : Memory → Op → World → Bool}
    (holds : watched primitives commit turns action world test = true) :
    ∃ after memory op,
      Reaches (faulty primitives) world
        (Helper.run commit commit action .initial) after
        (.waiting (memory, op)) ∧
      test memory op after = true := by
  unfold watched at holds
  split at holds
  · rename_i after memory op driven
    exact ⟨after, memory, op, drive_reaches driven, holds⟩
  · cases holds

/-- Watches where the first test holds, refuses where the second does, and
serves everything else. -/
def turnsOf (watches refuses : Memory → Op → World → Bool) (memory : Memory)
    (op : Op) (world : World) : Turn :=
  if watches memory op world then
    .watch
  else if refuses memory op world then
    .refuse
  else
    .serve

def Op.restores : Op → Bool
  | .replace .env _ | .replace .config _ => true
  | _ => false

def Op.revokes : Op → Bool
  | .revokeClient _ => true
  | _ => false

def Op.reportsFailed : Op → Bool
  | .completeRun _ .failed => true
  | _ => false

def Op.issues : Op → Bool
  | .createClient _ => true
  | _ => false

def Op.verifies : Op → Bool
  | .verifyHermes _ => true
  | _ => false

def cutoverPrimitives : Primitives := .tabulated [
  (utf8 "NVIDIA_API_KEY=old\n",
    #v[230, 93, 110, 87, 12, 121, 43, 240, 247, 21, 89, 100, 190, 240, 52, 250,
      84, 246, 118, 98, 240, 193, 41, 8, 8, 56, 13, 17, 191, 245, 90, 7]),
  (utf8 "model:\n",
    #v[90, 142, 106, 228, 20, 164, 55, 211, 150, 11, 96, 113, 57, 59, 242, 63,
      184, 116, 145, 15, 113, 13, 41, 200, 161, 198, 22, 180, 7, 62, 61, 170])]

def freshWorld : World where
  files := fun path =>
    match path with
    | .env => some (.bytes (utf8 "NVIDIA_API_KEY=old\n"))
    | .config => some (.bytes (utf8 "model:\n"))
    | _ => none
  temporaries := []
  stages := []
  generations := []
  clients := []
  passedRuns := []
  used := []
  commits := []
  misreported := []

end NvidiaBuildLb.Hermes
