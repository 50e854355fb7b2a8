import NvidiaBuildLb.Hermes.Cutover

namespace NvidiaBuildLb.Hermes

open Foundation NvidiaBuildLb.Core

/-! What the helper gets done when nothing interrupts it and every request that
can succeed does. -/

def served (primitives : Primitives) : HelperContract where
  environment := reliable primitives
  waiting := fun _ _ => True
  dropped := fun _ _ => True

/-- Identifiers are left for some more files, and those of the present
temporaries are known. -/
structure Supply (more : Nat) (world : World) : Prop where
  room : world.used.length + more < 2 ^ 128
  nonces : ∀ temporary ∈ world.temporaries, temporary.nonce ∈ world.used

theorem Supply.less {more fewer : Nat} {world : World}
    (supply : Supply more world) (le : fewer ≤ more) : Supply fewer world where
  room := by
    have room := supply.room
    omega
  nonces := supply.nonces

theorem Supply.fresh {more : Nat} {world : World}
    (supply : Supply more world) : ∃ id, id ∉ world.used := by
  have room := supply.room
  by_contra all
  simp only [not_exists, not_not] at all
  have covers : (List.range (2 ^ 128)).map (BitVec.ofNat 128) ⊆ world.used :=
    fun id _ => all id
  have distinct : ((List.range (2 ^ 128)).map (BitVec.ofNat 128)).Nodup := by
    apply List.Nodup.map_on _ List.nodup_range
    intro left leftMember right rightMember same
    have values := congrArg BitVec.toNat same
    rw [List.mem_range] at leftMember rightMember
    rwa [BitVec.toNat_ofNat, BitVec.toNat_ofNat, Nat.mod_eq_of_lt leftMember,
      Nat.mod_eq_of_lt rightMember] at values
  have bound := (distinct.subperm covers).length_le
  rw [List.length_map, List.length_range] at bound
  omega

namespace Helper

/-- A routine that succeeds from every world that meets `pre`. -/
def Total (primitives : Primitives) (pre : World → Prop) (routine : Helper α)
    (post : α → World → Prop) : Prop :=
  Routine.Meets (served primitives) (fun _ => pre) routine
    (fun value _ => post value) fun _ _ => False

section Rules

variable {primitives : Primitives} {pre pre' : World → Prop}

theorem Total.bind {routine : Helper α} {next : α → Helper β}
    {between : α → World → Prop} {post : β → World → Prop}
    (first : Total primitives pre routine between)
    (second : ∀ value, Total primitives (between value) (next value) post) :
    Total primitives pre (routine >>= next) post :=
  Routine.Meets.bind first second

theorem Total.pure {value : α} {post : α → World → Prop}
    (holds : ∀ world, pre world → post value world) :
    Total primitives pre (Pure.pure value : Helper α) post :=
  fun _ world before => holds world before

theorem Total.absurd {routine : Helper α} {post : α → World → Prop}
    (impossible : ∀ world, ¬ pre world) :
    Total primitives pre routine post :=
  fun _ world before => (impossible world before).elim

theorem Total.strengthen {routine : Helper α} {post : α → World → Prop}
    (total : Total primitives pre routine post)
    (stronger : ∀ world, pre' world → pre world) :
    Total primitives pre' routine post :=
  Routine.Meets.strengthen total fun _ => stronger

theorem Total.weaken {routine : Helper α} {post post' : α → World → Prop}
    (total : Total primitives pre routine post)
    (weaker : ∀ value world, post value world → post' value world) :
    Total primitives pre routine post' :=
  Routine.Meets.consequence total (fun _ _ holds => holds)
    (fun value _ => weaker value) fun _ _ holds => holds

theorem Total.assuming {fact : Prop} {routine : Helper α}
    {post : α → World → Prop}
    (total : fact → Total primitives pre routine post) :
    Total primitives (fun world => fact ∧ pre world) routine post :=
  fun held world before => total before.1 held world before.2

theorem Total.update {change : Memory → Memory} :
    Total primitives pre (Routine.update change : Helper Unit)
      fun _ => pre :=
  fun _ _ holds => holds

theorem Total.attempt {routine : Helper α} {post : α → World → Prop}
    (total : Total primitives pre routine post) :
    Total primitives pre
      (Routine.attempt routine : Helper (Except Failure α))
      (fun result world => ∃ value, result = .ok value ∧ post value world) := by
  refine (Routine.Meets.attempt total).consequence (fun _ _ holds => holds) ?_
    fun _ _ holds => holds
  intro result memory world holds
  cases result with
  | ok value => exact ⟨value, rfl, holds⟩
  | error failure => exact holds.elim

theorem Total.ignore {routine : Helper α} {post : World → Prop}
    (total : Total primitives pre routine fun _ => post) :
    Total primitives pre (Helper.ignore routine) fun _ => post := by
  refine Total.bind total.attempt fun result => ?_
  apply Total.pure
  intro world holds
  obtain ⟨_, -, holds⟩ := holds
  exact holds

theorem total_ask {op : Op} {post : Answer op → World → Prop}
    (possible : ∀ world, pre world → ∃ value after, Dependable op value ∧
      Performs primitives op world value after)
    (performed : ∀ world value after, pre world → Dependable op value →
      Performs primitives op world value after → post (.ok value) after) :
    Total primitives pre (Routine.ask op : Helper (Answer op)) post := by
  intro memory world before
  refine Routine.wp_ask.mpr ⟨trivial, fun _ _ => trivial, ?_⟩
  intro answer after answers
  cases answer with
  | ok value => exact performed world value after before answers.1 answers.2
  | error failure =>
      obtain ⟨-, -, impossible⟩ := answers
      obtain ⟨value, next, dependable, performs⟩ := possible world before
      exact (impossible value next dependable performs).elim

theorem total_call {op : Op} {post : Value op → World → Prop}
    (possible : ∀ world, pre world → ∃ value after, Dependable op value ∧
      Performs primitives op world value after)
    (performed : ∀ world value after, pre world → Dependable op value →
      Performs primitives op world value after → post value after) :
    Total primitives pre (call op) post := by
  apply @Total.bind _ _ _ _ _ _
    (fun answer world => ∃ value, answer = .ok value ∧ post value world)
  · apply total_ask possible
    intro world value after before dependable performs
    exact ⟨value, rfl, performed world value after before dependable performs⟩
  · intro answer
    cases answer with
    | ok value =>
        apply Total.pure
        intro world holds
        obtain ⟨_, same, holds⟩ := holds
        cases same
        exact holds
    | error failure =>
        apply Total.absurd
        intro world holds
        obtain ⟨_, same, -⟩ := holds
        cases same

theorem Total.each {β : Type} {body : β → Helper Unit}
    (remaining : List β → World → Prop)
    (step : ∀ item rest, Total primitives (remaining (item :: rest)) (body item)
      fun _ => remaining rest)
    (items : List β) :
    Total primitives (remaining items) (Routine.each items body)
      fun _ => remaining [] :=
  Routine.Meets.each (fun items _ => remaining items) step items

theorem total_look {op : Op} {learnt : Value op → World → Prop}
    (possible : ∀ world, pre world → ∃ value, Dependable op value ∧
      Performs primitives op world value world)
    (learns : ∀ world value after, Dependable op value →
      Performs primitives op world value after →
        learnt value world ∧ after = world) :
    Total primitives pre (call op)
      fun value world => pre world ∧ learnt value world := by
  apply total_call
  · intro world before
    obtain ⟨value, dependable, performs⟩ := possible world before
    exact ⟨value, world, dependable, performs⟩
  · intro world value after before dependable performs
    obtain ⟨learnt, rfl⟩ := learns world value after dependable performs
    exact ⟨before, learnt⟩

theorem total_validate {place : Place}
    (present : ∀ world, pre world → world.holds place = true) :
    Total primitives pre (call (.validate place)) fun _ => pre := by
  refine Total.weaken (@total_look _ _ _ (fun _ _ => True) ?_ ?_)
    fun _ _ holds => holds.1
  · exact fun world before => ⟨(), trivial, present world before, rfl⟩
  · exact fun world _ after _ performs => ⟨trivial, performs.2⟩

theorem total_syncDirectory {cause : SyncCause} :
    Total primitives pre (call (.syncDirectory cause)) fun _ => pre := by
  refine Total.weaken (@total_look _ _ _ (fun _ _ => True) ?_ ?_)
    fun _ _ holds => holds.1
  · exact fun world _ => ⟨(), trivial, rfl⟩
  · exact fun world _ after _ performs => ⟨trivial, performs⟩

theorem total_docker (command : DockerCommand) :
    Total primitives pre (docker command) fun _ => pre := by
  refine Total.bind (Total.weaken (@total_look _ _ _ (fun _ _ => True) ?_ ?_)
    fun _ _ holds => holds.1) fun _ => Total.pure fun _ holds => holds
  · intro world _
    refine ⟨"healthy", ?_, rfl⟩
    cases command <;> first | rfl | trivial
  · exact fun world _ after _ performs => ⟨trivial, performs⟩

theorem total_pathExists {place : Place} :
    Total primitives pre (pathExists place)
      fun found world => pre world ∧ found = world.holds place := by
  apply @Total.bind _ _ _ _ _ _
    (fun answer world => pre world ∧ answer = .ok (world.holds place))
  · apply total_ask
    · exact fun world _ => ⟨world.holds place, world, trivial, rfl, rfl⟩
    · intro world value after before _ performs
      obtain ⟨rfl, rfl⟩ := performs
      exact ⟨before, rfl⟩
  · intro answer
    cases answer with
    | ok value =>
        apply Total.pure
        intro world holds
        obtain ⟨before, same⟩ := holds
        cases same
        exact ⟨before, rfl⟩
    | error failure =>
        apply Total.absurd
        intro world holds
        cases holds.2

theorem total_ensureRootDirectory {place : Place}
    (present : ∀ world, pre world → world.holds place = true) :
    Total primitives pre (ensureRootDirectory place) fun _ => pre := by
  refine Total.bind total_pathExists fun found => ?_
  cases found with
  | false =>
      apply Total.absurd
      intro world holds
      rw [present world holds.1] at holds
      cases holds.2
  | true =>
      exact Total.strengthen (total_validate present) fun _ holds => holds.1

theorem total_waitForContainerHealth :
    Total primitives pre waitForContainerHealth fun _ => pre := by
  unfold waitForContainerHealth
  refine @Total.bind _ _ _ _ _ _
    (fun healthy world => pre world ∧ healthy = true) _ ?_ fun healthy => ?_
  · unfold Routine.loop
    refine @Total.bind _ _ _ _ _ _
      (fun flow world => pre world ∧ flow = .stop true) _ ?_ fun flow => ?_
    · refine Total.bind (@total_look _ _ _
        (fun status _ => status = "healthy") ?_ ?_) fun status => ?_
      · exact fun world _ => ⟨"healthy", rfl, rfl⟩
      · exact fun world _ after dependable performs => ⟨dependable, performs⟩
      · split
        · exact Total.pure fun world holds => ⟨holds.1, rfl⟩
        · rename_i different
          exact Total.absurd fun world holds => different holds.2
    · cases flow with
      | stop healthy =>
          apply Total.pure
          intro world holds
          refine ⟨holds.1, ?_⟩
          cases holds.2
          rfl
      | again healthy =>
          apply Total.absurd
          intro world holds
          cases holds.2
  · cases healthy with
    | true => exact Total.pure fun world holds => holds.1
    | false =>
        apply Total.absurd
        intro world holds
        cases holds.2

theorem total_read {path : Path}
    (held : ∀ world, pre world → ∃ content, world.files path = some content) :
    Total primitives pre (call (.read path))
      fun content world => pre world ∧ world.files path = some content := by
  apply total_look
  · intro world before
    obtain ⟨content, found⟩ := held world before
    exact ⟨content, trivial, found, rfl⟩
  · intro world content after _ performs
    obtain ⟨found, rfl⟩ := performs
    exact ⟨found, rfl⟩

theorem total_atomicWrite {post : World → Prop} {more : Nat}
    {target : Path} {content : Content}
    (stable : ∀ before after, World.Same before after → pre before → pre after)
    (replaced : ∀ world, pre world → post (world.replaceFile target content)) :
    Total primitives (fun world => pre world ∧ Supply (more + 2) world)
      (atomicWrite target content)
      fun _ world => post world ∧ Supply more world := by
  let named (nonce : Uuid) (world : World) : Prop :=
    pre world ∧ Supply more world ∧ nonce ∈ world.used
  let complete (nonce : Uuid) (world : World) : Prop :=
    named nonce world ∧ world.temporary? target nonce =
      some { target, nonce, content := some content }
  refine @Total.bind _ _ _ _ _ _ (fun nonce world =>
    pre world ∧ Supply (more + 1) world ∧ nonce ∈ world.used ∧
      ∀ temporary ∈ world.temporaries, temporary.nonce ≠ nonce) _ ?_
    fun nonce => ?_
  · apply total_call
    · intro world holds
      obtain ⟨id, fresh⟩ := holds.2.fresh
      exact ⟨id, _, trivial, fresh, rfl⟩
    · intro world id after holds _ performs
      obtain ⟨before, supply⟩ := holds
      have later := stable world after (performs.same rfl) before
      obtain ⟨fresh, rfl⟩ := performs
      refine ⟨later, ⟨?_, ?_⟩, List.mem_cons_self, ?_⟩
      · have room := supply.room
        rw [List.length_cons]
        omega
      · exact fun temporary member =>
          List.mem_cons_of_mem _ (supply.nonces temporary member)
      · intro temporary member same
        exact fresh (same ▸ supply.nonces temporary member)
  have written : Total primitives (fun world =>
      pre world ∧ Supply (more + 1) world ∧ nonce ∈ world.used ∧
        ∀ temporary ∈ world.temporaries, temporary.nonce ≠ nonce)
      (do
        call (.createTemporary target nonce)
        call (.writeTemporary target nonce content)
        call (.syncTemporary target nonce)
        call (.protectTemporary target nonce)
        call (.replace target nonce)
        call (.syncDirectory (.replaced target)) : Helper Unit)
      fun _ world => post world ∧ Supply more world := by
    refine @Total.bind _ _ _ _ _ _ (fun _ world =>
      named nonce world ∧ (world.temporary? target nonce).isSome = true) _ ?_
      fun _ => ?_
    · apply total_call
      · intro world holds
        refine ⟨(), _, trivial, ?_, rfl⟩
        apply List.find?_eq_none.mpr
        intro temporary member same
        simp only [decide_eq_true_eq] at same
        exact holds.2.2.2 temporary member same.2
      · intro world _ after holds _ performs
        have later := stable world after (performs.same rfl) holds.1
        obtain ⟨-, rfl⟩ := performs
        refine ⟨⟨later, ⟨?_, ?_⟩, List.mem_cons_self⟩, ?_⟩
        · have room := holds.2.1.room
          simp only [List.length_cons]
          omega
        · intro temporary member
          rcases List.mem_cons.mp member with rfl | old
          · exact List.mem_cons_self
          · exact List.mem_cons_of_mem _
              (holds.2.1.nonces temporary (List.mem_filter.mp old).1)
        · simp [World.putTemporary, World.temporary?]
    refine @Total.bind _ _ _ _ _ _ (fun _ => complete nonce) _ ?_ fun _ => ?_
    · apply total_call
      · exact fun world holds => ⟨(), _, trivial, holds.2, rfl⟩
      · intro world _ after holds _ performs
        have later := stable world after (performs.same rfl) holds.1.1
        obtain ⟨-, rfl⟩ := performs
        refine ⟨⟨later, ⟨holds.1.2.1.room, ?_⟩, holds.1.2.2⟩, ?_⟩
        · intro temporary member
          rcases List.mem_cons.mp member with rfl | old
          · exact holds.1.2.2
          · exact holds.1.2.1.nonces temporary (List.mem_filter.mp old).1
        · simp [World.putTemporary, World.temporary?]
    have looks : ∀ {op : Op}, (∀ world, ∃ value, Dependable op value ∧
          Performs primitives op world value world) →
        (∀ world value after, Performs primitives op world value after →
          after = world) →
        Total primitives (complete nonce) (call op)
          fun _ => complete nonce := by
      intro op possible unchanged
      apply total_call
      · intro world _
        obtain ⟨value, dependable, performs⟩ := possible world
        exact ⟨value, world, dependable, performs⟩
      · intro world value after holds _ performs
        exact unchanged world value after performs ▸ holds
    refine Total.bind (looks (fun _ => ⟨(), trivial, rfl⟩)
      fun _ _ _ performs => performs) fun _ => ?_
    refine Total.bind (looks (fun _ => ⟨(), trivial, rfl⟩)
      fun _ _ _ performs => performs) fun _ => ?_
    refine Total.bind ?_ fun _ => total_syncDirectory
    apply total_call
    · exact fun world holds => ⟨(), _, trivial, content, holds.2, rfl⟩
    · intro world _ after holds _ performs
      obtain ⟨found, isFound, rfl⟩ := performs
      have isContent : found = content := by
        simpa using isFound.symm.trans holds.2
      subst isContent
      refine ⟨replaced _ (stable world _ (same_dropTemporary world target nonce)
        holds.1.1), holds.1.2.1.room, ?_⟩
      intro temporary member
      exact holds.1.2.1.nonces temporary (List.mem_filter.mp member).1
  refine Total.bind written.attempt fun result => ?_
  cases result with
  | ok value =>
      apply Total.pure
      intro world holds
      obtain ⟨_, -, holds⟩ := holds
      exact holds
  | error failure =>
      apply Total.absurd
      intro world holds
      obtain ⟨_, same, -⟩ := holds
      cases same

theorem total_writeJournal {post : World → Prop} {more : Nat}
    {generation : Uuid} {state : JournalState}
    {operationLabel : Option String} {clientId : Option Uuid}
    (stable : ∀ before after, World.Same before after → pre before → pre after)
    (written : ∀ world, pre world →
      post (world.replaceFile (.snapshot generation .journal) (.journal {
        schemaVersion := journalSchema
        state
        operationLabel
        clientId }))) :
    Total primitives (fun world => pre world ∧ Supply (more + 2) world)
      (writeJournal (.snapshot generation .journal) state operationLabel
        clientId)
      fun _ world => post world ∧ Supply more world :=
  total_atomicWrite stable written

theorem total_readBytes {path : Path}
    (held : ∀ world, pre world →
      ∃ bytes, world.files path = some (.bytes bytes)) :
    Total primitives pre (readBytes path)
      fun bytes world => pre world ∧
        world.files path = some (.bytes bytes) := by
  refine Total.bind (total_read fun world before => ?_) fun content => ?_
  · obtain ⟨bytes, found⟩ := held world before
    exact ⟨_, found⟩
  · cases content with
    | bytes value => exact Total.pure fun _ holds => holds
    | _ =>
        apply Total.absurd
        intro world holds
        obtain ⟨bytes, found⟩ := held world holds.1
        cases found.symm.trans holds.2

theorem total_readRecoveryJournal {generation : Uuid}
    (held : ∀ world, pre world → ∃ journal, JournalAt world generation journal) :
    Total primitives pre (readRecoveryJournal generation)
      fun journal world => pre world ∧
        JournalAt world generation journal := by
  have present : ∀ world, pre world →
      world.holds (.file (.snapshot generation .journal)) = true := by
    intro world before
    obtain ⟨journal, at_⟩ := held world before
    unfold JournalAt at at_
    simp [World.holds, at_]
  refine Total.bind total_pathExists fun found => ?_
  cases found with
  | false =>
      apply Total.absurd
      intro world holds
      rw [present world holds.1] at holds
      cases holds.2
  | true =>
      refine Total.bind (Total.strengthen (total_validate present)
        fun _ holds => holds.1) fun _ => ?_
      refine Total.bind (total_read fun world before => ?_) fun content => ?_
      · obtain ⟨journal, at_⟩ := held world before
        exact ⟨_, at_⟩
      · cases content with
        | journal value => exact Total.pure fun _ holds => holds
        | _ =>
            apply Total.absurd
            intro world holds
            obtain ⟨journal, at_⟩ := held world holds.1
            cases at_.symm.trans holds.2

theorem total_verifySnapshot {generation : Uuid}
    (verified : ∀ world, pre world → Verified primitives world generation) :
    Total primitives pre (verifySnapshot generation) fun _ => pre := by
  refine Total.bind (total_validate ?_) fun _ => ?_
  · intro world before
    obtain ⟨manifest, env, config, isManifest, -⟩ := verified world before
    simp [World.holds, isManifest]
  refine Total.bind (total_validate ?_) fun _ => ?_
  · intro world before
    obtain ⟨manifest, env, config, -, isEnv, -⟩ := verified world before
    simp [World.holds, isEnv]
  refine Total.bind (total_validate ?_) fun _ => ?_
  · intro world before
    obtain ⟨manifest, env, config, -, -, isConfig, -⟩ := verified world before
    simp [World.holds, isConfig]
  let manifestIs (manifest : SnapshotManifest) (world : World) : Prop :=
    pre world ∧ world.files (.snapshot generation .manifest) =
      some (.manifest manifest)
  refine @Total.bind _ _ _ _ _ _ manifestIs _ ?_ fun manifest => ?_
  · refine Total.bind (total_read fun world before => ?_) fun content => ?_
    · obtain ⟨manifest, env, config, isManifest, -⟩ := verified world before
      exact ⟨_, isManifest⟩
    · cases content with
      | manifest value => exact Total.pure fun _ holds => holds
      | _ =>
          apply Total.absurd
          intro world holds
          obtain ⟨manifest, env, config, isManifest, -⟩ :=
            verified world holds.1
          cases isManifest.symm.trans holds.2
  have told : ∀ world, manifestIs manifest world →
      manifest.schemaVersion = snapshotSchema ∧
      manifest.generation = generation ∧
      ∃ env config, world.files (.snapshot generation .env) =
          some (.bytes env) ∧
        world.files (.snapshot generation .config) = some (.bytes config) ∧
        manifest.envSha256 = fingerprint primitives env ∧
        manifest.configSha256 = fingerprint primitives config := by
    intro world holds
    obtain ⟨found, env, config, isFound, isEnv, isConfig, schema, names,
      envSha, configSha⟩ := verified world holds.1
    cases isFound.symm.trans holds.2
    exact ⟨schema, names, env, config, isEnv, isConfig, envSha, configSha⟩
  refine @Total.bind _ _ _ _ _ _ (fun same world => pre world ∧ same = true) _
    ?_ fun same => ?_
  · unfold snapshotManifestMatches
    split
    · refine @Total.bind _ _ _ _ _ _ (fun digest world =>
        manifestIs manifest world ∧ manifest.envSha256 = digest) _ ?_
        fun envSha256 => ?_
      · apply total_call
        · intro world holds
          obtain ⟨-, -, env, config, isEnv, -⟩ := told world holds
          exact ⟨_, world, trivial, ⟨env, isEnv, rfl⟩, rfl⟩
        · intro world digest after holds _ performs
          obtain ⟨⟨value, isValue, rfl⟩, rfl⟩ := performs
          obtain ⟨-, -, env, config, isEnv, -, envSha, -⟩ := told _ holds
          cases isEnv.symm.trans isValue
          exact ⟨holds, envSha⟩
      · split
        · refine @Total.bind _ _ _ _ _ _ (fun digest world =>
            pre world ∧ manifest.configSha256 = digest) _ ?_
            fun configSha256 => ?_
          · apply total_call
            · intro world holds
              obtain ⟨-, -, env, config, -, isConfig, -⟩ := told world holds.1
              exact ⟨_, world, trivial, ⟨config, isConfig, rfl⟩, rfl⟩
            · intro world digest after holds _ performs
              obtain ⟨⟨value, isValue, rfl⟩, rfl⟩ := performs
              obtain ⟨-, -, env, config, -, isConfig, -, configSha⟩ :=
                told _ holds.1
              cases isConfig.symm.trans isValue
              exact ⟨holds.1.1, configSha⟩
          · exact Total.pure fun world holds =>
              ⟨holds.1, decide_eq_true holds.2⟩
        · rename_i different
          exact Total.absurd fun world holds => different holds.2
    · rename_i different
      exact Total.absurd fun world holds =>
        different ⟨(told world holds).1, (told world holds).2.1⟩
  · cases same with
    | true => exact Total.pure fun world holds => holds.1
    | false =>
        apply Total.absurd
        intro world holds
        cases holds.2

theorem total_restoreSnapshot {generation : Uuid} {more : Nat}
    (stable : ∀ before after, World.Same before after → pre before → pre after)
    (hermes : ∀ world target content, target = .env ∨ target = .config →
      pre world → pre (world.replaceFile target content))
    (verified : ∀ world, pre world → Verified primitives world generation) :
    Total primitives (fun world => pre world ∧ Supply (more + 4) world)
      (restoreSnapshot generation)
      fun _ world => (pre world ∧ Restored world generation) ∧
        Supply more world := by
  refine Total.bind (total_verifySnapshot fun world holds =>
    verified world holds.1) fun _ => ?_
  refine Total.bind Total.update fun _ => ?_
  refine Total.bind (@total_readBytes _ _ (.snapshot generation .env) ?_)
    fun env => ?_
  · intro world holds
    obtain ⟨manifest, env, config, -, isEnv, -⟩ := verified world holds.1
    exact ⟨env, isEnv⟩
  let envRead (world : World) : Prop :=
    pre world ∧ world.files (.snapshot generation .env) = some (.bytes env)
  let envWritten (world : World) : Prop :=
    envRead world ∧ world.files .env = some (.bytes env)
  have writesEnv : Total primitives
      (fun world => envRead world ∧ Supply (more + 2 + 2) world)
      (atomicWrite .env (.bytes env))
      fun _ world => envWritten world ∧ Supply (more + 2) world := by
    apply total_atomicWrite
    · intro before after same holds
      exact ⟨stable before after same holds.1,
        (congrFun same.files _).trans holds.2⟩
    · intro world holds
      exact ⟨⟨hermes world .env _ (.inl rfl) holds.1, holds.2⟩, rfl⟩
  refine Total.bind (writesEnv.strengthen fun world holds =>
    ⟨⟨holds.1.1, holds.2⟩, holds.1.2⟩) fun _ => ?_
  refine Total.bind (@total_readBytes _ _ (.snapshot generation .config) ?_)
    fun config => ?_
  · intro world holds
    obtain ⟨manifest, env, config, -, -, isConfig, -⟩ :=
      verified world holds.1.1.1
    exact ⟨config, isConfig⟩
  let configRead (world : World) : Prop :=
    envWritten world ∧
      world.files (.snapshot generation .config) = some (.bytes config)
  have writesConfig : Total primitives
      (fun world => configRead world ∧ Supply (more + 2) world)
      (atomicWrite .config (.bytes config))
      fun _ world => (pre world ∧ Restored world generation) ∧
        Supply more world := by
    apply total_atomicWrite
    · intro before after same holds
      obtain ⟨⟨⟨before, isEnv⟩, written⟩, isConfig⟩ := holds
      have files := same.files
      exact ⟨⟨⟨stable _ _ same before, (congrFun files _).trans isEnv⟩,
        (congrFun files _).trans written⟩, (congrFun files _).trans isConfig⟩
    · intro world holds
      obtain ⟨⟨⟨before, isEnv⟩, written⟩, isConfig⟩ := holds
      exact ⟨hermes world .config _ (.inr rfl) before, env, config, isEnv,
        isConfig, written, rfl⟩
  refine Total.bind (writesConfig.strengthen fun world holds =>
    ⟨⟨holds.1.1, holds.2⟩, holds.1.2⟩) fun _ => ?_
  exact Total.update

theorem total_rollbackAfterFailure {generation : Uuid} {more : Nat}
    (stable : ∀ before after, World.Same before after → pre before → pre after)
    (hermes : ∀ world target content, target = .env ∨ target = .config →
      pre world → pre (world.replaceFile target content))
    (verified : ∀ world, pre world → Verified primitives world generation) :
    Total primitives (fun world => pre world ∧ Supply (more + 4) world)
      (rollbackAfterFailure generation)
      fun _ world => (pre world ∧ Restored world generation) ∧
        Supply more world := by
  refine Total.bind (total_docker .stop).ignore fun _ => ?_
  refine Total.bind (total_restoreSnapshot stable hermes verified) fun _ => ?_
  refine Total.bind (total_docker .start) fun _ => ?_
  refine Total.bind total_waitForContainerHealth.attempt fun result => ?_
  cases result with
  | ok value =>
      intro memory world holds
      obtain ⟨_, -, holds⟩ := holds
      exact holds
  | error failure =>
      apply Total.absurd
      intro world holds
      obtain ⟨_, same, -⟩ := holds
      cases same

theorem total_listClients :
    Total primitives pre (call .listClients)
      fun clients world => pre world ∧ clients = world.clients := by
  apply total_look
  · exact fun world _ => ⟨world.clients, trivial, rfl, rfl⟩
  · intro world clients after _ performs
    obtain ⟨rfl, rfl⟩ := performs
    exact ⟨rfl, rfl⟩

theorem total_revokeClient {id : Uuid} {post : World → Prop}
    (present : ∀ world, pre world → ∃ item ∈ world.clients, item.id = id)
    (revoked : ∀ world, pre world → post (world.revoke id)) :
    Total primitives pre (call (.revokeClient id)) fun _ => post := by
  apply total_call
  · exact fun world before => ⟨(), _, trivial, present world before, rfl⟩
  · intro world _ after before _ performs
    obtain ⟨-, rfl⟩ := performs
    exact revoked world before

theorem revoke_ids (world : World) (id : Uuid) :
    (world.revoke id).clients.map ClientItem.id =
      world.clients.map ClientItem.id := by
  unfold World.revoke
  rw [List.map_map]
  apply List.map_congr_left
  intro item _
  simp only [Function.comp_apply]
  split <;> rfl

theorem total_revokePreviousClients {keep : Uuid}
    (revoked : ∀ world id, pre world → id ≠ keep → pre (world.revoke id)) :
    Total primitives pre (revokePreviousClients keep)
      fun _ world => pre world ∧ PreviousRevoked world keep := by
  refine Total.bind total_listClients fun clients => ?_
  let remaining (rest : List ClientItem) (world : World) : Prop :=
    pre world ∧ StillToRevoke keep rest world ∧
      ∀ item ∈ rest, item.id ∈ world.clients.map ClientItem.id
  refine ((Total.each remaining ?_ clients).strengthen ?_).weaken ?_
  · intro item rest
    by_cases previous : item.id ≠ keep ∧ item.active = true ∧
        startsWith item.label clientLabelPrefix = true
    · rw [if_pos previous]
      apply total_revokeClient
      · intro world holds
        exact List.mem_map.mp (holds.2.2 item List.mem_cons_self)
      · intro world holds
        refine ⟨revoked world item.id holds.1 previous.1, holds.2.1.revoked, ?_⟩
        rw [revoke_ids]
        exact fun other member => holds.2.2 other (List.mem_cons_of_mem _ member)
    · rw [if_neg previous]
      apply Total.pure
      exact fun world holds => ⟨holds.1, holds.2.1.skipped previous,
        fun other member => holds.2.2 other (List.mem_cons_of_mem _ member)⟩
  · intro world holds
    obtain ⟨before, rfl⟩ := holds
    exact ⟨before, .all, fun item member => List.mem_map_of_mem member⟩
  · exact fun _ world holds => ⟨holds.1, holds.2.1.done⟩

theorem total_reconcileRemoteState {receipt : SafeReceipt} {runId : Uuid}
    (run : receipt.qaRunId = some runId)
    (revoked : ∀ world id, pre world → id ≠ receipt.clientId →
      pre (world.revoke id))
    (passed : ∀ world, pre world →
      pre { world with passedRuns := runId :: world.passedRuns }) :
    Total primitives pre (reconcileRemoteState receipt)
      fun _ world => pre world ∧ PreviousRevoked world receipt.clientId ∧
        runId ∈ world.passedRuns := by
  refine Total.bind Total.update fun _ => ?_
  refine Total.bind (total_revokePreviousClients revoked) fun _ => ?_
  refine Total.bind Total.update fun _ => ?_
  rw [run]
  apply total_call
  · exact fun world _ => ⟨(), _, trivial, rfl⟩
  · intro world _ after holds _ performs
    have isAfter : after = { world with
      passedRuns := runId :: world.passedRuns } := performs
    subst isAfter
    exact ⟨passed world holds.1, holds.2, List.mem_cons_self⟩

theorem holdsEntry_listed (world : World) (generation : Uuid) :
    ∃ entries : List DirectoryEntry, entries.Nodup ∧
      ∀ entry, entry ∈ entries ↔ world.holdsEntry (.stage generation) entry := by
  let files : List SnapshotFile := [.env, .config, .manifest, .journal]
  let listed : List DirectoryEntry :=
    files.map .file ++ files.flatMap fun file =>
      world.temporaries.map fun temporary => .temporary file temporary.nonce
  classical
  refine ⟨(listed.filter fun entry =>
    decide (world.holdsEntry (.stage generation) entry)).dedup,
    List.nodup_dedup _, ?_⟩
  intro entry
  rw [List.mem_dedup, List.mem_filter, decide_eq_true_eq]
  refine ⟨fun found => found.2, fun holds => ⟨?_, holds⟩⟩
  have allFiles : ∀ file, file ∈ files := by
    intro file
    cases file <;> decide
  cases entry with
  | file file =>
      exact List.mem_append_left _ (List.mem_map_of_mem (allFiles file))
  | temporary file nonce =>
      obtain ⟨temporary, found⟩ := Option.isSome_iff_exists.mp holds
      have chosen := List.find?_some found
      simp only [decide_eq_true_eq] at chosen
      refine List.mem_append_right _ (List.mem_flatMap.mpr
        ⟨file, allFiles file, List.mem_map.mpr
          ⟨temporary, List.mem_of_find?_eq_some found, ?_⟩⟩)
      rw [chosen.2]
  | other name => exact holds.elim

private theorem holdsEntry_setFile (world : World) (generation : Uuid)
    (file : SnapshotFile) (entry : DirectoryEntry) :
    (world.setFile (.staged generation file) none).holdsEntry
        (.stage generation) entry ↔
      world.holdsEntry (.stage generation) entry ∧ entry ≠ .file file := by
  cases entry with
  | file other =>
      by_cases same : other = file
      · simp [World.holdsEntry, World.setFile, same]
      · simp [World.holdsEntry, World.setFile, same]
  | temporary other nonce => simp [World.holdsEntry, World.temporary?, World.setFile]
  | other name => simp [World.holdsEntry]

private theorem holdsEntry_dropTemporary (world : World) (generation : Uuid)
    (file : SnapshotFile) (nonce : Uuid) (entry : DirectoryEntry) :
    (world.dropTemporary (.staged generation file) nonce).holdsEntry
        (.stage generation) entry ↔
      world.holdsEntry (.stage generation) entry ∧
        entry ≠ .temporary file nonce := by
  cases entry with
  | file other => simp [World.holdsEntry, World.dropTemporary]
  | temporary other otherNonce =>
      simp only [World.holdsEntry, World.temporary?, World.dropTemporary,
        List.find?_isSome, List.mem_filter, decide_eq_true_eq]
      constructor
      · rintro ⟨temporary, ⟨member, kept⟩, isTarget, isNonce⟩
        refine ⟨⟨temporary, member, isTarget, isNonce⟩, ?_⟩
        intro same
        cases same
        exact kept ⟨isTarget, isNonce⟩
      · rintro ⟨⟨temporary, member, isTarget, isNonce⟩, different⟩
        refine ⟨temporary, ⟨member, ?_⟩, isTarget, isNonce⟩
        rintro ⟨sameTarget, sameNonce⟩
        rw [isTarget] at sameTarget
        rw [isNonce] at sameNonce
        cases sameTarget
        cases sameNonce
        exact different rfl
  | other name => simp [World.holdsEntry]

/-- A world without some of the temporaries and staged files. -/
structure Cleaned (before after : World) : Prop where
  aside : before.Aside after
  used : after.used = before.used
  temporaries : after.temporaries ⊆ before.temporaries

theorem Cleaned.supply {before after : World} {more : Nat}
    (cleaned : Cleaned before after) (supply : Supply more before) :
    Supply more after where
  room := cleaned.used ▸ supply.room
  nonces := fun temporary member =>
    cleaned.used ▸ supply.nonces temporary (cleaned.temporaries member)

private theorem mem_rest {item : β} {rest : List β} {present : β → Prop}
    (distinct : (item :: rest).Nodup)
    (all : ∀ other, other ∈ item :: rest ↔ present other) (other : β) :
    other ∈ rest ↔ present other ∧ other ≠ item := by
  rw [← all other, List.mem_cons]
  constructor
  · intro member
    refine ⟨.inr member, ?_⟩
    rintro rfl
    exact (List.nodup_cons.mp distinct).1 member
  · rintro ⟨same | member, different⟩
    · exact absurd same different
    · exact member

theorem total_cleanupSnapshotStage {generation : Uuid} {stages : List Uuid}
    (stable : ∀ before after, Cleaned before after → pre before → pre after)
    (staged : generation ∈ stages) :
    Total primitives (fun world => pre world ∧ world.stages = stages)
      (cleanupSnapshotStage generation)
      fun _ world => pre world ∧
        world.stages = stages.filter (· ≠ generation) := by
  let start (world : World) : Prop := pre world ∧ world.stages = stages
  let remaining (rest : List DirectoryEntry) (world : World) : Prop :=
    start world ∧ rest.Nodup ∧
      ∀ entry, entry ∈ rest ↔ world.holdsEntry (.stage generation) entry
  refine Total.bind (total_validate ?_) fun _ => ?_
  · intro world holds
    simp [World.holds, holds.2, staged]
  refine @Total.bind _ _ _ _ _ _ remaining _ ?_ fun entries => ?_
  · apply total_call
    · intro world _
      obtain ⟨entries, distinct, all⟩ := holdsEntry_listed world generation
      exact ⟨entries, world, trivial, distinct, all, rfl⟩
    · intro world entries after holds _ performs
      obtain ⟨distinct, all, rfl⟩ := performs
      exact ⟨holds, distinct, all⟩
  refine Total.bind (Total.each remaining ?_ entries) fun _ => ?_
  · intro entry rest
    cases entry with
    | file file =>
        refine Total.bind (total_validate ?_) fun _ => ?_
        · intro world holds
          exact (holds.2.2 (.file file)).mp List.mem_cons_self
        apply total_call
        · intro world holds
          exact ⟨(), _, trivial,
            (holds.2.2 (.file file)).mp List.mem_cons_self, rfl⟩
        · intro world _ after holds _ performs
          obtain ⟨-, rfl⟩ := performs
          refine ⟨⟨stable world _ ⟨aside_setStaged world generation file none,
            rfl, fun _ member => member⟩ holds.1.1, holds.1.2⟩,
            (List.nodup_cons.mp holds.2.1).2, ?_⟩
          intro entry
          rw [holdsEntry_setFile]
          exact mem_rest holds.2.1 holds.2.2 entry
    | temporary file nonce =>
        refine Total.bind (total_validate ?_) fun _ => ?_
        · intro world holds
          exact (holds.2.2 (.temporary file nonce)).mp List.mem_cons_self
        apply total_call
        · intro world holds
          exact ⟨(), _, trivial,
            (holds.2.2 (.temporary file nonce)).mp List.mem_cons_self, rfl⟩
        · intro world _ after holds _ performs
          obtain ⟨-, rfl⟩ := performs
          refine ⟨⟨stable world _ ⟨(same_dropTemporary world _ _).aside, rfl,
            fun _ member => (List.mem_filter.mp member).1⟩ holds.1.1,
            holds.1.2⟩, (List.nodup_cons.mp holds.2.1).2, ?_⟩
          intro entry
          rw [holdsEntry_dropTemporary]
          exact mem_rest holds.2.1 holds.2.2 entry
    | other name =>
        apply Total.absurd
        intro world holds
        exact (holds.2.2 (.other name)).mp List.mem_cons_self
  refine Total.bind ?_ fun _ => total_syncDirectory
  apply total_call
  · intro world holds
    refine ⟨(), _, trivial, holds.1.2 ▸ staged, ?_, rfl⟩
    intro entry present
    exact List.not_mem_nil ((holds.2.2 entry).mpr present)
  · intro world _ after holds _ performs
    obtain ⟨-, -, rfl⟩ := performs
    refine ⟨stable world _ ⟨aside_stages world _, rfl, fun _ member => member⟩
      holds.1.1, ?_⟩
    rw [← holds.1.2]

/-- The entries of the backup root that are still to be looked at. -/
structure Entered (entries : List BackupEntry) (world : World) : Prop where
  distinct : entries.Nodup
  stages : ∀ generation, .stage generation ∈ entries →
    generation ∈ world.stages
  generations : ∀ generation, .generation generation ∈ entries →
    generation ∈ world.generations
  known : ∀ name, .other name ∉ entries

theorem Entered.rest {entry : BackupEntry} {rest : List BackupEntry}
    {world : World} (entered : Entered (entry :: rest) world) :
    Entered rest world where
  distinct := (List.nodup_cons.mp entered.distinct).2
  stages := fun generation member =>
    entered.stages generation (List.mem_cons_of_mem _ member)
  generations := fun generation member =>
    entered.generations generation (List.mem_cons_of_mem _ member)
  known := fun name member => entered.known name (List.mem_cons_of_mem _ member)

theorem total_collectBackups
    (stable : ∀ before after, Cleaned before after → pre before → pre after)
    (verified : ∀ world, pre world → ∀ generation ∈ world.generations,
      Verified primitives world generation)
    (entries : List BackupEntry) :
    Total primitives (fun world => pre world ∧ Entered entries world)
      (collectBackups entries)
      fun backups world => (∀ generation, generation ∈ backups ↔
        .generation generation ∈ entries) ∧ pre world := by
  induction entries generalizing pre with
  | nil =>
      apply Total.pure
      intro world holds
      refine ⟨?_, holds.1⟩
      intro generation
      simp
  | cons entry rest induction =>
      cases entry with
      | other name =>
          exact Total.absurd fun world holds =>
            holds.2.known name List.mem_cons_self
      | stage generation =>
          have cleans : Total primitives (fun world =>
              pre world ∧ Entered (.stage generation :: rest) world)
              (cleanupSnapshotStage generation)
              fun _ world => pre world ∧ Entered rest world := by
            intro memory world holds
            have stableAll : ∀ before after, Cleaned before after →
                pre before ∧ before.generations = world.generations →
                pre after ∧ after.generations = world.generations := by
              intro before after cleaned held
              exact ⟨stable before after cleaned held.1,
                (congrArg World.generations cleaned.aside.outside :).trans
                  held.2⟩
            refine (Total.weaken (total_cleanupSnapshotStage stableAll
              (holds.2.stages generation List.mem_cons_self)) ?_)
              memory world ⟨⟨holds.1, rfl⟩, rfl⟩
            intro _ after held
            obtain ⟨⟨later, generations⟩, stages⟩ := held
            refine ⟨later, ⟨holds.2.rest.distinct, ?_, ?_, holds.2.rest.known⟩⟩
            · intro other member
              rw [stages, List.mem_filter]
              refine ⟨holds.2.rest.stages other member, ?_⟩
              simp only [ne_eq, decide_not, Bool.not_eq_true',
                decide_eq_false_iff_not]
              rintro rfl
              exact (List.nodup_cons.mp holds.2.distinct).1 member
            · rw [generations]
              exact holds.2.rest.generations
          refine Total.bind cleans fun _ => ?_
          refine (induction stable verified).weaken ?_
          intro backups world holds
          refine ⟨?_, holds.2⟩
          intro other
          rw [holds.1 other]
          simp
      | generation generation =>
          refine Total.bind (total_validate ?_) fun _ => ?_
          · intro world holds
            simpa [World.holds] using
              holds.2.generations generation List.mem_cons_self
          refine Total.bind (total_verifySnapshot fun world holds =>
            verified world holds.1 generation
              (holds.2.generations generation List.mem_cons_self)) fun _ => ?_
          refine Total.bind (Total.strengthen (induction stable verified)
            fun world holds => ⟨holds.1, holds.2.rest⟩) fun backups => ?_
          apply Total.pure
          intro world holds
          refine ⟨?_, holds.2⟩
          intro other
          rw [List.mem_cons, holds.1 other]
          simp

theorem total_listBackupRoot :
    Total primitives pre (call .listBackupRoot)
      fun entries world => pre world ∧ Entered entries world ∧
        ∀ generation ∈ world.generations,
          .generation generation ∈ entries := by
  apply total_call
  · intro world _
    refine ⟨world.stages.dedup.map .stage ++
      world.generations.dedup.map .generation, world, trivial, ?_, ?_, rfl⟩
    · apply List.Nodup.append
      · exact (List.nodup_dedup _).map fun left right same => by
          cases same
          rfl
      · exact (List.nodup_dedup _).map fun left right same => by
          cases same
          rfl
      · intro entry isStage isGeneration
        obtain ⟨stage, -, rfl⟩ := List.mem_map.mp isStage
        obtain ⟨generation, -, same⟩ := List.mem_map.mp isGeneration
        cases same
    · intro entry
      cases entry <;> simp
  · intro world entries after before _ performs
    obtain ⟨distinct, all, rfl⟩ := performs
    exact ⟨before, ⟨distinct, fun generation => (all (.stage generation)).mp,
      fun generation => (all (.generation generation)).mp,
      fun name => (all (.other name)).mp⟩,
      fun generation => (all (.generation generation)).mpr⟩

end Rules

end Helper

end NvidiaBuildLb.Hermes
