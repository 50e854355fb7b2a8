import NvidiaBuildLb.Hermes.Records
import NvidiaBuildLb.Foundation.Program

namespace NvidiaBuildLb.Hermes

open Foundation NvidiaBuildLb.Core

/-! The files, the container and the gateway that the helper works on, and the
requests it makes of them. -/

inductive SnapshotFile where
  | env
  | config
  | manifest
  | journal
  deriving DecidableEq, Repr

inductive Path where
  | env
  | config
  | snapshot (generation : Uuid) (file : SnapshotFile)
  | staged (generation : Uuid) (file : SnapshotFile)
  | receipt (generation : Uuid)
  | retirement (generation : Uuid)
  deriving DecidableEq, Repr

/-- What a file holds.  JSON documents stand for themselves. -/
inductive Content where
  | bytes (value : List UInt8)
  | manifest (value : SnapshotManifest)
  | journal (value : RecoveryJournal)
  | receipt (value : SafeReceipt)
  | retirement (value : RetirementReceipt)
  deriving DecidableEq, Repr

/-- A generation whose journal on disk said `committed` at some time. -/
structure Commit where
  generation : Uuid
  clientId : Option Uuid
  qaRunId : Option Uuid
  deriving DecidableEq, Repr

/-- A file an atomic write has not renamed yet; `none` until it is complete. -/
structure Temporary where
  target : Path
  nonce : Uuid
  content : Option Content
  deriving DecidableEq, Repr

/-- The last three fields record the past: identifiers generated, generations
committed, and those of them whose commit was reported as failed. -/
structure World where
  files : Path → Option Content
  temporaries : List Temporary
  stages : List Uuid
  generations : List Uuid
  clients : List ClientItem
  passedRuns : List Uuid
  used : List Uuid
  commits : List Commit
  misreported : List Uuid

inductive Place where
  | file (path : Path)
  | temporary (target : Path) (nonce : Uuid)
  | stage (generation : Uuid)
  | generation (generation : Uuid)
  | hermesDirectory
  | backupRoot
  | receiptRoot
  | retirementRoot
  | stateRoot
  deriving DecidableEq, Repr

/-- Which directory is synced, and after what. -/
inductive SyncCause where
  | replaced (target : Path)
  | removedTemporary (target : Path)
  | directory (place : Place)
  deriving DecidableEq, Repr

inductive BackupEntry where
  | stage (generation : Uuid)
  | generation (generation : Uuid)
  | other (name : String)
  deriving DecidableEq, Repr

inductive DirectoryEntry where
  | file (file : SnapshotFile)
  | temporary (file : SnapshotFile) (nonce : Uuid)
  | other (name : String)
  deriving DecidableEq, Repr

inductive DockerCommand where
  | stop
  | start
  | inspectHealth
  | logs
  deriving DecidableEq, Repr

inductive CreateReply where
  | created (response : MutationResponse)
  | conflict
  | rejected (status : Nat)
  deriving DecidableEq, Repr

inductive Completion where
  | passed (receipt : SafeReceipt)
  | failed
  deriving DecidableEq, Repr

/-- One request to the system, docker or the gateway.  `inspect` stands for the
checks that only read and whose outcome nothing here decides. -/
inductive Op where
  | newUuid
  | inspect (subject : String)
  | validate (place : Place)
  | pathExists (place : Place)
  | read (path : Path)
  | sha256File (path : Path)
  | listBackupRoot
  | listDirectory (place : Place)
  | listTemporaries (targets : List Path)
  | createTemporary (target : Path) (nonce : Uuid)
  | writeTemporary (target : Path) (nonce : Uuid) (content : Content)
  | syncTemporary (target : Path) (nonce : Uuid)
  | protectTemporary (target : Path) (nonce : Uuid)
  | replace (target : Path) (nonce : Uuid)
  | temporaryExists (target : Path) (nonce : Uuid)
  | removeTemporary (target : Path) (nonce : Uuid)
  | syncDirectory (cause : SyncCause)
  | createStage (generation : Uuid)
  | publishStage (generation : Uuid)
  | removeFile (path : Path)
  | removeStage (generation : Uuid)
  | removeGeneration (generation : Uuid)
  | docker (command : DockerCommand)
  | verifyHermes (clientId : Option Uuid)
  | collectSecretScan (token : String)
  | getRun (id : Uuid)
  | createClient (label : String)
  | listClients
  | rotateClient (id : Uuid)
  | revokeClient (id : Uuid)
  | completeRun (id : Uuid) (completion : Completion)
  deriving DecidableEq, Repr

abbrev Value : Op → Type
  | .newUuid => Uuid
  | .pathExists _ | .temporaryExists .. => Bool
  | .read _ => Content
  | .sha256File _ => String
  | .listBackupRoot => List BackupEntry
  | .listDirectory _ => List DirectoryEntry
  | .listTemporaries _ => List (Path × Uuid)
  | .docker _ => String
  | .verifyHermes _ => Verification
  | .collectSecretScan _ => SecretScanReceipt
  | .getRun _ => QaRunTarget
  | .createClient _ => CreateReply
  | .listClients => List ClientItem
  | .rotateClient _ => MutationResponse
  | _ => Unit

abbrev Answer (op : Op) : Type :=
  Except Failure (Value op)

namespace World

def setFile (world : World) (path : Path) (content : Option Content) : World :=
  { world with
    files := fun place => if place = path then content else world.files place }

def temporary? (world : World) (target : Path) (nonce : Uuid) :
    Option Temporary :=
  world.temporaries.find? fun file => file.target = target ∧ file.nonce = nonce

def dropTemporary (world : World) (target : Path) (nonce : Uuid) : World :=
  { world with
    temporaries := world.temporaries.filter fun file =>
      ¬ (file.target = target ∧ file.nonce = nonce) }

def putTemporary (world : World) (file : Temporary) : World :=
  { world with
    temporaries :=
      file :: (world.dropTemporary file.target file.nonce).temporaries }

def receiptRun (world : World) (generation : Uuid) : Option Uuid :=
  match world.files (.receipt generation) with
  | some (.receipt receipt) => receipt.qaRunId
  | _ => none

/-- The commit that a file put in place makes, if it is one. -/
def commitOf (world : World) : Path → Content → Option Commit
  | .snapshot generation .journal, .journal journal =>
      if journal.state = .committed then
        some {
          generation
          clientId := journal.clientId
          qaRunId := world.receiptRun generation }
      else
        none
  | _, _ => none

/-- `rename` of a temporary over its target. -/
def replaceFile (world : World) (target : Path) (content : Content) : World :=
  { world.setFile target (some content) with
    commits := (world.commitOf target content).toList ++ world.commits }

def publish (world : World) (generation : Uuid) : World :=
  { world with
    files := fun path =>
      match path with
      | .snapshot id file =>
          if id = generation then world.files (.staged generation file)
          else world.files path
      | .staged id _ => if id = generation then none else world.files path
      | _ => world.files path
    temporaries := world.temporaries.map fun temporary =>
      match temporary.target with
      | .staged id file =>
          if id = generation then
            { temporary with target := .snapshot generation file }
          else
            temporary
      | _ => temporary
    stages := world.stages.filter (· ≠ generation)
    generations := generation :: world.generations }

def revoke (world : World) (id : Uuid) : World :=
  { world with
    clients := world.clients.map fun item =>
      if item.id = id then { item with active := false } else item }

def holds (world : World) : Place → Bool
  | .file path => (world.files path).isSome
  | .temporary target nonce => (world.temporary? target nonce).isSome
  | .stage generation => generation ∈ world.stages
  | .generation generation => generation ∈ world.generations
  | _ => true

def holdsEntry (world : World) (place : Place) : DirectoryEntry → Prop
  | .file file =>
      match place with
      | .stage generation => (world.files (.staged generation file)).isSome
      | .generation generation =>
          (world.files (.snapshot generation file)).isSome
      | _ => False
  | .temporary file nonce =>
      match place with
      | .stage generation =>
          (world.temporary? (.staged generation file) nonce).isSome
      | .generation generation =>
          (world.temporary? (.snapshot generation file) nonce).isSome
      | _ => False
  | .other _ => False

end World

/-- A request that succeeds: the value it returns and what it changes. -/
def Performs (primitives : Primitives) :
    (op : Op) → World → Value op → World → Prop
  | .newUuid, world, id, after =>
      id ∉ world.used ∧ after = { world with used := id :: world.used }
  | .validate place, world, _, after =>
      world.holds place = true ∧ after = world
  | .pathExists place, world, found, after =>
      found = world.holds place ∧ after = world
  | .read path, world, content, after =>
      world.files path = some content ∧ after = world
  | .sha256File path, world, digest, after =>
      (∃ value, world.files path = some (.bytes value) ∧
        digest = fingerprint primitives value) ∧ after = world
  | .listBackupRoot, world, entries, after =>
      entries.Nodup ∧
        (∀ entry, entry ∈ entries ↔
          match entry with
          | .stage generation => generation ∈ world.stages
          | .generation generation => generation ∈ world.generations
          | .other _ => False) ∧
        after = world
  | .listDirectory place, world, entries, after =>
      entries.Nodup ∧ (∀ entry, entry ∈ entries ↔ world.holdsEntry place entry) ∧
        after = world
  | .listTemporaries targets, world, found, after =>
      found.Nodup ∧
        (∀ entry, entry ∈ found ↔ entry.1 ∈ targets ∧
          (world.temporary? entry.1 entry.2).isSome) ∧
        after = world
  | .createTemporary target nonce, world, _, after =>
      world.temporary? target nonce = none ∧
        after = {
          world.putTemporary { target, nonce, content := none } with
          used := nonce :: world.used }
  | .writeTemporary target nonce content, world, _, after =>
      (world.temporary? target nonce).isSome ∧
        after = world.putTemporary { target, nonce, content := some content }
  | .replace target nonce, world, _, after =>
      ∃ content,
        world.temporary? target nonce =
          some { target, nonce, content := some content } ∧
        after = (world.dropTemporary target nonce).replaceFile target content
  | .temporaryExists target nonce, world, found, after =>
      found = (world.temporary? target nonce).isSome ∧ after = world
  | .removeTemporary target nonce, world, _, after =>
      (world.temporary? target nonce).isSome ∧
        after = world.dropTemporary target nonce
  | .createStage generation, world, _, after =>
      generation ∉ world.stages ∧
        after = { world with stages := generation :: world.stages }
  | .publishStage generation, world, _, after =>
      generation ∈ world.stages ∧ generation ∉ world.generations ∧
        after = world.publish generation
  | .removeFile path, world, _, after =>
      (world.files path).isSome ∧ after = world.setFile path none
  | .removeStage generation, world, _, after =>
      generation ∈ world.stages ∧
        (∀ entry, ¬ world.holdsEntry (.stage generation) entry) ∧
        after = { world with
          stages := world.stages.filter (· ≠ generation) }
  | .removeGeneration generation, world, _, after =>
      generation ∈ world.generations ∧
        (∀ entry, ¬ world.holdsEntry (.generation generation) entry) ∧
        after = { world with
          generations := world.generations.filter (· ≠ generation) }
  | .getRun id, world, target, after =>
      (id ∈ world.passedRuns → target.status = .passed) ∧ after = world
  | .createClient label, world, reply, after =>
      match reply with
      | .created response =>
          (∀ item ∈ world.clients, item.active = true → item.label ≠ label) ∧
            (∀ item ∈ world.clients, item.id ≠ response.item.id) ∧
            response.item.label = label ∧ response.item.active = true ∧
            after = { world with clients := world.clients ++ [response.item] }
      | .conflict =>
          (∃ item ∈ world.clients, item.active = true ∧ item.label = label) ∧
            after = world
      | .rejected _ => after = world
  | .listClients, world, clients, after =>
      clients = world.clients ∧ after = world
  | .rotateClient id, world, response, after =>
      (response.item ∈ world.clients ∧ response.item.id = id) ∧ after = world
  | .revokeClient id, world, _, after =>
      (∃ item ∈ world.clients, item.id = id) ∧ after = world.revoke id
  | .completeRun id completion, world, _, after =>
      match completion with
      | .passed _ =>
          after = { world with passedRuns := id :: world.passedRuns }
      | .failed => id ∉ world.passedRuns ∧ after = world
  | _, world, _, after => after = world

/-- A refused request changes nothing.  If it is the sync that ends the write
of a journal, the caller takes the write for failed although the new journal
is in place. -/
def refused (op : Op) (world : World) : World :=
  match op with
  | .syncDirectory (.replaced (.snapshot generation .journal)) =>
      match world.files (.snapshot generation .journal) with
      | some (.journal journal) =>
          if journal.state = .committed then
            { world with misreported := generation :: world.misreported }
          else
            world
      | _ => world
  | _ => world

/-- The gateway may have served a request whose answer is lost. -/
def Op.remote : Op → Bool
  | .createClient _ | .rotateClient _ | .revokeClient _ | .completeRun .. =>
      true
  | _ => false

/-- `stat` of root's own directories always answers. -/
def Op.fallible : Op → Bool
  | .pathExists _ => false
  | _ => true

/-- What the helper has done in the current run, as far as its history is
told: the generation whose snapshot it is restoring, those it has rolled back,
and the committed one whose predecessors it is revoking. -/
structure Memory where
  restoring : Option Uuid
  rolledBack : List Uuid
  reconciling : Option Uuid
  deriving DecidableEq, Repr

def Memory.initial : Memory where
  restoring := none
  rolledBack := []
  reconciling := none

/-- Every request may be refused, and the process may be killed while it waits
for any of them, before or after its effect. -/
def faulty (primitives : Primitives) :
    Environment (Memory × Op) (fun request => Answer request.2) World where
  answers := fun request world answer after =>
    match answer with
    | .ok value => Performs primitives request.2 world value after
    | .error failure =>
        failure = .system ∧ request.2.fallible = true ∧
          (after = refused request.2 world ∨
            request.2.remote = true ∧
              ∃ value, Performs primitives request.2 world value after)
  drops := fun request world after =>
    after = world ∨ ∃ value, Performs primitives request.2 world value after

/-- A container that starts is healthy. -/
def Dependable : (op : Op) → Value op → Prop
  | .docker .inspectHealth, status => status = "healthy"
  | .createClient _, .rejected _ => False
  | _, _ => True

/-- Requests that can succeed do, and nothing interrupts the process. -/
def reliable (primitives : Primitives) :
    Environment (Memory × Op) (fun request => Answer request.2) World where
  answers := fun request world answer after =>
    match answer with
    | .ok value =>
        Dependable request.2 value ∧
          Performs primitives request.2 world value after
    | .error failure =>
        failure = .system ∧ after = refused request.2 world ∧
          ∀ value next, Dependable request.2 value →
            ¬ Performs primitives request.2 world value next
  drops := fun _ _ _ => False

theorem reliable_total (primitives : Primitives) :
    (reliable primitives).Total := by
  intro request world
  by_cases possible : ∃ value next, Dependable request.2 value ∧
      Performs primitives request.2 world value next
  · obtain ⟨value, next, dependable, performs⟩ := possible
    exact ⟨.ok value, next, dependable, performs⟩
  · refine ⟨.error .system, refused request.2 world, rfl, rfl, ?_⟩
    intro value next dependable performs
    exact possible ⟨value, next, dependable, performs⟩

end NvidiaBuildLb.Hermes
