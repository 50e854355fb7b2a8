import Mathlib.Algebra.BigOperators.Group.List.Basic
import NvidiaBuildLb.Hermes.SecretScan

namespace NvidiaBuildLb.Hermes

open Foundation NvidiaBuildLb.Core

/-! The scan of the data tree for a direct credential: a stack of paths, and a
tree that stays as it is while it is scanned. -/

mutual
/-- What the system says a path is. A lost path has no metadata, and of a
closed directory some entry cannot be read. -/
inductive FileNode where
  | lost
  | symlink
  | closedDirectory
  | directory (entries : Entries)
  | file (reader : Option Reader)
  | special

/-- The entries of a directory in the order in which it is read. -/
inductive Entries where
  | done
  | entry (name : String) (node : FileNode) (rest : Entries)
end

inductive TreeError where
  | unreadable
  | symlink (path : String)
  | special (path : String)
  | file (path : String) (error : ScanError)
  | credentialFound
  deriving DecidableEq, Repr

/-- The texts that are not the system's own. -/
def TreeError.message : TreeError → Option String
  | .unreadable => none
  | .symlink path => some ("Hermes data tree contains a symlink: " ++ path)
  | .special path => some ("Hermes data tree contains a special file: " ++ path)
  | .file path .openFailed => some ("open " ++ path)
  | .file _ _ => none
  | .credentialFound => some "Hermes data tree still contains a direct NVIDIA credential"

def joinPath (path name : String) : String := path ++ "/" ++ name

/-- The paths of a directory are pushed one by one; the head of the list is the
top of the stack. -/
def Entries.push (path : String) :
    Entries → List (String × FileNode) → List (String × FileNode)
  | .done, pending => pending
  | .entry name node rest, pending => rest.push path ((joinPath path name, node) :: pending)

def treeLoop (pattern : List UInt8) :
    Nat → List (String × FileNode) → Nat → Option (Except TreeError Nat)
  | 0, _, _ => none
  | _ + 1, [], found => some (.ok found)
  | fuel + 1, (path, node) :: pending, found =>
      match node with
      | .lost => some (.error .unreadable)
      | .symlink => some (.error (.symlink path))
      | .closedDirectory => some (.error .unreadable)
      | .directory entries => treeLoop pattern fuel (entries.push path pending) found
      | .file reader =>
          match filePatternMatches reader pattern with
          | .error error => some (.error (.file path error))
          | .ok more => treeLoop pattern fuel pending (saturatingAdd found more)
      | .special => some (.error (.special path))

def treePatternMatches (fuel : Nat) (path : String) (root : FileNode)
    (pattern : List UInt8) : Option (Except TreeError Nat) :=
  treeLoop pattern fuel [(path, root)] 0

def nvidiaCredentialPrefix : List UInt8 := [110, 118, 97, 112, 105, 45]

def refuseMatches : Except TreeError Nat → Except TreeError Unit
  | .error error => .error error
  | .ok found => if found = 0 then .ok () else .error .credentialFound

def scanForDirectNvidiaKey (fuel : Nat) (path : String) (root : FileNode) :
    Option (Except TreeError Unit) :=
  (treePatternMatches fuel path root nvidiaCredentialPrefix).map refuseMatches

mutual
def FileNode.places (path : String) : FileNode → List (String × FileNode)
  | .lost => [(path, .lost)]
  | .symlink => [(path, .symlink)]
  | .closedDirectory => [(path, .closedDirectory)]
  | .directory entries => (path, .directory entries) :: entries.places path
  | .file reader => [(path, .file reader)]
  | .special => [(path, .special)]

def Entries.places (path : String) : Entries → List (String × FileNode)
  | .done => []
  | .entry name node rest => node.places (joinPath path name) ++ rest.places path
end

/-- Why a place stops the scan. -/
def refusal : String × FileNode → Option TreeError
  | (_, .lost) => some .unreadable
  | (path, .symlink) => some (.symlink path)
  | (_, .closedDirectory) => some .unreadable
  | (_, .directory _) => none
  | (path, .file none) => some (.file path .openFailed)
  | (path, .file (some reader)) =>
      match reader.stream with
      | .error error => some (.file path error)
      | .ok _ => none
  | (path, .special) => some (.special path)

/-- The bytes of a file that can be read to its end. -/
def FileNode.contents : FileNode → Option (List UInt8)
  | .file (some reader) => reader.stream.toOption
  | _ => none

def foundAt (pattern : List UInt8) (place : String × FileNode) : Nat :=
  (place.2.contents.map (occurrences pattern)).getD 0

def foundIn (pattern : List UInt8) (places : List (String × FileNode)) : Nat :=
  (places.map (foundAt pattern)).sum

def spread (pending : List (String × FileNode)) : List (String × FileNode) :=
  pending.flatMap fun place => place.2.places place.1

/-- What the scan may answer: the sum over all files if every place lets it pass,
or else the refusal of a place. -/
inductive Scanned (pattern : List UInt8) (found : Nat) (places : List (String × FileNode)) :
    Except TreeError Nat → Prop
  | passed (readable : ∀ place ∈ places, refusal place = none) :
      Scanned pattern found places (.ok (min (found + foundIn pattern places) u64Max))
  | refused (place : String × FileNode) (error : TreeError) (member : place ∈ places)
      (refuses : refusal place = some error) :
      Scanned pattern found places (.error error)

section Walk

variable {pattern : List UInt8} {found : Nat} {places others : List (String × FileNode)}
  {result : Except TreeError Nat}

theorem Scanned.perm (scanned : Scanned pattern found places result)
    (same : places.Perm others) : Scanned pattern found others result := by
  cases scanned with
  | passed readable =>
      have sums : foundIn pattern places = foundIn pattern others :=
        (same.map (foundAt pattern)).sum_eq
      rw [sums]
      exact .passed fun place member => readable place (same.mem_iff.mpr member)
  | refused place error member refuses =>
      exact .refused place error (same.mem_iff.mp member) refuses

theorem Scanned.cons {place : String × FileNode} (readable : refusal place = none)
    (scanned : Scanned pattern (saturatingAdd found (min (foundAt pattern place) u64Max))
      places result) :
    Scanned pattern found (place :: places) result := by
  cases scanned with
  | passed others =>
      have total : min (saturatingAdd found (min (foundAt pattern place) u64Max) +
          foundIn pattern places) u64Max =
            min (found + foundIn pattern (place :: places)) u64Max := by
        simp only [saturatingAdd, foundIn, List.map_cons, List.sum_cons]
        omega
      rw [total]
      refine .passed fun other member => ?_
      rcases List.mem_cons.mp member with rfl | behind
      · exact readable
      · exact others other behind
  | refused other error member refuses =>
      exact .refused other error (List.mem_cons_of_mem place member) refuses

theorem Entries.entrywise {motive : Entries → Prop} (done : motive .done)
    (entry : ∀ name node rest, motive rest → motive (.entry name node rest))
    (entries : Entries) : motive entries :=
  @Entries.rec (fun _ => True) motive trivial trivial trivial (fun _ _ => trivial)
    (fun _ => trivial) trivial done (fun name node rest _ induction =>
      entry name node rest induction) entries

theorem spread_cons (path : String) (node : FileNode) (pending : List (String × FileNode)) :
    spread ((path, node) :: pending) = node.places path ++ spread pending :=
  List.flatMap_cons

theorem spread_push (path : String) (entries : Entries) (pending : List (String × FileNode)) :
    (spread (entries.push path pending)).Perm (entries.places path ++ spread pending) := by
  induction entries using Entries.entrywise generalizing pending with
  | done =>
      rw [Entries.push, Entries.places]
      exact List.Perm.refl _
  | entry name node rest induction =>
      rw [Entries.push, Entries.places]
      refine (induction ((joinPath path name, node) :: pending)).trans ?_
      rw [spread_cons, List.append_assoc]
      exact List.perm_append_comm_assoc _ _ _

/-- The loop ends once it may take a step for each place, and has then seen them
all, or has met one that refuses. -/
theorem treeLoop_scanned (nonempty : pattern ≠ []) {fuel : Nat}
    {pending : List (String × FileNode)} (small : found ≤ u64Max)
    (enough : (spread pending).length < fuel) :
    ∃ result, treeLoop pattern fuel pending found = some result ∧
      Scanned pattern found (spread pending) result := by
  induction fuel generalizing pending found with
  | zero => omega
  | succ fuel induction =>
      cases pending with
      | nil =>
          have total : found = min (found + foundIn pattern (spread [])) u64Max := by
            rw [show foundIn pattern (spread []) = 0 from rfl]
            omega
          have passed : Scanned pattern found (spread []) _ :=
            .passed fun place member => by cases member
          rw [← total] at passed
          exact ⟨_, rfl, passed⟩
      | cons place pending =>
          obtain ⟨path, node⟩ := place
          rw [spread_cons] at enough ⊢
          cases node with
          | lost => exact ⟨_, rfl, .refused (path, .lost) _ List.mem_cons_self rfl⟩
          | symlink => exact ⟨_, rfl, .refused (path, .symlink) _ List.mem_cons_self rfl⟩
          | closedDirectory =>
              exact ⟨_, rfl, .refused (path, .closedDirectory) _ List.mem_cons_self rfl⟩
          | special => exact ⟨_, rfl, .refused (path, .special) _ List.mem_cons_self rfl⟩
          | directory entries =>
              rw [FileNode.places, List.cons_append] at enough ⊢
              have pushed := spread_push path entries pending
              have shorter : (spread (entries.push path pending)).length < fuel := by
                rw [pushed.length_eq]
                exact Nat.lt_of_succ_lt_succ enough
              obtain ⟨result, ends, scanned⟩ := induction small shorter
              have unmoved : saturatingAdd found (min (foundAt pattern
                  (path, .directory entries)) u64Max) = found := by
                rw [show foundAt pattern (path, .directory entries) = 0 from rfl, saturatingAdd]
                omega
              refine ⟨result, ends, .cons rfl ?_⟩
              rw [unmoved]
              exact scanned.perm pushed
          | file reader =>
              rw [FileNode.places, List.singleton_append] at enough ⊢
              cases reader with
              | none => exact ⟨_, rfl, .refused (path, .file none) _ List.mem_cons_self rfl⟩
              | some reader =>
                  have counted := filePatternMatches_eq nonempty reader
                  cases streamed : reader.stream with
                  | error error =>
                      rw [streamed] at counted
                      have refuses : refusal (path, .file (some reader)) =
                          some (.file path error) := by
                        simp only [refusal, streamed]
                      refine ⟨.error (.file path error), ?_,
                        .refused _ _ List.mem_cons_self refuses⟩
                      simp only [treeLoop, counted, Except.map]
                  | ok stream =>
                      rw [streamed] at counted
                      have readable : refusal (path, .file (some reader)) = none := by
                        simp only [refusal, streamed]
                      have here : foundAt pattern (path, .file (some reader)) =
                          (positions pattern stream).length := by
                        simp only [foundAt, FileNode.contents, streamed, Except.toOption,
                          Option.map_some, Option.getD_some, occurrences]
                      have next := @induction (saturatingAdd found
                        (min (foundAt pattern (path, .file (some reader))) u64Max)) pending
                        (Nat.min_le_right ..) (Nat.lt_of_succ_lt_succ enough)
                      obtain ⟨result, ends, scanned⟩ := next
                      refine ⟨result, ?_, .cons readable scanned⟩
                      rw [here] at ends
                      simp only [treeLoop, counted, Except.map, ends]

theorem treePatternMatches_scanned (nonempty : pattern ≠ []) {path : String} {root : FileNode}
    {fuel : Nat} (enough : (root.places path).length < fuel) :
    ∃ result, treePatternMatches fuel path root pattern = some result ∧
      Scanned pattern 0 (root.places path) result := by
  have all : spread [(path, root)] = root.places path := by
    rw [spread_cons]
    exact List.append_nil _
  have ends := @treeLoop_scanned pattern 0 nonempty fuel [(path, root)] (Nat.zero_le _)
    (by rwa [all])
  rwa [all] at ends

theorem foundAt_eq_zero {place : String × FileNode} :
    foundAt pattern place = 0 ↔
      ∀ stream, place.2.contents = some stream → positions pattern stream = [] := by
  unfold foundAt
  cases place.2.contents with
  | none => simp
  | some stream => simp [occurrences]

theorem foundIn_eq_zero :
    foundIn pattern places = 0 ↔ ∀ place ∈ places, foundAt pattern place = 0 := by
  rw [foundIn, List.sum_eq_zero_iff_forall_eq_nat]
  exact List.forall_mem_map

end Walk

/-- A place that the scan may leave behind. -/
structure CleanPlace (place : String × FileNode) : Prop where
  readable : refusal place = none
  absent : ∀ stream, place.2.contents = some stream →
    positions nvidiaCredentialPrefix stream = []

/-- Why the scan for a direct credential fails, and where. -/
inductive Faulted (place : String × FileNode) : TreeError → Prop
  | refused {error : TreeError} (refuses : refusal place = some error) : Faulted place error
  | planted (stream : List UInt8) (contents : place.2.contents = some stream)
      (occurs : positions nvidiaCredentialPrefix stream ≠ []) : Faulted place .credentialFound

theorem Scanned.verdict {places : List (String × FileNode)} {result : Except TreeError Nat}
    (scanned : Scanned nvidiaCredentialPrefix 0 places result) :
    (refuseMatches result = .ok () ↔ ∀ place ∈ places, CleanPlace place) ∧
      ∀ error, refuseMatches result = .error error →
        ∃ place ∈ places, Faulted place error := by
  cases scanned with
  | refused place error member refuses =>
      constructor
      · refine iff_of_false (fun accepted => by cases accepted) fun clean => ?_
        have readable := (clean place member).readable
        rw [refuses] at readable
        cases readable
      · intro other failed
        cases failed
        exact ⟨place, member, .refused refuses⟩
  | passed readable =>
      have zero : min (0 + foundIn nvidiaCredentialPrefix places) u64Max = 0 ↔
          foundIn nvidiaCredentialPrefix places = 0 := by
        have positive : 0 < u64Max := by decide
        omega
      by_cases none : foundIn nvidiaCredentialPrefix places = 0
      · have accepted : refuseMatches
            (.ok (min (0 + foundIn nvidiaCredentialPrefix places) u64Max)) = .ok () :=
          if_pos (zero.mpr none)
        rw [accepted]
        constructor
        · refine iff_of_true rfl fun place member => ⟨readable place member, ?_⟩
          exact foundAt_eq_zero.mp (foundIn_eq_zero.mp none place member)
        · intro error failed
          cases failed
      · have failed : refuseMatches
            (.ok (min (0 + foundIn nvidiaCredentialPrefix places) u64Max)) =
              .error .credentialFound :=
          if_neg fun absent => none (zero.mp absent)
        rw [failed]
        rw [foundIn_eq_zero] at none
        push Not at none
        obtain ⟨place, member, present⟩ := none
        rw [Ne, foundAt_eq_zero] at present
        push Not at present
        obtain ⟨stream, contents, occurs⟩ := present
        constructor
        · refine iff_of_false (fun accepted => by cases accepted) fun clean => ?_
          exact occurs ((clean place member).absent stream contents)
        · intro error isError
          cases isError
          exact ⟨place, member, .planted stream contents occurs⟩

/-- However the directories are ordered and the files are read, the scan ends; it
counts each occurrence in each file, up to the largest number it can count, unless
a place refuses it; and the tree is accepted just when every place is clean. -/
theorem tree_scan_exact (path : String) (root : FileNode) {fuel : Nat}
    (enough : (root.places path).length < fuel) :
    (∀ pattern : List UInt8, pattern ≠ [] →
      ∃ result, treePatternMatches fuel path root pattern = some result ∧
        Scanned pattern 0 (root.places path) result) ∧
    ∃ verdict, scanForDirectNvidiaKey fuel path root = some verdict ∧
      (verdict = .ok () ↔ ∀ place ∈ root.places path, CleanPlace place) ∧
      ∀ error, verdict = .error error →
        ∃ place ∈ root.places path, Faulted place error := by
  refine ⟨fun pattern nonempty => treePatternMatches_scanned nonempty enough, ?_⟩
  have nonempty : nvidiaCredentialPrefix ≠ [] := by decide
  obtain ⟨result, ends, scanned⟩ := treePatternMatches_scanned nonempty enough
  refine ⟨_, ?_, scanned.verdict⟩
  rw [scanForDirectNvidiaKey, ends, Option.map_some]

namespace TreeSample

/-- The prefix, cut by two reads. -/
def planted : FileNode :=
  .file (some [chunkOf [61, 110, 118, 97] (by decide), chunkOf [112, 105, 45, 49] (by decide)])

def root : FileNode :=
  .directory (.entry "notes" (.file (some [])) (.entry "profiles"
    (.directory (.entry "default.env" planted .done)) .done))

theorem tree_scan_exact_planted :
    (root.places "data").length < 5 ∧
      ∃ verdict, scanForDirectNvidiaKey 5 "data" root = some verdict ∧ verdict ≠ .ok () := by
  have enough : (root.places "data").length < 5 := by decide
  obtain ⟨-, verdict, ends, clean, -⟩ := tree_scan_exact "data" root enough
  refine ⟨enough, verdict, ends, fun accepted => ?_⟩
  have member : (joinPath (joinPath "data" "profiles") "default.env", planted) ∈
      root.places "data" := by
    refine List.mem_cons_of_mem _ (List.mem_cons_of_mem _ (List.mem_cons_of_mem _ ?_))
    exact List.mem_cons_self
  have absent := (clean.mp accepted _ member).absent [61, 110, 118, 97, 112, 105, 45, 49] rfl
  revert absent
  decide

end TreeSample

end NvidiaBuildLb.Hermes
