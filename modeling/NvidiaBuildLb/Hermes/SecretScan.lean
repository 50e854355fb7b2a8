import NvidiaBuildLb.Core.Primitives
import NvidiaBuildLb.Foundation.Occurrences

namespace NvidiaBuildLb.Hermes

open Foundation NvidiaBuildLb.Core

/-! The secret scan: patterns counted in a stream that is read in parts. -/

/-- What one `read` can put into the buffer. -/
structure Chunk where
  bytes : List UInt8
  fits : bytes.length ≤ 64 * 1024

inductive ReadAnswer where
  | read (chunk : Chunk)
  | failed

/-- What a reader answers, read by read; then it is at its end. -/
abbrev Reader := List ReadAnswer

inductive ScanError where
  | emptyPattern
  | openFailed
  | readFailed
  | panicked
  deriving DecidableEq, Repr

/-- `windows(0)` panics. -/
def countPattern (bytes pattern : List UInt8) : Except ScanError Nat :=
  if pattern.isEmpty then
    .error .panicked
  else
    .ok ((windows pattern.length bytes).countP fun candidate =>
      candidate = pattern)

/-- `overlaps[index]` and `counts[index]`. -/
structure PatternScan where
  overlap : List UInt8
  count : Nat
  deriving DecidableEq, Repr

def PatternScan.start : PatternScan where
  overlap := []
  count := 0

def scanWindow (chunk : List UInt8) (pattern : List UInt8)
    (scan : PatternScan) : Except ScanError PatternScan := do
  let window := scan.overlap ++ chunk
  let found ← countPattern window pattern
  let retained := min (pattern.length - 1) window.length
  pure {
    overlap := window.drop (window.length - retained)
    count := saturatingAdd scan.count found }

def scanPatterns (chunk : List UInt8) :
    List (List UInt8) → List PatternScan → Except ScanError (List PatternScan)
  | pattern :: patterns, scan :: scans => do
      let next ← scanWindow chunk pattern scan
      let rest ← scanPatterns chunk patterns scans
      pure (next :: rest)
  | _, _ => pure []

def countPatternsLoop (patterns : List (List UInt8)) :
    Reader → List PatternScan → Except ScanError (List Nat)
  | [], scans => .ok (scans.map PatternScan.count)
  | .failed :: _, _ => .error .readFailed
  | .read chunk :: rest, scans =>
      if chunk.bytes.isEmpty then
        .ok (scans.map PatternScan.count)
      else do
        let next ← scanPatterns chunk.bytes patterns scans
        countPatternsLoop patterns rest next

def countPatternsReader (reader : Reader) (patterns : List (List UInt8)) :
    Except ScanError (List Nat) :=
  if patterns.any List.isEmpty then
    .error .emptyPattern
  else
    countPatternsLoop patterns reader (patterns.map fun _ => .start)

def filePatternLoop (pattern : List UInt8) :
    Reader → PatternScan → Except ScanError Nat
  | [], scan => .ok scan.count
  | .failed :: _, _ => .error .readFailed
  | .read chunk :: rest, scan =>
      if chunk.bytes.isEmpty then
        .ok scan.count
      else do
        let next ← scanWindow chunk.bytes pattern scan
        filePatternLoop pattern rest next

/-- The file is what `File::open` makes of the path. -/
def filePatternMatches (file : Option Reader) (pattern : List UInt8) :
    Except ScanError Nat :=
  match file with
  | none => .error .openFailed
  | some reader => filePatternLoop pattern reader .start

/-! What the scan has found of each pattern is settled by what it has read, not
by the reads. -/

/-- Everything that the reader gives up to its end, unless a read fails. -/
def Reader.stream : Reader → Except ScanError (List UInt8)
  | [] => .ok []
  | .failed :: _ => .error .readFailed
  | .read chunk :: rest =>
      if chunk.bytes.isEmpty then
        .ok []
      else
        (stream rest).map fun later => chunk.bytes ++ later

def PatternScan.after (seen pattern : List UInt8) : PatternScan where
  overlap := Foundation.overlap pattern seen
  count := min (occurrences pattern seen) u64Max

@[simp] theorem PatternScan.after_nil (pattern : List UInt8) :
    PatternScan.after [] pattern = .start := by
  simp [PatternScan.after, PatternScan.start, Foundation.overlap]

theorem scanWindow_after {pattern : List UInt8} (nonempty : pattern ≠ [])
    (seen chunk : List UInt8) :
    scanWindow chunk pattern (.after seen pattern) =
      .ok (.after (seen ++ chunk) pattern) := by
  have found : countPattern (overlap pattern seen ++ chunk) pattern =
      .ok (occurrences pattern (overlap pattern seen ++ chunk)) := by
    rw [countPattern, if_neg (by simpa using nonempty), countP_windows]
  have carried := overlap_append pattern seen chunk
  have counted : saturatingAdd (min (occurrences pattern seen) u64Max)
      (occurrences pattern (overlap pattern seen ++ chunk)) =
        min (occurrences pattern (seen ++ chunk)) u64Max := by
    rw [occurrences_append nonempty seen chunk, saturatingAdd]
    omega
  simp only [scanWindow, PatternScan.after, found]
  exact congrArg Except.ok (congrArg₂ PatternScan.mk carried counted)

theorem scanPatterns_after {patterns : List (List UInt8)}
    (nonempty : ∀ pattern ∈ patterns, pattern ≠ []) (seen chunk : List UInt8) :
    scanPatterns chunk patterns (patterns.map (.after seen)) =
      .ok (patterns.map (.after (seen ++ chunk))) := by
  induction patterns with
  | nil => rfl
  | cons pattern rest induction =>
      have others := induction fun other member =>
        nonempty other (List.mem_cons_of_mem _ member)
      rw [List.map_cons, scanPatterns,
        scanWindow_after (nonempty pattern (List.mem_cons_self ..)), others]
      rfl

theorem countPatternsLoop_after {patterns : List (List UInt8)}
    (nonempty : ∀ pattern ∈ patterns, pattern ≠ []) (reader : Reader)
    (seen : List UInt8) :
    countPatternsLoop patterns reader (patterns.map (.after seen)) =
      reader.stream.map fun later => patterns.map fun pattern =>
        min (occurrences pattern (seen ++ later)) u64Max := by
  induction reader generalizing seen with
  | nil => simp [countPatternsLoop, Reader.stream, Except.map, PatternScan.after]
  | cons answer rest induction =>
      cases answer with
      | failed => rfl
      | read chunk =>
          rw [countPatternsLoop, Reader.stream]
          split
          · simp [Except.map, PatternScan.after]
          · rw [scanPatterns_after nonempty]
            refine (induction (seen ++ chunk.bytes)).trans ?_
            cases Reader.stream rest <;> simp [Except.map]

theorem filePatternLoop_after {pattern : List UInt8} (nonempty : pattern ≠ [])
    (reader : Reader) (seen : List UInt8) :
    filePatternLoop pattern reader (.after seen pattern) =
      reader.stream.map fun later =>
        min (occurrences pattern (seen ++ later)) u64Max := by
  induction reader generalizing seen with
  | nil => simp [filePatternLoop, Reader.stream, Except.map, PatternScan.after]
  | cons answer rest induction =>
      cases answer with
      | failed => rfl
      | read chunk =>
          rw [filePatternLoop, Reader.stream]
          split
          · simp [Except.map, PatternScan.after]
          · rw [scanWindow_after nonempty]
            refine (induction (seen ++ chunk.bytes)).trans ?_
            cases Reader.stream rest <;> simp [Except.map]

theorem countPatternsReader_eq {patterns : List (List UInt8)}
    (nonempty : ∀ pattern ∈ patterns, pattern ≠ []) (reader : Reader) :
    countPatternsReader reader patterns =
      reader.stream.map fun stream => patterns.map fun pattern =>
        min (positions pattern stream).length u64Max := by
  have guarded : ¬ (patterns.any List.isEmpty) = true := by
    rw [List.any_eq_true]
    rintro ⟨pattern, member, isEmpty⟩
    exact nonempty pattern member (List.isEmpty_iff.mp isEmpty)
  rw [countPatternsReader, if_neg guarded]
  have started : (patterns.map fun _ => PatternScan.start) =
      patterns.map (.after []) :=
    List.map_congr_left fun pattern _ => (PatternScan.after_nil pattern).symm
  rw [started]
  exact countPatternsLoop_after nonempty reader []

theorem filePatternMatches_eq {pattern : List UInt8} (nonempty : pattern ≠ [])
    (reader : Reader) :
    filePatternMatches (some reader) pattern =
      reader.stream.map fun stream =>
        min (positions pattern stream).length u64Max := by
  have scanned := filePatternLoop_after nonempty reader []
  rw [PatternScan.after_nil] at scanned
  exact scanned

/-- However the reads cut the stream, the scan finds each pattern at every
position at which it occurs, up to the largest number it can count. -/
theorem scan_misses_nothing (reader : Reader) :
    (∀ patterns : List (List UInt8), (∀ pattern ∈ patterns, pattern ≠ []) →
      countPatternsReader reader patterns =
        reader.stream.map fun stream => patterns.map fun pattern =>
          min (positions pattern stream).length u64Max) ∧
    ∀ pattern : List UInt8, pattern ≠ [] →
      filePatternMatches (some reader) pattern =
        reader.stream.map fun stream =>
          min (positions pattern stream).length u64Max :=
  ⟨fun _ nonempty => countPatternsReader_eq nonempty reader,
    fun _ nonempty => filePatternMatches_eq nonempty reader⟩

def chunkOf (bytes : List UInt8) (fits : bytes.length ≤ 64 * 1024) :
    ReadAnswer :=
  .read ⟨bytes, fits⟩

/-- A pattern that overlaps itself, cut by two of the reads. -/
def readsOverThree : Reader := [
  chunkOf [1, 2] (by decide),
  chunkOf [1] (by decide),
  chunkOf [2, 1, 2, 7] (by decide)]

theorem scan_misses_nothing_overlapping :
    countPatternsReader readsOverThree [[1, 2, 1, 2], [7], [3]] =
        .ok [2, 1, 0] ∧
      filePatternMatches (some readsOverThree) [1, 2, 1, 2] = .ok 2 := by
  obtain ⟨stream, file⟩ := scan_misses_nothing readsOverThree
  rw [stream [[1, 2, 1, 2], [7], [3]] (by decide),
    file [1, 2, 1, 2] (by decide)]
  decide

def fullChunk : ReadAnswer :=
  chunkOf (List.replicate (64 * 1024) 120)
    (by rw [List.length_replicate])

def longReader (reads : Nat) : Reader :=
  List.replicate reads fullChunk

private theorem longReader_stream (reads : Nat) :
    (longReader reads).stream =
      .ok (List.replicate (reads * (64 * 1024)) 120) := by
  induction reads with
  | zero => rw [Nat.zero_mul]; rfl
  | succ reads induction =>
      have step : (longReader (reads + 1)).stream =
          (longReader reads).stream.map fun later =>
            List.replicate (64 * 1024) 120 ++ later := rfl
      have length : 64 * 1024 + reads * (64 * 1024) =
          (reads + 1) * (64 * 1024) := by omega
      rw [step, induction, ← length, ← List.replicate_append_replicate]
      rfl

/-- Of 2^64 bytes that all match, the scan counts one less. -/
theorem scan_saturates :
    ¬ (countPatternsReader (longReader (2 ^ 48)) [[120]] =
      (longReader (2 ^ 48)).stream.map fun stream =>
        [[120]].map fun pattern => (positions pattern stream).length) := by
  intro exact_
  rw [countPatternsReader_eq (by simp), longReader_stream] at exact_
  have counts : min (occurrences [120] (List.replicate (2 ^ 48 * (64 * 1024))
      (120 : UInt8))) u64Max =
      occurrences [120] (List.replicate (2 ^ 48 * (64 * 1024)) (120 : UInt8)) :=
    (List.cons.inj (Except.ok.inj exact_)).1
  rw [occurrences_singleton_replicate] at counts
  revert counts
  decide

end NvidiaBuildLb.Hermes
