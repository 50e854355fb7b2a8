import Mathlib.Data.List.Basic

namespace NvidiaBuildLb.Foundation

/-! Streams cut into frames: what a reader makes of a stream does not depend on
the chunks in which it arrives. -/

/-- A way to cut the first frame off a stream, which more of the stream does
not change. -/
structure Framing (α : Type) where
  cut : List α → Option (List α × List α)
  shrinks : ∀ {stream frame rest}, cut stream = some (frame, rest) →
    rest.length < stream.length
  extends_ : ∀ {stream frame rest} (more : List α),
    cut stream = some (frame, rest) →
      cut (stream ++ more) = some (frame, rest ++ more)

namespace Framing

variable (framing : Framing α)

def split (stream : List α) : List (List α) × List α :=
  match _found : framing.cut stream with
  | none => ([], stream)
  | some (frame, rest) =>
      let later := split rest
      (frame :: later.1, later.2)
termination_by stream.length
decreasing_by exact framing.shrinks _found

variable {framing}

theorem split_of_none {stream : List α} (none_ : framing.cut stream = none) :
    framing.split stream = ([], stream) := by
  rw [split]
  split
  · rfl
  · rename_i found
    rw [none_] at found
    cases found

theorem split_of_some {stream frame rest : List α}
    (found : framing.cut stream = some (frame, rest)) :
    framing.split stream =
      (frame :: (framing.split rest).1, (framing.split rest).2) := by
  rw [split]
  split
  · rename_i none_
    rw [none_] at found
    cases found
  · rename_i other
    rw [found] at other
    cases other
    rfl

/-- Frames that are complete stay as they are when more arrives. -/
theorem split_append (stream more : List α) :
    framing.split (stream ++ more) =
      ((framing.split stream).1 ++
          (framing.split ((framing.split stream).2 ++ more)).1,
        (framing.split ((framing.split stream).2 ++ more)).2) := by
  induction length : stream.length using Nat.strongRecOn
    generalizing stream with
  | _ size induction =>
      subst length
      cases found : framing.cut stream with
      | none => rw [split_of_none found, List.nil_append]
      | some cut =>
          obtain ⟨frame, rest⟩ := cut
          rw [split_of_some found, split_of_some (framing.extends_ more found),
            induction rest.length (framing.shrinks found) rest rfl,
            List.cons_append]

theorem split_rest (stream : List α) :
    framing.split (framing.split stream).2 = ([], (framing.split stream).2) := by
  have whole := @split_append α framing stream []
  rw [List.append_nil, List.append_nil] at whole
  have frames := congrArg (fun parts => parts.1.length) whole
  have rest := congrArg Prod.snd whole
  simp only [List.length_append, Nat.left_eq_add, List.length_eq_zero_iff]
    at frames
  exact Prod.ext frames rest.symm

variable {σ ε : Type} (framing) (step : σ → List α → Except ε σ)

def read (reader : σ × List α) (chunk : List α) : Except ε (σ × List α) :=
  ((framing.split (reader.2 ++ chunk)).1.foldlM step reader.1).map fun state =>
    (state, (framing.split (reader.2 ++ chunk)).2)

variable {framing step}

theorem read_eq_ok {reader after : σ × List α} {chunk : List α} :
    framing.read step reader chunk = .ok after ↔
      (framing.split (reader.2 ++ chunk)).1.foldlM step reader.1 =
          .ok after.1 ∧
        (framing.split (reader.2 ++ chunk)).2 = after.2 := by
  unfold read
  cases (framing.split (reader.2 ++ chunk)).1.foldlM step reader.1 with
  | error failure => simp [Except.map]
  | ok state => simp [Except.map, Prod.ext_iff]

theorem read_eq_error {reader : σ × List α} {chunk : List α} {failure : ε} :
    framing.read step reader chunk = .error failure ↔
      (framing.split (reader.2 ++ chunk)).1.foldlM step reader.1 =
        .error failure := by
  unfold read
  cases (framing.split (reader.2 ++ chunk)).1.foldlM step reader.1 <;>
    simp [Except.map]

theorem read_append {reader between : σ × List α} {chunk more : List α}
    (first : framing.read step reader chunk = .ok between) :
    framing.read step reader (chunk ++ more) =
      framing.read step between more := by
  obtain ⟨state, rest⟩ := read_eq_ok.mp first
  unfold read
  rw [← List.append_assoc, split_append (reader.2 ++ chunk) more, rest]
  simp only [List.foldlM_append, state]
  rfl

theorem read_append_error {reader : σ × List α} {chunk : List α} {failure : ε}
    (first : framing.read step reader chunk = .error failure)
    (more : List α) :
    framing.read step reader (chunk ++ more) = .error failure := by
  rw [read_eq_error] at first ⊢
  rw [← List.append_assoc, split_append (reader.2 ++ chunk) more,
    List.foldlM_append, first]
  rfl

/-- Chunk by chunk, a stream is read as it is in one piece. -/
theorem foldlM_read {reader : σ × List α}
    (settled : framing.split reader.2 = ([], reader.2))
    (chunks : List (List α)) :
    chunks.foldlM (framing.read step) reader =
      framing.read step reader chunks.flatten := by
  induction chunks generalizing reader with
  | nil =>
      unfold read
      rw [List.flatten_nil, List.append_nil, settled]
      rfl
  | cons chunk rest induction =>
      rw [List.foldlM_cons, List.flatten_cons]
      cases first : framing.read step reader chunk with
      | error failure => exact (read_append_error first _).symm
      | ok between =>
          rw [read_append first]
          apply induction
          rw [← (read_eq_ok.mp first).2]
          exact split_rest _

end Framing

end NvidiaBuildLb.Foundation
