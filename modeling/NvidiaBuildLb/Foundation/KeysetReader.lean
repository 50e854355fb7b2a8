import NvidiaBuildLb.Foundation.Keyset

namespace NvidiaBuildLb.Foundation.Keyset

/-! A reader as a loop: it keeps something of every page, and stops at a page
without a cursor, or at one that tells it that it has seen enough. -/

variable {ρ σ γ ε : Type}

/-- With no fuel left the loop is still running. -/
def gather (serve : Nat → Option γ → Except ε (List ρ × Option γ))
    (image : List ρ → List σ) (enough : List ρ → Bool) :
    Nat → Nat → Option γ → List σ → Option (Except ε (List σ))
  | 0, _, _, _ => none
  | fuel + 1, index, before, kept =>
      match serve index before with
      | .error error => some (.error error)
      | .ok (items, none) => some (.ok (kept ++ image items))
      | .ok (items, some cursor) =>
          if enough items then
            some (.ok (kept ++ image items))
          else
            gather serve image enough fuel (index + 1) (some cursor) (kept ++ image items)

/-- How the walk stands when the loop is over. -/
inductive Gathered (enough : List ρ → Bool) (reading : Reading ρ γ ε) : Prop
  | ended (position : reading.position = .ended)
  | sated (cursor : γ) (shown : List ρ) (position : reading.position = .next (some cursor))
      (visited : ∀ row ∈ shown, row ∈ reading.visited) (sates : enough shown = true)

variable {serve : Nat → Option γ → Except ε (List ρ × Option γ)}
  {image : List ρ → List σ} {enough : List ρ → Bool}

private theorem walk_succ {index : Nat} {before : Option γ}
    (position : (walk serve index).position = .next before) :
    walk serve (index + 1) =
      match serve index before with
      | .error error => { (walk serve index) with position := .refused error }
      | .ok (items, continuation) => {
          visited := (walk serve index).visited ++ items
          position :=
            match continuation with
            | none => .ended
            | some cursor => .next (some cursor) } := by
  cases answered : serve index before with
  | error error => simp only [walk, Reading.advance, position, answered]
  | ok page =>
      obtain ⟨items, continuation⟩ := page
      cases continuation with
      | none => simp only [walk, Reading.advance, position, answered]
      | some cursor => simp only [walk, Reading.advance, position, answered]

theorem served_of_mem_visited {count : Nat} {row : ρ}
    (member : row ∈ (walk serve count).visited) :
    ∃ index < count, ∃ before items continuation,
      serve index before = .ok (items, continuation) ∧ row ∈ items := by
  induction count with
  | zero => cases member
  | succ count induction =>
      have earlier : row ∈ (walk serve count).visited → ∃ index < count + 1,
          ∃ before items continuation,
            serve index before = .ok (items, continuation) ∧ row ∈ items := by
        intro visited
        obtain ⟨index, below, served⟩ := induction visited
        exact ⟨index, by omega, served⟩
      cases position : (walk serve count).position with
      | ended =>
          rw [walk, Reading.advance, position] at member
          exact earlier member
      | refused error =>
          rw [walk, Reading.advance, position] at member
          exact earlier member
      | next before =>
          rw [walk_succ position] at member
          cases served : serve count before with
          | error error =>
              rw [served] at member
              exact earlier member
          | ok page =>
              obtain ⟨items, continuation⟩ := page
              rw [served] at member
              rcases List.mem_append.mp member with visited | shown
              · exact earlier visited
              · exact ⟨count, by omega, before, items, continuation, served, shown⟩

theorem gather_ok (additive : ∀ front back, image (front ++ back) = image front ++ image back)
    {fuel index : Nat} {before : Option γ} {result : List σ}
    (position : (walk serve index).position = .next before)
    (gathered : gather serve image enough fuel index before
      (image (walk serve index).visited) = some (.ok result)) :
    ∃ count ≤ index + fuel, result = image (walk serve count).visited ∧
      Gathered enough (walk serve count) := by
  induction fuel generalizing index before with
  | zero => cases gathered
  | succ fuel induction =>
      have next := walk_succ position
      unfold gather at gathered
      cases served : serve index before with
      | error error =>
          rw [served] at gathered
          cases gathered
      | ok page =>
          obtain ⟨items, continuation⟩ := page
          rw [served] at gathered next
          cases continuation with
          | none =>
              cases gathered
              refine ⟨index + 1, by omega, ?_, .ended ?_⟩
              · rw [next, additive]
              · rw [next]
          | some cursor =>
              simp only at gathered
              split at gathered
              · rename_i sates
                cases gathered
                refine ⟨index + 1, by omega, ?_, .sated cursor items ?_ ?_ sates⟩
                · rw [next, additive]
                · rw [next]
                · intro row member
                  rw [next]
                  exact List.mem_append_right _ member
              · rw [← additive] at gathered
                have goesOn : (walk serve (index + 1)).position = .next (some cursor) := by
                  rw [next]
                have visited : (walk serve (index + 1)).visited =
                    (walk serve index).visited ++ items := by
                  rw [next]
                rw [← visited] at gathered
                obtain ⟨count, within, isResult, ends⟩ := induction goesOn gathered
                exact ⟨count, by omega, isResult, ends⟩

theorem gather_error {fuel index : Nat} {before : Option γ} {kept : List σ} {error : ε}
    (position : (walk serve index).position = .next before)
    (failed : gather serve image enough fuel index before kept = some (.error error)) :
    ∃ count ≤ index + fuel, (walk serve count).position = .refused error := by
  induction fuel generalizing index before kept with
  | zero => cases failed
  | succ fuel induction =>
      have next := walk_succ position
      unfold gather at failed
      cases served : serve index before with
      | error other =>
          rw [served] at failed next
          cases failed
          exact ⟨index + 1, by omega, by rw [next]⟩
      | ok page =>
          obtain ⟨items, continuation⟩ := page
          rw [served] at failed next
          cases continuation with
          | none => cases failed
          | some cursor =>
              simp only at failed
              split at failed
              · cases failed
              · obtain ⟨count, within, refused⟩ := induction (by rw [next]) failed
                exact ⟨count, by omega, refused⟩

theorem gather_none {fuel index : Nat} {before : Option γ} {kept : List σ}
    (position : (walk serve index).position = .next before)
    (running : gather serve image enough fuel index before kept = none) :
    ∃ cursor, (walk serve (index + fuel)).position = .next cursor := by
  induction fuel generalizing index before kept with
  | zero => exact ⟨before, position⟩
  | succ fuel induction =>
      have next := walk_succ position
      unfold gather at running
      cases served : serve index before with
      | error other =>
          rw [served] at running
          cases running
      | ok page =>
          obtain ⟨items, continuation⟩ := page
          rw [served] at running next
          cases continuation with
          | none => cases running
          | some cursor =>
              simp only at running
              split at running
              · cases running
              · obtain ⟨last, isNext⟩ := induction (by rw [next]) running
                rw [Nat.add_right_comm] at isNext
                exact ⟨last, isNext⟩

/-- A loop that comes to its end comes to the same end with any server that
answers as its own did. -/
theorem gather_of_answers {δ : Type} {other : Nat → Option γ → Except δ (List ρ × Option γ)}
    (answers : ∀ index before page, serve index before = .ok page →
      other index before = .ok page)
    {fuel index : Nat} {before : Option γ} {kept result : List σ}
    (gathered : gather serve image enough fuel index before kept = some (.ok result)) :
    gather other image enough fuel index before kept = some (.ok result) := by
  induction fuel generalizing index before kept with
  | zero => cases gathered
  | succ fuel induction =>
      unfold gather at gathered ⊢
      cases served : serve index before with
      | error error =>
          rw [served] at gathered
          cases gathered
      | ok page =>
          obtain ⟨items, continuation⟩ := page
          rw [answers index before _ served]
          rw [served] at gathered
          cases continuation with
          | none =>
              cases gathered
              rfl
          | some cursor =>
              simp only at gathered ⊢
              split at gathered
              · rename_i sates
                cases gathered
                rw [if_pos sates]
              · rename_i goesOn
                rw [if_neg goesOn]
                exact induction gathered

end NvidiaBuildLb.Foundation.Keyset
