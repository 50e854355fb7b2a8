import NvidiaBuildLb.Foundation.Transaction

namespace NvidiaBuildLb.Foundation.Transaction

/-! What a transaction leaves alone: a part of the rows that is at its end what
it was at its start. -/

variable {σ ε α β ι π : Type}

def Untouched (part : σ → π) (body : Transaction σ ε α) : Prop :=
  ∀ held, Ensures (fun rows => part rows = held) body fun _ rows => part rows = held

/-- One item of a loop turns what holds before it into what holds after it, and
the other items keep both. -/
theorem Ensures.forM_once [DecidableEq ι] {items : List ι} {item : ι}
    {body : ι → Transaction σ ε PUnit} {before after : σ → Prop}
    (distinct : items.Nodup) (member : item ∈ items)
    (others : ∀ other ∈ items, other ≠ item →
      Ensures before (body other) (fun _ => before) ∧
        Ensures after (body other) fun _ => after)
    (once : Ensures before (body item) fun _ => after) :
    Ensures before (items.forM body) fun _ => after := by
  have loop := @Ensures.forM _ _ _
    (fun done => if item ∈ done then after else before) items body ?_
  · simpa [member] using loop
  intro done other rest split
  by_cases same : other = item
  · subst same
    have fresh : other ∉ done := by
      rw [split] at distinct
      intro earlier
      exact (List.nodup_append.mp distinct).2.2 _ earlier _
        List.mem_cons_self rfl
    simpa [fresh] using once
  · obtain ⟨keepsBefore, keepsAfter⟩ := others other (by simp [split]) same
    by_cases earlier : item ∈ done
    · simpa [earlier] using keepsAfter
    · simpa [earlier, Ne.symm same] using keepsBefore

namespace Untouched

variable {part : σ → π}

theorem pure (value : α) : Untouched part (Pure.pure value : Transaction σ ε α) :=
  fun _ => Ensures.pure fun _ same => same

theorem bail (error : ε) : Untouched part (bail error : Transaction σ ε α) :=
  fun _ => Ensures.bail error

theorem refuseIf (condition : Bool) (error : ε) :
    Untouched part (refuseIf condition error) :=
  fun _ => Ensures.refuseIf fun _ same _ => same

theorem lift (result : Except ε α) : Untouched part (lift result) :=
  fun _ => Ensures.lift fun _ _ same _ => same

theorem bind {first : Transaction σ ε α} {next : α → Transaction σ ε β}
    (begins : Untouched part first) (continues : ∀ value, Untouched part (next value)) :
    Untouched part (first >>= next) :=
  fun held => Ensures.bind _ (begins held) fun value => continues value held

theorem execute {refused : ε} {statement : σ → Option (α × σ)}
    (leaves : ∀ rows answer rows', statement rows = some (answer, rows') →
      part rows' = part rows) :
    Untouched part (execute refused statement) := by
  intro held
  apply Ensures.execute
  intro rows answer rows' same answered
  exact (leaves rows answer rows' answered).trans same

theorem forM_mem {items : List ι} {body : ι → Transaction σ ε PUnit}
    (each : ∀ item ∈ items, Untouched part (body item)) :
    Untouched part (items.forM body) := by
  intro held
  apply Ensures.forM (fun _ rows => part rows = held) items
  intro done item rest split
  exact each item (by simp [split]) held

theorem forM {items : List ι} {body : ι → Transaction σ ε PUnit}
    (each : ∀ item, Untouched part (body item)) : Untouched part (items.forM body) :=
  forM_mem fun item _ => each item

theorem keeps {body : Transaction σ ε α} (leaves : Untouched part body)
    (property : π → Prop) :
    Ensures (fun rows => property (part rows)) body
      fun _ rows => property (part rows) := by
  intro session value after holds ran
  rw [leaves _ session value after rfl ran]
  exact holds

theorem optional {body : ι → Transaction σ ε PUnit}
    (each : ∀ item, Untouched part (body item)) (item : Option ι) :
    Untouched part (item.forM body) := by
  cases item with
  | none => exact pure PUnit.unit
  | some item => exact each item

theorem transact {body : Transaction σ ε α} (leaves : Untouched part body)
    {refuses : Nat → Bool} {rows after : σ} {value : α}
    (ran : body.transact refuses rows = (.ok value, after)) : part after = part rows := by
  have ended := (leaves (part rows)).transact rfl (congrArg Prod.fst ran)
  rwa [ran] at ended

end Untouched

end NvidiaBuildLb.Foundation.Transaction
