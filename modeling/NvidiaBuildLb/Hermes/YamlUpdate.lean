import NvidiaBuildLb.Core.TextLines
import NvidiaBuildLb.Hermes.BlockMapping

namespace NvidiaBuildLb.Hermes

open Foundation NvidiaBuildLb.Core

/-! What `update_yaml` does to the lines of the model block. -/

def fieldLine (field : String × String) : String :=
  "  " ++ field.1 ++ ": " ++ field.2

def writeField (field : String × String) (line : String) : String :=
  if startsField field line then fieldLine field else line

def setField (block : List String) (field : String × String) :
    Except Failure (List String) :=
  match block.countP (startsField field) with
  | 0 => .ok (block ++ [fieldLine field])
  | 1 => .ok (block.map (writeField field))
  | _ =>
      .error (.bail ("Hermes model mapping contains duplicate " ++ field.1 ++
        " fields"))

/-- The indices that `update_yaml` finds. -/
def foundFields (field : String × String) (first count : Nat)
    (entries : List String) : List Nat :=
  (List.range' first count).filter fun index =>
    startsWith (entries.getD index "") ("  " ++ field.1 ++ ":")

private theorem foundFields_cons (field : String × String) (front : List String)
    (line : String) (block after : List String) :
    foundFields field front.length (block.length + 1) (front ++ line :: block ++ after) =
      (if startsField field line then [front.length] else []) ++
        foundFields field (front ++ [line]).length block.length
          (front ++ [line] ++ block ++ after) := by
  have same : front ++ line :: block ++ after = front ++ [line] ++ block ++ after := by
    simp
  have head : (front ++ line :: block ++ after).getD front.length "" = line := by
    simp
  rw [foundFields, List.range'_succ, List.filter_cons, head, foundFields,
    List.length_append, List.length_singleton, same]
  split
  · rename_i starts
    rw [if_pos (by exact starts)]
    rfl
  · rename_i apart
    rw [if_neg (by exact apart)]
    rfl

private theorem foundFields_length (field : String × String)
    (front block after : List String) :
    (foundFields field front.length block.length (front ++ block ++ after)).length =
      block.countP (startsField field) := by
  induction block generalizing front with
  | nil => rfl
  | cons line block induction =>
      rw [List.length_cons, foundFields_cons, List.length_append, induction,
        List.countP_cons]
      split <;> simp [Nat.add_comm]

private theorem map_writeField_of_none {field : String × String} {block : List String}
    (absent : block.countP (startsField field) = 0) :
    block.map (writeField field) = block := by
  rw [List.countP_eq_zero] at absent
  conv_rhs => rw [← List.map_id block]
  apply List.map_congr_left
  intro line member
  rw [writeField, if_neg (absent line member)]
  rfl

private theorem set_foundFields {field : String × String}
    {front block after : List String} {index : Nat}
    (found : foundFields field front.length block.length (front ++ block ++ after) =
      [index]) :
    (front ++ block ++ after).set index (fieldLine field) =
      front ++ block.map (writeField field) ++ after := by
  induction block generalizing front with
  | nil => cases found
  | cons line block induction =>
      rw [List.length_cons, foundFields_cons] at found
      by_cases starts : startsField field line = true
      · rw [if_pos starts] at found
        obtain ⟨rfl, none_⟩ := List.cons.inj found
        have absent : block.countP (startsField field) = 0 := by
          rw [← foundFields_length field (front ++ [line]) block after]
          exact List.length_eq_zero_iff.mpr none_
        rw [List.map_cons, map_writeField_of_none absent, writeField, if_pos starts]
        simp
      · rw [if_neg starts, List.nil_append] at found
        have later := induction found
        rw [List.map_cons, writeField, if_neg starts]
        simpa using later

private theorem insertIdx_behind {α : Type} (front back : List α) (item : α) :
    (front ++ back).insertIdx front.length item = front ++ item :: back := by
  induction front with
  | nil => rfl
  | cons head rest induction => exact congrArg (head :: ·) induction

theorem setModelField_found (field : String × String) (front block after : List String) :
    setModelField front.length
        (front ++ block ++ after, front.length + block.length) field =
      match foundFields field front.length block.length (front ++ block ++ after) with
      | [] => Except.ok ((front ++ block ++ after).insertIdx
          (front.length + block.length) (fieldLine field), front.length + block.length + 1)
      | [index] => .ok ((front ++ block ++ after).set index (fieldLine field),
          front.length + block.length)
      | _ => .error (.bail ("Hermes model mapping contains duplicate " ++ field.1 ++
          " fields")) := by
  have width : front.length + block.length - front.length = block.length := by omega
  simp only [setModelField, width]
  rfl

theorem setModelField_eq (field : String × String) (front block after : List String) :
    setModelField front.length
        (front ++ block ++ after, front.length + block.length) field =
      (setField block field).map fun changed =>
        (front ++ changed ++ after, front.length + changed.length) := by
  have count := foundFields_length field front block after
  rw [setModelField_found]
  cases found : foundFields field front.length block.length (front ++ block ++ after) with
  | nil =>
      rw [found] at count
      have placed : (front ++ block ++ after).insertIdx (front.length + block.length)
          (fieldLine field) = front ++ (block ++ [fieldLine field]) ++ after := by
        rw [← List.length_append, insertIdx_behind]
        simp
      rw [setField, ← count]
      simp only [List.length_nil, Except.map, placed, List.length_append,
        List.length_singleton, Nat.add_assoc]
  | cons index others =>
      cases others with
      | nil =>
          rw [found] at count
          rw [setField, ← count]
          simp only [List.length_singleton, Except.map, set_foundFields found,
            List.length_map]
      | cons next rest =>
          rw [found] at count
          rw [setField, ← count]
          rfl

def writeFields (fields : List (String × String)) (line : String) : String :=
  fields.foldl (fun line field => writeField field line) line

/-- The lines of the fields that the block lacks. -/
def missingLines (fields : List (String × String)) (block : List String) :
    List String :=
  (fields.filter fun field => block.countP (startsField field) == 0).map fieldLine

/-- No line starts two of the fields. -/
def Apart (fields : List (String × String)) : Prop :=
  ∀ left ∈ fields, ∀ right ∈ fields, ∀ line,
    startsField left line = true → startsField right line = true → left = right

theorem startsField_iff {field : String × String} {line : String} :
    startsField field line = true ↔ (fieldStart field).toList <+: line.toList :=
  List.isPrefixOf_iff_prefix

theorem startsField_fieldLine (field : String × String) :
    startsField field (fieldLine field) = true := by
  rw [startsField_iff, fieldStart, fieldLine]
  simp only [String.toList_append, List.append_assoc, List.prefix_append_right_inj]
  exact ⟨' ' :: field.2.toList, rfl⟩

theorem apart_modelFields : Apart modelFields := by
  intro left inLeft right inRight line startsLeft startsRight
  have starts : ∀ left ∈ modelFields, ∀ right ∈ modelFields,
      (fieldStart left).toList <+: (fieldStart right).toList → left = right := by
    decide
  rw [startsField_iff] at startsLeft startsRight
  rcases Nat.le_total (fieldStart left).toList.length
    (fieldStart right).toList.length with shorter | shorter
  · exact starts left inLeft right inRight
      (List.prefix_of_prefix_length_le startsLeft startsRight shorter)
  · exact (starts right inRight left inLeft
      (List.prefix_of_prefix_length_le startsRight startsLeft shorter)).symm

section Fields

variable {field : String × String} {fields : List (String × String)}
  {block changed : List String}

theorem Apart.startsField_writeField (apart : Apart fields)
    {other : String × String} (inField : field ∈ fields) (inOther : other ∈ fields)
    (line : String) :
    startsField other (writeField field line) = startsField other line := by
  rw [writeField]
  split
  · rename_i starts
    rw [Bool.eq_iff_iff]
    constructor
    · intro startsOther
      rw [← apart field inField other inOther _ (startsField_fieldLine field) startsOther]
      exact starts
    · intro startsOther
      rw [← apart field inField other inOther _ starts startsOther]
      exact startsField_fieldLine field
  · rfl

theorem writeFields_fieldLine
    (only : ∀ other ∈ fields, startsField other (fieldLine field) = true → other = field) :
    writeFields fields (fieldLine field) = fieldLine field := by
  induction fields with
  | nil => rfl
  | cons first fields induction =>
      obtain ⟨onlyFirst, onlyRest⟩ := List.forall_mem_cons.mp only
      have kept : writeField first (fieldLine field) = fieldLine field := by
        rw [writeField]
        split
        · rename_i starts
          rw [onlyFirst starts]
        · rfl
      rw [writeFields, List.foldl_cons, kept]
      exact induction onlyRest

theorem writeFields_starts {line : String} (inField : field ∈ fields)
    (only : ∀ other ∈ fields, ∀ line, startsField other line = true →
      startsField field line = true → other = field)
    (starts : startsField field line = true) :
    writeFields fields line = fieldLine field := by
  induction fields with
  | nil => cases inField
  | cons first fields induction =>
      obtain ⟨onlyFirst, onlyRest⟩ := List.forall_mem_cons.mp only
      rw [writeFields, List.foldl_cons]
      by_cases startsFirst : startsField first line = true
      · obtain rfl := onlyFirst line startsFirst starts
        rw [writeField, if_pos startsFirst]
        exact writeFields_fieldLine fun other inOther startsOther =>
          onlyRest other inOther _ startsOther (startsField_fieldLine first)
      · rw [writeField, if_neg startsFirst]
        rcases List.mem_cons.mp inField with rfl | later
        · exact absurd starts startsFirst
        · exact induction later onlyRest

theorem writeFields_of_none {line : String}
    (plain : ∀ field ∈ fields, startsField field line = false) :
    writeFields fields line = line := by
  induction fields with
  | nil => rfl
  | cons field fields induction =>
      obtain ⟨here, later⟩ := List.forall_mem_cons.mp plain
      rw [writeFields, List.foldl_cons, writeField, here]
      exact induction later

theorem Apart.tail (apart : Apart (field :: fields)) : Apart fields :=
  fun left inLeft right inRight =>
    apart left (List.mem_cons_of_mem _ inLeft) right (List.mem_cons_of_mem _ inRight)

theorem missingLines_congr {other : List String}
    (same : ∀ field ∈ fields, block.countP (startsField field) =
      other.countP (startsField field)) :
    missingLines fields block = missingLines fields other := by
  rw [missingLines, missingLines]
  congr 1
  apply List.filter_congr
  intro field member
  rw [same field member]

theorem missingLines_cons (field : String × String)
    (fields : List (String × String)) (block : List String) :
    missingLines (field :: fields) block =
      missingLines [field] block ++ missingLines fields block := by
  rw [missingLines, missingLines, missingLines, List.filter_cons, List.filter_cons]
  split <;> rfl

theorem setField_eq_ok :
    setField block field = .ok changed ↔
      block.countP (startsField field) ≤ 1 ∧
        changed = block.map (writeField field) ++ missingLines [field] block := by
  rw [setField, missingLines, List.filter_singleton]
  match count : block.countP (startsField field) with
  | 0 =>
      rw [map_writeField_of_none count]
      simp [eq_comm]
  | 1 => simp [eq_comm]
  | count + 2 => simp

theorem foldlM_setField (distinct : fields.Nodup) (apart : Apart fields) :
    fields.foldlM setField block = .ok changed ↔
      (∀ field ∈ fields, block.countP (startsField field) ≤ 1) ∧
        changed = block.map (writeFields fields) ++ missingLines fields block := by
  induction fields generalizing block with
  | nil =>
      have same : block.map (writeFields []) ++ missingLines [] block = block := by
        rw [missingLines, List.filter_nil, List.map_nil, List.append_nil]
        exact List.map_id block
      rw [List.foldlM_nil, same]
      constructor
      · intro returned
        cases returned
        exact ⟨fun _ member => absurd member List.not_mem_nil, rfl⟩
      · rintro ⟨_, rfl⟩
        rfl
  | cons field fields induction =>
      obtain ⟨fresh, distinctRest⟩ := List.nodup_cons.mp distinct
      have others : ∀ other ∈ fields, startsField other (fieldLine field) = false := by
        intro other member
        rw [← Bool.not_eq_true]
        intro starts
        refine fresh ?_
        rw [apart field (List.mem_cons_self ..) other (List.mem_cons_of_mem _ member) _
          (startsField_fieldLine field) starts]
        exact member
      have written : ∀ line ∈ missingLines [field] block, line = fieldLine field := by
        intro line member
        obtain ⟨_, inField, rfl⟩ := List.mem_map.mp member
        rw [List.mem_singleton.mp (List.mem_of_mem_filter inField)]
      -- the lines of one field do not start another one
      have counts : ∀ other ∈ fields,
          (block.map (writeField field) ++ missingLines [field] block).countP
            (startsField other) = block.countP (startsField other) := by
        intro other member
        have none_ : (missingLines [field] block).countP (startsField other) = 0 := by
          rw [List.countP_eq_zero]
          intro line inLines
          rw [written line inLines, others other member]
          exact Bool.false_ne_true
        have same : startsField other ∘ writeField field = startsField other := by
          funext line
          exact apart.startsField_writeField (List.mem_cons_self ..)
            (List.mem_cons_of_mem _ member) line
        rw [List.countP_append, none_, List.countP_map, same, Nat.add_zero]
      have kept : (missingLines [field] block).map (writeFields fields) =
          missingLines [field] block := by
        conv_rhs => rw [← List.map_id (missingLines [field] block)]
        apply List.map_congr_left
        intro line member
        rw [written line member, writeFields_of_none others]
        rfl
      have result :
          (block.map (writeField field) ++ missingLines [field] block).map
              (writeFields fields) ++
            missingLines fields
              (block.map (writeField field) ++ missingLines [field] block) =
          block.map (writeFields (field :: fields)) ++
            missingLines (field :: fields) block := by
        rw [missingLines_congr counts, missingLines_cons field fields, List.map_append,
          kept, List.map_map, List.append_assoc]
        rfl
      rw [List.foldlM_cons, List.forall_mem_cons]
      constructor
      · intro returned
        cases first : setField block field with
        | error failure =>
            rw [first] at returned
            cases returned
        | ok next =>
            rw [first] at returned
            obtain ⟨once, rfl⟩ := setField_eq_ok.mp first
            obtain ⟨rest, isChanged⟩ := (induction distinctRest apart.tail).mp returned
            rw [result] at isChanged
            refine ⟨⟨once, fun other member => ?_⟩, isChanged⟩
            rw [← counts other member]
            exact rest other member
      · rintro ⟨⟨once, rest⟩, isChanged⟩
        rw [setField_eq_ok.mpr ⟨once, rfl⟩]
        apply (induction distinctRest apart.tail).mpr
        rw [result]
        refine ⟨fun other member => ?_, isChanged⟩
        rw [counts other member]
        exact rest other member

def updatedBlock (fields : List (String × String)) (block : List String) :
    List String :=
  block.map (writeFields fields) ++ missingLines fields block

theorem Apart.startsField_writeFields (apart : Apart fields) (inField : field ∈ fields)
    (line : String) :
    startsField field (writeFields fields line) = startsField field line := by
  have steps : ∀ others : List (String × String), (∀ other ∈ others, other ∈ fields) →
      ∀ line, startsField field (writeFields others line) = startsField field line := by
    intro others
    induction others with
    | nil => exact fun _ _ => rfl
    | cons other others induction =>
        intro within line
        obtain ⟨here, later⟩ := List.forall_mem_cons.mp within
        exact (induction later _).trans (apart.startsField_writeField here inField line)
  exact steps fields (fun _ member => member) line

theorem Apart.fieldLine_of_starts (apart : Apart fields) (inField : field ∈ fields)
    {line : String} (member : line ∈ updatedBlock fields block)
    (starts : startsField field line = true) : line = fieldLine field := by
  have only : ∀ other ∈ fields, ∀ line, startsField other line = true →
      startsField field line = true → other = field :=
    fun other inOther line => apart other inOther field inField line
  rcases List.mem_append.mp member with rewritten | missing
  · obtain ⟨before, _, rfl⟩ := List.mem_map.mp rewritten
    rw [apart.startsField_writeFields inField] at starts
    exact writeFields_starts inField only starts
  · obtain ⟨other, inOther, rfl⟩ := List.mem_map.mp missing
    rw [only other (List.mem_of_mem_filter inOther) _ (startsField_fieldLine other) starts]

theorem Apart.countP_missingLines (apart : Apart fields) (distinct : fields.Nodup)
    (inField : field ∈ fields) :
    (missingLines fields block).countP (startsField field) =
      if block.countP (startsField field) = 0 then 1 else 0 := by
  have starts : ∀ other ∈ fields,
      (startsField field ∘ fieldLine) other = true ↔ (other == field) = true := by
    intro other member
    rw [Function.comp_apply, beq_iff_eq]
    constructor
    · exact apart other member field inField _ (startsField_fieldLine other)
    · rintro rfl
      exact startsField_fieldLine other
  rw [missingLines, List.countP_map,
    List.countP_congr fun other member => starts other (List.mem_of_mem_filter member),
    ← List.count, (distinct.filter _).count]
  simp [inField]

theorem Apart.countP_updatedBlock (apart : Apart fields) (distinct : fields.Nodup)
    (inField : field ∈ fields) (once : block.countP (startsField field) ≤ 1) :
    (updatedBlock fields block).countP (startsField field) = 1 := by
  have same : startsField field ∘ writeFields fields = startsField field := by
    funext line
    exact apart.startsField_writeFields inField line
  rw [updatedBlock, List.countP_append, List.countP_map, same,
    apart.countP_missingLines distinct inField]
  split <;> omega

theorem Apart.setField_again (apart : Apart fields) (distinct : fields.Nodup)
    (once : ∀ field ∈ fields, block.countP (startsField field) ≤ 1) :
    fields.foldlM setField (updatedBlock fields block) =
      .ok (updatedBlock fields block) := by
  have counts := fun field inField =>
    apart.countP_updatedBlock distinct inField (once field inField)
  rw [foldlM_setField distinct apart]
  refine ⟨fun field inField => (counts field inField).le, ?_⟩
  have nothing : missingLines fields (updatedBlock fields block) = [] := by
    rw [missingLines, List.map_eq_nil_iff, List.filter_eq_nil_iff]
    intro field inField
    rw [counts field inField]
    decide
  have same : (updatedBlock fields block).map (writeFields fields) =
      updatedBlock fields block := by
    conv_rhs => rw [← List.map_id (updatedBlock fields block)]
    apply List.map_congr_left
    intro line member
    by_cases plain : ∀ field ∈ fields, startsField field line = false
    · exact writeFields_of_none plain
    · simp only [not_forall, Bool.not_eq_false] at plain
      obtain ⟨field, inField, starts⟩ := plain
      rw [apart.fieldLine_of_starts inField member starts]
      exact writeFields_fieldLine fun other inOther startsOther =>
        apart other inOther field inField _ startsOther (startsField_fieldLine field)
  rw [same, nothing, List.append_nil]

end Fields

theorem toList_of_isModelHeader {line : String} (isHeader : isModelHeader line = true) :
    ∃ spaces, line.toList = "model:".toList ++ spaces ∧
      ∀ character ∈ spaces, isWhitespace character = true := by
  have trimmed := eq_of_beq isHeader
  refine ⟨(line.toList.reverse.takeWhile isWhitespace).reverse, ?_, ?_⟩
  · have split : line.toList.reverse.takeWhile isWhitespace ++
        line.toList.reverse.dropWhile isWhitespace = line.toList.reverse :=
      List.takeWhile_append_dropWhile
    have whole := congrArg List.reverse split
    rw [List.reverse_append, List.reverse_reverse] at whole
    rw [← trimmed]
    exact whole.symm
  · intro character member
    exact List.mem_takeWhile_imp (List.mem_reverse.mp member)

theorem startsWithWhitespace_header {line : String} (isHeader : isModelHeader line = true) :
    startsWithWhitespace line = false := by
  obtain ⟨spaces, isLine, _⟩ := toList_of_isModelHeader isHeader
  rw [startsWithWhitespace, isLine]
  rfl

theorem isRoot_eq (line : String) :
    isRoot line = !(line.isEmpty || startsWith line " " || startsWith line "#") := by
  have isBlank : line.isEmpty = line.toList.isEmpty := by
    rw [Bool.eq_iff_iff, String.isEmpty_iff, List.isEmpty_iff, String.toList_eq_nil_iff]
  rw [isRoot, isEntry, indentation, content, startsWith, startsWith, isBlank]
  cases line.toList with
  | nil => rfl
  | cons first rest =>
      by_cases space : first = ' '
      · subst space
        simp
      · by_cases comment : first = '#'
        · subst comment
          simp
        · have notSpace : (' ' == first) = false := beq_false_of_ne (Ne.symm space)
          have notComment : ('#' == first) = false := beq_false_of_ne (Ne.symm comment)
          simp [List.isPrefixOf, space, comment, notSpace, notComment]

theorem foldlM_setModelField (fields : List (String × String))
    (front block after : List String) :
    fields.foldlM (setModelField front.length)
        (front ++ block ++ after, front.length + block.length) =
      (fields.foldlM setField block).map fun changed =>
        (front ++ changed ++ after, front.length + changed.length) := by
  induction fields generalizing block with
  | nil => rfl
  | cons field fields induction =>
      rw [List.foldlM_cons, List.foldlM_cons, setModelField_eq]
      cases setField block field with
      | error failure => rfl
      | ok next => exact induction next

def hasTab (text : String) : Bool :=
  (lines text).any fun line => line.toList.contains '\t'

theorem updateYaml_of_header {text header : String} {before rest : List String}
    (located : withModelHeader (lines text) = (before ++ header :: rest, before.length))
    (isHeader : isModelHeader header = true) (noTab : hasTab text = false) :
    updateYaml text =
      (modelFields.foldlM setField (rest.takeWhile fun line => !isRoot line)).map
        fun changed => unlines (before ++ header :: changed ++
          rest.dropWhile fun line => !isRoot line) := by
  have root : startsWithWhitespace ((before ++ header :: rest).getD before.length "") =
      false := by
    simp [startsWithWhitespace_header isHeader]
  have behind : (before ++ header :: rest).drop (before.length + 1) = rest := by
    simp
  have mapping : rest.takeWhile (fun line =>
      line.isEmpty || startsWith line " " || startsWith line "#") =
      rest.takeWhile fun line => !isRoot line := by
    congr 1
    funext line
    rw [isRoot_eq, Bool.not_not]
  have whole : before ++ header :: rest =
      (before ++ [header]) ++ (rest.takeWhile fun line => !isRoot line) ++
        rest.dropWhile fun line => !isRoot line := by
    simp
  have width : before.length + 1 = (before ++ [header]).length := by simp
  simp only [updateYaml, located]
  rw [← hasTab, noTab, root, behind, mapping, width]
  rw [whole, foldlM_setModelField]
  cases modelFields.foldlM setField (rest.takeWhile fun line => !isRoot line) with
  | error failure => rfl
  | ok changed =>
      change Except.ok _ = Except.ok _
      simp

/-- Where the model block starts: behind its header, or behind the text. -/
inductive Located : List String → List String → String → List String → Prop
  | found {before rest : List String} {header : String}
      (isHeader : isModelHeader header = true)
      (first : ∀ line ∈ before, isModelHeader line = false) :
      Located (before ++ header :: rest) before header rest
  | added {entries blank : List String}
      (absent : ∀ line ∈ entries, isModelHeader line = false)
      (isBlank : blank = [] ∨ blank = [""]) :
      Located entries (entries ++ blank) "model:" []

theorem withModelHeader_found {before rest : List String} {header : String}
    (isHeader : isModelHeader header = true)
    (first : ∀ line ∈ before, isModelHeader line = false) :
    withModelHeader (before ++ header :: rest) =
      (before ++ header :: rest, before.length) := by
  have index : (before ++ header :: rest).findIdx? isModelHeader = some before.length := by
    rw [List.findIdx?_append, List.findIdx?_eq_none_iff.mpr first, List.findIdx?_cons,
      if_pos isHeader]
    simp
  rw [withModelHeader, index]

theorem located_withModelHeader (entries : List String) :
    ∃ before header rest, Located entries before header rest ∧
      withModelHeader entries = (before ++ header :: rest, before.length) := by
  cases isIndex : entries.findIdx? isModelHeader with
  | none =>
      have absent := List.findIdx?_eq_none_iff.mp isIndex
      rw [withModelHeader, isIndex]
      by_cases spaced : (entries.getLast?.any fun line => !line.isEmpty) = true
      · refine ⟨entries ++ [""], _, _, .added absent (.inr rfl), ?_⟩
        simp only [spaced, if_true]
      · refine ⟨entries ++ [], _, _, .added absent (.inl rfl), ?_⟩
        simp only [spaced, Bool.false_eq_true, if_false, List.append_nil]
  | some index =>
      obtain ⟨inside, isHeader, first⟩ := List.findIdx?_eq_some_iff_getElem.mp isIndex
      have split : entries = entries.take index ++ entries[index] :: entries.drop (index + 1) := by
        simp
      have before : ∀ line ∈ entries.take index, isModelHeader line = false := by
        intro line member
        obtain ⟨position, isBelow, rfl⟩ := List.mem_take_iff_getElem.mp member
        simpa using first position (by omega)
      refine ⟨entries.take index, entries[index], entries.drop (index + 1), ?_, ?_⟩
      · conv => enter [1]; rw [split]
        exact .found isHeader before
      · conv => enter [1]; rw [split]
        exact withModelHeader_found isHeader before

theorem Located.isHeader {entries before rest : List String} {header : String}
    (located : Located entries before header rest) : isModelHeader header = true := by
  cases located with
  | found isHeader => exact isHeader
  | added => decide

theorem Located.first {entries before rest : List String} {header : String}
    (located : Located entries before header rest) :
    ∀ line ∈ before, isModelHeader line = false := by
  cases located with
  | found _ first => exact first
  | added absent isBlank =>
      intro line member
      rcases List.mem_append.mp member with inside | blank
      · exact absent line inside
      · rcases isBlank with rfl | rfl
        · cases blank
        · rw [List.mem_singleton.mp blank]
          decide

end NvidiaBuildLb.Hermes
