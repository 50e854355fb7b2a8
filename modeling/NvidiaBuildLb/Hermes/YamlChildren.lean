import NvidiaBuildLb.Hermes.YamlUpdate

namespace NvidiaBuildLb.Hermes

open Foundation NvidiaBuildLb.Core

/-! The children of the model entry after the update. -/

abbrev updatedModel (block : List String) : List String :=
  updatedBlock modelFields block

theorem nodup_modelFields : modelFields.Nodup := by decide

theorem fieldLine_reads {field : String × String} (inField : field ∈ modelFields) :
    isEntry (fieldLine field) = true ∧ indentation (fieldLine field) = 2 ∧
      entryName (fieldLine field) = some field.1.toList ∧
      entryValue (fieldLine field) = some field.2.toList := by
  have lines_ : ∀ field ∈ modelFields,
      isEntry (fieldLine field) = true ∧ indentation (fieldLine field) = 2 ∧
        entryName (fieldLine field) = some field.1.toList ∧
        entryValue (fieldLine field) = some field.2.toList := by
    decide
  exact lines_ field inField

theorem fieldName_first : ∀ field ∈ modelFields, ∃ first rest,
    field.1.toList = first :: rest ∧ first ∉ [' ', '#', ':', '"', '\''] ∧
      ∀ other ∈ modelFields, other.1.toList.head? = some first → other = field := by
  intro field inField
  simp only [modelFields, List.mem_cons, List.not_mem_nil, or_false] at inField
  rcases inField with rfl | rfl | rfl
  · exact ⟨'p', "rovider".toList, by decide⟩
  · exact ⟨'d', "efault".toList, by decide⟩
  · exact ⟨'b', "ase_url".toList, by decide⟩

theorem startsField_shape {field : String × String} {line : String}
    (starts : startsField field line = true) :
    ∃ rest, line.toList = ' ' :: ' ' :: (field.1.toList ++ ':' :: rest) := by
  obtain ⟨rest, isLine⟩ := startsField_iff.mp starts
  refine ⟨rest, ?_⟩
  rw [← isLine, fieldStart]
  simp

theorem startsField_reads {field : String × String} (inField : field ∈ modelFields)
    {line : String} (starts : startsField field line = true) :
    isEntry line = true ∧ indentation line = 2 ∧
      ∃ rest, content line = field.1.toList ++ ':' :: rest := by
  obtain ⟨rest, isLine⟩ := startsField_shape starts
  obtain ⟨first, others, isName, plain, _⟩ := fieldName_first field inField
  simp only [List.mem_cons, List.not_mem_nil, or_false, not_or] at plain
  have isContent : content line = field.1.toList ++ ':' :: rest := by
    rw [content, isLine, isName]
    simp [plain.1]
  refine ⟨?_, ?_, rest, isContent⟩
  · rw [isEntry, isContent, isName]
    simp [plain.2.1]
  · rw [indentation, isLine, isName]
    simp [plain.1]

theorem cutEntry_eq_some {text front back : List Char}
    (cut : cutEntry text = some (front, back)) : text = front ++ ':' :: back := by
  induction text using cutEntry.induct generalizing front with
  | case1 => cases cut
  | case2 =>
      cases cut
      rfl
  | case3 rest =>
      cases cut
      rfl
  | case4 character rest single double induction =>
      rw [cutEntry] at cut
      · obtain ⟨parts, later, isParts⟩ := Option.map_eq_some_iff.mp cut
        cases isParts
        exact congrArg (character :: ·) (induction later)
      · exact single
      · exact double

theorem head?_trimSpaces {first : Char} (rest : List Char) (notSpace : first ≠ ' ') :
    (trimSpaces (first :: rest)).head? = some first := by
  rw [trimSpaces, List.dropWhile_cons_of_neg (by simpa using notSpace)]
  have isPrefix := List.rdropWhile_prefix (· == ' ') (first :: rest)
  cases trimmed : (first :: rest).rdropWhile (· == ' ') with
  | nil =>
      have all := List.rdropWhile_eq_nil_iff.mp trimmed
      exact absurd (eq_of_beq (all first (List.mem_cons_self ..))) notSpace
  | cons head tail =>
      rw [trimmed] at isPrefix
      rw [(List.cons_prefix_cons.mp isPrefix).1]
      rfl

theorem field_of_entryName {field other : String × String} {line : String}
    (inField : field ∈ modelFields) (inOther : other ∈ modelFields)
    (starts : startsField field line = true)
    (named : entryName line = some other.1.toList) : other = field := by
  obtain ⟨_, _, rest, isContent⟩ := startsField_reads inField starts
  obtain ⟨first, others, isName, plain, unique⟩ := fieldName_first field inField
  simp only [List.mem_cons, List.not_mem_nil, or_false, not_or] at plain
  obtain ⟨⟨front, back⟩, cut, isOther⟩ := Option.bind_eq_some_iff.mp named
  have split := cutEntry_eq_some cut
  rw [isContent, isName] at split
  have isFront : ∃ tail, front = first :: tail := by
    cases front with
    | nil =>
        obtain ⟨isColon, _⟩ := List.cons.inj split
        exact absurd isColon plain.2.2.1
    | cons head tail =>
        obtain ⟨rfl, _⟩ := List.cons.inj split
        exact ⟨tail, rfl⟩
  obtain ⟨tail, rfl⟩ := isFront
  have head := head?_trimSpaces tail plain.1
  cases trimmed : trimSpaces (first :: tail) with
  | nil =>
      rw [trimmed] at head
      cases head
  | cons start more =>
      rw [trimmed] at head isOther
      cases head
      rw [unquote] at isOther
      · apply unique other inOther
        rw [← Option.some.inj isOther]
        rfl
      · intro _ same
        exact plain.2.2.2.1 (List.cons.inj same).1
      · intro _ same
        exact plain.2.2.2.2 (List.cons.inj same).1

theorem writeFields_cases (line : String) :
    (∀ field ∈ modelFields, startsField field line = false) ∧
        writeFields modelFields line = line ∨
      ∃ field ∈ modelFields, startsField field line = true ∧
        writeFields modelFields line = fieldLine field := by
  by_cases plain : ∀ field ∈ modelFields, startsField field line = false
  · exact .inl ⟨plain, writeFields_of_none plain⟩
  · simp only [not_forall, Bool.not_eq_false] at plain
    obtain ⟨field, inField, starts⟩ := plain
    refine .inr ⟨field, inField, starts, writeFields_starts inField ?_ starts⟩
    exact fun other inOther line => apart_modelFields other inOther field inField line

theorem indentation_writeFields (line : String) :
    indentation (writeFields modelFields line) = indentation line := by
  rcases writeFields_cases line with ⟨_, same⟩ | ⟨field, inField, starts, written⟩
  · rw [same]
  · rw [written, (fieldLine_reads inField).2.1, (startsField_reads inField starts).2.1]

theorem isEntry_writeFields (line : String) :
    isEntry (writeFields modelFields line) = isEntry line := by
  rcases writeFields_cases line with ⟨_, same⟩ | ⟨field, inField, starts, written⟩
  · rw [same]
  · rw [written, (fieldLine_reads inField).1, (startsField_reads inField starts).1]

theorem mem_missingLines {fields : List (String × String)} {block : List String}
    {line : String} :
    line ∈ missingLines fields block ↔ ∃ field ∈ fields,
      block.countP (startsField field) = 0 ∧ fieldLine field = line := by
  simp only [missingLines, List.mem_map, List.mem_filter, beq_iff_eq, and_assoc]

theorem mem_partsNamed {field : String × String} {parts : List (String × List String)}
    {part : String × List String} :
    part ∈ partsNamed field parts ↔
      part ∈ parts ∧ entryName part.1 = some field.1.toList := by
  rw [partsNamed, List.mem_filter, beq_iff_eq]

section TwoSpaces

variable {block : List String} {field : String × String}

def rewritePart (part : String × List String) : String × List String :=
  (writeFields modelFields part.1, part.2.map (writeFields modelFields))

/-- What the block of two spaces becomes. -/
def rewrittenParts (block : List String) : List (String × List String) :=
  (sections indentation 2 block).map rewritePart

def addedParts (block : List String) : List (String × List String) :=
  (missingLines modelFields block).map fun line => (line, [])

theorem sections_updatedModel :
    sections indentation 2 (updatedModel block) =
      rewrittenParts block ++ addedParts block := by
  have flush : ∀ line ∈ missingLines modelFields block, indentation line = 2 := by
    intro line member
    obtain ⟨field, inField, _, rfl⟩ := mem_missingLines.mp member
    exact (fieldLine_reads inField).2.1
  rw [updatedModel, updatedBlock, sections_append_flush _ flush,
    sections_map fun line _ => indentation_writeFields line]
  rfl

theorem partsNamed_addedParts (inField : field ∈ modelFields) :
    partsNamed field (addedParts block) =
      if block.countP (startsField field) = 0 then [(fieldLine field, [])] else [] := by
  have named : ∀ other ∈ modelFields,
      (entryName (fieldLine other) == some field.1.toList) = (other == field) := by
    intro other inOther
    rw [Bool.eq_iff_iff, beq_iff_eq, beq_iff_eq]
    constructor
    · intro same
      exact (field_of_entryName inOther inField (startsField_fieldLine other) same).symm
    · rintro rfl
      exact (fieldLine_reads inOther).2.2.1
  have only : ∀ field ∈ modelFields, modelFields.filter (· == field) = [field] := by
    decide
  rw [partsNamed, addedParts, missingLines, List.map_map, List.filter_map]
  have kept : (modelFields.filter fun field => block.countP (startsField field) == 0).filter
      ((fun part : String × List String => entryName part.1 == some field.1.toList) ∘
        (fun line => (line, [])) ∘ fieldLine) =
      if block.countP (startsField field) = 0 then [field] else [] := by
    have isField : modelFields.filter
        ((fun part : String × List String => entryName part.1 == some field.1.toList) ∘
          (fun line => (line, [])) ∘ fieldLine) = [field] :=
      (List.filter_congr fun other member => named other member).trans (only field inField)
    rw [List.filter_comm, isField, List.filter_singleton]
    simp
  rw [kept]
  split <;> rfl

theorem countP_sections (inField : field ∈ modelFields) :
    (sections indentation 2 block).countP (fun part => startsField field part.1) =
      block.countP (startsField field) := by
  have firsts : (sections indentation 2 block).countP (fun part => startsField field part.1) =
      ((sections indentation 2 block).map Prod.fst).countP (startsField field) := by
    rw [List.countP_map]
    rfl
  rw [firsts, sections_fst, List.countP_filter]
  apply List.countP_congr
  intro line _
  rw [Bool.and_eq_true, decide_eq_true_eq, and_iff_left_iff_imp]
  exact fun starts => (startsField_reads inField starts).2.1

theorem hasFields_of_recognised
    (once : ∀ field ∈ modelFields, block.countP (startsField field) ≤ 1)
    (recognised : ∀ part ∈ sections indentation 2 block, ∀ field ∈ modelFields,
      (entryName part.1 = some field.1.toList → startsField field part.1 = true) ∧
        (startsField field part.1 = true → part.2 = [])) :
    HasFields (rewrittenParts block ++ addedParts block) := by
  intro field inField
  refine ⟨fieldLine field, ?_, (fieldLine_reads inField).2.2.2⟩
  have rewritten : partsNamed field (rewrittenParts block) =
      ((sections indentation 2 block).filter fun part => startsField field part.1).map
        fun _ => (fieldLine field, []) := by
    rw [partsNamed, rewrittenParts, List.filter_map]
    have same : ∀ part ∈ sections indentation 2 block,
        ((fun part : String × List String => entryName part.1 == some field.1.toList) ∘
          rewritePart) part = startsField field part.1 := by
      intro part member
      rw [Function.comp_apply, rewritePart, Bool.eq_iff_iff, beq_iff_eq]
      rcases writeFields_cases part.1 with
        ⟨plain, kept⟩ | ⟨other, inOther, starts, written⟩
      · rw [kept]
        refine ⟨(recognised part member field inField).1, fun starts => ?_⟩
        rw [plain field inField] at starts
        cases starts
      · rw [written]
        constructor
        · intro named
          rw [field_of_entryName inOther inField (startsField_fieldLine other) named]
          exact starts
        · intro startsHere
          rw [apart_modelFields field inField other inOther part.1 startsHere starts]
          exact (fieldLine_reads inOther).2.2.1
    rw [List.filter_congr same]
    apply List.map_congr_left
    intro part inFilter
    obtain ⟨member, starts⟩ := List.mem_filter.mp inFilter
    rw [rewritePart, writeFields_starts inField
        (fun other inOther line => apart_modelFields other inOther field inField line) starts,
      (recognised part member field inField).2 starts, List.map_nil]
  have count := @countP_sections block field inField
  rw [List.countP_eq_length_filter] at count
  rw [partsNamed, List.filter_append, ← partsNamed, ← partsNamed, rewritten,
    partsNamed_addedParts inField]
  have few := once field inField
  cases starting : (sections indentation 2 block).filter
      (fun part => startsField field part.1) with
  | nil =>
      rw [starting, List.length_nil] at count
      rw [if_pos count.symm]
      rfl
  | cons part rest =>
      rw [starting, List.length_cons] at count
      have last : rest = [] := List.length_eq_zero_iff.mp (by omega)
      rw [if_neg (by omega), last]
      rfl

theorem fieldLine_mem_parts (inField : field ∈ modelFields) :
    ∃ under, (fieldLine field, under) ∈ rewrittenParts block ++ addedParts block := by
  by_cases absent : block.countP (startsField field) = 0
  · refine ⟨[], List.mem_append_right _ (List.mem_map_of_mem ?_)⟩
    exact mem_missingLines.mpr ⟨field, inField, absent, rfl⟩
  · rw [← countP_sections inField] at absent
    obtain ⟨part, member, starts⟩ := List.countP_pos_iff.mp (Nat.pos_of_ne_zero absent)
    refine ⟨part.2.map (writeFields modelFields), List.mem_append_left _ ?_⟩
    rw [← writeFields_starts inField
      (fun other inOther line => apart_modelFields other inOther field inField line) starts]
    exact List.mem_map.mpr ⟨part, member, rfl⟩

theorem recognised_of_hasFields
    (fields : HasFields (rewrittenParts block ++ addedParts block))
    {part : String × List String} (member : part ∈ sections indentation 2 block)
    (inField : field ∈ modelFields) :
    (entryName part.1 = some field.1.toList → startsField field part.1 = true) ∧
      (startsField field part.1 = true → part.2 = []) := by
  obtain ⟨line, isLine, _⟩ := fields field inField
  have named : ∀ found ∈ rewrittenParts block ++ addedParts block,
      entryName found.1 = some field.1.toList → found = (line, []) := by
    intro found inFound isNamed
    have inParts := mem_partsNamed.mpr ⟨inFound, isNamed⟩
    rw [isLine] at inParts
    exact List.mem_singleton.mp inParts
  have after : (writeFields modelFields part.1, part.2.map (writeFields modelFields)) ∈
      rewrittenParts block ++ addedParts block :=
    List.mem_append_left _ (List.mem_map_of_mem member)
  have isWritten : line = fieldLine field := by
    obtain ⟨under, inParts⟩ := @fieldLine_mem_parts block field inField
    exact (congrArg Prod.fst (named _ inParts (fieldLine_reads inField).2.2.1)).symm
  constructor
  · intro isNamed
    rcases writeFields_cases part.1 with ⟨plain, same⟩ | ⟨other, inOther, starts, _⟩
    · rw [same] at after
      have isFieldLine := congrArg Prod.fst (named _ after isNamed)
      change part.1 = line at isFieldLine
      rw [isFieldLine, isWritten]
      exact startsField_fieldLine field
    · rw [field_of_entryName inOther inField starts isNamed]
      exact starts
  · intro starts
    have written : writeFields modelFields part.1 = fieldLine field :=
      writeFields_starts inField
        (fun other inOther line => apart_modelFields other inOther field inField line) starts
    rw [written] at after
    have nothing := congrArg Prod.snd (named _ after (fieldLine_reads inField).2.2.1)
    exact List.map_eq_nil_iff.mp nothing

end TwoSpaces

section OneSpace

variable {block : List String}

def rewrittenBelow (parts : List (String × List String)) : List (String × List String) :=
  parts.map fun part => (part.1, part.2.map (writeFields modelFields))

theorem sections_one (block : List String) :
    sections indentation 1 (block.map (writeFields modelFields)) =
      rewrittenBelow (sections indentation 1 block) := by
  rw [sections_map fun line _ => indentation_writeFields line, rewrittenBelow]
  apply List.map_congr_left
  intro part member
  rcases writeFields_cases part.1 with ⟨_, same⟩ | ⟨field, inField, starts, _⟩
  · rw [same]
  · have two := (startsField_reads inField starts).2.1
    rw [(mem_of_mem_sections member).2] at two
    cases two

theorem hasFields_rewrittenBelow (parts : List (String × List String)) :
    HasFields (rewrittenBelow parts) ↔ HasFields parts := by
  have same : ∀ field, partsNamed field (rewrittenBelow parts) =
      rewrittenBelow (partsNamed field parts) := by
    intro field
    rw [partsNamed, rewrittenBelow, List.filter_map]
    rfl
  have single : ∀ (named : List (String × List String)) line,
      rewrittenBelow named = [(line, [])] ↔ named = [(line, [])] := by
    intro named line
    cases named with
    | nil => simp [rewrittenBelow]
    | cons part rest =>
        obtain ⟨name, under⟩ := part
        simp [rewrittenBelow]
  simp only [HasFields, same, single]

theorem hasFields_append {parts : List (String × List String)} {last : String}
    {under : List String}
    (unnamed : ∀ field ∈ modelFields, entryName last ≠ some field.1.toList) :
    HasFields (parts ++ [(last, under)]) ↔ HasFields parts := by
  have same : ∀ field ∈ modelFields,
      partsNamed field (parts ++ [(last, under)]) = partsNamed field parts := by
    intro field inField
    rw [partsNamed, List.filter_append, List.filter_singleton]
    simp [partsNamed, beq_false_of_ne (unnamed field inField)]
  constructor
  · intro fields field inField
    rw [← same field inField]
    exact fields field inField
  · intro fields field inField
    rw [same field inField]
    exact fields field inField

theorem missingLines_eq_nil :
    missingLines modelFields block = [] ↔
      ∀ field ∈ modelFields, block.any (startsField field) = true := by
  rw [missingLines, List.map_eq_nil_iff, List.filter_eq_nil_iff]
  apply forall₂_congr
  intro field _
  rw [beq_iff_eq, List.countP_eq_zero]
  simp

theorem hasFields_one (uniform : ∀ line ∈ block, 1 ≤ indentation line)
    (opens : sections indentation 1 block ≠ []) :
    HasFields (sections indentation 1 (updatedModel block)) ↔
      HasFields (sections indentation 1 block) ∧
        ((∀ field ∈ modelFields, block.any (startsField field) = true) ∨
          ∀ part, (sections indentation 1 block).getLast? = some part →
            ∀ field ∈ modelFields, entryName part.1 ≠ some field.1.toList) := by
  rw [← missingLines_eq_nil, updatedModel, updatedBlock]
  by_cases complete : missingLines modelFields block = []
  · rw [complete, List.append_nil, sections_one, hasFields_rewrittenBelow]
    simp
  · obtain ⟨initial, ⟨last, under⟩, isParts⟩ :=
      (List.eq_nil_or_concat (sections indentation 1 block)).resolve_left opens
    have deeper : ∀ line ∈ missingLines modelFields block, 1 < indentation line := by
      intro line member
      obtain ⟨field, inField, _, rfl⟩ := mem_missingLines.mp member
      rw [(fieldLine_reads inField).2.1]
      decide
    have flat : ∀ line ∈ block.map (writeFields modelFields), 1 ≤ indentation line := by
      intro line member
      obtain ⟨before, inside, rfl⟩ := List.mem_map.mp member
      rw [indentation_writeFields]
      exact uniform before inside
    have rewritten : sections indentation 1 (block.map (writeFields modelFields)) =
        rewrittenBelow initial ++ [(last, under.map (writeFields modelFields))] := by
      rw [sections_one, isParts, rewrittenBelow, List.concat_eq_append, List.map_append]
      rfl
    rw [sections_append_deeper flat deeper rewritten, isParts, List.concat_eq_append,
      List.getLast?_concat]
    constructor
    · intro fields
      have unnamed : ∀ field ∈ modelFields, entryName last ≠ some field.1.toList := by
        intro field inField named
        obtain ⟨line, isLine, _⟩ := fields field inField
        have inParts : (last, under.map (writeFields modelFields) ++
            missingLines modelFields block) ∈ partsNamed field (rewrittenBelow initial ++
              [(last, under.map (writeFields modelFields) ++
                missingLines modelFields block)]) :=
          mem_partsNamed.mpr ⟨List.mem_append_right _ (List.mem_singleton_self _), named⟩
        rw [isLine] at inParts
        have nothing := congrArg Prod.snd (List.mem_singleton.mp inParts)
        exact complete (List.append_eq_nil_iff.mp nothing).2
      rw [hasFields_append unnamed, hasFields_rewrittenBelow] at fields
      rw [hasFields_append unnamed]
      refine ⟨fields, .inr ?_⟩
      rintro part isLast
      cases isLast
      exact unnamed
    · rintro ⟨fields, isComplete | unnamed⟩
      · exact absurd isComplete complete
      · have lastUnnamed := unnamed _ rfl
        rw [hasFields_append lastUnnamed] at fields ⊢
        exact (hasFields_rewrittenBelow initial).mpr fields

end OneSpace

theorem blockLevel_cons (line : String) (rest : List String) :
    blockLevel (line :: rest) = indentation line :=
  rfl

theorem blockLevel_updatedModel {block : List String} (nonempty : block ≠ []) :
    blockLevel (updatedModel block) = blockLevel block := by
  cases block with
  | nil => exact absurd rfl nonempty
  | cons line rest =>
      rw [updatedModel, updatedBlock, List.map_cons, List.cons_append, blockLevel_cons,
        blockLevel_cons, indentation_writeFields]

theorem isUniform_updatedModel {block : List String} (nonempty : block ≠ [])
    (uniform : IsUniform block) :
    IsUniform (updatedModel block) ↔
      blockLevel block ≤ 2 ∨ missingLines modelFields block = [] := by
  rw [IsUniform, blockLevel_updatedModel nonempty, updatedModel, updatedBlock,
    List.forall_mem_append]
  have rewritten : ∀ line ∈ block.map (writeFields modelFields),
      blockLevel block ≤ indentation line := by
    intro line member
    obtain ⟨before, inside, rfl⟩ := List.mem_map.mp member
    rw [indentation_writeFields]
    exact uniform before inside
  constructor
  · rintro ⟨_, missing⟩
    cases isMissing : missingLines modelFields block with
    | nil => exact .inr rfl
    | cons line rest =>
        have inside : line ∈ missingLines modelFields block := by
          rw [isMissing]
          exact List.mem_cons_self ..
        obtain ⟨field, inField, _, rfl⟩ := mem_missingLines.mp inside
        have atLeast := missing _ inside
        rw [(fieldLine_reads inField).2.1] at atLeast
        exact .inl atLeast
  · intro small
    refine ⟨rewritten, fun line member => ?_⟩
    rcases small with low | none_
    · obtain ⟨field, inField, _, rfl⟩ := mem_missingLines.mp member
      rw [(fieldLine_reads inField).2.1]
      exact low
    · rw [none_] at member
      cases member

theorem missingLines_of_deep {block : List String}
    (deep : ∀ line ∈ block, 3 ≤ indentation line) :
    missingLines modelFields block ≠ [] := by
  have inField : ("provider", "nvidia") ∈ modelFields := List.mem_cons_self ..
  have absent : block.countP (startsField ("provider", "nvidia")) = 0 := by
    rw [List.countP_eq_zero]
    intro line member starts
    have three := deep line member
    rw [(startsField_reads inField starts).2.1] at three
    omega
  exact List.ne_nil_of_mem (mem_missingLines.mpr ⟨_, inField, absent, rfl⟩)

theorem configured_updatedModel_nil : Configured (updatedModel []) := by
  refine ⟨by decide, ?_⟩
  intro field inField
  have fields : ∀ field ∈ modelFields,
      partsNamed field (sections indentation (blockLevel (updatedModel []))
          (updatedModel [])) = [(fieldLine field, [])] ∧
        entryValue (fieldLine field) = some field.2.toList := by
    decide
  exact ⟨_, fields field inField⟩

theorem configured_updatedModel_iff {block : List String} (uniform : IsUniform block)
    (indented : ∀ line ∈ block, 0 < indentation line)
    (once : ∀ field ∈ modelFields, block.countP (startsField field) ≤ 1) :
    Configured (updatedModel block) ↔
      block = [] ∨ TwoSpaces block ∨ AlreadyThere block := by
  by_cases nonempty : block = []
  · subst nonempty
    exact ⟨fun _ => .inl rfl, fun _ => configured_updatedModel_nil⟩
  have configured : Configured (updatedModel block) ↔
      IsUniform (updatedModel block) ∧
        HasFields (sections indentation (blockLevel block) (updatedModel block)) := by
    rw [← blockLevel_updatedModel nonempty]
    exact ⟨fun both => ⟨both.uniform, both.fields⟩, fun both => ⟨both.1, both.2⟩⟩
  have positive : 0 < blockLevel block := by
    cases block with
    | nil => exact absurd rfl nonempty
    | cons line rest => exact indented line (List.mem_cons_self ..)
  rw [configured, isUniform_updatedModel nonempty uniform]
  match isLevel : blockLevel block with
  | 0 => omega
  | 1 =>
      have opens : sections indentation 1 block ≠ [] := by
        cases block with
        | nil => exact absurd rfl nonempty
        | cons line rest =>
            intro none_
            exact sections_eq_nil.mp none_ line (List.mem_cons_self ..) isLevel
      have flat : ∀ line ∈ block, 1 ≤ indentation line := by
        intro line member
        rw [← isLevel]
        exact uniform line member
      rw [hasFields_one flat opens]
      constructor
      · rintro ⟨_, fields, rest⟩
        exact .inr (.inr ⟨isLevel, ⟨uniform, by rwa [isLevel]⟩, rest⟩)
      · rintro (empty | two | there)
        · exact absurd empty nonempty
        · rw [two.1] at isLevel
          cases isLevel
        · obtain ⟨_, before, rest⟩ := there
          have fields := before.fields
          rw [isLevel] at fields
          exact ⟨.inl (by omega), fields, rest⟩
  | 2 =>
      rw [sections_updatedModel]
      constructor
      · rintro ⟨_, fields⟩
        exact .inr (.inl ⟨isLevel, fun part member field inField =>
          recognised_of_hasFields fields member inField⟩)
      · rintro (empty | two | there)
        · exact absurd empty nonempty
        · exact ⟨.inl (Nat.le_refl 2), hasFields_of_recognised once two.2⟩
        · rw [there.1] at isLevel
          cases isLevel
  | level + 3 =>
      have deep : ∀ line ∈ block, 3 ≤ indentation line := by
        intro line member
        have atLeast := uniform line member
        omega
      have missing := missingLines_of_deep deep
      constructor
      · rintro ⟨low | none_, _⟩
        · omega
        · exact absurd none_ missing
      · rintro (empty | two | there)
        · exact absurd empty nonempty
        · rw [two.1] at isLevel
          cases isLevel
        · rw [there.1] at isLevel
          cases isLevel

end NvidiaBuildLb.Hermes
