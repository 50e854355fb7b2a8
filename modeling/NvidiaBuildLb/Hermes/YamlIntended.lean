import Mathlib.Data.List.Infix
import NvidiaBuildLb.Hermes.YamlChildren

namespace NvidiaBuildLb.Hermes

open Foundation NvidiaBuildLb.Core

/-! When the updated configuration is the intended one. -/

theorem toList_unlines {entries : List String} (nonempty : entries ≠ []) :
    (unlines entries).toList =
      (entries.map String.toList).flatMap fun line => line ++ ['\n'] := by
  rw [unlines, String.toList_append]
  induction entries with
  | nil => exact absurd rfl nonempty
  | cons line rest induction =>
      cases rest with
      | nil => simp
      | cons next others =>
          rw [String.intercalate_cons_cons, List.map_cons, List.flatMap_cons,
            ← induction (List.cons_ne_nil _ _)]
          simp

/-- A line without a break or a tab in it. -/
def IsPlain (line : String) : Prop :=
  '\n' ∉ line.toList ∧ '\r' ∉ line.toList ∧ '\t' ∉ line.toList

instance (line : String) : Decidable (IsPlain line) :=
  inferInstanceAs (Decidable (_ ∧ _))

theorem lines_unlines {entries : List String} (nonempty : entries ≠ [])
    (plain : ∀ line ∈ entries, IsPlain line) : lines (unlines entries) = entries := by
  have each : ∀ line ∈ entries.map String.toList, '\n' ∉ line ∧ '\r' ∉ line := by
    intro line member
    obtain ⟨entry, inside, rfl⟩ := List.mem_map.mp member
    exact ⟨(plain entry inside).1, (plain entry inside).2.1⟩
  rw [lines, toList_unlines nonempty, linesFrom_flatMap each, List.map_map]
  conv_rhs => rw [← List.map_id entries]
  apply List.map_congr_left
  intro line _
  exact String.ofList_toList

theorem hasTab_unlines {entries : List String} (nonempty : entries ≠ [])
    (plain : ∀ line ∈ entries, IsPlain line) : hasTab (unlines entries) = false := by
  rw [hasTab, lines_unlines nonempty plain, List.any_eq_false]
  intro line member
  simpa using (plain line member).2.2

theorem isPlain_fieldLine : ∀ field ∈ modelFields, IsPlain (fieldLine field) := by
  decide

theorem isPlain_updatedModel {block : List String}
    (plain : ∀ line ∈ block, IsPlain line) :
    ∀ line ∈ updatedModel block, IsPlain line := by
  intro line member
  rcases List.mem_append.mp member with rewritten | missing
  · obtain ⟨before, inside, rfl⟩ := List.mem_map.mp rewritten
    rcases writeFields_cases before with ⟨_, same⟩ | ⟨field, inField, _, written⟩
    · rw [same]
      exact plain before inside
    · rw [written]
      exact isPlain_fieldLine field inField
  · obtain ⟨field, inField, _, rfl⟩ := mem_missingLines.mp missing
    exact isPlain_fieldLine field inField

/-- The lines up to the next root entry. -/
def blockLines (rest : List String) : List String :=
  rest.takeWhile fun line => !isRoot line

def behindBlock (rest : List String) : List String :=
  rest.dropWhile fun line => !isRoot line

theorem updateYaml_eq_ok {text output : String} (updated : updateYaml text = .ok output) :
    hasTab text = false ∧ ∃ before header rest,
      Located (lines text) before header rest ∧
        (∀ field ∈ modelFields,
          (blockLines rest).countP (startsField field) ≤ 1) ∧
        output = unlines (before ++ header :: updatedModel (blockLines rest) ++
          behindBlock rest) := by
  have noTab : hasTab text = false := by
    rw [← Bool.not_eq_true]
    intro tab
    have failed : ∃ failure, updateYaml text = .error failure := by
      simp only [updateYaml]
      rw [← hasTab, tab]
      exact ⟨_, rfl⟩
    obtain ⟨failure, isError⟩ := failed
    rw [isError] at updated
    cases updated
  obtain ⟨before, header, rest, located, isHeader⟩ := located_withModelHeader (lines text)
  rw [updateYaml_of_header isHeader located.isHeader noTab] at updated
  refine ⟨noTab, before, header, rest, located, ?_⟩
  cases fields : modelFields.foldlM setField (rest.takeWhile fun line => !isRoot line) with
  | error failure =>
      rw [fields] at updated
      cases updated
  | ok changed =>
      rw [fields] at updated
      cases updated
      obtain ⟨once, rfl⟩ := (foldlM_setField nodup_modelFields apart_modelFields).mp fields
      exact ⟨once, rfl⟩

theorem isRoot_updatedModel {block : List String}
    (inner : ∀ line ∈ block, isRoot line = false) :
    ∀ line ∈ updatedModel block, isRoot line = false := by
  intro line member
  rcases List.mem_append.mp member with rewritten | missing
  · obtain ⟨before, inside, rfl⟩ := List.mem_map.mp rewritten
    have same := inner before inside
    rw [isRoot] at same ⊢
    rw [isEntry_writeFields, indentation_writeFields]
    exact same
  · obtain ⟨field, inField, _, rfl⟩ := mem_missingLines.mp missing
    rw [isRoot, (fieldLine_reads inField).2.1]
    simp

theorem isRoot_blockLines {rest : List String} :
    ∀ line ∈ blockLines rest, isRoot line = false := by
  intro line member
  simpa using List.mem_takeWhile_imp member

theorem blockLines_append {block : List String} (rest : List String)
    (inner : ∀ line ∈ block, isRoot line = false) :
    blockLines (block ++ behindBlock rest) = block ∧
      behindBlock (block ++ behindBlock rest) = behindBlock rest := by
  have test : ∀ line ∈ block, (!isRoot line) = true := by
    intro line member
    rw [inner line member]
    rfl
  have stops : blockLines (behindBlock rest) = [] ∧
      behindBlock (behindBlock rest) = behindBlock rest := by
    refine ⟨?_, List.dropWhile_idempotent (fun line => !isRoot line) rest⟩
    rw [blockLines, behindBlock, List.takeWhile_eq_nil_iff]
    exact List.dropWhile_get_zero_not (fun line => !isRoot line) rest
  constructor
  · rw [blockLines, List.takeWhile_append_of_pos test, ← blockLines, stops.1,
      List.append_nil]
  · rw [behindBlock, List.dropWhile_append_of_pos test]
    exact stops.2

theorem countP_entries {field : String × String} {block : List String}
    (inField : field ∈ modelFields) :
    (block.filter isEntry).countP (startsField field) =
      block.countP (startsField field) := by
  rw [List.countP_filter]
  apply List.countP_congr
  intro line _
  rw [Bool.and_eq_true, and_iff_left_iff_imp]
  exact fun starts => (startsField_reads inField starts).1

theorem filter_updatedModel (block : List String) :
    (updatedModel block).filter isEntry = updatedModel (block.filter isEntry) := by
  have same : isEntry ∘ writeFields modelFields = isEntry := by
    funext line
    rw [Function.comp_apply, isEntry_writeFields]
  have missing : (missingLines modelFields block).filter isEntry =
      missingLines modelFields block := by
    rw [List.filter_eq_self]
    intro line member
    obtain ⟨field, inField, _, rfl⟩ := mem_missingLines.mp member
    exact (fieldLine_reads inField).1
  have counts : missingLines modelFields (block.filter isEntry) =
      missingLines modelFields block :=
    missingLines_congr fun field inField => countP_entries inField
  rw [updatedModel, updatedModel, updatedBlock, updatedBlock, List.filter_append,
    List.filter_map, same, missing, counts]

theorem blockEntries_updatedModel (rest : List String) :
    blockEntries (updatedModel (blockLines rest) ++ behindBlock rest) =
      updatedModel (blockEntries rest) := by
  rw [blockEntries, ← blockLines,
    (blockLines_append rest (isRoot_updatedModel isRoot_blockLines)).1,
    filter_updatedModel, blockEntries, blockLines]

theorem cutEntry_none {text : List Char} (noColon : ':' ∉ text) : cutEntry text = none := by
  cases cut : cutEntry text with
  | none => rfl
  | some parts =>
      refine absurd ?_ noColon
      rw [cutEntry_eq_some cut]
      simp

theorem isModelHeader_of_spaces {line : String} {spaces : Nat}
    (isLine : line.toList = "model:".toList ++ List.replicate spaces ' ') :
    isModelHeader line = true := by
  have blank : ∀ character ∈ List.replicate spaces ' ', isWhitespace character = true := by
    intro character member
    rw [List.eq_of_mem_replicate member]
    decide
  rw [isModelHeader, trimEnd, isLine, List.reverse_append, List.reverse_replicate,
    List.dropWhile_append_of_pos blank]
  decide

theorem trimSpaces_eq_nil {text : List Char} :
    trimSpaces text = [] ↔ ∃ spaces, text = List.replicate spaces ' ' := by
  rw [trimSpaces, List.rdropWhile_eq_nil_iff]
  constructor
  · intro blank
    have nothing : text.dropWhile (· == ' ') = [] := by
      by_contra nonempty
      have positive := List.length_pos_iff.mpr nonempty
      exact List.dropWhile_get_zero_not (· == ' ') text positive
        (blank _ (List.get_mem _ _))
    refine ⟨text.length, List.eq_replicate_of_mem fun character member => ?_⟩
    exact eq_of_beq (List.dropWhile_eq_nil_iff.mp nothing character member)
  · rintro ⟨spaces, rfl⟩ character member
    have inside := (List.dropWhile_suffix _).subset member
    rw [List.eq_of_mem_replicate inside]
    rfl

theorem withoutComment_of_plain {text : List Char} (plain : '#' ∉ text) :
    withoutComment text = text := by
  induction text using withoutComment.induct with
  | case1 => rfl
  | case2 rest => simp at plain
  | case3 character rest apart induction =>
      rw [withoutComment, induction fun member => plain (List.mem_cons_of_mem _ member)]
      exact apart

theorem header_reads {line : String} (isHeader : isModelHeader line = true)
    (known : isRoot line = true → (entryName line).isSome = true) :
    isModelEntry line = true ∧
      (inlineText line = some [] ↔
        ∃ spaces, line.toList = "model:".toList ++ List.replicate spaces ' ') := by
  obtain ⟨spaces, isLine, blank⟩ := toList_of_isModelHeader isHeader
  have noColon : ':' ∉ spaces := fun member => absurd (blank ':' member) (by decide)
  have noComment : '#' ∉ spaces := fun member => absurd (blank '#' member) (by decide)
  have isContent : content line = "model:".toList ++ spaces := by
    rw [content, isLine]
    rfl
  have root : isRoot line = true := by
    rw [isRoot, isEntry, isContent, indentation, isLine]
    rfl
  have cut : cutEntry (content line) = some ("model".toList, spaces) := by
    rw [isContent]
    cases spaces with
    | nil => decide
    | cons first rest =>
        by_cases space : first = ' '
        · subst space
          rfl
        · have named := known root
          rw [entryName, isContent] at named
          simp [cutEntry, space, cutEntry_none noColon] at named
  have named : isModelEntry line = true := by
    rw [isModelEntry, root, entryName, cut]
    rfl
  refine ⟨named, ?_⟩
  rw [inlineText, cut, isLine, Option.map_some, withoutComment_of_plain noComment,
    Option.some.injEq, trimSpaces_eq_nil]
  simp only [List.append_cancel_left_eq]

section Entries

variable {before rest : List String} {header : String}

theorem modelBlock_found (first : ∀ line ∈ before, isModelEntry line = false)
    (isModel : isModelEntry header = true) :
    modelBlock (before ++ header :: rest) = blockEntries rest ∧
      outsideModel (before ++ header :: rest) = before ++ behindBlock rest := by
  induction before with
  | nil =>
      rw [List.nil_append, modelBlock, outsideModel, if_pos isModel, if_pos isModel]
      exact ⟨rfl, rfl⟩
  | cons line before induction =>
      obtain ⟨other, later⟩ := List.forall_mem_cons.mp first
      rw [List.cons_append, modelBlock, outsideModel, other, (induction later).1,
        (induction later).2]
      exact ⟨rfl, rfl⟩

theorem modelBlock_absent {entries : List String}
    (absent : ∀ line ∈ entries, isModelEntry line = false) :
    modelBlock entries = [] ∧ outsideModel entries = entries := by
  induction entries with
  | nil => exact ⟨rfl, rfl⟩
  | cons line entries induction =>
      obtain ⟨other, later⟩ := List.forall_mem_cons.mp absent
      rw [modelBlock, outsideModel, other, (induction later).1, (induction later).2]
      exact ⟨rfl, rfl⟩

theorem IsBlockMapping.model_unique
    (mapping : IsBlockMapping (before ++ header :: rest))
    (isModel : isModelEntry header = true) :
    (∀ line ∈ before, isModelEntry line = false) ∧
      ∀ line ∈ rest, isModelEntry line = false := by
  have distinct := mapping.distinct
  rw [isModelEntry, Bool.and_eq_true] at isModel
  rw [List.filter_append, List.filter_cons_of_pos isModel.1, List.map_append,
    List.map_cons] at distinct
  obtain ⟨fresh, _⟩ := List.nodup_cons.mp
    ((List.perm_middle.nodup_iff).mp distinct)
  have other : ∀ line, line ∈ before ∨ line ∈ rest → isModelEntry line = false := by
    intro line member
    rw [← Bool.not_eq_true, isModelEntry, Bool.and_eq_true]
    rintro ⟨root, named⟩
    apply fresh
    rw [eq_of_beq isModel.2, ← eq_of_beq named, ← List.map_append, ← List.filter_append]
    apply List.mem_map_of_mem
    rw [List.mem_filter, List.mem_append]
    exact ⟨member, root⟩
  exact ⟨fun line member => other line (.inl member),
    fun line member => other line (.inr member)⟩

theorem isModelEntry_updatedModel {block : List String}
    (inner : ∀ line ∈ block, isRoot line = false) :
    ∀ line ∈ updatedModel block, isModelEntry line = false := by
  intro line member
  rw [isModelEntry, isRoot_updatedModel inner line member]
  rfl

theorem filter_updated (first : ∀ line ∈ before, isModelEntry line = false)
    (isModel : isModelEntry header = true)
    (others : ∀ line ∈ rest, isModelEntry line = false) :
    (before ++ header :: (updatedModel (blockLines rest) ++ behindBlock rest)).filter
      isModelEntry = [header] := by
  have none_ : ∀ {entries : List String}, (∀ line ∈ entries, isModelEntry line = false) →
      entries.filter isModelEntry = [] := by
    intro entries absent
    rw [List.filter_eq_nil_iff]
    intro line member
    rw [absent line member]
    exact Bool.false_ne_true
  have behind : ∀ line ∈ behindBlock rest, isModelEntry line = false :=
    fun line member => others line ((List.dropWhile_suffix _).subset member)
  rw [List.filter_append, none_ first, List.filter_cons_of_pos isModel,
    List.filter_append, none_ (isModelEntry_updatedModel isRoot_blockLines),
    none_ behind]
  rfl

end Entries

theorem indented_blockEntries {rest : List String} :
    ∀ line ∈ blockEntries rest, 0 < indentation line := by
  intro line member
  obtain ⟨inside, isLine⟩ := List.mem_filter.mp member
  have inner := isRoot_blockLines line inside
  rw [isRoot, isLine, Bool.true_and, beq_eq_false_iff_ne] at inner
  exact Nat.pos_of_ne_zero inner

theorem IsBlockMapping.isUniform {before rest : List String} {header : String}
    (mapping : IsBlockMapping (before ++ header :: rest)) (root : isRoot header = true) :
    IsUniform (blockEntries rest) := by
  have suffix : header :: rest ∈ (before ++ header :: rest).tails :=
    (List.mem_tails _ _).mpr (List.suffix_append before _)
  exact mapping.uniform _ suffix header rfl root

theorem intended_found_iff {before rest : List String} {header : String}
    (mapping : IsBlockMapping (before ++ header :: rest))
    (isHeader : isModelHeader header = true)
    (once : ∀ field ∈ modelFields, (blockLines rest).countP (startsField field) ≤ 1) :
    Intended (before ++ header :: rest)
        (before ++ header :: (updatedModel (blockLines rest) ++ behindBlock rest)) ↔
      Recognised (before ++ header :: rest) := by
  obtain ⟨isModel, reads⟩ := header_reads isHeader
    (mapping.keys header (List.mem_append_right _ (List.mem_cons_self ..)))
  obtain ⟨first, others⟩ := mapping.model_unique isModel
  have root : isRoot header = true := (Bool.and_eq_true _ _ ▸ isModel).1
  have filtered := filter_updated first isModel others
  obtain ⟨isBlock, isOutside⟩ := @modelBlock_found before rest header first isModel
  obtain ⟨isUpdated, isKept⟩ := @modelBlock_found before
    (updatedModel (blockLines rest) ++ behindBlock rest) header first isModel
  rw [blockEntries_updatedModel] at isUpdated
  rw [(blockLines_append rest (isRoot_updatedModel isRoot_blockLines)).2] at isKept
  have children := configured_updatedModel_iff (mapping.isUniform root)
    indented_blockEntries fun field inField => by
      rw [blockEntries, ← blockLines, countP_entries inField]
      exact once field inField
  constructor
  · intro intended
    obtain ⟨found, isFound, bare⟩ := intended.once
    rw [filtered] at isFound
    cases isFound
    have configured := intended.configured
    rw [isUpdated] at configured
    refine ⟨?_, by rw [isBlock]; exact children.mp configured⟩
    intro line member named
    rcases List.mem_append.mp member with inBefore | inRest
    · rw [first line inBefore] at named
      cases named
    · rcases List.mem_cons.mp inRest with rfl | later
      · exact reads.mp bare
      · rw [others line later] at named
        cases named
  · intro recognised
    refine ⟨⟨header, filtered, reads.mpr (recognised.header header
      (List.mem_append_right _ (List.mem_cons_self ..)) isModel)⟩, ?_, ?_⟩
    · have block := recognised.block
      rw [isBlock] at block
      rw [isUpdated]
      exact children.mpr block
    · rw [isKept, isOutside]

theorem intended_added_iff {entries blank : List String}
    (absent : ∀ line ∈ entries, isModelHeader line = false)
    (isBlank : blank = [] ∨ blank = [""]) :
    Intended entries (entries ++ blank ++ "model:" :: (updatedModel [] ++ [])) ↔
      Recognised entries := by
  have blankEntry : ∀ line ∈ blank, isModelEntry line = false ∧ content line = [] := by
    intro line member
    rcases isBlank with rfl | rfl
    · cases member
    · rw [List.mem_singleton.mp member]
      decide
  constructor
  · intro intended
    obtain ⟨found, isFound, _⟩ := intended.once
    have none_ : ∀ line ∈ entries, isModelEntry line = false := by
      intro line member
      rw [← Bool.not_eq_true]
      intro named
      have two := congrArg List.length isFound
      have positive : 0 < (entries.filter isModelEntry).length :=
        List.length_pos_iff.mpr
          (List.ne_nil_of_mem (List.mem_filter.mpr ⟨member, named⟩))
      have isModel : isModelEntry "model:" = true := by decide
      rw [List.append_assoc, List.filter_append, List.length_append, List.filter_append,
        List.filter_cons_of_pos isModel, List.length_append, List.length_cons,
        List.length_singleton] at two
      omega
    refine ⟨?_, by rw [(modelBlock_absent none_).1]; exact .inl rfl⟩
    intro line member named
    rw [none_ line member] at named
    cases named
  · intro recognised
    have none_ : ∀ line ∈ entries, isModelEntry line = false := by
      intro line member
      rw [← Bool.not_eq_true]
      intro named
      obtain ⟨spaces, isLine⟩ := recognised.header line member named
      have isHeader := isModelHeader_of_spaces isLine
      rw [absent line member] at isHeader
      cases isHeader
    have first : ∀ line ∈ entries ++ blank, isModelEntry line = false := by
      intro line member
      rcases List.mem_append.mp member with inside | isLast
      · exact none_ line inside
      · exact (blankEntry line isLast).1
    have isModel : isModelEntry "model:" = true := by decide
    have filtered := @filter_updated (entries ++ blank) [] "model:" first isModel (by simp)
    obtain ⟨isUpdated, isKept⟩ := @modelBlock_found (entries ++ blank)
      (updatedModel [] ++ []) "model:" first isModel
    refine ⟨⟨"model:", filtered, by decide⟩, ?_, ?_⟩
    · have block : blockEntries (updatedModel [] ++ []) = updatedModel [] :=
        blockEntries_updatedModel []
      rw [isUpdated, block]
      exact configured_updatedModel_nil
    · have behind : behindBlock (updatedModel [] ++ []) = [] :=
        (blockLines_append [] (isRoot_updatedModel (@isRoot_blockLines []))).2
      have nothing : blank.filter (fun line => !(content line).isEmpty) = [] := by
        rw [List.filter_eq_nil_iff]
        intro line member
        rw [(blankEntry line member).2]
        decide
      rw [isKept, (modelBlock_absent none_).2, behind, List.append_nil,
        List.filter_append, nothing, List.append_nil]

def plainConfiguration : String :=
  "log: info\nmodel:\n  provider: custom\n  retries: 3\n# the end\ntools:\n    - shell\n"

def plainUpdated : String :=
  "log: info\nmodel:\n  provider: nvidia\n  retries: 3\n# the end\n" ++
    "  default: z-ai/glm-5.2\n  base_url: http://127.0.0.1:2456/v1\n" ++
    "tools:\n    - shell\n"

/-- A comment behind the header. -/
def commentedHeader : String :=
  "model: # the default one\n  provider: custom\n"

def commentedUpdated : String :=
  "model: # the default one\n  provider: custom\n\nmodel:\n  provider: nvidia\n" ++
    "  default: z-ai/glm-5.2\n  base_url: http://127.0.0.1:2456/v1\n"

end NvidiaBuildLb.Hermes
