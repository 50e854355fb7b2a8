import Mathlib.Data.List.DropRight
import NvidiaBuildLb.Foundation.Outline
import NvidiaBuildLb.Hermes.Configuration

namespace NvidiaBuildLb.Hermes

open Foundation NvidiaBuildLb.Core

/-! Block mappings by indentation: which lines of a configuration are entries,
and what key and value an entry has. -/

def indentation (line : String) : Nat :=
  (line.toList.takeWhile (· == ' ')).length

def content (line : String) : List Char :=
  line.toList.dropWhile (· == ' ')

/-- Neither blank nor a comment. -/
def isEntry (line : String) : Bool :=
  match content line with
  | [] => false
  | first :: _ => first != '#'

def isRoot (line : String) : Bool :=
  isEntry line && indentation line == 0

/-- The text in front of the colon that ends a key, and the text behind it. -/
def cutEntry : List Char → Option (List Char × List Char)
  | [] => none
  | [':'] => some ([], [])
  | ':' :: ' ' :: rest => some ([], ' ' :: rest)
  | character :: rest =>
      (cutEntry rest).map fun cut => (character :: cut.1, cut.2)

def trimSpaces (text : List Char) : List Char :=
  (text.dropWhile (· == ' ')).rdropWhile (· == ' ')

/-- The text between quotes; between double quotes an escape is not read. -/
def unquote : List Char → Option (List Char)
  | '"' :: rest =>
      if rest.getLast? = some '"' ∧ '\\' ∉ rest then some rest.dropLast else none
  | '\'' :: rest =>
      if rest.getLast? = some '\'' then some rest.dropLast else none
  | text => some text

def withoutComment : List Char → List Char
  | [] => []
  | ' ' :: '#' :: _ => []
  | character :: rest => character :: withoutComment rest

def entryName (line : String) : Option (List Char) :=
  (cutEntry (content line)).bind fun cut => unquote (trimSpaces cut.1)

/-- What stands on the line behind the key. -/
def inlineText (line : String) : Option (List Char) :=
  (cutEntry (content line)).map fun cut => trimSpaces (withoutComment cut.2)

def entryValue (line : String) : Option (List Char) :=
  (inlineText line).bind unquote

def blockEntries (entries : List String) : List String :=
  (entries.takeWhile fun line => !isRoot line).filter isEntry

def isModelEntry (line : String) : Bool :=
  isRoot line && entryName line == some "model".toList

def modelBlock : List String → List String
  | [] => []
  | line :: rest =>
      if isModelEntry line then blockEntries rest else modelBlock rest

/-- The lines but for the root entry `model` and what is under it. -/
def outsideModel : List String → List String
  | [] => []
  | line :: rest =>
      if isModelEntry line then
        rest.dropWhile fun line => !isRoot line
      else
        line :: outsideModel rest

def blockLevel (block : List String) : Nat :=
  outlineLevel indentation block

/-- No entry of the block stands left of the first one. -/
def IsUniform (block : List String) : Prop :=
  ∀ line ∈ block, blockLevel block ≤ indentation line

instance (block : List String) : Decidable (IsUniform block) :=
  inferInstanceAs (Decidable (∀ line ∈ block, blockLevel block ≤ indentation line))

/-- A block mapping: root keys at column 0, each once, and the entries under a
root key at one deeper indentation or below each other. -/
structure IsBlockMapping (entries : List String) : Prop where
  oneBreak : ∀ line ∈ entries, '\r' ∉ line.toList
  outer : ∀ line ∈ entries.find? isEntry, isRoot line = true
  keys : ∀ line ∈ entries, isRoot line = true → (entryName line).isSome = true
  distinct : ((entries.filter isRoot).map entryName).Nodup
  uniform : ∀ rest ∈ entries.tails, ∀ line ∈ rest.head?, isRoot line = true →
    IsUniform (blockEntries rest.tail)
  modelKeys : ∀ line ∈ modelBlock entries,
    indentation line = blockLevel (modelBlock entries) →
      (entryName line).isSome = true

def partsNamed (field : String × String) (parts : List (String × List String)) :
    List (String × List String) :=
  parts.filter fun part => entryName part.1 == some field.1.toList

/-- Each field has one part, with its value and nothing below. -/
def HasFields (parts : List (String × List String)) : Prop :=
  ∀ field ∈ modelFields, ∃ line, partsNamed field parts = [(line, [])] ∧
    entryValue line = some field.2.toList

/-- The block has the three fields with the requested values, each once at the
indentation of the block and with nothing below. -/
structure Configured (block : List String) : Prop where
  uniform : IsUniform block
  fields : HasFields (sections indentation (blockLevel block) block)

/-- The output has one root entry `model`, which has the requested fields, and
every other line that was there, blank lines aside. -/
structure Intended (existing output : List String) : Prop where
  once : ∃ header, output.filter isModelEntry = [header] ∧
    inlineText header = some []
  configured : Configured (modelBlock output)
  kept : (outsideModel output).filter (fun line => !(content line).isEmpty) =
    (outsideModel existing).filter (fun line => !(content line).isEmpty)

def fieldStart (field : String × String) : String :=
  "  " ++ field.1 ++ ":"

def startsField (field : String × String) (line : String) : Bool :=
  startsWith line (fieldStart field)

/-- Two spaces in front of each child, the fields written without a space or
quotes before their colon, and nothing below them. -/
def TwoSpaces (block : List String) : Prop :=
  blockLevel block = 2 ∧
    ∀ part ∈ sections indentation 2 block, ∀ field ∈ modelFields,
      (entryName part.1 = some field.1.toList → startsField field part.1 = true) ∧
        (startsField field part.1 = true → part.2 = [])

/-- One space in front of each child: what `update_yaml` writes goes below a
child, and does no harm where the fields are there and another child is last. -/
def AlreadyThere (block : List String) : Prop :=
  blockLevel block = 1 ∧ Configured block ∧
    ((∀ field ∈ modelFields, block.any (startsField field) = true) ∨
      ∀ part, (sections indentation 1 block).getLast? = some part →
        ∀ field ∈ modelFields, entryName part.1 ≠ some field.1.toList)

structure Recognised (entries : List String) : Prop where
  header : ∀ line ∈ entries, isModelEntry line = true →
    ∃ spaces, line.toList = "model:".toList ++ List.replicate spaces ' '
  block : modelBlock entries = [] ∨ TwoSpaces (modelBlock entries) ∨
    AlreadyThere (modelBlock entries)

end NvidiaBuildLb.Hermes
