import NvidiaBuildLb.Hermes.Records

namespace NvidiaBuildLb.Hermes

open NvidiaBuildLb.Core

/-! The two configuration files of Hermes and how a cutover rewrites them. -/

/-- The lines joined by line feeds, with one more at the end. -/
def unlines (entries : List String) : String :=
  "\n".intercalate entries ++ "\n"

/-- The name in front of the first equals sign. -/
def variableName (line : String) : Option String :=
  if line.toList.contains '=' then
    some (String.ofList (trim (line.toList.takeWhile (· != '='))))
  else
    none

def updateDotenv (existing key value : String) : String :=
  let entry := key ++ "=" ++ value
  let existingLines := lines existing
  let replaced := existingLines.map fun line =>
    if variableName line = some key then entry else line
  unlines <|
    if existingLines.any fun line => variableName line = some key then
      replaced
    else
      replaced ++ [entry]

def trimEnd (text : List Char) : List Char :=
  (text.reverse.dropWhile isWhitespace).reverse

def startsWithWhitespace (line : String) : Bool :=
  match line.toList with
  | [] => false
  | character :: _ => isWhitespace character

/-- Sets one field of the mapping that spans the lines from `first` up to
`insertAt`. -/
def setModelField (first : Nat) (state : List String × Nat)
    (field : String × String) : Except Failure (List String × Nat) :=
  let (entries, insertAt) := state
  let start := "  " ++ field.1 ++ ":"
  let line := "  " ++ field.1 ++ ": " ++ field.2
  let found := (List.range' first (insertAt - first)).filter fun index =>
    startsWith (entries.getD index "") start
  match found with
  | [] => .ok (entries.insertIdx insertAt line, insertAt + 1)
  | [index] => .ok (entries.set index line, insertAt)
  | _ =>
      .error (.bail ("Hermes model mapping contains duplicate " ++ field.1 ++
        " fields"))

def modelFields : List (String × String) := [
  ("provider", "nvidia"),
  ("default", "z-ai/glm-5.2"),
  ("base_url", "http://127.0.0.1:2456/v1")]

def isModelHeader (line : String) : Bool :=
  trimEnd line.toList == "model:".toList

/-- The lines with a root `model:` line, and the index of that line. -/
def withModelHeader (entries : List String) : List String × Nat :=
  match entries.findIdx? isModelHeader with
  | some index => (entries, index)
  | none =>
      let spaced :=
        if (entries.getLast?).any fun line => !line.isEmpty then
          entries ++ [""]
        else
          entries
      (spaced ++ ["model:"], spaced.length)

def updateYaml (existing : String) : Except Failure String := do
  if (lines existing).any fun line => line.toList.contains '\t' then
    throw (.bail "Hermes YAML must not use tab indentation")
  let (entries, start) := withModelHeader (lines existing)
  if startsWithWhitespace (entries.getD start "") then
    throw (.bail "Hermes model mapping must be at the YAML root")
  let inMapping := (entries.drop (start + 1)).takeWhile fun line =>
    line.isEmpty || startsWith line " " || startsWith line "#"
  let (updated, _) ← modelFields.foldlM (setModelField (start + 1))
    (entries, start + 1 + inMapping.length)
  return unlines updated

example :
    updateYaml "model:\n  provider: old\nother: true\n" =
      .ok ("model:\n  provider: nvidia\n  default: z-ai/glm-5.2\n" ++
        "  base_url: http://127.0.0.1:2456/v1\nother: true\n") := by
  decide +kernel

end NvidiaBuildLb.Hermes
