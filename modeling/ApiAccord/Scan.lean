import ApiAccord.CodeCheck
import ApiAccord.Files.IgnorePattern
import ApiAccord.Workspace

/-!
# Scanning source trees

`Workspace.scan` finds the features of all source files below a folder, or of one file.  The walk
enters no folder that never holds sources and none that the ignore file of the top folder selects;
of the files on its way it takes those that the include patterns select and neither the exclude
patterns nor the ignore file do.

`FileTree.walk` goes through a tree, `Selector.wants` and `Selector.enters` decide, and
`Scan.ofFiles` analyses what was found, in the order of the paths.
-/

namespace ApiAccord

/-! ### Walking through a tree -/

namespace FileTree

/-- The files of a folder, by name. -/
def filesIn (t : FileTree) (place : FilePlace) : List (String × FileContent) :=
  (t.below place).filterMap fun
    | ([name], content) => some (name, content)
    | _ => none

/-- The names of the folders in a folder that hold files at some depth. -/
def foldersIn (t : FileTree) (place : FilePlace) : List String :=
  ((t.below place).filterMap fun
    | (name :: _ :: _, _) => some name
    | _ => none).eraseDups

/-- The files below a folder, with the steps to them from the top; `enters` says which folders are
gone into, no deeper than `depth`. -/
def walk (t : FileTree) (enters : List String → Bool) :
    (depth : Nat) → (steps : List String) → (place : FilePlace) → List (List String × FileContent)
  | 0, _, _ => []
  | depth + 1, steps, place =>
    ((t.filesIn place).map fun (name, content) => (steps ++ [name], content)) ++
      (t.foldersIn place).flatMap fun name =>
        if enters (steps ++ [name]) then
          t.walk enters depth (steps ++ [name]) (place ++ [name])
        else []

/-- A depth that no file exceeds. -/
def depth (t : FileTree) : Nat := (t.files.map fun f => f.1.length).foldl max 0

end FileTree

/-! ### Selecting files -/

/-- What decides which files are scanned. -/
structure Selector where
  wanted : List IgnorePattern
  unwanted : List IgnorePattern
  ignored : List IgnorePattern

namespace Selector

/-- The files that are wanted where nothing else is said. -/
def defaultWanted : List String :=
  ["**/*.py", "**/*.ts", "**/*.tsx", "**/*.js", "**/*.jsx", "**/*.java", "**/*.kt"]

/-- The folders that never hold sources. -/
def barren : List String :=
  ["__pycache__", ".git", ".tox", ".mypy_cache", ".ruff_cache", "node_modules", ".venv", "venv",
    "dist", "build"]

/-- The selector of the given patterns. -/
def ofLines (wanted unwanted ignored : List String) : Except PatternFlaw Selector := do
  return ⟨← IgnorePattern.ofLines (if wanted.isEmpty then defaultWanted else wanted),
    ← IgnorePattern.ofLines unwanted, ← IgnorePattern.ofLines ignored⟩

/-- Whether a folder is gone into. -/
def enters (s : Selector) (steps : List String) : Bool :=
  !barren.contains (steps.getLast?.getD "") &&
    !IgnorePattern.select s.ignored ("/".intercalate steps ++ "/")

/-- Whether a file that was come upon is scanned. -/
def wants (s : Selector) (steps : List String) : Bool :=
  let path := "/".intercalate steps
  !IgnorePattern.select s.ignored path && IgnorePattern.select s.wanted path &&
    !IgnorePattern.select s.unwanted path

end Selector

/-- The order of paths, step by step. -/
def stepsLe : List String → List String → Bool
  | [], _ => true
  | _ :: _, [] => false
  | a :: as, b :: bs => if a == b then stepsLe as bs else Text.le a b

/-! ### Analysing files -/

/-- What was found in a source tree. -/
structure Scan where
  features : FeatureSet
  /-- The files that were analysed. -/
  files : List String
  /-- Why other files were not. -/
  failures : List String

/-- How files are analysed. -/
structure ScanOptions where
  config : ExtractionConfig
  /-- Whether Python files are read as programs. -/
  syntaxTree : Bool

namespace Scan

/-- The ways to analyse a file, in the order in which they are tried. -/
def extractors (o : ScanOptions) (path : Path) : List Extractor :=
  if o.syntaxTree && path.suffix == ".py" then [.syntaxTree, .patterns] else [.patterns]

/-- The features that the first way which is open finds. -/
def firstFeatures (cfg : ExtractionConfig) (text : String) : List Extractor → Option FeatureSet
  | [] => none
  | x :: rest =>
    match x.features cfg text with
    | .ok fs => some fs
    | .error _ => firstFeatures cfg text rest

/-- The features of a file, or why it could not be analysed. -/
def ofFile (o : ScanOptions) (steps : List String) (content : FileContent) :
    Except String FeatureSet :=
  let name := "/".intercalate steps
  let text := Text.Utf8.readLoosely content.bytes
  let size := text.length
  if o.config.maxInputChars < size then
    .error (s!"Skipping {name}: {size} characters exceeds the limit of " ++
      toString o.config.maxInputChars)
  else match firstFeatures o.config text (extractors o ⟨"", steps⟩) with
    | some fs => .ok (fs.inFile name)
    | none => .error s!"No extractor could analyse {name}"

/-- Analyses files. -/
def ofFiles (o : ScanOptions) (files : List (List String × FileContent)) : Scan :=
  let results := files.map fun (steps, content) => (steps, ofFile o steps content)
  { features := .merge (results.filterMap fun r => r.2.toOption)
    files := results.filterMap fun (steps, r) =>
      match r with
      | .ok _ => some ("/".intercalate steps)
      | .error _ => none
    failures := results.filterMap fun (_, r) =>
      match r with
      | .ok _ => none
      | .error message => some message }

/-- The scan as code to be checked. -/
def toCode (s : Scan) : Code := .found s.features (!s.failures.isEmpty)

end Scan

namespace Workspace

/-- The lines of the ignore file in a folder. -/
def ignoreLines (ws : Workspace) (place : FilePlace) : List String :=
  match ws.files.content? (place ++ [".gitignore"]) with
  | some content =>
    (Text.Utf8.readLoosely content.bytes).splitToList Text.isLineEnd
  | none => []

/-- The files below a folder that a selector wants, in the order of their paths. -/
def sources (ws : Workspace) (s : Selector) (place : FilePlace) :
    List (List String × FileContent) :=
  let found := ws.files.walk s.enters ws.files.depth [] place
  (found.filter fun f => s.wants f.1).mergeSort fun a b => stepsLe a.1 b.1

/-- Scans a file or the files below a folder.  A file is scanned whatever the patterns say. -/
def scan (ws : Workspace) (o : ScanOptions) (wanted unwanted : List String) (path : Path) :
    Noted Scan :=
  match ws.fileAt? path with
  | some content => noting (.ofFiles o [([path.name], content)])
  | none =>
    match ws.files.folderAt? ws.here.steps path with
    | none => pure (.ofFiles o [])
    | some place =>
      match Selector.ofLines wanted unwanted (ws.ignoreLines place) with
      | .ok s => noting (.ofFiles o (ws.sources s place))
      | .error flaw => .fail (.badPattern flaw)
where
  /-- A scan with its failures for notices. -/
  noting (s : Scan) : Noted Scan := do
    Noted.note s.failures
    return s

end Workspace

end ApiAccord
