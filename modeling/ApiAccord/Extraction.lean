import ApiAccord.Feature.Matching
import ApiAccord.Script.Features
import ApiAccord.Settings.Basic

/-!
# Extraction

`extract` finds the features of anything that is given for source text.  It always has an answer:
where nothing can be found it is the empty set, with a notice that says why.
-/

namespace ApiAccord

/-- The ways to find features. -/
inductive Extractor where
  /-- By patterns, in the text of any language. -/
  | patterns
  /-- In the syntax tree of a Python program. -/
  | syntaxTree
deriving DecidableEq, Repr

namespace Extractor

def name : Extractor → String
  | .patterns => "pattern"
  | .syntaxTree => "python-ast"

/-- The features of a text, if the way is open for it. -/
def features (x : Extractor) (cfg : ExtractionConfig) (text : String) :
    Except Script.Refusal FeatureSet :=
  match x with
  | .patterns => .ok (FeatureSet.ofPatterns cfg text.toList.toArray)
  | .syntaxTree => Script.features text

end Extractor

/-- The features that were found, and a notice if the analysis came to nothing. -/
structure Extraction where
  features : FeatureSet
  notice : Option String

namespace Extraction

/-- An analysis that came to nothing. -/
def degraded (notice : String) : Extraction := ⟨.empty, some notice⟩

/-- The notice as a log has it. -/
def logLine (notice : String) : String := "Analysis degraded: " ++ notice

/-- The lines that the extraction adds to a log. -/
def log (e : Extraction) : List String := e.notice.toList.map logLine

end Extraction

/-- The first of some names that is not empty. -/
def firstName (names : List (Option String)) (default : String) : String :=
  ((names.filterMap id).find? (· != "")).getD default

/-- Finds the features of a value given for source text.  `file` is noted with each feature; `file`
and `side` name the text in notices. -/
def extract (x : Extractor) (cfg : ExtractionConfig) (text : Value) (file side : Option String) :
    Extraction :=
  let label := firstName [file, side] "source"
  match text.str? with
  | none => .degraded s!"Cannot analyse {label}: expected text, got {text.kindName}"
  | some s =>
    let n := s.length
    if cfg.maxInputChars < n then
      .degraded (s!"Cannot analyse {label}: {n} characters exceeds the limit of " ++
        toString cfg.maxInputChars)
    else match x.features cfg s with
      | .error _ => .degraded s!"{x.name} extractor failed on {label}"
      | .ok fs =>
        if fs.isEmpty && !Text.isBlankText s then
          .degraded s!"No interface features found in {label}"
        else
          ⟨match file with
            | some f => fs.inFile f
            | none => fs, none⟩

end ApiAccord
