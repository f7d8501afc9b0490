import ApiAccord.Comparison
import ApiAccord.Extraction
import ApiAccord.Spec.Loading

/-!
# Checking code

`checkCode` asks whether everything that code calls is declared by a specification, and `checkSides`
whether everything that a frontend calls is served by a backend.  Code can be text, or features that
were found before.  Text in which nothing can be found counts as code without features, and its side
is named in the result.
-/

namespace ApiAccord

/-- Code to be checked. -/
inductive Code where
  /-- A value that should be source text. -/
  | source (text : Value)
  /-- Features that were found before, and whether some of the code could not be analysed. -/
  | found (features : FeatureSet) (degraded : Bool)

/-- How code is analysed. -/
structure Analysis where
  extractor : Extractor
  config : ExtractionConfig

/-- The features of code on one side of a comparison. -/
structure Side where
  label : String
  features : FeatureSet
  /-- Whether some of the code could not be analysed. -/
  degraded : Bool

namespace Side

/-- Analyses the code of a side; a notice says when that came to nothing. -/
def ofCode (a : Analysis) (label : String) : Code → Noted Side
  | .found features degraded => pure ⟨label, features, degraded⟩
  | .source text => do
    let e := extract a.extractor a.config text none (some label)
    Noted.note e.log
    return ⟨label, e.features, e.notice.isSome⟩

/-- What a side shows to the other one. -/
def surface (s : Side) : Surface := .ofFeatures s.label s.features Surface.defaultWindow

end Side

/-- The labels of the sides of which not all could be analysed. -/
def degradedLabels (sides : List Side) : List String := (sides.filter (·.degraded)).map (·.label)

/-- Checks that every endpoint which code uses is declared by a specification. -/
def checkCode (a : Analysis) (o : CheckOptions) (label : String) (code : Code) (spec : Spec) :
    Noted Validation := do
  let side ← Side.ofCode a label code
  Noted.note (Comparison.notices o)
  return .ofComparison
    (compare o side.surface (.ofSpec "spec" spec) none (degradedLabels [side]))

/-- Compares the endpoints that a frontend calls with those that a backend serves. -/
def checkSides (a : Analysis) (o : CheckOptions) (frontend backend : Code) (spec : Option Spec) :
    Noted Comparison := do
  let front ← Side.ofCode a "frontend" frontend
  let back ← Side.ofCode a "backend" backend
  Noted.note (Comparison.notices o)
  return compare o front.surface back.surface spec (degradedLabels [front, back])

end ApiAccord
