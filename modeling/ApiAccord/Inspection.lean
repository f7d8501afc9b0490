import ApiAccord.CodeCheck
import ApiAccord.Library

/-!
# Inspections

An inspection loads the specification that it needs and then checks code.  Only loading can fail;
code in which nothing can be found is noted in the result.
-/

namespace ApiAccord.Library

/-- Checks that every endpoint which code uses is declared by the specification of a source. -/
def inspectCode (s : Settings) (x : Extractor) (o : CheckOptions) (label : String) (code : Code)
    (source : SpecSource) : Task Library Validation := do
  let spec ← load s.loading source
  Task.ofNoted (checkCode ⟨x, s.extraction⟩ o label code spec)

/-- Compares a frontend with a backend; schemas are looked up in the specification of a source, if
one is given. -/
def inspectSides (s : Settings) (x : Extractor) (o : CheckOptions) (frontend backend : Code)
    (source : Option SpecSource) : Task Library Comparison := do
  let spec ← match source with
    | some source => some <$> load s.loading source
    | none => pure none
  Task.ofNoted (checkSides ⟨x, s.extraction⟩ o frontend backend spec)

end ApiAccord.Library
