import ApiAccord.Comparison

/-!
# The structure of a document

`checkStructure` looks at a document by itself: whether it has the members that every document must
have, whether two of its path templates would match the same paths, and whether its operations
declare responses.
-/

namespace ApiAccord.Structure

/-- The members that a document lacks. -/
def missing (doc : Members) : List String :=
  (if doc.has "openapi" || doc.has "swagger" then []
    else ["Missing required field 'openapi' or 'swagger'"]) ++
  (if doc.has "info" then [] else ["Missing required field 'info'"]) ++
  match doc.get? "paths" with
  | none => ["Missing required field 'paths'"]
  | some v => if v.isMap then [] else ["Field 'paths' must be an object"]

/-- What is wrong with a document as a whole. -/
def topProblems : Value → List String
  | .map doc => missing doc
  | v => ["Specification must be an object, got " ++ v.kindName]

/-- The path items of a document. -/
def pathItems : Value → Members
  | .map doc =>
    match Members.get? "paths" doc with
    | some (.map items) => items
    | _ => []
  | _ => []

/-- A finding about a path, and about one of its methods. -/
structure Finding where
  message : String
  path : String
  method : Option String

/-- The first path whose template has the same key as the given path. -/
def firstLike (path : String) (seen : List String) : Option String :=
  seen.find? fun p => EndpointPath.templateKey p == EndpointPath.templateKey path

/-- The operations of a path item without responses. -/
def silentOperations (path : String) (item : Value) : List Finding :=
  match item with
  | .map ms => (HttpMethod.all.filter fun m =>
      match Members.get? m.name ms with
      | some (.map op) => (Value.ifTruthy (Members.get? "responses" op)).isNone
      | _ => false).map fun m =>
        ⟨m.token ++ " " ++ path ++ " declares no responses", path, some m.token⟩
  | _ => []

/-- The findings on path items.  `seen` holds the templates of earlier paths that no earlier path
was like. -/
def findings (seen : List String) : List (Scalar × Value) → Except Malformed (List Finding)
  | [] => .ok []
  | (.str path, item) :: rest => do
    let (seen, ambiguous) :=
      if EndpointPath.isTemplate path then
        match firstLike path seen with
        | some other =>
          (seen, [Finding.mk ("Path templates " ++ other ++ " and " ++ path ++ " are ambiguous")
            path none])
        | none => (seen ++ [path], [])
      else (seen, [])
    return ambiguous ++ silentOperations path item ++ (← findings seen rest)
  | (.bytes _, _) :: _ => .error .noItems
  | (_, _) :: _ => .error .noMembers

/-- An issue about a document. -/
def issue (o : CheckOptions) (wanted : Option Severity) (message : String)
    (path method : Option String) : Issue where
  kind := .specStructure
  severity := o.severityOf .specStructure wanted
  message := message
  location := some (.ofSide "spec")
  suggestion := none
  suggestions := []
  rule := "spec-structure"
  path := path
  method := method

/-- All issues of a document. -/
def issues (o : CheckOptions) (doc : Value) : Except Malformed (List Issue) := do
  let found ← findings [] (pathItems doc)
  return (topProblems doc).map (fun message => issue o none message none none) ++
    found.map fun f => issue o (some .warning) f.message (some f.path) f.method

/-- What a document gives as its version. -/
def version? : Value → Option Value
  | .map doc =>
    let version := (Value.ifTruthy (Members.get? "openapi" doc)).or (Members.get? "swagger" doc)
    version.filter (!·.isNull)
  | _ => none

/-- The version as text. -/
def versionText (doc : Value) : Except Malformed (Option String) :=
  match version? doc with
  | none => .ok none
  | some v => if v.writable then .ok (some v.display) else .error .badNumber

end ApiAccord.Structure

namespace ApiAccord

open Structure in
/-- Checks the structure of a document. -/
def checkStructure (o : CheckOptions) (doc : Value) : Except Malformed Validation := do
  let issues ← issues o doc
  let returned := o.returned issues
  let count := (pathItems doc).length
  let score := compatibilityScore issues count
  let version ← versionText doc
  return {
    valid := !issues.any (·.severity == .error)
    errors := returned.filter (·.severity == .error)
    warnings := returned.filter (·.severity == .warning)
    summary := summarize returned score (issues.length - returned.length)
    recommendations := recommend returned (some score)
    info :=
      { sourceLabel := "spec"
        targetLabel := "spec"
        sourceEndpoints := count
        targetEndpoints := 0
        rulesApplied := ["spec-structure"]
        degradedSides := []
        specVersion := version }
    subject := "spec" }

end ApiAccord
