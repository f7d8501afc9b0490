import ApiAccord.CustomRule
import ApiAccord.Report
import ApiAccord.Similarity
import ApiAccord.TypeName

/-!
# Comparing two sides

`compare` finds where a source side, whose endpoints must be served, disagrees with a target side
that serves them.  Each step finds issues of its own and none depends on the issues of another:

* `endpointIssues`: paths of one side without an equivalent on the other;
* `methodIssues` and `invalidMethodIssues`: methods that one side of a pair lacks, and words that
  are no methods;
* `schemaIssues`: type names that the specification does not know;
* `untypedIssues`, `parameterIssues`, `extraParameterIssues`: parameters without types, missing,
  typed differently, or unknown to the other side;
* the custom rules that the options name.
-/

namespace ApiAccord

/-- A source endpoint and the target endpoint that serves it. -/
abbrev EndpointPair := SurfaceEndpoint × SurfaceEndpoint

namespace Comparison

/-- An issue of one of the steps; the first suggestion stands for all. -/
def issue (o : CheckOptions) (kind : IssueKind) (rule message : String) (location : Option Location)
    (path method : Option String) (suggestions : List String) : Issue where
  kind := kind
  severity := o.severityOf kind none
  message := message
  location := location
  suggestion := suggestions.head?
  suggestions := suggestions
  rule := rule
  path := path
  method := method

/-- The names most like a given one, as the options limit them. -/
def suggestions (o : CheckOptions) (name : String) (candidates : List String) : List String :=
  suggest name candidates o.suggestionThreshold o.maxSuggestions

/-- Names in ascending order of their characters. -/
def sortNames (names : List String) : List String := names.mergeSort Text.le

/-! ### Endpoints -/

/-- Each source endpoint with the first target endpoint equivalent to it. -/
def pairs (source target : Surface) : List EndpointPair :=
  source.endpoints.filterMap fun e => (target.find e.path).map fun counterpart => (e, counterpart)

/-- Source endpoints that the target does not serve. -/
def missingEndpoints (source target : Surface) : List SurfaceEndpoint :=
  source.endpoints.filter fun e => (target.find e.path).isNone

/-- Target endpoints that the source does not use: none is the partner of a pair, and none has an
equivalent among the source's. -/
def extraEndpoints (source target : Surface) : List SurfaceEndpoint :=
  let partners := (pairs source target).map fun p => p.2.path
  target.endpoints.filter fun e => !partners.contains e.path && (source.find e.path).isNone

def endpointIssues (o : CheckOptions) (source target : Surface) : List Issue :=
  ((missingEndpoints source target).map fun e =>
    issue o .endpointMissing "endpoint-consistency"
      s!"Endpoint {e.path} is used by {source.label} but not found in {target.label}"
      (some (e.location.getD (.ofSide source.label))) (some e.path) none
      (suggestions o e.path target.paths)) ++
  (extraEndpoints source target).map fun e =>
    issue o .endpointExtra "endpoint-consistency"
      s!"Endpoint {e.path} is provided by {target.label} but not used by {source.label}"
      (some (e.location.getD (.ofSide target.label))) (some e.path) none []

/-! ### Methods -/

/-- Where a side uses a method on an endpoint. -/
def methodLocation (side : Surface) (e : SurfaceEndpoint) (method : String) : Location :=
  let line := (e.methodLines.lookup method).join
  match e.location with
  | none => ⟨some side.label, none, line⟩
  | some l => ⟨some side.label, l.file, line.or l.line⟩

/-- The methods of one endpoint that the other lacks. -/
def methodsWithout (e other : SurfaceEndpoint) : List String :=
  e.regularMethods.filter fun m => !other.regularMethods.contains m

/-- The disagreements of one pair, unless one of its endpoints shows no method at all. -/
def pairIssues (o : CheckOptions) (source target : Surface) (p : EndpointPair) : List Issue :=
  if p.1.regularMethods.isEmpty || p.2.regularMethods.isEmpty then []
  else
    ((methodsWithout p.1 p.2).map fun m =>
      issue o .methodMismatch "method-consistency"
        (s!"{source.label} uses {m} {p.1.path}, but {target.label} only supports " ++
          ", ".intercalate p.2.regularMethods)
        (some (methodLocation source p.1 m)) (some p.1.path) (some m)
        (HttpMethod.similar m p.2.regularMethods).toList) ++
    (methodsWithout p.2 p.1).map fun m =>
      issue o .methodMismatch "method-consistency"
        s!"{target.label} supports {m} {p.2.path}, but {source.label} never uses it"
        (some (methodLocation target p.2 m)) (some p.2.path) (some m) []

def methodIssues (o : CheckOptions) (source target : Surface) : List Issue :=
  (pairs source target).flatMap (pairIssues o source target)

/-- Keeps the first of several items with the same key. -/
def firstBy {α κ : Type} [BEq κ] (key : α → κ) : (seen : List κ) → List α → List α
  | _, [] => []
  | seen, x :: xs =>
    if seen.contains (key x) then firstBy key seen xs
    else x :: firstBy key (key x :: seen) xs

/-- The words used as methods on a side that are none, each with the first endpoint it is used
with. -/
def invalidMethods (side : Surface) : List (SurfaceEndpoint × String) :=
  firstBy (·.2) [] (side.endpoints.flatMap fun e =>
    (e.methods.filter fun m => !HttpMethod.isRegular m).map fun m => (e, m))

def invalidMethodIssues (o : CheckOptions) (side : Surface) : List Issue :=
  (invalidMethods side).map fun (e, m) =>
    issue o .invalidMethod "method-validity"
      ("'" ++ m ++ "' used with " ++ e.path ++ " in " ++ side.label ++
        " is not a valid HTTP method")
      (some (methodLocation side e m)) (some e.path) (some m) []

/-! ### Schemas -/

/-- The type names that code declares and the specification does not know, at their first
declarations. -/
def unknownSchemas (side : Surface) (spec : Spec) : List SchemaFeature :=
  if side.isSpec then []
  else firstBy (·.name) [] (side.schemas.filter fun s => !spec.schemaNames.contains s.name)

def schemaIssues (o : CheckOptions) (side : Surface) (spec : Spec) : List Issue :=
  (unknownSchemas side spec).map fun s =>
    issue o .schemaMissing "schema-consistency"
      ("Type '" ++ s.name ++ "' declared in " ++ side.label ++
        " has no matching schema in the specification")
      (some ⟨some side.label, s.file, some s.line⟩) none none
      (suggestions o s.name (sortNames spec.schemaNames.eraseDups))

/-! ### Parameters -/

def untypedIssues (o : CheckOptions) (side : Surface) : List Issue :=
  (side.parameters.filter fun p => p.type.isNone).map fun p =>
    issue o .parameterMissingType "parameter-types"
      ("Parameter '" ++ p.name ++ "' in " ++ side.label ++ " has no type annotation")
      (some ⟨some side.label, p.file, some p.line⟩) none none []

/-- The operations of a specification on the paths of some endpoints. -/
def operationsOn (spec : Spec) (endpoints : List SurfaceEndpoint) : List Operation :=
  spec.operations.filter fun op =>
    (endpoints.map (·.path)).contains (EndpointPath.normalize op.path)

/-- A parameter with a declared type. -/
structure TypedParameter where
  name : String
  type : String
  location : Location

/-- The typed parameters of a side, each at its first typed occurrence.  Those of a specification
count on the given endpoints only; those of code belong to no path and always count. -/
def typedParameters (side : Surface) (endpoints : List SurfaceEndpoint) : List TypedParameter :=
  let all := match side.spec with
    | some spec => (operationsOn spec endpoints).flatMap fun op =>
        op.parameters.filterMap fun p => do
          return ⟨p.name, ← p.type.filter (· != ""), .ofSide side.label⟩
    | none => side.parameters.filterMap fun p => do
        return ⟨p.name, ← p.type.filter (· != ""), ⟨some side.label, p.file, some p.line⟩⟩
  firstBy (·.name) [] all

/-- The parameters typed on both sides whose types cannot agree. -/
def typeMismatches (source target : Surface) : List (TypedParameter × TypedParameter) :=
  let ps := pairs source target
  if ps.isEmpty then []
  else
    let targetTypes := typedParameters target (ps.map (·.2))
    (typedParameters source (ps.map (·.1))).filterMap fun declared => do
      let counterpart ← targetTypes.find? (·.name == declared.name)
      if TypeName.compatible declared.type counterpart.type then none
      else some (declared, counterpart)

def typeMismatchIssues (o : CheckOptions) (source target : Surface) : List Issue :=
  (typeMismatches source target).map fun (declared, counterpart) =>
    issue o .parameterTypeMismatch "parameter-consistency"
      ("Parameter '" ++ declared.name ++ "' is " ++ declared.type ++ " in " ++ source.label ++
        " but " ++ counterpart.type ++ " in " ++ target.label)
      (some declared.location) none none []

/-- A required parameter of an operation that the source never names. -/
structure UnsentParameter where
  endpoint : SurfaceEndpoint
  operation : Operation
  parameter : Parameter

/-- What identifies an unsent parameter: path, method and name. -/
def UnsentParameter.key (u : UnsentParameter) : String × String × String :=
  (u.operation.path, u.operation.method.token, u.parameter.name)

/-- The required parameters outside of the path that the operations of a pair declare and the source
never names.  An operation counts if the source endpoint shows no method, or the operation's. -/
def unsentOfPair (source : Surface) (spec : Spec) (p : EndpointPair) : List UnsentParameter :=
  let used := p.1.regularMethods
  ((operationsOn spec [p.2]).filter fun op => used.isEmpty || used.contains op.method.token).flatMap
    fun op => (op.parameters.filter fun q =>
      q.required && q.place != .path && !source.parameterNames.contains q.name).map fun q =>
        ⟨p.1, op, q⟩

/-- The unsent parameters of all pairs, each once. -/
def unsentParameters (source target : Surface) : List UnsentParameter :=
  match target.spec with
  | none => []
  | some spec =>
    firstBy UnsentParameter.key [] ((pairs source target).flatMap (unsentOfPair source spec))

def unsentIssues (o : CheckOptions) (source target : Surface) : List Issue :=
  (unsentParameters source target).map fun u =>
    let method := u.operation.method.token
    issue o .parameterMissing "parameter-consistency"
      ("Required " ++ u.parameter.place.name ++ " parameter '" ++ u.parameter.name ++ "' of " ++
        method ++ " " ++ u.operation.path ++ " in " ++ target.label ++ " is not sent by " ++
        source.label)
      (some (methodLocation source u.endpoint method)) (some u.operation.path) (some method) []

/-- The parameters of the source with their locations. -/
def declaredParameters (source : Surface) : List (String × Location) :=
  match source.spec with
  | some _ => (sortNames source.parameterNames).map fun name => (name, .ofSide source.label)
  | none => source.parameters.map fun p => (p.name, ⟨some source.label, p.file, some p.line⟩)

/-- The parameters of the source that a target with parameters does not declare. -/
def extraParameters (source target : Surface) : List (String × Location) :=
  let known := target.parameterNames
  if known.isEmpty then []
  else firstBy (·.1) [] ((declaredParameters source).filter fun p => !known.contains p.1)

def extraParameterIssues (o : CheckOptions) (source target : Surface) : List Issue :=
  (extraParameters source target).map fun (name, location) =>
    issue o .parameterExtra "parameter-consistency"
      ("Parameter '" ++ name ++ "' in " ++ source.label ++ " is not declared by " ++ target.label)
      (some location) none none (suggestions o name (sortNames target.parameterNames))

/-! ### Rules -/

/-- The rules that always run. -/
def coreRules : List String :=
  ["endpoint-consistency", "method-consistency", "method-validity", "schema-consistency",
    "parameter-types", "parameter-consistency"]

/-- The specification that schemas are looked up in. -/
def effectiveSpec (source target : Surface) (extra : Option Spec) : Option Spec :=
  extra.or (target.spec.or source.spec)

/-- The issues of the core rules. -/
def coreIssues (o : CheckOptions) (source target : Surface) (extra : Option Spec) : List Issue :=
  endpointIssues o source target ++ methodIssues o source target ++
    invalidMethodIssues o source ++ invalidMethodIssues o target ++
    (match effectiveSpec source target extra with
      | some spec => schemaIssues o source spec ++ schemaIssues o target spec
      | none => []) ++
    untypedIssues o source ++ untypedIssues o target ++
    unsentIssues o source target ++ typeMismatchIssues o source target ++
    (if o.ignoreMinor then [] else extraParameterIssues o source target)

/-- The issues of the custom rules that the options name. -/
def customIssues (o : CheckOptions) (source target : Surface) (extra : Option Spec) : List Issue :=
  o.customRules.flatMap fun name =>
    match customRule? name with
    | some rule => rule ⟨source, target, extra, o⟩
    | none => []

/-- All issues, warnings included. -/
def allIssues (o : CheckOptions) (source target : Surface) (extra : Option Spec) : List Issue :=
  coreIssues o source target extra ++ customIssues o source target extra

end Comparison

/-! ### Results -/

/-- How a result came about. -/
structure ResultInfo where
  sourceLabel : String
  targetLabel : String
  sourceEndpoints : Nat
  targetEndpoints : Nat
  rulesApplied : List String
  /-- The sides of which not all could be analysed. -/
  degradedSides : List String
  specVersion : Option String
deriving DecidableEq, Repr

/-- The outcome of a comparison. -/
structure Comparison where
  compatible : Bool
  issues : List Issue
  summary : Summary
  recommendations : List Recommendation
  info : ResultInfo
deriving DecidableEq, Repr

namespace Comparison

def errors (c : Comparison) : List Issue := c.issues.filter (·.severity == .error)
def warnings (c : Comparison) : List Issue := c.issues.filter (·.severity == .warning)

/-- The names of custom rules that no rule has. -/
def unknownRules (o : CheckOptions) : List String :=
  o.customRules.filter fun name => (customRule? name).isNone

/-- The notices about custom rules that were passed over. -/
def notices (o : CheckOptions) : List String :=
  (unknownRules o).map fun name => "Unknown custom rule '" ++ name ++ "', skipping"

end Comparison

/-- Compares a source with a target.  `extra` is a specification that neither side was built from;
`degraded` names the sides of which not all could be analysed. -/
def compare (o : CheckOptions) (source target : Surface) (extra : Option Spec)
    (degraded : List String) : Comparison :=
  let issues := Comparison.allIssues o source target extra
  let returned := o.returned issues
  let sourceCount := source.endpoints.length
  let targetCount := target.endpoints.length
  let score := compatibilityScore issues (sourceCount + targetCount)
  { compatible := !issues.any (·.severity == .error)
    issues := returned
    summary := summarize returned score (issues.length - returned.length)
    recommendations := recommend returned (some score)
    info :=
      { sourceLabel := source.label
        targetLabel := target.label
        sourceEndpoints := sourceCount
        targetEndpoints := targetCount
        rulesApplied := Comparison.coreRules ++
          o.customRules.filter fun name => (customRule? name).isSome
        degradedSides := degraded
        specVersion := (Comparison.effectiveSpec source target extra).map (·.version) } }

/-- The outcome of a validation: errors and warnings apart. -/
structure Validation where
  valid : Bool
  errors : List Issue
  warnings : List Issue
  summary : Summary
  recommendations : List Recommendation
  info : ResultInfo
  /-- What was validated: an interface, or a specification by itself. -/
  subject : String
deriving DecidableEq, Repr

/-- A comparison of code with a specification as a validation of the code. -/
def Validation.ofComparison (c : Comparison) : Validation :=
  ⟨c.compatible, c.errors, c.warnings, c.summary, c.recommendations, c.info, "interface"⟩

end ApiAccord
