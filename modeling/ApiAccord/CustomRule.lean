import ApiAccord.Policy
import ApiAccord.Surface

/-!
# Custom rules

Rules beyond the comparison itself, run by name.  A rule receives the two sides and the
specifications that take part, and returns the issues it finds.
-/

namespace ApiAccord

/-- What a rule works on. -/
structure RuleContext where
  source : Surface
  target : Surface
  /-- A specification beside those of the two sides. -/
  extraSpec : Option Spec
  options : CheckOptions

namespace RuleContext

def surfaces (ctx : RuleContext) : List Surface := [ctx.source, ctx.target]

/-- The specifications that take part, each with its label. -/
def specs (ctx : RuleContext) : List (String × Spec) :=
  (ctx.surfaces.filterMap fun s => s.spec.map fun spec => (s.label, spec)) ++
    (ctx.extraSpec.map fun spec => ("spec", spec)).toList

/-- An issue of a rule, with the severity that the rule wants. -/
def issue (ctx : RuleContext) (rule message : String) (wanted : Option Severity)
    (location : Option Location) (path method suggestion : Option String) : Issue where
  kind := .custom
  severity := ctx.options.severityOf .custom wanted
  message := message
  location := location
  suggestion := suggestion
  suggestions := (suggestion.filter (· != "")).toList
  rule := rule
  path := path
  method := method

/-- The operations of all specifications that take part. -/
def operations (ctx : RuleContext) : List (String × Spec × Operation) :=
  ctx.specs.flatMap fun (label, spec) => spec.operations.map fun op => (label, spec, op)

end RuleContext

namespace CustomRule

/-- Whether a schema is there and says anything. -/
def hasSchema (schema : Option Members) : Bool :=
  match schema with
  | some (_ :: _) => true
  | _ => false

/-- The responses that report success with a body. -/
def successResponses (op : Operation) : List Response :=
  op.responses.filter fun r => Text.startsWith "2" r.status && r.status != "204"

/-- Operations whose success responses declare no schema. -/
def requireResponseSchemas (ctx : RuleContext) : List Issue :=
  ctx.operations.filterMap fun (label, _, op) =>
    let success := successResponses op
    if success.isEmpty || success.any (fun r => hasSchema r.schema) then none
    else some (ctx.issue "require-response-schemas"
      s!"{op.method.token} {op.path} declares no schema for its success response" none
      (some (.ofSide label)) (some op.path) (some op.method.token)
      (some "Add a response schema under content['application/json'].schema"))

/-- Types that say nothing about a parameter. -/
def vagueTypes : List String := ["any", "Any", "object", "Object", "unknown", "typing.Any"]

/-- Whether a parameter of a specification has a type, or a reference that may give one. -/
def hasType (p : Parameter) : Bool :=
  p.type.isSome || match p.schema with
    | some ms => ms.has "$ref"
    | none => false

/-- Parameters of a specification without a type, and parameters of code with a vague one. -/
def validateParameterTypes (ctx : RuleContext) : List Issue :=
  let ofSpecs := ctx.operations.flatMap fun (label, _, op) =>
    (op.parameters.filter fun p => !hasType p).map fun p =>
      ctx.issue "validate-parameter-types"
        ("Parameter '" ++ p.name ++ "' of " ++ op.method.token ++ " " ++ op.path ++ " has no type")
        none (some (.ofSide label)) (some op.path) (some op.method.token) none
  let ofCode := (ctx.surfaces.filter fun s => !s.isSpec).flatMap fun s =>
    (s.parameters.filter fun p => p.type.any vagueTypes.contains).map fun p =>
      ctx.issue "validate-parameter-types"
        ("Parameter '" ++ p.name ++ "' is declared as '" ++ p.type.getD "" ++ "'")
        none (some ⟨some s.label, p.file, some p.line⟩) none none (some "Use a concrete type")
  ofSpecs ++ ofCode

/-- Security requirements that name a scheme which is not declared; errors by themselves. -/
def checkSecurityDefinitions (ctx : RuleContext) : List Issue :=
  ctx.operations.flatMap fun (label, spec, op) =>
    let declared := spec.securitySchemes.map (·.1)
    let named := (op.security.getD []).flatMap fun requirement => requirement.map (·.1)
    (named.filter fun scheme => !declared.contains scheme).map fun scheme =>
      ctx.issue "check-security-definitions"
        (op.method.token ++ " " ++ op.path ++ " requires undeclared security scheme '" ++
          scheme ++ "'")
        (some .error) (some (.ofSide label)) (some op.path) (some op.method.token)
        (some ("Declare '" ++ scheme ++ "' under components.securitySchemes"))

/-- Whether a path is written with a slash at its end, a query aside. -/
def endsWithSlash (spelling : String) : Bool :=
  let bare := Text.before '?' spelling
  1 < bare.length && Text.endsWith "/" bare

/-- Paths written with a slash at the end. -/
def noTrailingSlash (ctx : RuleContext) : List Issue :=
  ctx.surfaces.flatMap fun s => s.endpoints.flatMap fun e =>
    (e.spellings.filter endsWithSlash).map fun spelling =>
      ctx.issue "no-trailing-slash" ("Path '" ++ spelling ++ "' ends with a trailing slash") none
        (some (e.location.getD (.ofSide s.label))) (some e.path) none (some e.path)

end CustomRule

/-- The rule with a given name. -/
def customRule? : String → Option (RuleContext → List Issue)
  | "require-response-schemas" => some CustomRule.requireResponseSchemas
  | "validate-parameter-types" => some CustomRule.validateParameterTypes
  | "check-security-definitions" => some CustomRule.checkSecurityDefinitions
  | "no-trailing-slash" => some CustomRule.noTrailingSlash
  | _ => none

end ApiAccord
