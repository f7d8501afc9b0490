import ApiAccord.Feature.Basic
import ApiAccord.Issue
import ApiAccord.Presenter
import ApiAccord.Similarity
import ApiAccord.Spec.Basic

/-!
# Views

What can be seen of a specification and of the features of code: tables of operations, schemas,
security schemes and features, and a record of what the specification says of itself.
-/

namespace ApiAccord

/-- What is seen of a specification. -/
inductive SpecView where
  | paths
  | schemas
  | security
  | info
deriving DecidableEq, Repr

namespace SpecView

def all : List SpecView := [.paths, .schemas, .security, .info]

def name : SpecView → String
  | .paths => "paths"
  | .schemas => "schemas"
  | .security => "security"
  | .info => "info"

def ofName? (s : String) : Option SpecView := all.find? fun v => v.name == s

end SpecView

/-- A text that is there, else a hyphen. -/
def orHyphen (s : Option String) : String :=
  match s with
  | none | some "" => "-"
  | some text => text

namespace Operation

/-- The order by path, then by method. -/
def keyLe (a b : Operation) : Bool :=
  if a.path == b.path then Text.le a.method.token b.method.token else Text.le a.path b.path

def cells (op : Operation) : List String :=
  [op.method.token, op.path, orHyphen op.operationId, if op.deprecated then "Yes" else ""]

end Operation

/-- The first five of some names, which have to be texts. -/
def shortList (names : List Value) : Except Malformed String := do
  let shown ← (names.take 5).mapM fun v => (v.str?).elim (.error .noItems) .ok
  return ", ".intercalate shown ++ if 5 < names.length then "..." else ""

/-- The names of the properties of a schema. -/
def NamedSchema.propertyNames (s : NamedSchema) : Except Malformed (List Value) :=
  match Value.ifTruthy (s.shape.get? "properties") with
  | some v => v.items
  | none => .ok []

def NamedSchema.cells (s : NamedSchema) : Except Malformed (List String) := do
  let type := ((s.shape.get? "type").map Value.display).getD "object"
  return [s.name, type, toString s.usageCount, ← shortList (← s.propertyNames)]

def SecurityScheme.cells (name : String) (s : SecurityScheme) : List String :=
  [name, s.type, orHyphen s.scheme, orHyphen s.location]

namespace Spec

/-- The operations, by path and method. -/
def operationTable (spec : Spec) : Table where
  headers := ["Method", "Path", "Operation", "Deprecated"]
  rows := (spec.operations.mergeSort Operation.keyLe).map Operation.cells

def schemaTable (spec : Spec) : Except Malformed Table := do
  return ⟨["Schema", "Type", "References", "Properties"], ← spec.schemas.mapM NamedSchema.cells⟩

def securityTable (spec : Spec) : Table where
  headers := ["Name", "Type", "Scheme", "Location"]
  rows := spec.securitySchemes.map fun s => s.2.cells s.1

/-- What a specification says of itself. -/
def overview (spec : Spec) : Value :=
  .ofNamed [
    ("title", .str spec.metadata.title),
    ("version", .str spec.metadata.apiVersion),
    ("format", .str spec.format.name),
    ("spec_version", .str spec.version),
    ("description", .str (orHyphen spec.metadata.description)),
    ("servers", .list (spec.metadata.servers.map fun s => .str s.url)),
    ("operations", .int spec.operations.length),
    ("schemas", .int spec.schemas.length),
    ("security_schemes", .list (spec.securitySchemes.map fun s => .str s.1))]

end Spec

namespace FeatureSet

/-- Where a feature is. -/
def place (file : Option String) (line : Int) : String := Location.display ⟨none, file, some line⟩

/-- All features: endpoints, methods, schemas, then parameters. -/
def table (fs : FeatureSet) : Table where
  headers := ["Kind", "Value", "Detail", "Location"]
  rows :=
    fs.endpoints.map (fun e => ["endpoint", e.path, e.rule.getD "", place e.file e.line]) ++
    fs.methods.map (fun m => ["method", m.method, m.rule.getD "", place m.file m.line]) ++
    fs.schemas.map (fun s => ["schema", s.name, "", place s.file s.line]) ++
    fs.parameters.map (fun p => ["parameter", p.name, p.type.getD "", place p.file p.line])

end FeatureSet

end ApiAccord
