import ApiAccord.Document.Format
import ApiAccord.Document.Reference
import ApiAccord.Spec.Basic

/-!
# Reading a specification

`Spec.ofDocument` reads the records of a `Spec` from an OpenAPI document.  A document may leave out
nearly everything; what is there must have the right shape.  Parameters of a path belong to each of
its operations, unless the operation has one with the same name in the same place:
`OperationReading.mergeParameters`.
-/

namespace ApiAccord

namespace OperationReading

/-! ### Parameters -/

/-- What identifies a parameter: its name and place, empty texts if they are not said. -/
abbrev ParameterKey := Scalar × Scalar

/-- A part of a parameter's key.  A collection cannot be one. -/
def keyPart (p : Members) (name : String) : Except Malformed Scalar :=
  match p.get? name with
  | none => .ok (.str "")
  | some (.scalar s) => .ok s
  | some _ => .error .noItems

def parameterKey (p : Members) : Except Malformed ParameterKey := do
  return (← keyPart p "name", ← keyPart p "in")

def ParameterKey.same (a b : ParameterKey) : Bool := a.1.same b.1 && a.2.same b.2

/-- The mappings among some values. -/
def mappings (vs : List Value) : List Members := vs.filterMap Value.members?

/-- The parameters of a path that its operation does not replace, and those of the operation. -/
def mergeParameters (ofPath ofOperation : Value) : Except Malformed (List Members) := do
  let own := mappings (← ofOperation.items)
  let keys ← own.mapM parameterKey
  let shared := mappings (← ofPath.items)
  let sharedKeys ← shared.mapM parameterKey
  let kept := (shared.zip sharedKeys).filter fun p => !keys.any (ParameterKey.same p.2)
  return kept.map (·.1) ++ own

/-- The type that a schema declares: of several the first that is not `null`. -/
def schemaType? (schema : Value) : Option String := do
  let ms ← schema.members?
  match ← ms.get? "type" with
  | .list types => (types.find? fun t => !t.isText "null").map Value.display
  | type => some type.display

/-- A value that is a mapping, else null. -/
def mappingOrNull (v : Option Value) : Value :=
  match v with
  | some (.map ms) => .map ms
  | _ => .null

/-- A parameter, unless it is a reference, has no name, or is in an unknown place. -/
def parameter? (p : Members) : Option (Checked Parameter) := do
  if p.has "$ref" then none
  let name ← p.get? "name"
  let place ← ParameterPlace.ofName? (← ((p.get? "in").getD (.str "query")).str?)
  let required := ((p.get? "required").map Value.truthy).getD false || place == .path
  let schema := (p.get? "schema").getD .null
  return (Parameter.mk name.display place required · (schemaType? schema) ·) <$>
    Record.field p ["description"] none (Field.orNull Field.text) <*>
    (Field.orNull Field.namedMapping (mappingOrNull (some schema))).at_ (.field "schema")

/-- The parameters among some mappings. -/
def parameters (ps : List Members) : Except Failure (List Parameter) :=
  (ps.filterMap parameter?).mapM (Failure.liftRecord "ParameterDescriptor")

/-! ### Bodies and responses -/

/-- The value under `name` when it counts as true, else the empty mapping. -/
def sectionOf (ms : Members) (name : String) : Value :=
  (Value.ifTruthy (ms.get? name)).getD (.map [])

/-- The first schema in the content of a body or response. -/
def firstSchema (content : Members) : Value :=
  (content.findSome? fun media => do
    let ms ← media.2.members?
    let schema ← ms.get? "schema"
    if schema.isMap then some schema else none).getD .null

/-- The keys of a content, which have to be texts. -/
def contentTypes (content : Members) : Checked (List String) :=
  (Field.listOf Field.text (.list (content.map fun media => .scalar media.1))).at_
    (.field "content_types")

def contentSchema (content : Members) : Checked (Option Members) :=
  (Field.orNull Field.namedMapping (firstSchema content)).at_ (.field "schema")

/-- The body of a request, if the value is a mapping. -/
def requestBody (v : Option Value) : Except Failure (Option RequestBody) :=
  match v with
  | some (.map body) => do
    let content ← Failure.liftShape (sectionOf body "content").members
    some <$> Failure.liftRecord "RequestBodyDescriptor" (RequestBody.mk <$>
      Record.field body ["required"] false Field.truth <*>
      Record.field body ["description"] none (Field.orNull Field.text) <*>
      contentTypes content <*> contentSchema content)
  | _ => .ok none

/-- The responses among the members of a mapping. -/
def responses : List (Scalar × Value) → Except Failure (List Response)
  | [] => .ok []
  | (status, .map r) :: rest => do
    let content ← Failure.liftShape (sectionOf r "content").members
    let response ← Failure.liftRecord "ResponseDescriptor" (Response.mk status.display <$>
      Record.field r ["description"] none (Field.orNull Field.text) <*>
      contentTypes content <*> contentSchema content)
    return response :: (← responses rest)
  | _ :: rest => responses rest

/-! ### Operations -/

/-- Alternatives of security, or nothing. -/
def security : Value → Checked (Option (List SecurityRequirement)) :=
  Field.orNull (Field.listOf (Field.mappingOf Field.text (Field.listOf Field.text)))

/-- The operation of a method on a path item. -/
def operation (path : Scalar) (shared globalSecurity : Value) (method : HttpMethod) (op : Members) :
    Except Failure Operation := do
  let merged ← Failure.liftShape
    (mergeParameters shared ((op.get? "parameters").getD (.list [])))
  let parameters ← parameters merged
  let body ← requestBody (op.get? "requestBody")
  let responses ← responses (← Failure.liftShape (sectionOf op "responses").members)
  let wanted := match op.get? "security" with
    | none | some (.scalar .null) => globalSecurity
    | some v => v
  Failure.liftRecord "OperationDescriptor"
    ((Operation.mk · method · · · parameters body responses · ·) <$>
      (Field.text (.scalar path)).at_ (.field "path") <*>
      (Field.orNull Field.text ((op.get? "operationId").getD .null)).at_ (.field "operation_id") <*>
      Record.field op ["summary"] none (Field.orNull Field.text) <*>
      Record.field op ["tags"] [] (Field.listOf Field.text) <*>
      (security wanted).at_ (.field "security") <*>
      Record.field op ["deprecated"] false Field.truth)

/-- The operations of a path item, in the order of methods. -/
def ofPathItem (globalSecurity : Value) (path : Scalar) (item : Members) :
    Except Failure (List Operation) :=
  (HttpMethod.all.filterMap fun m => (item.get? m.name).bind fun v => do
    return (m, ← v.members?)).mapM fun (m, op) =>
      operation path ((item.get? "parameters").getD (.list [])) globalSecurity m op

/-- The operations of all path items. -/
def ofPaths (globalSecurity : Value) : List (Scalar × Value) → Except Failure (List Operation)
  | [] => .ok []
  | (path, .map item) :: rest => do
    let operations ← ofPathItem globalSecurity path item
    return operations ++ (← ofPaths globalSecurity rest)
  | _ :: rest => ofPaths globalSecurity rest

end OperationReading

namespace SpecReading

open OperationReading

def operations (doc : Members) : Except Failure (List Operation) := do
  let paths ← Failure.liftShape (sectionOf doc "paths").members
  ofPaths ((doc.get? "security").getD .null) paths

/-! ### Schemas -/

/-- The head of references to named schemas. -/
def schemaRef : String := "#/components/schemas/"

mutual

/-- The names of the schemas that a value refers to, once for each reference. -/
def schemaRefs : Value → List String
  | .map ms =>
    (((Reference.refText? ms).bind (Text.stripHead? schemaRef)).map Pointer.unescape).toList ++
      schemaRefsOfMembers ms
  | .list items => schemaRefsOfItems items
  | .scalar _ | .pair _ _ | .set _ => []

def schemaRefsOfItems : List Value → List String
  | [] => []
  | v :: rest => schemaRefs v ++ schemaRefsOfItems rest

def schemaRefsOfMembers : List (Scalar × Value) → List String
  | [] => []
  | (_, v) :: rest => schemaRefs v ++ schemaRefsOfMembers rest

end

/-- The section `name` of the components of a document. -/
def component (doc : Members) (name : String) : Except Malformed Members := do
  let components ← (sectionOf doc "components").members
  (sectionOf components name).members

/-- A named schema; `refs` are the names that the document refers to. -/
def schema (refs : List String) (m : Scalar × Value) : Checked NamedSchema :=
  let count := match m.1 with
    | .str name => refs.count name
    | _ => 0
  (NamedSchema.mk · · count) <$> (Field.text (.scalar m.1)).at_ (.field "name") <*>
    (match m.2 with
      | .map shape => (Field.namedMapping (.map shape)).at_ (.field "shape")
      | _ => .ok [])

/-- The named schemas of a document, with the references counted in `unresolved`. -/
def schemas (doc : Members) (unresolved : Value) : Except Failure (List NamedSchema) := do
  let ms ← Failure.liftShape (component doc "schemas")
  let refs := schemaRefs unresolved
  ms.mapM fun m => Failure.liftRecord "SchemaDescriptor" (schema refs m)

/-! ### Description -/

def server (ms : Members) : Checked Server :=
  Server.mk <$> Record.field ms ["url"] "/" Field.text <*>
    Record.field ms ["description"] none (Field.orNull Field.text)

def servers (doc : Members) : Except Failure (List Server) := do
  let items ← Failure.liftShape ((Value.ifTruthy (doc.get? "servers")).getD (.list [])).items
  (mappings items).mapM fun ms => Failure.liftRecord "ServerInfo" (server ms)

/-- The description of a document found at `source`. -/
def metadata (doc : Members) (source : Option String) : Except Failure Metadata := do
  let info ← Failure.liftShape (sectionOf doc "info").members
  let title := (Value.ifTruthy (info.get? "title")).getD (.str "Untitled API")
  let version := ((Value.ifTruthy (info.get? "version")).getD (.str "1.0.0")).display
  let servers ← servers doc
  let tags ← Failure.liftShape ((doc.get? "tags").getD (.list [])).items
  let tags := (tags.filter Value.isMap)
  let record := Field.orNull Field.namedMapping
  Failure.liftRecord "SpecMetadata"
    ((Metadata.mk · version · servers · · · · source) <$>
      (Field.text title).at_ (.field "title") <*>
      Record.field info ["description"] none (Field.orNull Field.text) <*>
      Record.field info ["contact"] none record <*>
      Record.field info ["license"] none record <*>
      (record ((doc.get? "externalDocs").getD .null)).at_ (.field "external_docs") <*>
      (Field.listOf Field.namedMapping (.list tags)).at_ (.field "tags"))

/-! ### Security schemes -/

def securityScheme (name : Scalar) (ms : Members) : Checked SecurityScheme :=
  let optional (source field : String) : Checked (Option String) :=
    (Field.orNull Field.text ((ms.get? source).getD .null)).at_ (.field field)
  SecurityScheme.mk <$> (Field.text (.scalar name)).at_ (.field "name") <*>
    Record.required ms ["type"] Field.text <*>
    optional "description" "description" <*> optional "name" "param_name" <*>
    optional "in" "location" <*> optional "scheme" "scheme" <*>
    optional "bearerFormat" "bearer_format" <*>
    Record.field ms ["flows"] none (Field.orNull Field.namedMapping) <*>
    optional "openIdConnectUrl" "openid_connect_url"

/-- The security schemes of a document; what is no mapping or has no type is left out. -/
def securitySchemes (doc : Members) : Except Failure (List (String × SecurityScheme)) := do
  let ms ← Failure.liftShape (component doc "securitySchemes")
  let typed := ms.filterMap fun m => do
    let scheme ← m.2.members?
    if Members.has "type" scheme then some (m.1, scheme) else none
  let schemes ← typed.mapM fun (name, scheme) =>
    Failure.liftRecord "SecurityScheme" (securityScheme name scheme)
  return schemes.map fun s => (s.name, s)

end SpecReading

/-- The first operation with the path and the method of an earlier one. -/
def Spec.repeated? (seen : List (String × HttpMethod)) : List Operation → Option Operation
  | [] => none
  | op :: rest =>
    if seen.contains (op.path, op.method) then some op
    else repeated? ((op.path, op.method) :: seen) rest

/-- A specification has each operation once. -/
def Spec.checkRepeated (spec : Spec) : Checked Spec :=
  match repeated? [] spec.operations with
  | none => .ok spec
  | some op => .flaw (.rule ("Duplicate operation " ++ op.method.token ++ " " ++ op.path))

/-- The specification that an OpenAPI document declares.  `unresolved` is the document before its
references were resolved. -/
def Spec.ofDocument (format : SpecFormat) (version : String) (unresolved doc : Value)
    (source : Option String) : Except Failure Spec := do
  let ms ← Failure.liftShape doc.members
  let operations ← SpecReading.operations ms
  let schemas ← SpecReading.schemas ms unresolved
  let metadata ← SpecReading.metadata ms source
  let schemes ← SpecReading.securitySchemes ms
  Failure.liftRecord "NormalizedSpec"
    (((Spec.mk version format operations schemas metadata schemes ·) <$>
      (Field.namedMapping doc).at_ (.field "document")).andThen Spec.checkRepeated)

end ApiAccord
