import ApiAccord.Document.Reference

/-!
# From the older family to the newer

A Swagger 2 document says the same things as an OpenAPI 3 document in other places.  `convert`
moves them: shared parts go under `components` and the references to them follow; a parameter's
type goes into a schema; the parameter in the body becomes a request body; host, base path and
schemes become servers.  Members that the newer family knows too stay as they are.

`Swagger.moveRefs` moves the references, `Swagger.splitParameters` tells parameters from bodies,
`Swagger.operation` and `Swagger.pathItem` put them in place, `Swagger.components` collects the
shared parts.
-/

namespace ApiAccord.Swagger

/-! ### Tables -/

/-- The members of a path item that are operations. -/
def methods : List String := ["get", "put", "post", "delete", "options", "head", "patch"]

/-- The members of a parameter or header that say its type. -/
def typeFields : List String :=
  ["type", "format", "items", "collectionFormat", "enum", "default", "minimum", "maximum",
    "exclusiveMinimum", "exclusiveMaximum", "minLength", "maxLength", "pattern", "minItems",
    "maxItems", "uniqueItems", "multipleOf"]

/-- The names of the flows of authorization, old and new. -/
def flowNames : List (String × String) :=
  [("implicit", "implicit"), ("password", "password"), ("application", "clientCredentials"),
    ("accessCode", "authorizationCode")]

def parameterRef : String := "#/components/parameters/"

def bodyRef : String := "#/components/requestBodies/"

/-- Where shared parts are, and where they go. -/
def refHeads : List (String × String) :=
  [("#/definitions/", "#/components/schemas/"), ("#/parameters/", parameterRef),
    ("#/responses/", "#/components/responses/")]

/-- The members of a document that are moved, and so not taken over. -/
def movedFields : List String :=
  ["swagger", "info", "host", "basePath", "schemes", "consumes", "produces", "paths", "definitions",
    "parameters", "responses", "securityDefinitions"]

/-- The full version for a short one. -/
def fullVersion (target : String) : String :=
  (List.lookup target [("3.0", "3.0.3"), ("3.1", "3.1.0")]).getD target

/-! ### References -/

/-- The reference to where a shared part goes. -/
def movedRef (ref : String) : String :=
  match refHeads.find? fun h => Text.startsWith h.1 ref with
  | some (old, new) => new ++ Text.dropFirst old.length ref
  | none => ref

/-- Whether a key is the one that makes a mapping a reference. -/
def isRefKey (k : Scalar) : Bool := (Value.scalar k).isText "$ref"

mutual

/-- Lets every reference in a value follow the part that it refers to. -/
def moveRefs : Value → Value
  | .map ms => .map (moveRefsOfMembers ms)
  | .list items => .list (moveRefsOfItems items)
  | .scalar s => .scalar s
  | .pair a b => .pair a b
  | .set items => .set items

def moveRefsOfItems : List Value → List Value
  | [] => []
  | v :: rest => moveRefs v :: moveRefsOfItems rest

def moveRefsOfMembers : List (Scalar × Value) → List (Scalar × Value)
  | [] => []
  | (k, v) :: rest =>
    (k, match isRefKey k, v.str? with
      | true, some ref => .str (movedRef ref)
      | _, _ => moveRefs v) :: moveRefsOfMembers rest

end

/-! ### Members -/

/-- Whether a key begins as the keys of extensions do. -/
def isExtension : Scalar → Except Malformed Bool
  | .str s => .ok (Text.startsWith "x-" s)
  | .bytes _ => .error .noItems
  | _ => .error .noMembers

/-- The results of a partial function along a list. -/
def collect {ε α β : Type} (f : α → Except ε (Option β)) : List α → Except ε (List β)
  | [] => .ok []
  | a :: rest => do
    let b ← f a
    let bs ← collect f rest
    return b.toList ++ bs

/-- The members of a mapping that are extensions. -/
def extensions (ms : Members) : Except Malformed Members :=
  collect (fun m => return if ← isExtension m.1 then some m else none) ms

/-- The values of a mapping, each changed by a function. -/
def mapValues (f : Value → Except Malformed Value) (ms : Members) : Except Malformed Members :=
  ms.mapM fun m => return (m.1, ← f m.2)

def named (name : String) (v : Value) : Scalar × Value := (.str name, v)

/-- The member `name` of a mapping, null if it is not there. -/
def getOrNull (ms : Members) (name : String) : Value := (ms.get? name).getD .null

/-- The mapping under `name`, if it is not empty in any sense. -/
def section? (doc : Members) (name : String) : Option Value := Value.ifTruthy (doc.get? name)

/-- The members of the mapping under `name`; none if it is empty or not there. -/
def sectionMembers (doc : Members) (name : String) : Except Malformed Members :=
  match section? doc name with
  | some v => v.members
  | none => .ok []

/-- The members that are not null. -/
def present (ms : Members) : Members := ms.filter fun m => !m.2.isNull

/-- A member under `name` unless the mapping is empty. -/
def unlessEmpty (name : String) (ms : Members) : Members :=
  if ms.isEmpty then [] else [named name (.map ms)]

/-- The content of a body with a schema. -/
def content (schema : Value) : Scalar × Value :=
  named "content" (.ofNamed [("application/json", .ofNamed [("schema", schema)])])

/-! ### Parameters and bodies -/

/-- Whether a parameter is in the body. -/
def inBody (p : Members) : Bool := (getOrNull p "in").isText "body"

/-- Whether a parameter says that it is required. -/
def saysRequired (p : Members) : Bool := (getOrNull p "required").truthy

/-- The schema of the members that say a type. -/
def typeSchema (p : Members) : Members :=
  present (typeFields.map fun name => named name (getOrNull p name))

/-- A parameter outside of the body. -/
def parameter (p : Members) : Except Malformed Members := do
  if p.has "$ref" then return p
  let place := getOrNull p "in"
  let own := [
    named "name" (getOrNull p "name"),
    named "in" place,
    named "description" (getOrNull p "description"),
    named "required" (.bool (saysRequired p || place.isText "path"))]
  return present (own ++ unlessEmpty "schema" (typeSchema p) ++ (← extensions p))

/-- The body that a parameter in the body describes. -/
def body (p : Members) : Members :=
  present [
    named "description" (getOrNull p "description"),
    named "required" (.bool (saysRequired p)),
    content ((p.get? "schema").getD (.map []))]

/-- The reference to the shared body that a reference to a shared parameter stands for. -/
def bodyRef? (bodyNames : List Scalar) (p : Members) : Option String := do
  let ref ← Reference.refText? p
  let name ← Text.stripHead? parameterRef ref
  if bodyNames.any (Scalar.same (.str name)) then some (bodyRef ++ name) else none

/-- The parameters of a list, and its first body. -/
def splitParameters (bodyNames : List Scalar) :
    List Value → Except Malformed (List Members × Option Members)
  | [] => .ok ([], none)
  | .map p :: rest =>
    match bodyRef? bodyNames p with
    | some ref => do
      let (ps, _) ← splitParameters bodyNames rest
      return (ps, some [named "$ref" (.str ref)])
    | none =>
      if inBody p then do
        let (ps, _) ← splitParameters bodyNames rest
        return (ps, some (body p))
      else do
        let p ← parameter p
        let (ps, b) ← splitParameters bodyNames rest
        return (p :: ps, b)
  | _ :: rest => splitParameters bodyNames rest

/-- The names of the shared parameters that are bodies. -/
def bodyNames (shared : Members) : List Scalar :=
  shared.filterMap fun m =>
    match m.2 with
    | .map p => if inBody p then some m.1 else none
    | _ => none

/-! ### Responses -/

def header (v : Value) : Except Malformed Value := do
  let h ← v.members
  return .map (present [named "description" (getOrNull h "description")] ++
    unlessEmpty "schema" (typeSchema h))

/-- The member with the headers of a response, if it has any. -/
def headers : Option Value → Except Malformed Members
  | some hs => do return [named "headers" (.map (← mapValues header (← hs.members)))]
  | none => .ok []

def responseMembers (r : Members) : Except Malformed Members := do
  if r.has "$ref" then return r
  let description := named "description" ((r.get? "description").getD (.str ""))
  let schema := ((r.get? "schema").map content).toList
  let headers ← headers (r.get? "headers")
  return description :: schema ++ headers ++ (← extensions r)

def response : Value → Except Malformed Value
  | .map r => return .map (← responseMembers r)
  | v => .ok v

/-! ### Operations and path items -/

/-- One member of an operation, if it is taken over. -/
def operationMember (m : Scalar × Value) : Except Malformed (Option (Scalar × Value)) := do
  let is (name : String) : Bool := (Value.scalar m.1).isText name
  if is "parameters" || is "consumes" || is "produces" || is "schemes" then return none
  if is "responses" then return some (m.1, .map (← mapValues response (← m.2.members)))
  return some m

/-- An operation; `shared` is the body of its path. -/
def operation (bodyNames : List Scalar) (shared : Option Members) (op : Members) :
    Except Malformed Members := do
  let items ← ((op.get? "parameters").getD (.list [])).items
  let (parameters, own) ← splitParameters bodyNames items
  let members ← collect operationMember op
  let members :=
    if parameters.isEmpty then members
    else Members.insert (.str "parameters") (.list (parameters.map .map)) members
  return match own.or shared with
    | some b => Members.insert (.str "requestBody") (.map b) members
    | none => members

/-- One member of a path item, if it is taken over. -/
def pathMember (bodyNames : List Scalar) (shared : Option Members) (m : Scalar × Value) :
    Except Malformed (Option (Scalar × Value)) := do
  match methods.any (Value.scalar m.1).isText, m.2 with
  | true, .map op => return some (m.1, .map (← operation bodyNames shared op))
  | _, v =>
    if isRefKey m.1 then return some (m.1, v)
    return if ← isExtension m.1 then some (m.1, v) else none

/-- A path item. -/
def pathItem (bodyNames : List Scalar) (item : Members) : Except Malformed Members := do
  match item.get? "parameters" with
  | some (.list items) =>
    let (parameters, shared) ← splitParameters bodyNames items
    let members ← collect (pathMember bodyNames shared) item
    return named "parameters" (.list (parameters.map .map)) :: members
  | _ => collect (pathMember bodyNames none) item

/-! ### Inherited bodies -/

/-- Whether an operation has no body of its own. -/
def lacksBody (bodyNames : List Scalar) (op : Members) : Bool :=
  let own := do
    let items ← ((op.get? "parameters").getD (.list [])).items
    splitParameters bodyNames items
  match own with
  | .ok (_, none) => true
  | _ => false

/-- The operations of a path item that have the body of the path. -/
def heirs (bodyNames : List Scalar) (item : Members) : List Scalar :=
  let shared := match item.get? "parameters" with
    | some (.list items) => (splitParameters bodyNames items).toOption.bind (·.2)
    | _ => none
  if shared.isNone then []
  else item.filterMap fun
    | (k, .map op) =>
      if methods.any (Value.scalar k).isText && lacksBody bodyNames op then some k else none
    | _ => none

/-- For each path with a body that several operations have, where these have it. -/
def inheritedBodies (doc : Members) : List (List (List Scalar)) :=
  let moved := moveRefsOfMembers doc
  let section_ (name : String) : Members := (sectionMembers moved name).toOption.getD []
  let bodyNames := bodyNames (section_ "parameters")
  let groups := (section_ "paths").filterMap fun
    | (p, .map item) =>
      some ((heirs bodyNames item).map fun k => [.str "paths", p, k, .str "requestBody"])
    | _ => none
  groups.filter fun places => 1 < places.length

/-! ### Shared parts -/

/-- The shared parameters for which `wanted` holds, each changed by a function. -/
def sharedParameters (wanted : Members → Bool) (f : Members → Except Malformed Members)
    (shared : Members) : Except Malformed Members :=
  collect (fun m => do
    let p ← m.2.members
    if wanted p then return some (m.1, .map (← f p)) else return none) shared

/-- The name of a flow.  A collection cannot be one. -/
def flowName (scheme : Members) : Except Malformed Scalar :=
  match scheme.get? "flow" with
  | none => .ok (.str "implicit")
  | some (.scalar (.str flow)) => .ok (.str ((flowNames.lookup flow).getD flow))
  | some (.scalar s) => .ok s
  | some _ => .error .noItems

/-- The members of a security scheme beside its description. -/
def schemeMembers (scheme : Members) : Except Malformed Members :=
  let type := getOrNull scheme "type"
  let under (name : String) : Members := ((scheme.get? name).map (named name)).toList
  if type.isText "basic" then
    .ok [named "type" (.str "http"), named "scheme" (.str "basic")]
  else if type.isText "oauth2" then do
    let flow ← flowName scheme
    let details := named "scopes" ((scheme.get? "scopes").getD (.map [])) ::
      under "authorizationUrl" ++ under "tokenUrl"
    return [named "type" (.str "oauth2"), named "flows" (.map [(flow, .map details)])]
  else .ok (scheme.filter fun m => ["type", "name", "in"].any (Value.scalar m.1).isText)

def securityScheme (v : Value) : Except Malformed Value := do
  let scheme ← v.members
  let members ← schemeMembers scheme
  return .map (members ++ present [named "description" (getOrNull scheme "description")])

/-- The members of the section `old`, changed and put under the name `new`. -/
def sharedSection (doc : Members) (old new : String) (f : Value → Except Malformed Value) :
    Except Malformed Members :=
  match section? doc old with
  | some v => do
    let ms ← mapValues f (← v.members)
    return [named new (.map ms)]
  | none => .ok []

def components (doc : Members) : Except Malformed Members := do
  let schemas := ((section? doc "definitions").map (named "schemas")).toList
  let shared ← sectionMembers doc "parameters"
  let parameters ← sharedParameters (!inBody ·) parameter shared
  let bodies ← sharedParameters inBody (fun p => .ok (body p)) shared
  let responses ← sharedSection doc "responses" "responses" response
  let schemes ← sharedSection doc "securityDefinitions" "securitySchemes" securityScheme
  return schemas ++ unlessEmpty "parameters" parameters ++ unlessEmpty "requestBodies" bodies ++
    responses ++ schemes

/-! ### Servers -/

/-- The server for one scheme. -/
def server (host base : Value) (scheme : Value) : Except Malformed Value := do
  let name ← match scheme with
    | .scalar (.str s) => pure (Text.upper s)
    | .scalar (.bytes data) =>
      let upper (b : UInt8) : UInt8 := if 97 ≤ b && b ≤ 122 then b - 32 else b
      pure (Value.display (.scalar (.bytes (data.map upper))))
    | _ => throw .noMembers
  return .ofNamed [
    ("url", .str (scheme.display ++ "://" ++ host.display ++ base.display)),
    ("description", .str (name ++ " server"))]

/-- The servers of a document that names host, base path or schemes. -/
def servers (doc : Members) : Except Malformed (List Value) := do
  if !(doc.has "host" || doc.has "basePath" || doc.has "schemes") then return []
  let host := (section? doc "host").getD (.str "localhost")
  let base := (section? doc "basePath").getD (.str "")
  let schemes ← ((section? doc "schemes").getD (.list [.str "https"])).items
  schemes.mapM (server host base)

/-! ### Documents -/

/-- One path with its converted item; what is no mapping is left out. -/
def path (bodyNames : List Scalar) (m : Scalar × Value) :
    Except Malformed (Option (Scalar × Value)) := do
  match m.2 with
  | .map item => return some (m.1, .map (← pathItem bodyNames item))
  | _ => return none

/-- The document with moved references, put into the new places. -/
def assemble (version : String) (doc : Members) : Except Malformed Members := do
  let served ← servers doc
  let bodyNames := bodyNames (← sectionMembers doc "parameters")
  let paths ← collect (path bodyNames) (← sectionMembers doc "paths")
  let shared ← components doc
  let moved :=
    [named "openapi" (.str version), named "info" ((doc.get? "info").getD (.map []))] ++
    (if served.isEmpty then [] else [named "servers" (.list served)]) ++
    [named "paths" (.map paths)] ++ unlessEmpty "components" shared
  let kept := doc.filter fun m =>
    !movedFields.any (Value.scalar m.1).isText && (Members.lookup m.1 moved).isNone
  return moved ++ kept

/-- The OpenAPI document of the version `target` that says what a Swagger document says. -/
def convert (doc : Value) (target : String) : Except Failure Members := do
  let ms ← Failure.liftShape doc.members
  let version := ((ms.get? "swagger").map Value.display).getD ""
  if !Text.startsWith "2." version then throw (.conversion (.notSwagger version))
  let full := fullVersion target
  if !Text.startsWith "3." full then throw (.conversion (.unsupportedTarget target))
  Failure.liftShape (assemble full (moveRefsOfMembers ms))

/-- A conversion whose result must have no broken references. -/
def convertChecked (home : String) (doc : Value) (target : String) : Except Failure Members := do
  let converted ← convert doc target
  match Reference.resolve ⟨false, false, home⟩ .empty none (.map converted) with
  | .ok _ => return converted
  | .error (.ref e) => throw (.conversion (.invalidResult e))
  | .error (.malformed m) => throw (.malformed m)

end ApiAccord.Swagger
