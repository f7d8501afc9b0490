import ApiAccord.HttpMethod
import ApiAccord.Value.Basic

/-!
# Specifications

A `Spec` is what an interface document declares, read into records: its operations with their
parameters, bodies and responses, its named schemas, its security schemes, and its description.
-/

namespace ApiAccord

/-- The families of interface documents. -/
inductive SpecFormat where
  | openapi
  | swagger
deriving DecidableEq, Repr

def SpecFormat.name : SpecFormat → String
  | .openapi => "openapi"
  | .swagger => "swagger"

/-- Where a request carries a parameter. -/
inductive ParameterPlace where
  | query
  | header
  | path
  | cookie
  | formData
deriving DecidableEq, Repr

namespace ParameterPlace

def all : List ParameterPlace := [.query, .header, .path, .cookie, .formData]

def name : ParameterPlace → String
  | .query => "query"
  | .header => "header"
  | .path => "path"
  | .cookie => "cookie"
  | .formData => "formData"

def ofName? (s : String) : Option ParameterPlace := all.find? fun p => p.name == s

end ParameterPlace

/-- A parameter of an operation. -/
structure Parameter where
  name : String
  place : ParameterPlace
  required : Bool
  description : Option String
  type : Option String
  schema : Option Members

/-- The body of a request, with its first schema. -/
structure RequestBody where
  required : Bool
  description : Option String
  contentTypes : List String
  schema : Option Members

/-- The response to a request for one status, with its first schema. -/
structure Response where
  status : String
  description : Option String
  contentTypes : List String
  schema : Option Members

/-- Alternatives of security: each names schemes and the scopes wanted of them. -/
abbrev SecurityRequirement := List (String × List String)

/-- A method on a path. -/
structure Operation where
  path : String
  method : HttpMethod
  operationId : Option String
  summary : Option String
  tags : List String
  parameters : List Parameter
  requestBody : Option RequestBody
  responses : List Response
  security : Option (List SecurityRequirement)
  deprecated : Bool

/-- A named schema, with the number of references to it. -/
structure NamedSchema where
  name : String
  shape : Members
  usageCount : Nat

/-- A way to authenticate; the fields that its type does not use are empty. -/
structure SecurityScheme where
  name : String
  type : String
  description : Option String
  paramName : Option String
  location : Option String
  scheme : Option String
  bearerFormat : Option String
  flows : Option Members
  openIdConnectUrl : Option String

structure Server where
  url : String
  description : Option String

/-- The description of an interface. -/
structure Metadata where
  title : String
  apiVersion : String
  description : Option String
  servers : List Server
  contact : Option Members
  license : Option Members
  externalDocs : Option Members
  tags : List Members
  /-- The file or address that the document came from. -/
  source : Option String

/-- What an interface document declares. -/
structure Spec where
  version : String
  format : SpecFormat
  operations : List Operation
  schemas : List NamedSchema
  metadata : Metadata
  securitySchemes : List (String × SecurityScheme)
  /-- The document that the records were read from. -/
  document : Members

namespace Spec

/-- The paths with operations, in order. -/
def paths (spec : Spec) : List String := (spec.operations.map (·.path)).eraseDups

def schemaNames (spec : Spec) : List String := spec.schemas.map (·.name)

def operationsFor (spec : Spec) (path : String) : List Operation :=
  spec.operations.filter (·.path == path)

end Spec

end ApiAccord
