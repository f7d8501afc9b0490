import ApiAccord.Feature.Record
import ApiAccord.Spec.Basic

/-!
# Specifications as records

A specification as a value that can be printed.  The document that it was read from is left out.
-/

namespace ApiAccord

/-- Members, or null. -/
def Value.ofMembers? (ms : Option Members) : Value := (ms.map Value.map).getD .null

def Value.ofTexts (texts : List String) : Value := .list (texts.map .str)

def Parameter.toValue (p : Parameter) : Value :=
  .ofNamed [
    ("name", .str p.name),
    ("location", .str p.place.name),
    ("required", .bool p.required),
    ("description", .ofText? p.description),
    ("schema_type", .ofText? p.type),
    ("schema", .ofMembers? p.schema)]

def RequestBody.toValue (b : RequestBody) : Value :=
  .ofNamed [
    ("required", .bool b.required),
    ("description", .ofText? b.description),
    ("content_types", .ofTexts b.contentTypes),
    ("schema", .ofMembers? b.schema)]

def Response.toValue (r : Response) : Value :=
  .ofNamed [
    ("status_code", .str r.status),
    ("description", .ofText? r.description),
    ("content_types", .ofTexts r.contentTypes),
    ("schema", .ofMembers? r.schema)]

def securityToValue (requirements : List SecurityRequirement) : Value :=
  .list (requirements.map fun r => .ofNamed (r.map fun (name, scopes) => (name, .ofTexts scopes)))

def Operation.toValue (o : Operation) : Value :=
  .ofNamed [
    ("path", .str o.path),
    ("method", .str o.method.name),
    ("operation_id", .ofText? o.operationId),
    ("summary", .ofText? o.summary),
    ("tags", .ofTexts o.tags),
    ("parameters", .list (o.parameters.map Parameter.toValue)),
    ("request_body", (o.requestBody.map RequestBody.toValue).getD .null),
    ("responses", .list (o.responses.map Response.toValue)),
    ("security", (o.security.map securityToValue).getD .null),
    ("deprecated", .bool o.deprecated)]

def NamedSchema.toValue (s : NamedSchema) : Value :=
  .ofNamed [("name", .str s.name), ("shape", .map s.shape), ("usage_count", .int s.usageCount)]

def SecurityScheme.toValue (s : SecurityScheme) : Value :=
  .ofNamed [
    ("name", .str s.name),
    ("type", .str s.type),
    ("description", .ofText? s.description),
    ("param_name", .ofText? s.paramName),
    ("location", .ofText? s.location),
    ("scheme", .ofText? s.scheme),
    ("bearer_format", .ofText? s.bearerFormat),
    ("flows", .ofMembers? s.flows),
    ("openid_connect_url", .ofText? s.openIdConnectUrl)]

def Server.toValue (s : Server) : Value :=
  .ofNamed [("url", .str s.url), ("description", .ofText? s.description)]

def Metadata.toValue (m : Metadata) : Value :=
  .ofNamed [
    ("title", .str m.title),
    ("api_version", .str m.apiVersion),
    ("description", .ofText? m.description),
    ("servers", .list (m.servers.map Server.toValue)),
    ("contact", .ofMembers? m.contact),
    ("license", .ofMembers? m.license),
    ("external_docs", .ofMembers? m.externalDocs),
    ("tags", .list (m.tags.map .map)),
    ("source", .ofText? m.source)]

def Spec.toValue (s : Spec) : Value :=
  .ofNamed [
    ("version", .str s.version),
    ("format", .str s.format.name),
    ("operations", .list (s.operations.map Operation.toValue)),
    ("schemas", .list (s.schemas.map NamedSchema.toValue)),
    ("metadata", s.metadata.toValue),
    ("security_schemes",
      .ofNamed (s.securitySchemes.map fun (name, scheme) => (name, scheme.toValue)))]

end ApiAccord
