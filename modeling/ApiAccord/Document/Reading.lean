import ApiAccord.Failure
import ApiAccord.Json.Reader
import ApiAccord.Yaml.Value

/-!
# Reading a document

`Document.ofText` reads a document from a text, as JSON if it is JSON, else as YAML.  A hint says
which of the two is expected: a text that is said to be JSON is not tried as YAML, and one that is
said to be YAML not as JSON.
-/

namespace ApiAccord.Document

/-- What is known about the form of a text. -/
inductive Hint where
  | json
  | yaml
  | none
deriving DecidableEq, Repr

def Hint.ofName : String → Hint
  | "json" => .json
  | "yaml" => .yaml
  | _ => .none

/-- The document that a value is: it has to be a mapping. -/
def ofValue (v : Value) : Except LoadFailure Value :=
  if v.isMap then .ok v else .error (.load (.notMapping v.kindName))

/-- Reads a document as YAML.  `json` says why it is not JSON, if that was tried. -/
def ofYaml (json : Option String) (text : String) : Except LoadFailure Value :=
  match Yaml.read text.toList with
  | .ok (some (.scalar .null)) | .ok none => .error (.load (.notMapping "empty document"))
  | .ok (some v) => ofValue v
  | .error .illFormed => .error (.load (.unparsable json))
  | .error (.malformed m) => .error (.malformed m)

/-- Reads a document. -/
def ofText (hint : Hint) (text : String) : Except LoadFailure Value :=
  match hint with
  | .yaml => ofYaml none text
  | _ =>
    match Json.read text with
    | .ok v => ofValue v
    | .error ⟨.longInteger, _⟩ => .error (.malformed .badNumber)
    | .error f =>
      let reason := f.message text
      if hint == .json then .error (.load (.badJson reason)) else ofYaml (some reason) text

end ApiAccord.Document
