import ApiAccord.Failure
import ApiAccord.Spec.Basic

/-!
# The family of a document

A document says by its `openapi` or `swagger` member which family it belongs to; `openapi` goes
first where both are there.
-/

namespace ApiAccord.Document

/-- Whether a value holds a name as a member, an item or a part of its text. -/
def mentions (name : String) : Value → Except Malformed Bool
  | .map ms => .ok (Members.has name ms)
  | .list items => .ok (items.any fun v => v.isText name)
  | .pair a b => .ok (a.isText name || b.isText name)
  | .set items => .ok (items.any fun s => (Value.scalar s).isText name)
  | .scalar (.str s) => .ok (Text.occursIn name s)
  | .scalar _ => .error .noItems

/-- The text of the version under a name, if the document mentions the name. -/
def versionUnder (doc : Value) (name : String) : Except Malformed (Option String) := do
  if ← mentions name doc then
    match doc with
    | .map ms => return (Members.get? name ms).map Value.display
    | _ => throw .noItems
  else return none

/-- The family and version of a document. -/
def detectFormat (doc : Value) : Except Failure (SpecFormat × String) := do
  match ← Failure.liftShape (versionUnder doc "openapi") with
  | some version => return (.openapi, version)
  | none =>
  match ← Failure.liftShape (versionUnder doc "swagger") with
  | some version => return (.swagger, version)
  | none => throw (.load .noVersion)

end ApiAccord.Document
