import ApiAccord.Document.Swagger
import ApiAccord.Noted
import ApiAccord.Settings.Basic
import ApiAccord.Spec.Reading

/-!
# From a document to a specification

`Spec.ofAnyDocument` takes a document of either family: it finds out which, converts one of the
older family, resolves the references and reads the records.
-/

namespace ApiAccord

namespace Reference

/-- The notice about a reference that stays in place. -/
def notice (e : RefError) : String := "Leaving $ref unresolved: " ++ e.message

/-- The resolved document, with a notice for each reference that stays in place. -/
def resolveNoting (o : ResolveOptions) (shelf : Shelf) (base : Option String) (doc : Value) :
    Noted Resolved :=
  match resolve o shelf base doc with
  | .ok (v, left) => ⟨left.map notice, .ok (v, left)⟩
  | .error (.ref e) => .fail (.ref e)
  | .error (.malformed m) => .fail (.malformed m)

end Reference

namespace Spec

/-- The document in the newer family. -/
def modernize (format : SpecFormat) (doc : Value) : Except Failure Value :=
  match format with
  | .openapi => .ok doc
  | .swagger => (Swagger.convert doc "3.0").map .map

/-- The specification that a document declares.  `base` is where the document was found, `home` the
directory that relative paths start from, and `shelf` gathers the documents that references from a
document can lead to. -/
def ofAnyDocument (o : LoadOptions) (home : String)
    (shelf : ResolveOptions → Option String → Value → Shelf) (base : Option String) (doc : Value) :
    Noted Spec := do
  let (format, version) ← Noted.ofExcept (Document.detectFormat doc)
  let modern ← Noted.ofExcept (modernize format doc)
  let resolved ←
    if o.dereference then do
      let options : ResolveOptions := ⟨o.external, o.tolerant, home⟩
      let (v, _) ← Reference.resolveNoting options (shelf options base modern) base modern
      pure v
    else pure modern
  Noted.ofExcept (Spec.ofDocument format version modern resolved base)

end Spec

end ApiAccord
