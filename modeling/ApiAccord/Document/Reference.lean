import ApiAccord.Document.Address
import ApiAccord.Document.Pointer

/-!
# References

A mapping whose `$ref` member is a text is a reference: it stands for the node that the text leads
to, in the same document or in another one.  `resolve` replaces every reference by what it stands
for, and this again, until none is left.  A reference that leads nowhere, or back into itself, fails
the whole; a tolerant resolution leaves it in place and notes why.

References are followed no further than there are places to follow them to: `bound` counts the pairs
of a document and a reference text that can occur, and a chain of references that visits no place
twice is no longer than that.
-/

namespace ApiAccord

/-- The other documents that references can lead to, by location, each with the document or the
reason why it cannot be had; and the reason for all locations beside these. -/
structure Shelf where
  documents : List (String × Except LoadFailure Value)
  absent : String → LoadError

namespace Shelf

/-- The shelf without documents. -/
def empty : Shelf := ⟨[], .fileNotFound⟩

/-- The document at a location. -/
def load (shelf : Shelf) (location : String) : Except LoadFailure Value :=
  match shelf.documents.lookup location with
  | some result => result
  | none => .error (.load (shelf.absent location))

end Shelf

/-- How references are resolved. -/
structure ResolveOptions where
  /-- Whether references may lead into other documents. -/
  external : Bool
  /-- Whether a reference that cannot be resolved stays in place. -/
  tolerant : Bool
  /-- The directory that relative paths start from. -/
  home : String

namespace Reference

/-- The document that a node belongs to: its root, and its location if it has one. -/
structure Place where
  root : Value
  base : Option String

/-- A document location, nothing for the document at hand, and a pointer into it. -/
structure Target where
  location : Option String
  pointer : String
deriving DecidableEq, Repr

/-- Why resolution stops: a reference, or a text that breaks the reader. -/
inductive Stop where
  | ref (e : RefError)
  | malformed (m : Malformed)
deriving DecidableEq, Repr

/-- The text of the reference that a mapping is. -/
def refText? (ms : Members) : Option String := (ms.get? "$ref").bind Value.str?

/-! ### Following one reference -/

/-- The absolute path of the file `path`, seen from `folder`.  A path cannot hold a null
character. -/
def locateFile (folder path : String) : Except Stop String :=
  if path.toList.contains '\x00' then .error (.malformed .badNumber)
  else .ok (Document.absolutePath folder path)

/-- The location of a document named by a reference in a document at `base`. -/
def locate (o : ResolveOptions) (base : Option String) (location : String) :
    Except Stop String :=
  if Document.isAddress location then .ok location
  else match base with
    | some b =>
      if Document.isAddress b then
        match Document.joinAddress b location with
        | .ok a => .ok a
        | .error m => .error (.malformed m)
      else locateFile (Document.directory (Document.absolutePath o.home b)) location
    | none => locateFile o.home location

/-- Splits a reference into a document and a pointer. -/
def split (o : ResolveOptions) (base : Option String) (ref : String) : Except Stop Target :=
  match Text.stripHead? "#" ref with
  | some pointer => .ok ⟨none, pointer⟩
  | none =>
    if o.external then do
      let (location, pointer) := Text.Chars.splitAt? '#' ref.toList
      let location ← locate o base (String.ofList location)
      return ⟨some location, String.ofList (pointer.getD [])⟩
    else .error (.ref (.externalNotAllowed ref))

/-- What identifies a target among those being followed. -/
def key (base : Option String) (t : Target) : String :=
  (t.location.getD (base.getD "")) ++ "#" ++ t.pointer

/-- The document of a target. -/
def placeOf (shelf : Shelf) (here : Place) (ref : String) (t : Target) : Except Stop Place :=
  match t.location with
  | none => .ok here
  | some location =>
    match shelf.load location with
    | .ok root => .ok ⟨root, some location⟩
    | .error (.load e) => .error (.ref (.unloadable ref e))
    | .error (.malformed m) => .error (.malformed m)

/-- The node that a reference leads to, with its place and the key of its target.  `seen` holds the
keys of the targets being followed. -/
def follow (o : ResolveOptions) (shelf : Shelf) (here : Place) (seen : List String) (ref : String) :
    Except Stop (Value × Place × String) := do
  let t ← split o here.base ref
  let k := key here.base t
  if seen.contains k then throw (.ref (.circular ref))
  let place ← placeOf shelf here ref t
  match Pointer.resolve ref t.pointer place.root with
  | .ok v => return (v, place, k)
  | .error e => throw (.ref e)

/-! ### Resolving a document -/

/-- A resolved value, and the reasons why references were left in it, in order. -/
abbrev Resolved := Value × List RefError

mutual

/-- Replaces the references in a value by what `enter` makes of them. -/
def resolveValue (enter : Members → String → Except Stop Resolved) : Value → Except Stop Resolved
  | .map ms =>
    match refText? ms with
    | some ref => enter ms ref
    | none => do
      let (ms, left) ← resolveMembers enter ms
      return (.map ms, left)
  | .list items => do
    let (items, left) ← resolveItems enter items
    return (.list items, left)
  | .scalar s => .ok (.scalar s, [])
  | .pair a b => .ok (.pair a b, [])
  | .set items => .ok (.set items, [])

def resolveItems (enter : Members → String → Except Stop Resolved) :
    List Value → Except Stop (List Value × List RefError)
  | [] => .ok ([], [])
  | v :: rest => do
    let (v, left) ← resolveValue enter v
    let (rest, left') ← resolveItems enter rest
    return (v :: rest, left ++ left')

def resolveMembers (enter : Members → String → Except Stop Resolved) :
    List (Scalar × Value) → Except Stop (List (Scalar × Value) × List RefError)
  | [] => .ok ([], [])
  | (k, v) :: rest => do
    let (v, left) ← resolveValue enter v
    let (rest, left') ← resolveMembers enter rest
    return ((k, v) :: rest, left ++ left')

end

/-- What becomes of a reference at a place, when chains of at most `depth` references are followed.
-/
def enter (o : ResolveOptions) (shelf : Shelf) :
    (depth : Nat) → Place → List String → Members → String → Except Stop Resolved
  | depth, here, seen, ms, ref =>
    match depth, follow o shelf here seen ref with
    | _, .error (.malformed m) => .error (.malformed m)
    | _, .error (.ref e) => if o.tolerant then .ok (.map ms, [e]) else .error (.ref e)
    | 0, .ok _ =>
      let e := RefError.circular ref
      if o.tolerant then .ok (.map ms, [e]) else .error (.ref e)
    | depth + 1, .ok (target, place, k) =>
      resolveValue (enter o shelf depth place (k :: seen)) target
termination_by structural depth => depth

mutual

/-- The texts of all references in a value. -/
def refTexts : Value → List String
  | .map ms => (refText? ms).toList ++ refTextsOfMembers ms
  | .list items => refTextsOfItems items
  | .scalar _ | .pair _ _ | .set _ => []

def refTextsOfItems : List Value → List String
  | [] => []
  | v :: rest => refTexts v ++ refTextsOfItems rest

def refTextsOfMembers : List (Scalar × Value) → List String
  | [] => []
  | (_, v) :: rest => refTexts v ++ refTextsOfMembers rest

end

/-- The documents of a shelf that can be had. -/
def available (shelf : Shelf) : List Value :=
  shelf.documents.filterMap fun d => d.2.toOption

/-- A number that no chain of references without repetition exceeds: there are no more targets than
documents, the one at hand included, times texts of references. -/
def bound (shelf : Shelf) (root : Value) : Nat :=
  (shelf.documents.length + 2) * ((root :: available shelf).flatMap refTexts).length + 1

/-- The location of a document: an address, or the absolute path of a file. -/
def plainBase (o : ResolveOptions) (base : Option String) : Option String :=
  base.map fun b =>
    if Document.isAddress b || b == "-" then b else Document.absolutePath o.home b

/-- Resolves all references in a document at a location, if it has one. -/
def resolve (o : ResolveOptions) (shelf : Shelf) (base : Option String) (root : Value) :
    Except Stop Resolved :=
  resolveValue (enter o shelf (bound shelf root) ⟨root, plainBase o base⟩ []) root

end Reference

end ApiAccord
