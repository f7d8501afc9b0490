import ApiAccord.Failure
import ApiAccord.Text.Integer

/-!
# Pointers into documents

A pointer is a sequence of segments, each written after a slash, that leads from the root of a
document to one of its nodes.  In a segment `~1` stands for a slash and `~0` for a tilde.
-/

namespace ApiAccord.Pointer

/-- The name that a segment writes. -/
def unescape (segment : String) : String :=
  Text.replacePair '~' '0' "~" (Text.replacePair '~' '1' "/" segment)

/-- The segment that writes a name. -/
def escape (name : String) : String :=
  Text.replaceChar '/' "~1" (Text.replaceChar '~' "~0" name)

/-- The item at an index, counted from the end if the index is negative. -/
def itemAt? (items : List Value) (i : Int) : Option Value :=
  if i < 0 then
    if i.natAbs ≤ items.length then items[items.length - i.natAbs]? else none
  else items[i.toNat]?

/-- Goes one step into a value. -/
def step (ref segment : String) : Value → Except RefError Value
  | .map ms =>
    match Members.get? segment ms with
    | some v => .ok v
    | none => .error (.missingKey ref segment)
  | .list items =>
    match (Text.integer? segment).bind (itemAt? items) with
    | some v => .ok v
    | none => .error (.badIndex ref segment)
  | v => .error (.notContainer ref v.kindName)

/-- Follows segments from a value. -/
def walk (ref : String) : List String → Value → Except RefError Value
  | [], v => .ok v
  | segment :: rest, v => do walk ref rest (← step ref segment v)

/-- The node of a document that a pointer leads to; the empty pointer leads to the root.  `ref` is
the reference that the pointer is part of. -/
def resolve (ref pointer : String) (root : Value) : Except RefError Value :=
  if pointer == "" then .ok root
  else match Text.stripHead? "/" pointer with
    | none => .error (.badFragment ref pointer)
    | some path => walk ref ((Text.splitOn '/' path).map unescape) root

end ApiAccord.Pointer
