import ApiAccord.Pattern.Basic
import ApiAccord.Text.Basic
import ApiAccord.Text.Case

/-!
# Type names

Declared types are compared across languages by a common spelling: `normalize` drops what makes a
type optional and maps every form of list to `array`, and `compatible` says that two types may hold
the same values.
-/

namespace ApiAccord.TypeName

/-- `Optional[…]` -/
def optionalWrapper : Pattern :=
  .textStart ++ .text "Optional[" ++ .group 1 (.plus (.char (.not (.one '\n')))) ++ .text "]" ++
    .textEnd

/-- `| None`, `| null`, `| undefined` -/
def nullableTail : Pattern :=
  .blanks ++ .text "|" ++ .blanks ++
    .firstOf [.text "None", .text "null", .text "undefined"] ++ .wordEdge

/-- A generic list type at the start, or a pair of brackets at the end. -/
def arrayForm : Pattern :=
  .alt
    (.textStart ++
      .firstOf (["List", "Array", "Sequence", "Tuple", "Set", "list", "tuple", "set"].map .text) ++
      .blanks ++ .oneOf "<[")
    (.text "[]" ++ .textEnd)

/-- What an outermost `Optional` wraps. -/
def unwrapOptional (name : String) : String :=
  let text := name.toList.toArray
  match (optionalWrapper.matchAt text 0).bind fun m => m.groupText? text 1 with
  | some inner => Text.trim inner
  | none => name

/-- Drops null alternatives and question marks at the end. -/
def dropNullable (name : String) : String :=
  let kept := (nullableTail.remove name).toList
  String.ofList
    (Text.Chars.trimBy Text.isBlank (Text.Chars.dropEndWhile (· == '?') kept))

/-- The common spelling of a declared type. -/
def normalize (type : String) : String :=
  let name := dropNullable (unwrapOptional (Text.trim type))
  if arrayForm.occursIn name.toList.toArray then "array" else Text.lower name

/-- The spellings of each primitive type.  A bare number may hold an integer or a float. -/
def spellings : List (List String) :=
  [["int", "integer", "int32", "int64", "long", "short", "number"],
    ["float", "double", "decimal", "real", "number"],
    ["str", "string", "text"],
    ["bool", "boolean"],
    ["list", "array", "tuple", "sequence", "set"]]

/-- Types that hold any value. -/
def opaqueTypes : List String := ["any", "object", "dynamic", "unknown", "mixed"]

/-- Whether the spelling is one of a primitive type. -/
def isPrimitive (name : String) : Bool := spellings.any fun s => s.contains name

/-- Whether two common spellings may stand for the same type.  A name that is no primitive type
agrees with every other. -/
def agree (a b : String) : Bool :=
  a == b || opaqueTypes.contains a || opaqueTypes.contains b ||
    !isPrimitive a || !isPrimitive b ||
    spellings.any fun s => s.contains a && s.contains b

/-- Whether two declared types may agree. -/
def compatible (a b : String) : Bool := agree (normalize a) (normalize b)

end ApiAccord.TypeName
