/-!
# Document values

A specification document is a tree of `Value`s: scalars, lists, mappings with ordered members, and
the few other collections that a document language can write.  The keys of a mapping are scalars,
so that a mapping can never have a collection for a key.

`Scalar.same` is equality of keys: numbers and truth values are compared by amount, whatever their
kind.  `Members.insert` keeps the first place and the last value of a repeated key.
-/

namespace ApiAccord

/-- A calendar day. -/
structure Date where
  year : Nat
  month : Nat
  day : Nat
deriving DecidableEq, Repr

/-- A moment, with its distance from universal time in minutes if it is known. -/
structure Moment where
  date : Date
  hour : Nat
  minute : Nat
  second : Nat
  microsecond : Nat
  offset : Option Int
deriving DecidableEq, Repr

/-- A value without parts. -/
inductive Scalar where
  | null
  | bool (b : Bool)
  | int (i : Int)
  | float (x : Float)
  | str (s : String)
  | bytes (data : List UInt8)
  | date (d : Date)
  | moment (m : Moment)
deriving Inhabited

/-- A value of a document. -/
inductive Value where
  | scalar (s : Scalar)
  | list (items : List Value)
  | pair (first second : Value)
  | map (members : List (Scalar × Value))
  | set (items : List Scalar)
deriving Inhabited

/-- The members of a mapping, in order. -/
abbrev Members := List (Scalar × Value)

/-! ### Keys -/

namespace Scalar

/-- The amount of a number or truth value, when it is a whole number. -/
def wholeAmount? : Scalar → Option Int
  | .bool b => some (if b then 1 else 0)
  | .int i => some i
  | _ => none

/-- The exact value of a finite double as `m · 2 ^ e`, when that is a whole number. -/
def wholeFloat? (x : Float) : Option Int :=
  if x.isNaN || x.isInf || x.floor != x then none
  else
    let bits := x.abs.toBits.toNat
    let exponent : Nat := bits / Nat.pow 2 52
    let fraction : Nat := bits % Nat.pow 2 52
    let m : Nat := if exponent == 0 then 0 else fraction + Nat.pow 2 52
    let n : Nat :=
      if 1075 ≤ exponent then m * Nat.pow 2 (exponent - 1075)
      else m / Nat.pow 2 (1075 - exponent)
    some (if x < 0 then -(n : Int) else n)

/-- Whether two scalars are the same key. -/
def same : Scalar → Scalar → Bool
  | .null, .null => true
  | .str a, .str b => a == b
  | .bytes a, .bytes b => a == b
  | .date a, .date b => a == b
  | .moment a, .moment b => a == b
  | .float a, .float b => a == b || (a.isNaN && b.isNaN)
  | .float a, b | b, .float a =>
    match b.wholeAmount?, wholeFloat? a with
    | some i, some j => i == j
    | _, _ => false
  | a, b =>
    match a.wholeAmount?, b.wholeAmount? with
    | some i, some j => i == j
    | _, _ => false

/-- Whether the scalar counts as true where a condition is wanted. -/
def truthy : Scalar → Bool
  | .null => false
  | .bool b => b
  | .int i => i != 0
  | .float x => x != 0
  | .str s => s != ""
  | .bytes data => data != []
  | .date _ | .moment _ => true

end Scalar

/-! ### Members -/

namespace Members

/-- The value under a key. -/
def lookup (k : Scalar) : Members → Option Value
  | [] => none
  | (k', v) :: rest => if k'.same k then some v else lookup k rest

/-- The value under a name. -/
def get? (name : String) : Members → Option Value
  | [] => none
  | (.str s, v) :: rest => if s == name then some v else get? name rest
  | _ :: rest => get? name rest

/-- Whether a member has this name. -/
def has (name : String) (ms : Members) : Bool := (ms.get? name).isSome

/-- Sets the value under a key: in place if the key is there, else at the end. -/
def insert (k : Scalar) (v : Value) : Members → Members
  | [] => [(k, v)]
  | (k', w) :: rest => if k'.same k then (k', v) :: rest else (k', w) :: insert k v rest

/-- The mapping that a sequence of entries leaves behind. -/
def ofEntries (entries : List (Scalar × Value)) : Members :=
  entries.foldl (fun ms e => insert e.1 e.2 ms) []

end Members

/-! ### Values -/

namespace Value

abbrev null : Value := .scalar .null
abbrev bool (b : Bool) : Value := .scalar (.bool b)
abbrev int (i : Int) : Value := .scalar (.int i)
abbrev float (x : Float) : Value := .scalar (.float x)
abbrev str (s : String) : Value := .scalar (.str s)

/-- A mapping from names. -/
def ofNamed (members : List (String × Value)) : Value :=
  .map (members.map fun (name, v) => (.str name, v))

/-- The text, if the value is one. -/
def str? : Value → Option String
  | .scalar (.str s) => some s
  | _ => none

/-- The members, if the value is a mapping. -/
def members? : Value → Option Members
  | .map ms => some ms
  | _ => none

/-- Whether the value is a mapping. -/
def isMap : Value → Bool
  | .map _ => true
  | _ => false

def isNull : Value → Bool
  | .scalar .null => true
  | _ => false

/-- Whether the value counts as true where a condition is wanted: all but empty ones do. -/
def truthy : Value → Bool
  | .scalar s => s.truthy
  | .list items => !items.isEmpty
  | .pair _ _ => true
  | .map ms => !ms.isEmpty
  | .set items => !items.isEmpty

/-- The name of the value's kind, as messages give it. -/
def kindName : Value → String
  | .scalar .null => "NoneType"
  | .scalar (.bool _) => "bool"
  | .scalar (.int _) => "int"
  | .scalar (.float _) => "float"
  | .scalar (.str _) => "str"
  | .scalar (.bytes _) => "bytes"
  | .scalar (.date _) => "date"
  | .scalar (.moment _) => "datetime"
  | .list _ => "list"
  | .pair _ _ => "tuple"
  | .map _ => "dict"
  | .set _ => "set"

/-- Whether two values are equal texts, the only equality the readers ask for. -/
def isText (v : Value) (s : String) : Bool := v.str? == some s

end Value

/-! ### Reading loosely -/

/-- What goes wrong when a document is read as if it had the expected shape. -/
inductive Malformed where
  /-- A member or a text operation was asked of a value that has none. -/
  | noMembers
  /-- A value without items was to be gone through, or one without a key's nature used as a key. -/
  | noItems
  /-- A number, day or text that denotes no value. -/
  | badNumber
  /-- A number without digits. -/
  | emptyNumber
  /-- A number that no machine word holds. -/
  | hugeNumber
  /-- A truth value spelled in an unknown word. -/
  | unknownWord
  /-- A moment that is not one. -/
  | badMoment
  /-- A value that contains itself. -/
  | endless
deriving DecidableEq, Repr

namespace Value

/-- The members of a value that is taken for a mapping. -/
def members : Value → Except Malformed Members
  | .map ms => .ok ms
  | _ => .error .noMembers

/-- The member `name` of a value that is taken for a mapping. -/
def get (v : Value) (name : String) : Except Malformed (Option Value) := do
  let ms ← v.members
  return ms.get? name

/-- The items a value yields when it is gone through: characters of a text, keys of a mapping. -/
def items : Value → Except Malformed (List Value)
  | .scalar (.str s) => .ok (s.toList.map fun c => .str c.toString)
  | .scalar (.bytes data) => .ok (data.map fun b => .int b.toNat)
  | .scalar _ => .error .noItems
  | .list items => .ok items
  | .pair a b => .ok [a, b]
  | .map ms => .ok (ms.map fun m => .scalar m.1)
  | .set items => .ok (items.map .scalar)

/-- Whether the value can serve as a key. -/
def isKey : Value → Bool
  | .scalar _ => true
  | .pair a b => a.isKey && b.isKey
  | _ => false

/-- The value itself when it counts as true. -/
def ifTruthy (v : Option Value) : Option Value :=
  match v with
  | some v => if v.truthy then some v else none
  | none => none

end Value

end ApiAccord
