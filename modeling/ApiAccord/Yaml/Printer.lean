import ApiAccord.Yaml.Style

/-!
# Writing YAML

`Yaml.print` writes a mapping, one entry to a line, with collections below their keys: mappings two
blanks deeper, sequences at the same depth.  Members that are the same are written once, where they
are first, under a name by which the others refer to them.
-/

namespace ApiAccord.Yaml

/-- What stands before a member that is written under a name, or in the place of the others. -/
inductive Mark where
  | anchor (name : String)
  | reference (name : String)
deriving DecidableEq, Repr

/-- Marks of members, by the keys that lead to them. -/
abbrev Marks := List (List Scalar × Mark)

namespace Marks

/-- The marks below a key. -/
def under (key : Scalar) (marks : Marks) : Marks :=
  marks.filterMap fun
    | (k :: place, mark) => if k.same key then some (place, mark) else none
    | ([], _) => none

/-- The mark right here. -/
def here? (marks : Marks) : Option Mark := marks.findSome? fun
  | ([], mark) => some mark
  | _ => none

/-- The `n`th name for a member. -/
def name (n : Nat) : String := "id" ++ Text.padded 3 n

/-- The marks of places that hold the same member. -/
def ofPlaces (n : Nat) : List (List Scalar) → Marks
  | [] => []
  | first :: others =>
    (first, .anchor (name n)) :: others.map fun place => (place, .reference (name n))

/-- The marks of several groups of places, each of which holds one member, named from `n` on. -/
def ofGroups (n : Nat) : List (List (List Scalar)) → Marks
  | [] => []
  | places :: rest => ofPlaces n places ++ ofGroups (n + 1) rest

end Marks

/-- Entries one below the other. -/
def stack (indent : Nat) (entries : List (List Char)) : List Char :=
  (newline indent).intercalate entries

/-- What comes between an introduction and the first entry of a collection: a blank on the same
line, or a new line. -/
def opening (indent : Nat) (sameLine : Bool) : List Char :=
  if sameLine then [' '] else newline indent

/-- Writes a key with its colon.  A key that does not fit on the line of its value has a question
mark before it, and the colon comes on a line of its own. -/
def writeKey (indent : Nat) (k : Scalar) : List Char :=
  if isShortKey k then writeScalar (indent + 2) indent false k ++ [':']
  else "? ".toList ++ writeScalar (indent + 2) (indent + 2) true k ++ newline indent ++ [':']

mutual

/-- Writes a value after its introduction, which ends at a column: a key and a colon, or, on the
`sameLine` as the first entry of the value, a hyphen or a colon alone. -/
def writeValue (marks : Marks) (indent column : Nat) (sameLine : Bool) : Value → List Char
  | .scalar s => ' ' :: writeScalar (indent + 2) (column + 1) true s
  | .list items =>
    let inner := if sameLine then indent + 2 else indent
    match items with
    | [] => " []".toList
    | items => opening inner sameLine ++ stack inner (writeItems inner items)
  | .pair a b =>
    let inner := if sameLine then indent + 2 else indent
    opening inner sameLine ++ stack inner (
      ['-' :: writeValue [] inner (inner + 1) true a,
        '-' :: writeValue [] inner (inner + 1) true b])
  | .map ms =>
    let inner := indent + 2
    match marks.here?, ms with
    | some (.reference name), _ => " *".toList ++ name.toList
    | _, [] => " \x7b\x7d".toList
    | some (.anchor name), ms =>
      " &".toList ++ name.toList ++ newline inner ++ stack inner (writeMembers marks inner ms)
    | none, ms => opening inner sameLine ++ stack inner (writeMembers marks inner ms)
  | .set items =>
    let inner := indent + 2
    match items with
    | [] => " !!set \x7b\x7d".toList
    | items => " !!set".toList ++ newline inner ++
        stack inner (items.map fun s => writeKey inner s ++ " null".toList)

/-- Writes the items of a sequence. -/
def writeItems (indent : Nat) : List Value → List (List Char)
  | [] => []
  | v :: rest => ('-' :: writeValue [] indent (indent + 1) true v) :: writeItems indent rest

/-- Writes the entries of a mapping. -/
def writeMembers (marks : Marks) (indent : Nat) : List (Scalar × Value) → List (List Char)
  | [] => []
  | (k, v) :: rest =>
    let key := writeKey indent k
    let column := if isShortKey k then indent + key.length else indent + 1
    (key ++ writeValue (marks.under k) indent column (!isShortKey k) v) ::
      writeMembers marks indent rest

end

/-- Writes a mapping. -/
def print (marks : Marks) (ms : Members) : String :=
  String.ofList (stack 0 (writeMembers marks 0 ms) ++ ['\n'])

end ApiAccord.Yaml
