import ApiAccord.Text.Base64
import ApiAccord.Yaml.Node
import ApiAccord.Yaml.Number

/-!
# The value of a YAML text

`Yaml.read` gives the value that the one document of a text denotes.

Names stand for nodes, so that a value can be said to contain itself; such a value is refused.  A
mapping may take over the members of others; they come before its own, and its own win.  Where a
text has several faults, that of the least depth is reported.
-/

namespace ApiAccord.Yaml

/-- Why a text denotes no value: it is not well formed, or a scalar denotes nothing. -/
inductive Problem where
  | illFormed
  | malformed (m : Malformed)
deriving DecidableEq, Repr

def Fault.problem : Fault → Problem
  | .illFormed => .illFormed
  | .noCharacter => .malformed .badNumber
  | .hugeCharacter => .malformed .hugeNumber

def refuse {α : Type} : Except Problem α := .error .illFormed

/-! ### Names -/

mutual

/-- The nodes that have names. -/
def namedNodes : Node → List (String × Node)
  | .scalar _ _ | .alias _ => []
  | .seq _ items => namedInItems items
  | .map _ entries => namedInEntries entries
  | .anchored name n => (name, n) :: namedNodes n

def namedInItems : List Node → List (String × Node)
  | [] => []
  | n :: rest => namedNodes n ++ namedInItems rest

def namedInEntries : List (Node × Node) → List (String × Node)
  | [] => []
  | (k, v) :: rest => namedNodes k ++ (namedNodes v ++ namedInEntries rest)

end

mutual

/-- The number of nodes. -/
def size : Node → Nat
  | .scalar _ _ | .alias _ => 1
  | .seq _ items => 1 + sizeOfItems items
  | .map _ entries => 1 + sizeOfEntries entries
  | .anchored _ n => 1 + size n

def sizeOfItems : List Node → Nat
  | [] => 0
  | n :: rest => size n + sizeOfItems rest

def sizeOfEntries : List (Node × Node) → Nat
  | [] => 0
  | (k, v) :: rest => size k + (size v + sizeOfEntries rest)

end

/-- The nodes that names stand for. -/
abbrev Names := List (String × Node)

/-- The name by which a node is known. -/
def nameOf : Node → Option String
  | .anchored name _ | .alias name => some name
  | _ => none

/-- The node itself, without its name. -/
def target (names : Names) : Node → Node
  | .alias name => (names.lookup name).getD .empty
  | .anchored _ n => n
  | n => n

def tagOf : Node → Tag
  | .scalar tag _ | .seq tag _ | .map tag _ => tag
  | .anchored _ _ | .alias _ => .unknown

/-! ### Members that are taken over -/

/-- The node as a key: an equals sign is a text there. -/
def asKey (names : Names) (k : Node) : Node :=
  match target names k with
  | .scalar .value text => .scalar .str text
  | _ => k

mutual

/-- The entries of a mapping with those that it takes over before its own. -/
def entriesOf (names : Names) : Nat → List (Node × Node) → Except Problem (List (Node × Node))
  | 0, _ => .error (.malformed .endless)
  | fuel + 1, entries => do
    let isMerge (e : Node × Node) : Bool := tagOf (target names e.1) == .merge
    let taken ← (entries.filter isMerge).mapM fun e => takenFrom names fuel e.2
    let own := (entries.filter (!isMerge ·)).map fun e => (asKey names e.1, e.2)
    return taken.flatten ++ own

/-- The entries that are taken over from a mapping, or from a sequence of mappings, of which the
last comes first. -/
def takenFrom (names : Names) : Nat → Node → Except Problem (List (Node × Node))
  | 0, _ => .error (.malformed .endless)
  | fuel + 1, n =>
    match target names n with
    | .map _ entries => entriesOf names fuel entries
    | .seq _ items => do
      let parts ← items.mapM fun item =>
        match target names item with
        | .map _ entries => entriesOf names fuel entries
        | _ => refuse
      return parts.reverse.flatten
    | _ => refuse

end

/-! ### Scalars -/

/-- The text of a scalar, or of the value that a mapping stands for. -/
def textOf (names : Names) : Nat → Node → Except Problem String
  | 0, _ => .error (.malformed .endless)
  | fuel + 1, n =>
    match target names n with
    | .scalar _ text => .ok text
    | .map _ entries =>
      match entries.find? fun e => tagOf (target names e.1) == .value with
      | some e => textOf names fuel e.2
      | none => refuse
    | _ => refuse

def lift {α : Type} : Except Malformed α → Except Problem α
  | .ok a => .ok a
  | .error m => .error (.malformed m)

/-- Whether the tag is that of a collection. -/
def isCollection : Tag → Bool
  | .seq | .map | .set | .omap | .pairs => true
  | _ => false

/-- The bytes that a text in base 64 writes. -/
def bytesOf (text : String) : Except Problem Scalar :=
  if text.toList.all fun c => c.toNat < 0x80 then
    match Text.Base64.decode? text.toList with
    | some data => .ok (.bytes data)
    | none => refuse
  else refuse

/-- The scalar that a text with a tag denotes. -/
def scalarOf (tag : Tag) (text : String) : Except Problem Scalar :=
  match tag with
  | .null => .ok .null
  | .str => .ok (.str text)
  | .bool => lift do return .bool (← truthOf text)
  | .int => lift do return .int (← integerOf text)
  | .float => lift do return .float (← floatOf text)
  | .timestamp =>
    let cs := Tag.dropLastLineFeed text.toList
    if Tag.timestampForm.matchesAll cs.toArray || Tag.looseDateForm.matchesAll cs.toArray then
      lift (timeOf cs)
    else .error (.malformed .badMoment)
  | .binary => bytesOf text
  | _ => refuse

/-- The scalar that a node denotes; its tag is none of a collection. -/
def scalarNode (names : Names) (fuel : Nat) (n : Node) : Except Problem Scalar := do
  let tag := tagOf (target names n)
  match tag with
  | .unknown | .merge | .value => refuse
  | _ => scalarOf tag (← textOf names fuel n)

/-! ### The first fault -/

/-- The entry of a mapping with one entry. -/
def onlyEntry (names : Names) (n : Node) : Except Problem (Node × Node) :=
  match target names n with
  | .map _ [e] => .ok e
  | _ => refuse

/-- The parts of a collection, and which of them are keys. -/
def partsOf (names : Names) (fuel : Nat) (n : Node) : Except Problem (List (Bool × Node)) :=
  let keyed (es : List (Node × Node)) : List (Bool × Node) :=
    es.flatMap fun e => [(true, e.1), (false, e.2)]
  match target names n with
  | .seq .seq items => .ok (items.map (false, ·))
  | .seq .omap items | .seq .pairs items => do
    let es ← items.mapM (onlyEntry names)
    return es.flatMap fun e => [(false, e.1), (false, e.2)]
  | .map .map entries | .map .set entries => do
    return keyed (← entriesOf names fuel entries)
  | _ => refuse

/-- Checks scalars and keys among parts; gives the collections among them. -/
def checkParts (names : Names) (fuel : Nat) : List (Bool × Node) → Except Problem (List Node)
  | [] => .ok []
  | (isKey, n) :: rest => do
    if isCollection (tagOf (target names n)) then
      if isKey then refuse
      else return n :: (← checkParts names fuel rest)
    else
      let _ ← scalarNode names fuel n
      checkParts names fuel rest

/-- Checks collections one level after another; those in `seen` are not checked again. -/
def checkLevels (names : Names) (fuel : Nat) :
    Nat → (seen : List String) → List Node → Except Problem Unit
  | 0, _, _ => .ok ()
  | _, _, [] => .ok ()
  | rounds + 1, seen, level => do
    let new := level.filter fun n => (nameOf n).all fun a => !seen.contains a
    let parts ← new.mapM fun n => do checkParts names fuel (← partsOf names fuel n)
    checkLevels names fuel rounds (new.filterMap nameOf ++ seen) parts.flatten

/-! ### Values -/

/-- The value that a node denotes.  `inside` holds the names of the nodes around it. -/
def valueOf (names : Names) : Nat → (inside : List String) → Node → Except Problem Value
  | 0, _, _ => .error (.malformed .endless)
  | fuel + 1, inside, n => do
    let name := nameOf n
    if name.any inside.contains then throw (.malformed .endless)
    let inside := name.toList ++ inside
    match target names n with
    | .seq .seq items => return .list (← items.mapM (valueOf names fuel inside))
    | .seq _ items =>
      let pairs ← items.mapM fun item => do
        let (k, v) ← onlyEntry names item
        return Value.pair (← valueOf names fuel inside k) (← valueOf names fuel inside v)
      return .list pairs
    | .map .set entries =>
      let keys ← (← entriesOf names fuel entries).mapM fun e => do
        let _ ← valueOf names fuel inside e.2
        return (← scalarNode names fuel e.1, Value.null)
      return .set ((Members.ofEntries keys).map (·.1))
    | .map .map entries =>
      let members ← (← entriesOf names fuel entries).mapM fun e => do
        return (← scalarNode names fuel e.1, ← valueOf names fuel inside e.2)
      return .map (Members.ofEntries members)
    | _ => return .scalar (← scalarNode names fuel n)

/-- The value of a document with a given root. -/
def valueOfRoot (root : Node) : Except Problem Value := do
  let names := namedNodes root
  let n := size root + 1
  let _ ← checkParts names n [(false, root)]
  checkLevels names n n [] (if isCollection (tagOf (target names root)) then [root] else [])
  valueOf names (2 * n) [] root

/-- The value that a text denotes; nothing if it has no document. -/
def read (text : List Char) : Except Problem (Option Value) :=
  match Node.ofText text with
  | .error f => .error f.problem
  | .ok none => .ok none
  | .ok (some root) => (valueOfRoot root).map some

end ApiAccord.Yaml
