import ApiAccord.Value.Display
import ApiAccord.Text.Basic

/-!
# Checked reading of records

Records such as options and descriptors are read from values field by field.  A value of the wrong
kind is taken for the right one where its meaning is plain (`"yes"` for true, `7.0` for 7), and
otherwise is a `Fault` with the path of the field.  `Checked` gathers the faults of all fields, in
order.
-/

namespace ApiAccord

/-- A step from a record to one of its parts. -/
inductive Step where
  | field (name : String)
  | item (i : Int)
deriving DecidableEq, Repr

/-- What is wrong with a value. -/
inductive Flaw where
  | missing
  | notText
  | textData
  | notTruth
  | truthWord
  | notWhole
  | wholeWord
  | wholeSize
  | fraction
  | infinite
  | notNumber
  | numberWord
  | notList
  | notTuple
  | notMapping
  | notRecord (name : String)
  | notChoice (options : List String)
  | notAbove (bound : String)
  | tooSmall (bound : String)
  | tooGreat (bound : String)
  /-- A rule on the record as a whole is broken. -/
  | rule (message : String)
deriving DecidableEq, Repr

/-- A flaw and where it is. -/
structure Fault where
  flaw : Flaw
  path : List Step
deriving DecidableEq, Repr

/-- `a, b or c`, each in quotes. -/
def listChoices (options : List String) : String :=
  match options.reverse.map fun o => "'" ++ o ++ "'" with
  | [] => ""
  | [o] => o
  | last :: others => ", ".intercalate others.reverse ++ " or " ++ last

namespace Flaw

/-- The name of the flaw. -/
def code : Flaw → String
  | .missing => "missing"
  | .notText => "string_type"
  | .textData => "string_unicode"
  | .notTruth => "bool_type"
  | .truthWord => "bool_parsing"
  | .notWhole => "int_type"
  | .wholeWord => "int_parsing"
  | .wholeSize => "int_parsing_size"
  | .fraction => "int_from_float"
  | .infinite => "finite_number"
  | .notNumber => "float_type"
  | .numberWord => "float_parsing"
  | .notList => "list_type"
  | .notTuple => "tuple_type"
  | .notMapping => "dict_type"
  | .notRecord _ => "model_type"
  | .notChoice _ => "enum"
  | .notAbove _ => "greater_than"
  | .tooSmall _ => "greater_than_equal"
  | .tooGreat _ => "less_than_equal"
  | .rule _ => "value_error"

def message : Flaw → String
  | .missing => "Field required"
  | .notText => "Input should be a valid string"
  | .textData =>
    "Input should be a valid string, unable to parse raw data as a unicode string"
  | .notTruth => "Input should be a valid boolean"
  | .truthWord => "Input should be a valid boolean, unable to interpret input"
  | .notWhole => "Input should be a valid integer"
  | .wholeWord => "Input should be a valid integer, unable to parse string as an integer"
  | .wholeSize =>
    "Unable to parse input string as an integer, exceeded maximum size"
  | .fraction => "Input should be a valid integer, got a number with a fractional part"
  | .infinite => "Input should be a finite number"
  | .notNumber => "Input should be a valid number"
  | .numberWord => "Input should be a valid number, unable to parse string as a number"
  | .notList => "Input should be a valid list"
  | .notTuple => "Input should be a valid tuple"
  | .notMapping => "Input should be a valid dictionary"
  | .notRecord name => "Input should be a valid dictionary or instance of " ++ name
  | .notChoice options => "Input should be " ++ listChoices options
  | .notAbove bound => "Input should be greater than " ++ bound
  | .tooSmall bound => "Input should be greater than or equal to " ++ bound
  | .tooGreat bound => "Input should be less than or equal to " ++ bound
  | .rule message => "Value error, " ++ message

end Flaw

/-- A value, or all the faults found on the way to it. -/
inductive Checked (α : Type) where
  | ok (a : α)
  | faults (fs : List Fault)

namespace Checked

variable {α β : Type}

def map (f : α → β) : Checked α → Checked β
  | .ok a => .ok (f a)
  | .faults fs => .faults fs

/-- Applies a checked function to a checked argument; faults of both are kept. -/
def ap : Checked (α → β) → Checked α → Checked β
  | .ok f, .ok a => .ok (f a)
  | .ok _, .faults fs => .faults fs
  | .faults fs, .ok _ => .faults fs
  | .faults fs, .faults gs => .faults (fs ++ gs)

instance : Functor Checked := ⟨map, fun a c => map (fun _ => a) c⟩

instance : Seq Checked := ⟨fun f x => ap f (x ())⟩

instance : Pure Checked := ⟨.ok⟩

def flaw (f : Flaw) : Checked α := .faults [⟨f, []⟩]

/-- The same faults, one step further in. -/
def at_ (step : Step) : Checked α → Checked α
  | .ok a => .ok a
  | .faults fs => .faults (fs.map fun f => { f with path := step :: f.path })

/-- Goes on only when there was no fault. -/
def andThen (c : Checked α) (f : α → Checked β) : Checked β :=
  match c with
  | .ok a => f a
  | .faults fs => .faults fs

/-- Checks the elements of a list. -/
def traverse (f : α → Checked β) : List α → Checked (List β)
  | [] => .ok []
  | a :: rest => List.cons <$> f a <*> traverse f rest

def toExcept : Checked α → Except (List Fault) α
  | .ok a => .ok a
  | .faults fs => .error fs

end Checked

/-! ### Kinds of fields -/

namespace Field

open Checked

/-- The text that bytes encode. -/
def decode? (data : List UInt8) : Option String :=
  String.fromUTF8? ⟨data.toArray⟩

/-- The text of a text or of encoded bytes. -/
def looseText (bad : Flaw) : Value → Option (Checked String)
  | .scalar (.str s) => some (.ok s)
  | .scalar (.bytes data) =>
    match decode? data with
    | some s => some (.ok s)
    | none => some (flaw bad)
  | _ => none

def text (v : Value) : Checked String :=
  (looseText .textData v).getD (flaw .notText)

/-- The words for true and false. -/
def trueWords : List String := ["1", "on", "t", "true", "y", "yes"]
def falseWords : List String := ["0", "off", "f", "false", "n", "no"]

def lowerAscii (s : String) : String := s.map Char.toLower

def truthOfWord (s : String) : Checked Bool :=
  if trueWords.contains (lowerAscii s) then .ok true
  else if falseWords.contains (lowerAscii s) then .ok false
  else flaw .truthWord

def truthOfWhole (i : Int) : Checked Bool :=
  if i == 0 then .ok false else if i == 1 then .ok true else flaw .truthWord

def truth (v : Value) : Checked Bool :=
  match v with
  | .scalar (.bool b) => .ok b
  | .scalar (.int i) => truthOfWhole i
  | .scalar (.float x) =>
    match Scalar.wholeFloat? x with
    | some i => truthOfWhole i
    | none => flaw .notTruth
  | v =>
    match looseText .truthWord v with
    | some c => c.andThen truthOfWord
    | none => flaw .notTruth

/-- The digits of a number, with single underscores between them dropped. -/
def plainDigits? : List Char → Option (List Char)
  | [] => none
  | [c] => if c.isDigit then some [c] else none
  | c :: '_' :: rest => if c.isDigit then (plainDigits? rest).map (c :: ·) else none
  | c :: rest => if c.isDigit then (plainDigits? rest).map (c :: ·) else none

def natOf (ds : List Char) : Nat := ds.foldl (fun n c => n * 10 + (c.toNat - '0'.toNat)) 0

/-- Splits a sign off. -/
def unsign : List Char → Bool × List Char
  | '-' :: rest => (true, rest)
  | '+' :: rest => (false, rest)
  | cs => (false, cs)

/-- Drops a point with nothing but zeros after it. -/
def dropZeroFraction (cs : List Char) : List Char :=
  match Text.Chars.splitAt? '.' cs with
  | (whole, some zeros) => if zeros.all (· == '0') then whole else cs
  | (_, none) => cs

def wholeOfWord (s : String) : Checked Int :=
  let (negative, body) := unsign (Text.Chars.trimBy Text.isBlank s.toList)
  match plainDigits? (dropZeroFraction body) with
  | none => flaw .wholeWord
  | some ds =>
    if 4300 < ds.length then flaw .wholeSize
    else .ok (if negative then -(natOf ds : Int) else natOf ds)

def whole (v : Value) : Checked Int :=
  match v with
  | .scalar (.int i) => .ok i
  | .scalar (.bool b) => .ok (if b then 1 else 0)
  | .scalar (.float x) =>
    if x.isNaN || x.isInf then flaw .infinite
    else match Scalar.wholeFloat? x with
      | some i => .ok i
      | none => flaw .fraction
  | v =>
    match looseText .wholeWord v with
    | some c => c.andThen wholeOfWord
    | none => flaw .notWhole

/-- The number that a decimal text writes. -/
def decimalOf? (cs : List Char) : Option Float :=
  let (negative, body) := unsign cs
  let lowered := body.map Char.toLower
  let sign (x : Float) := if negative then -x else x
  if lowered == "inf".toList || lowered == "infinity".toList then some (sign (1.0 / 0.0))
  else if lowered == "nan".toList then some (0.0 / 0.0)
  else
    let (mantissa, exponent) := match Text.Chars.splitAt? 'e' lowered with
      | (m, some e) => (m, some e)
      | (m, none) => (m, none)
    let (wholePart, fraction) := Text.Chars.splitAt? '.' mantissa
    let digits? (ds : List Char) : Option (List Char) :=
      if ds.isEmpty then some [] else plainDigits? ds
    let exponent? : Option Int := match exponent with
      | none => some 0
      | some e =>
        let (down, ds) := unsign e
        (plainDigits? ds).map fun ds => if down then -(natOf ds : Int) else natOf ds
    match digits? wholePart, digits? (fraction.getD []), exponent? with
    | some a, some b, some e =>
      if a.isEmpty && b.isEmpty then none
      else some (sign (Decimal.ofDigits (natOf (a ++ b)) (e - b.length)))
    | _, _, _ => none

def numberOfWord (s : String) : Checked Float :=
  match decimalOf? (Text.Chars.trimBy Text.isBlank s.toList) with
  | some x => .ok x
  | none => flaw .numberWord

/-- The double nearest to an integer. -/
def floatOfInt (i : Int) : Float :=
  let x := Decimal.ofDigits i.natAbs 0
  if i < 0 then -x else x

def number (v : Value) : Checked Float :=
  match v with
  | .scalar (.float x) => .ok x
  | .scalar (.bool b) => .ok (if b then 1 else 0)
  | .scalar (.int i) =>
    let x := floatOfInt i
    if x.isInf then flaw .notNumber else .ok x
  | v =>
    match looseText .numberWord v with
    | some c => c.andThen numberOfWord
    | none => flaw .notNumber

/-- A value that may be absent. -/
def orNull {α : Type} (check : Value → Checked α) : Value → Checked (Option α)
  | .scalar .null => .ok none
  | v => some <$> check v

/-- The items of a value that stands for a list. -/
def listItems? : Value → Option (List Value)
  | .list items => some items
  | .pair a b => some [a, b]
  | .set items => some (items.map .scalar)
  | _ => none

/-- Checks the items of a list, each under its index. -/
def checkItems {α : Type} (check : Value → Checked α) (i : Nat) : List Value → Checked (List α)
  | [] => .ok []
  | v :: rest => List.cons <$> (check v).at_ (.item i) <*> checkItems check (i + 1) rest

def listOf {α : Type} (check : Value → Checked α) (v : Value) : Checked (List α) :=
  match listItems? v with
  | some items => checkItems check 0 items
  | none => flaw .notList

def tupleOf {α : Type} (check : Value → Checked α) (v : Value) : Checked (List α) :=
  match listItems? v with
  | some items => checkItems check 0 items
  | none => flaw .notTuple

/-- The step to the member under a key. -/
def stepOf : Scalar → Step
  | .str s => .field s
  | .int i => .item i
  | .bool b => .item (if b then 1 else 0)
  | k => .field k.inspect

/-- Checks the entries of a mapping, keys and values. -/
def mappingOf {κ α : Type} (key : Value → Checked κ) (value : Value → Checked α) (v : Value) :
    Checked (List (κ × α)) :=
  match v with
  | .map ms => Checked.traverse (fun (k, v) =>
      Prod.mk <$> ((key (.scalar k)).at_ (.field "[key]")).at_ (stepOf k) <*>
        (value v).at_ (stepOf k)) ms
  | _ => flaw .notMapping

/-- A mapping from names to anything. -/
def namedMapping (v : Value) : Checked Members :=
  (mappingOf text Checked.ok v).map fun ms => ms.map fun (name, v) => (.str name, v)

/-- One of several words. -/
def choice {α : Type} (options : List (String × α)) (v : Value) : Checked α :=
  match v.str?.bind fun s => options.lookup s with
  | some a => .ok a
  | none => flaw (.notChoice (options.map (·.1)))

/-- A number that passes a test. -/
def satisfying {α : Type} (test : α → Bool) (bad : Flaw) (check : Value → Checked α) (v : Value) :
    Checked α :=
  (check v).andThen fun a => if test a then .ok a else flaw bad

end Field

/-! ### Records -/

namespace Record

/-- The members of a value read as the record `name`. -/
def members (name : String) : Value → Checked Members
  | .map ms => .ok ms
  | _ => Checked.flaw (.notRecord name)

/-- The first of several names that is there, with its value. -/
def find? (ms : Members) : List String → Option (String × Value)
  | [] => none
  | name :: others =>
    match ms.get? name with
    | some v => some (name, v)
    | none => find? ms others

/-- A field that has to be there.  If it is not, the fault gives the first of its names. -/
def required {α : Type} (ms : Members) (names : List String) (check : Value → Checked α) :
    Checked α :=
  match find? ms names with
  | some (name, v) => (check v).at_ (.field name)
  | none => (Checked.flaw .missing).at_ (.field (names.headD ""))

/-- A field with a default. -/
def field {α : Type} (ms : Members) (names : List String) (default : α)
    (check : Value → Checked α) : Checked α :=
  match find? ms names with
  | some (name, v) => (check v).at_ (.field name)
  | none => .ok default

end Record

end ApiAccord
