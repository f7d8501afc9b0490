import ApiAccord.Value.Display

/-!
# Writing JSON

`Json.print` writes a value over several lines, two blanks deeper for each level, and `Json.compact`
on one line.  Keys that are not texts are written as texts.  Values that JSON cannot hold are
refused, or written as texts where `Json.printAll` is used; integers with too many digits are
refused everywhere.
-/

namespace ApiAccord.Json

/-- Numbers of JSON, with the names of the three values that are no numbers. -/
def numberLayout : Decimal.Layout :=
  ⟨-3, 16, 2, "Infinity", "NaN"⟩

/-- One character of a text in double quotes. -/
def escapeChar (c : Char) : List Char :=
  if c == '"' || c == '\\' then ['\\', c]
  else if c == '\n' then ['\\', 'n']
  else if c == '\r' then ['\\', 'r']
  else if c == '\t' then ['\\', 't']
  else if c == '\x08' then ['\\', 'b']
  else if c == '\x0c' then ['\\', 'f']
  else if c.toNat < 0x20 then '\\' :: 'u' :: Text.hexPadded 4 c.toNat
  else [c]

/-- A text in double quotes. -/
def quote (s : String) : String :=
  String.ofList ('"' :: s.toList.flatMap escapeChar ++ ['"'])

/-- An integer, unless it has too many digits. -/
def integer? (i : Int) : Option String :=
  if (Scalar.int i).writable then some (toString i) else none

/-- A scalar, or nothing if JSON has no form for it. -/
def scalar? : Scalar → Option String
  | .null => some "null"
  | .bool b => some (if b then "true" else "false")
  | .int i => integer? i
  | .float x => some (numberLayout.render x)
  | .str s => some (quote s)
  | .bytes _ | .date _ | .moment _ => none

/-- The name that a key becomes. -/
def keyName? : Scalar → Option String
  | .str s => some s
  | .bytes _ | .date _ | .moment _ => none
  | s => scalar? s

/-- A line break followed by the blanks of a level. -/
def newline (level : Nat) : String := "\n" ++ String.ofList (List.replicate (2 * level) ' ')

/-- Parts between brackets, each on a line of its own. -/
def bracket (left right : String) (level : Nat) (parts : List String) : String :=
  match parts with
  | [] => left ++ right
  | _ => left ++ newline (level + 1) ++ ("," ++ newline (level + 1)).intercalate parts ++
      newline level ++ right

mutual

/-- Writes a value at a level.  A scalar or set without a form is written by `other`. -/
def printAt (other : Value → Option String) (level : Nat) : Value → Option String
  | .scalar s => (scalar? s).or (other (.scalar s))
  | .list items => do
    return bracket "[" "]" level (← printItems other (level + 1) items)
  | .pair a b => do
    return bracket "[" "]" level [← printAt other (level + 1) a, ← printAt other (level + 1) b]
  | .map ms => do
    return bracket "\x7b" "\x7d" level (← printMembers other (level + 1) ms)
  | .set items => other (.set items)

def printItems (other : Value → Option String) (level : Nat) : List Value → Option (List String)
  | [] => some []
  | v :: rest => do
    return (← printAt other level v) :: (← printItems other level rest)

def printMembers (other : Value → Option String) (level : Nat) :
    List (Scalar × Value) → Option (List String)
  | [] => some []
  | (k, v) :: rest => do
    let name ← keyName? k
    let text ← printAt other level v
    return (quote name ++ ": " ++ text) :: (← printMembers other level rest)

end

/-- Writes a value over several lines, if JSON can hold it. -/
def print? (v : Value) : Option String := printAt (fun _ => none) 0 v

/-- Writes a value over several lines; what JSON cannot hold becomes a text.  Keys have no such way
out. -/
def printAll? (v : Value) : Option String :=
  printAt (fun w => if w.writable then some (quote w.display) else none) 0 v

/-- A character as four hexadecimal digits, or as two such groups. -/
def escapeWide (c : Char) : List Char :=
  let n := c.toNat
  let group (n : Nat) : List Char := '\\' :: 'u' :: Text.hexPadded 4 n
  if n < 0x10000 then group n
  else group (0xD800 + (n - 0x10000) / 0x400) ++ group (0xDC00 + (n - 0x10000) % 0x400)

/-- JSON in the characters from blank to tilde; all others, which occur only in texts, are escaped.
-/
def toAscii (json : String) : String :=
  String.ofList (json.toList.flatMap fun c => if '~' < c then escapeWide c else [c])

mutual

/-- Writes a value on one line, if JSON can hold it. -/
def compact? : Value → Option String
  | .scalar s => scalar? s
  | .list items => do return "[" ++ ", ".intercalate (← compactItems items) ++ "]"
  | .pair a b => do return "[" ++ (← compact? a) ++ ", " ++ (← compact? b) ++ "]"
  | .map ms => do return "\x7b" ++ ", ".intercalate (← compactMembers ms) ++ "\x7d"
  | .set _ => none

def compactItems : List Value → Option (List String)
  | [] => some []
  | v :: rest => do return (← compact? v) :: (← compactItems rest)

def compactMembers : List (Scalar × Value) → Option (List String)
  | [] => some []
  | (k, v) :: rest => do
    let name ← keyName? k
    let text ← compact? v
    return (quote name ++ ": " ++ text) :: (← compactMembers rest)

end

end ApiAccord.Json
