import ApiAccord.Value.Basic
import ApiAccord.Text.Integer
import ApiAccord.Decimal.Shortest

/-!
# Values as text

`Value.display` is the text of a value inside a message or a table: texts stand as they are,
collections show their parts in brackets.  `Value.inspect` is the form of a part, with texts in
quotes.
-/

namespace ApiAccord

/-- Numbers are positional up to sixteen places before the point and four after it. -/
def displayLayout : Decimal.Layout :=
  ⟨-3, 16, 2, "inf", "nan"⟩

namespace Text

/-- `n` in hexadecimal with at least `width` digits. -/
def hexPadded (width n : Nat) : List Char :=
  Decimal.padLeft width (Nat.toDigits 16 n)

/-- One character of a quoted text. -/
def quoteChar (quote c : Char) : List Char :=
  if c == quote || c == '\\' then ['\\', c]
  else if c == '\n' then ['\\', 'n']
  else if c == '\r' then ['\\', 'r']
  else if c == '\t' then ['\\', 't']
  else if isPrintable c then [c]
  else if c.toNat < 0x100 then '\\' :: 'x' :: hexPadded 2 c.toNat
  else if c.toNat < 0x10000 then '\\' :: 'u' :: hexPadded 4 c.toNat
  else '\\' :: 'U' :: hexPadded 8 c.toNat

/-- A text in single quotes, or in double quotes if it holds single ones only. -/
def quoted (s : String) : String :=
  let cs := s.toList
  let quote := if cs.contains '\'' && !cs.contains '"' then '"' else '\''
  String.ofList (quote :: cs.flatMap (quoteChar quote) ++ [quote])

/-- Bytes in single quotes after a `b`, by the same rule. -/
def quotedBytes (data : List UInt8) : String :=
  let cs := data.map fun b => Char.ofNat b.toNat
  let quote := if cs.contains '\'' && !cs.contains '"' then '"' else '\''
  let one (c : Char) : List Char :=
    if c.toNat < 0x7f then quoteChar quote c else '\\' :: 'x' :: hexPadded 2 c.toNat
  String.ofList ('b' :: quote :: cs.flatMap one ++ [quote])

/-- `n` with at least `width` digits. -/
def padded (width n : Nat) : String :=
  String.ofList (Decimal.padLeft width (Nat.toDigits 10 n))

end Text

open Text (padded)

/-- A day as `2024-01-31`. -/
def Date.iso (d : Date) : String :=
  padded 4 d.year ++ "-" ++ padded 2 d.month ++ "-" ++ padded 2 d.day

/-- A moment with `separator` between day and time. -/
def Moment.iso (m : Moment) (separator : String) : String :=
  let time := padded 2 m.hour ++ ":" ++ padded 2 m.minute ++ ":" ++ padded 2 m.second
  let fraction := if m.microsecond == 0 then "" else "." ++ padded 6 m.microsecond
  let offset := match m.offset with
    | none => ""
    | some o =>
      (if o < 0 then "-" else "+") ++ padded 2 (o.natAbs / 60) ++ ":" ++ padded 2 (o.natAbs % 60)
  m.date.iso ++ separator ++ time ++ fraction ++ offset

/-- A moment as a constructor call. -/
def Moment.inspect (m : Moment) : String :=
  let tail := if m.microsecond != 0 then [m.second, m.microsecond]
    else if m.second != 0 then [m.second] else []
  let parts := ([m.date.year, m.date.month, m.date.day, m.hour, m.minute] ++ tail).map toString
  let zone := match m.offset with
    | none => []
    | some 0 => ["tzinfo=datetime.timezone.utc"]
    | some o =>
      let seconds := o * 60
      let delta := if seconds < 0 then s!"days=-1, seconds={seconds + 86400}"
        else s!"seconds={seconds}"
      ["tzinfo=datetime.timezone(datetime.timedelta(" ++ delta ++ "))"]
  "datetime.datetime(" ++ ", ".intercalate (parts ++ zone) ++ ")"

/-- The form of a scalar as a part of a collection. -/
def Scalar.inspect : Scalar → String
  | .null => "None"
  | .bool b => if b then "True" else "False"
  | .int i => toString i
  | .float x => displayLayout.render x
  | .str s => Text.quoted s
  | .bytes data => Text.quotedBytes data
  | .date d => s!"datetime.date({d.year}, {d.month}, {d.day})"
  | .moment m => m.inspect

/-- The text of a scalar. -/
def Scalar.display : Scalar → String
  | .str s => s
  | .date d => d.iso
  | .moment m => m.iso " "
  | s => s.inspect

mutual

/-- The form of a value as a part of a collection. -/
def Value.inspect : Value → String
  | .scalar s => s.inspect
  | .list items => "[" ++ ", ".intercalate (Value.inspectItems items) ++ "]"
  | .pair a b => "(" ++ a.inspect ++ ", " ++ b.inspect ++ ")"
  | .map ms => "\x7b" ++ ", ".intercalate (Value.inspectMembers ms) ++ "\x7d"
  | .set [] => "set()"
  | .set items => "\x7b" ++ ", ".intercalate (items.map Scalar.inspect) ++ "\x7d"

def Value.inspectItems : List Value → List String
  | [] => []
  | v :: rest => v.inspect :: Value.inspectItems rest

def Value.inspectMembers : List (Scalar × Value) → List String
  | [] => []
  | (k, v) :: rest => (k.inspect ++ ": " ++ v.inspect) :: Value.inspectMembers rest

end

/-- The text of a value. -/
def Value.display : Value → String
  | .scalar s => s.display
  | v => v.inspect

/-! ### Integers that are too long -/

/-- Whether a scalar can be written: an integer must not have too many digits. -/
def Scalar.writable : Scalar → Bool
  | .int i => i.natAbs < Nat.pow 10 Text.maxDigits
  | _ => true

mutual

/-- Whether every integer in a value can be written. -/
def Value.writable : Value → Bool
  | .scalar s => s.writable
  | .list items => Value.writableItems items
  | .pair a b => a.writable && b.writable
  | .map ms => Value.writableMembers ms
  | .set items => items.all Scalar.writable

def Value.writableItems : List Value → Bool
  | [] => true
  | v :: rest => v.writable && Value.writableItems rest

def Value.writableMembers : List (Scalar × Value) → Bool
  | [] => true
  | (k, v) :: rest => k.writable && v.writable && Value.writableMembers rest

end

end ApiAccord
