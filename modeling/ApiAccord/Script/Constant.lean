import ApiAccord.Decimal.Shortest
import ApiAccord.Text.Integer

/-!
# Constants of Python programs

The values that literals write, and how the texts of numbers and strings are read.
-/

namespace ApiAccord.Script

/-- A text as code points.  Unlike a `String` it may hold halves of surrogate pairs, which an escape
can write. -/
abbrev Codes := List Nat

namespace Codes

def ofChars (cs : List Char) : Codes := cs.map Char.toNat

/-- The text, unless half of a surrogate pair is in it. -/
def text? (codes : Codes) : Option String :=
  if codes.all Nat.isValidChar then some (String.ofList (codes.map Char.ofNat)) else none

end Codes

/-- The value of a literal. -/
inductive Constant where
  | none
  | bool (b : Bool)
  | ellipsis
  | int (n : Nat)
  | float (x : Float)
  /-- An imaginary number. -/
  | imaginary (x : Float)
  /-- A text, `marked` if its literal begins with a `u`. -/
  | text (codes : Codes) (marked : Bool)
  | bytes (data : List UInt8)

/-! ### Numbers -/

/-- The value of decimal digits. -/
def decimalValue (ds : List Char) : Nat :=
  ds.foldl (fun n d => n * 10 + (d.toNat - '0'.toNat)) 0

/-- The value of a decimal number with a fraction and an exponent, either of which may be missing.
-/
def floatValue (cs : List Char) : Float :=
  let whole := cs.takeWhile Char.isDigit
  let tail := cs.dropWhile Char.isDigit
  let fraction := if tail.head? == some '.' then (tail.drop 1).takeWhile Char.isDigit else []
  let tail := if tail.head? == some '.' then (tail.drop 1).dropWhile Char.isDigit else tail
  let (negative, digits) := Text.splitSign (tail.drop 1)
  let e := decimalValue digits
  let exponent : Int := (if negative then -(e : Int) else e) - fraction.length
  Decimal.ofDigits (decimalValue (whole ++ fraction)) exponent

/-- The value of a number by its text, unless it is an integer with too many digits. -/
def Constant.ofNumber? (text : String) : Option Constant :=
  let cs := text.toList.filter (· != '_')
  match cs with
  | '0' :: mark :: digits =>
    let base := if mark.toLower == 'x' then 16 else if mark.toLower == 'o' then 8
      else if mark.toLower == 'b' then 2 else 10
    if base == 10 then decimal? cs else (Text.digits? base digits).map .int
  | _ => decimal? cs
where
  decimal? (cs : List Char) : Option Constant :=
    if cs.getLast?.any fun c => c == 'j' || c == 'J' then
      some (.imaginary (floatValue cs.dropLast))
    else if cs.all Char.isDigit then
      if Text.maxDigits < cs.length then .none else some (.int (decimalValue cs))
    else some (.float (floatValue cs))

/-! ### Escapes -/

/-- The value of the first `n` characters in a base, if all are digits of it. -/
def digitsValue? (base n : Nat) (cs : List Char) : Option Nat :=
  if cs.length < n then none
  else (cs.take n).foldlM (fun v c => do
    let d ← Text.hexValue? c
    if d < base then some (v * base + d) else none) 0

/-- The length of an octal escape, at most three digits. -/
def octalLength (cs : List Char) : Nat :=
  ((cs.take 3).takeWhile fun c => '0' ≤ c && c ≤ '7').length

/-- The characters that a backslash and a letter write. -/
def simpleEscapes : List (Char × Nat) :=
  [('\\', 92), ('\'', 39), ('"', 34), ('a', 7), ('b', 8), ('f', 12), ('n', 10), ('r', 13), ('t', 9),
    ('v', 11)]

/-- What an escape writes: the code points and the number of characters after the backslash.  An
unknown escape stands for itself. -/
def escape? (cs : List Char) : Option (Codes × Nat) :=
  match cs with
  | [] => some ([92], 0)
  | c :: rest =>
    if c == '\n' then some ([], 1)
    else if c == 'x' then (digitsValue? 16 2 rest).map fun n => ([n], 3)
    else if c == 'u' then (digitsValue? 16 4 rest).map fun n => ([n], 5)
    else if c == 'U' then do
      let n ← digitsValue? 16 8 rest
      if n < 0x110000 then some ([n], 9) else none
    else if c == 'N' then none
    else match simpleEscapes.lookup c with
      | some n => some ([n], 1)
      | none =>
        let n := octalLength cs
        if n == 0 then some ([92, c.toNat], 1)
        else (digitsValue? 8 n cs).map fun v => ([v], n)

/-- What an escape writes in a string of bytes. -/
def byteEscape? (cs : List Char) : Option (Codes × Nat) :=
  match cs with
  | 'u' :: _ => some ([92, 'u'.toNat], 1)
  | 'U' :: _ => some ([92, 'U'.toNat], 1)
  | 'N' :: _ => some ([92, 'N'.toNat], 1)
  | _ => (escape? cs).map fun (codes, n) => (codes.map (· % 256), n)

/-- Reads the escapes of a text.  `skip` characters belong to an escape that has been read. -/
def unescape? (escape? : List Char → Option (Codes × Nat)) : Nat → List Char → Option Codes
  | _, [] => some []
  | skip + 1, _ :: rest => unescape? escape? skip rest
  | 0, c :: rest =>
    if c == '\\' then do
      let (codes, n) ← escape? rest
      return codes ++ (← unescape? escape? n rest)
    else (unescape? escape? 0 rest).map (c.toNat :: ·)

/-! ### Strings -/

/-- A string literal: its mark in lower case, the marks of quotation, and what stands between. -/
structure StringLiteral where
  mark : List Char
  /-- Whether the mark begins with a small `u`. -/
  marked : Bool
  quotes : Nat
  body : List Char

namespace StringLiteral

def ofText (text : String) : StringLiteral :=
  let cs := text.toList
  let isQuote (c : Char) : Bool := c == '\'' || c == '"'
  let mark := cs.takeWhile (!isQuote ·)
  let rest := cs.drop mark.length
  let quote := rest.headD '"'
  let quotes := if rest.take 3 == [quote, quote, quote] && 6 ≤ rest.length then 3 else 1
  ⟨mark.map Char.toLower, cs.head? == some 'u', quotes,
    (rest.drop quotes).take (rest.length - 2 * quotes)⟩

def isRaw (s : StringLiteral) : Bool := s.mark.contains 'r'

def isBytes (s : StringLiteral) : Bool := s.mark.contains 'b'

/-- Whether the literal holds expressions to be replaced by their values. -/
def isTemplate (s : StringLiteral) : Bool := s.mark.contains 'f'

end StringLiteral

/-- The code points that a part of a literal writes. -/
def codes? (raw : Bool) (cs : List Char) : Option Codes :=
  if raw then some (.ofChars cs) else unescape? escape? 0 cs

/-- The bytes that a literal writes, which holds ASCII characters only. -/
def bytes? (s : StringLiteral) : Option (List UInt8) :=
  if s.body.any fun c => 0x80 ≤ c.toNat then none
  else do
    let codes ← if s.isRaw then some (Codes.ofChars s.body) else unescape? byteEscape? 0 s.body
    return codes.map Nat.toUInt8

end ApiAccord.Script
