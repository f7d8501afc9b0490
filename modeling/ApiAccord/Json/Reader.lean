import ApiAccord.Value.Basic
import ApiAccord.Text.Chars
import ApiAccord.Decimal.Shortest

/-!
# Reading JSON

`Json.read` reads one JSON value from a text.  Beside standard JSON it takes `NaN`, `Infinity` and
`-Infinity` for numbers.  A number with neither fraction nor exponent is an integer of any size.  A
repeated member keeps its first place and its last value.

A reader takes the text still unread and returns a value and the rest.  A fault records how much of
the text was left where it was found, which `Json.Fault.message` turns into a place.
-/

namespace ApiAccord.Json

/-- What was wrong with a text. -/
inductive Problem where
  | expectedValue
  | expectedName
  | expectedColon
  | expectedComma
  | openText
  | controlCharacter
  | badEscape
  | badCodePoint
  | extraText
  | byteOrderMark
  /-- An integer with more digits than are converted. -/
  | longInteger
deriving DecidableEq, Repr

/-- A problem, and the number of characters from its place to the end of the text. -/
structure Fault where
  problem : Problem
  left : Nat
deriving DecidableEq, Repr

def fail {α : Type} (problem : Problem) (rest : List Char) : Except Fault α :=
  .error ⟨problem, rest.length⟩

/-- Integers with more digits than this are refused. -/
def maxIntegerDigits : Nat := 4300

/-- The blanks of JSON. -/
def isSpace (c : Char) : Bool := c == ' ' || c == '\t' || c == '\n' || c == '\r'

def skipSpace (cs : List Char) : List Char := cs.dropWhile isSpace

/-! ### Texts -/

/-- The character that a one-letter escape stands for. -/
def escapeOf? : Char → Option Char
  | '"' => some '"'
  | '\\' => some '\\'
  | '/' => some '/'
  | 'b' => some '\x08'
  | 'f' => some '\x0c'
  | 'n' => some '\n'
  | 'r' => some '\r'
  | 't' => some '\t'
  | _ => none

/-- The number that four hexadecimal digits write. -/
def hex4? : List Char → Option (Nat × List Char)
  | a :: b :: c :: d :: rest => do
    let a ← Text.hexValue? a
    let b ← Text.hexValue? b
    let c ← Text.hexValue? c
    let d ← Text.hexValue? d
    return (a * 4096 + b * 256 + c * 16 + d, rest)
  | _ => none

def isHighSurrogate (n : Nat) : Bool := 0xd800 ≤ n && n < 0xdc00
def isLowSurrogate (n : Nat) : Bool := 0xdc00 ≤ n && n < 0xe000

/-- The character with this code; the replacement character for half of a pair. -/
def charOf (n : Nat) : Char :=
  if 0xd800 ≤ n && n < 0xe000 then Char.ofNat 0xfffd else Char.ofNat n

/-- The character written by four hexadecimal digits, or by two such escapes that form a pair.
`rest` begins after the letter `u`. -/
def readCodePoint (rest : List Char) : Except Fault (Char × List Char) :=
  let here := 'u' :: rest
  if rest.length < 5 then fail .badCodePoint here
  else match hex4? rest with
    | none => fail .badCodePoint here
    | some (high, after) =>
      if isHighSurrogate high && 6 < after.length then
        match after with
        | '\\' :: 'u' :: second =>
          match hex4? second with
          | none => fail .badCodePoint ('u' :: second)
          | some (low, after') =>
            if isLowSurrogate low then
              .ok (Char.ofNat (0x10000 + (high - 0xd800) * 0x400 + (low - 0xdc00)), after')
            else .ok (charOf high, after)
        | _ => .ok (charOf high, after)
      else .ok (charOf high, after)

/-- Reads the rest of a text whose opening quote stood where `start` characters were left.  `fuel`
bounds the number of characters. -/
def readText (start : Nat) : Nat → List Char → Except Fault (List Char × List Char)
  | 0, _ | _, [] => .error ⟨.openText, start⟩
  | fuel + 1, c :: rest =>
    if c == '"' then .ok ([], rest)
    else if c == '\\' then
      match rest with
      | [] => .error ⟨.openText, start⟩
      | e :: rest' =>
        if e == 'u' then do
          let (d, rest'') ← readCodePoint rest'
          let (ds, tail) ← readText start fuel rest''
          return (d :: ds, tail)
        else match escapeOf? e with
          | none => fail .badEscape (c :: rest)
          | some d => do
            let (ds, tail) ← readText start fuel rest'
            return (d :: ds, tail)
    else if c.toNat < 0x20 then fail .controlCharacter (c :: rest)
    else do
      let (ds, tail) ← readText start fuel rest
      return (c :: ds, tail)

/-! ### Numbers -/

/-- The number that decimal digits write. -/
def natOfDigits (ds : List Char) : Nat :=
  ds.foldl (fun n c => n * 10 + (c.toNat - '0'.toNat)) 0

def takeDigits (cs : List Char) : List Char × List Char :=
  (cs.takeWhile Char.isDigit, cs.dropWhile Char.isDigit)

/-- The digits after a point, if the text goes on with a point and a digit. -/
def takeFraction : List Char → Option (List Char) × List Char
  | '.' :: c :: rest =>
    if c.isDigit then
      let (ds, rest') := takeDigits (c :: rest)
      (some ds, rest')
    else (none, '.' :: c :: rest)
  | cs => (none, cs)

/-- The exponent, if the text goes on with one. -/
def takeExponent (cs : List Char) : Option Int × List Char :=
  match cs with
  | e :: rest =>
    if e == 'e' || e == 'E' then
      let (negative, body) := match rest with
        | '-' :: r => (true, r)
        | '+' :: r => (false, r)
        | r => (false, r)
      let (ds, rest') := takeDigits body
      if ds.isEmpty then (none, cs)
      else
        let n : Int := natOfDigits ds
        (some (if negative then -n else n), rest')
    else (none, cs)
  | [] => (none, cs)

/-- The double with this sign. -/
def signed (negative : Bool) (x : Float) : Float := if negative then -x else x

/-- Reads a number without its sign. -/
def readNumber (negative : Bool) (start cs : List Char) : Except Fault (Scalar × List Char) :=
  let (whole, rest) := match cs with
    | '0' :: rest => (['0'], rest)
    | cs => takeDigits cs
  if whole.isEmpty then fail .expectedValue start
  else
    let (fraction, rest) := takeFraction rest
    let (exponent, rest) := takeExponent rest
    if fraction.isNone && exponent.isNone then
      if maxIntegerDigits < whole.length then fail .longInteger start
      else
        let n : Int := natOfDigits whole
        .ok (.int (if negative then -n else n), rest)
    else
      let ds := fraction.getD []
      let x := Decimal.ofDigits (natOfDigits (whole ++ ds)) (exponent.getD 0 - ds.length)
      .ok (.float (signed negative x), rest)

/-! ### Values -/

/-- The text after the word, if it goes on with that word. -/
def takeWord? (word : String) (cs : List Char) : Option (List Char) :=
  if word.toList.isPrefixOf cs then some (cs.drop word.length) else none

/-- Reads a value that is neither a text nor a collection. -/
def readPlain (cs : List Char) : Except Fault (Scalar × List Char) :=
  match takeWord? "null" cs with
  | some rest => .ok (.null, rest)
  | none =>
  match takeWord? "true" cs with
  | some rest => .ok (.bool true, rest)
  | none =>
  match takeWord? "false" cs with
  | some rest => .ok (.bool false, rest)
  | none =>
  match takeWord? "NaN" cs with
  | some rest => .ok (.float (0.0 / 0.0), rest)
  | none =>
  match takeWord? "Infinity" cs with
  | some rest => .ok (.float (1.0 / 0.0), rest)
  | none =>
  match takeWord? "-Infinity" cs with
  | some rest => .ok (.float (-1.0 / 0.0), rest)
  | none =>
  match cs with
  | '-' :: rest => readNumber true cs rest
  | _ => readNumber false cs cs

mutual

/-- Reads a value that begins at once.  `fuel` bounds the number of characters. -/
def readValue : Nat → List Char → Except Fault (Value × List Char)
  | 0, cs => fail .expectedValue cs
  | fuel + 1, cs =>
    match cs with
    | '"' :: rest => do
      let (text, rest') ← readText cs.length (rest.length + 1) rest
      return (.str (String.ofList text), rest')
    | '[' :: rest =>
      match skipSpace rest with
      | ']' :: rest' => .ok (.list [], rest')
      | rest' => do
        let (items, rest'') ← readItems fuel rest'
        return (.list items, rest'')
    | '\x7b' :: rest =>
      match skipSpace rest with
      | '\x7d' :: rest' => .ok (.map [], rest')
      | rest' => do
        let (entries, rest'') ← readEntries fuel rest'
        return (.map (Members.ofEntries entries), rest'')
    | _ => do
      let (s, rest) ← readPlain cs
      return (.scalar s, rest)

/-- Reads the items of a list up to its end. -/
def readItems : Nat → List Char → Except Fault (List Value × List Char)
  | 0, cs => fail .expectedValue cs
  | fuel + 1, cs => do
    let (item, rest) ← readValue fuel cs
    match skipSpace rest with
    | ']' :: rest' => return ([item], rest')
    | ',' :: rest' =>
      let (items, rest'') ← readItems fuel (skipSpace rest')
      return (item :: items, rest'')
    | rest' => fail .expectedComma rest'

/-- Reads the members of a mapping up to its end. -/
def readEntries : Nat → List Char → Except Fault (List (Scalar × Value) × List Char)
  | 0, cs => fail .expectedName cs
  | fuel + 1, cs =>
    match cs with
    | '"' :: rest => do
      let (name, rest) ← readText cs.length (rest.length + 1) rest
      match skipSpace rest with
      | ':' :: rest =>
        let (v, rest) ← readValue fuel (skipSpace rest)
        let entry : Scalar × Value := (.str (String.ofList name), v)
        match skipSpace rest with
        | '\x7d' :: rest => return ([entry], rest)
        | ',' :: rest =>
          let (entries, rest) ← readEntries fuel (skipSpace rest)
          return (entry :: entries, rest)
        | rest => fail .expectedComma rest
      | rest => fail .expectedColon rest
    | _ => fail .expectedName cs

end

/-- Reads a whole text. -/
def readChars (cs : List Char) : Except Fault Value :=
  match cs with
  | '\ufeff' :: _ => .error ⟨.byteOrderMark, cs.length⟩
  | _ => do
    let (v, rest) ← readValue (cs.length + 1) (skipSpace cs)
    match skipSpace rest with
    | [] => return v
    | rest => .error ⟨.extraText, rest.length⟩

/-- Reads the JSON value that a text consists of. -/
def read (text : String) : Except Fault Value := readChars text.toList

/-! ### Messages -/

/-- What a problem is called. -/
def Problem.message : Problem → String
  | .expectedValue => "Expecting value"
  | .expectedName => "Expecting property name enclosed in double quotes"
  | .expectedColon => "Expecting ':' delimiter"
  | .expectedComma => "Expecting ',' delimiter"
  | .openText => "Unterminated string starting at"
  | .controlCharacter => "Invalid control character at"
  | .badEscape => "Invalid \\escape"
  | .badCodePoint => "Invalid \\uXXXX escape"
  | .extraText => "Extra data"
  | .byteOrderMark => "Unexpected UTF-8 BOM (decode using utf-8-sig)"
  | .longInteger => "Integer too long"

/-- The problem with its line, column and offset in the text. -/
def Fault.message (f : Fault) (text : String) : String :=
  let cs := text.toList
  let offset := cs.length - f.left
  let before := cs.take offset
  let line := before.count '\n' + 1
  let column := (before.reverse.takeWhile (· != '\n')).length + 1
  s!"{f.problem.message}: line {line} column {column} (char {offset})"

end ApiAccord.Json
