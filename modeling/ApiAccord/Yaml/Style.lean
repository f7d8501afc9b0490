import ApiAccord.Text.Base64
import ApiAccord.Value.Display
import ApiAccord.Yaml.Cursor
import ApiAccord.Yaml.Tag

/-!
# Writing scalars

A scalar is written without quotes if its text reads back as that scalar, else in single quotes, and
in double quotes if it holds what single quotes cannot keep.  Bytes are written as a block of base
64.  Long texts are folded: a line is broken at a blank as soon as it is longer than eighty
characters.

`Style.ofText` decides, and `Style.write` writes.
-/

namespace ApiAccord.Yaml

/-! ### What a text holds -/

/-- The characters that end a line where text is written. -/
def isLineBreak (c : Char) : Bool := c == '\n' || c == '\x85' || c == '\u2028' || c == '\u2029'

/-- The characters that stand for themselves in double quotes; wider ones are escaped there. -/
def isWritable (c : Char) : Bool :=
  (' ' ≤ c && c ≤ '~') || ('\xa0' ≤ c && c.toNat < 0xfffe && c != byteOrderMark)

/-- Whether a character can be written in double quotes only. -/
def isSpecial (c : Char) : Bool :=
  !(c == '\n' || c == '\x85' || isWritable c || (0x10000 ≤ c.toNat && c.toNat < 0x10ffff))

/-- Whether two neighbours in a text are as `p` says. -/
def hasNeighbours (p : Char → Char → Bool) (cs : List Char) : Bool :=
  (cs.zip (cs.drop 1)).any fun (a, b) => p a b

/-- Whether the first character of a text makes it something else than a scalar without quotes. -/
def startsMarked : List Char → Bool
  | [] => false
  | c :: rest =>
    "#,[]\x7b\x7d&*!|>'\"%@`".toList.contains c ||
      ((c == '?' || c == '-') && isGap (rest.headD '\x00'))

/-- Whether a text without quotes would be read as something else than a scalar. -/
def hasMarks (cs : List Char) : Bool :=
  "---".toList.isPrefixOf cs || "...".toList.isPrefixOf cs || startsMarked cs ||
    hasNeighbours (fun a b => a == ':' && isGap b) cs || cs.getLast? == some ':' ||
    hasNeighbours (fun a b => isGap a && b == '#') cs

/-- Whether a text begins or ends with a blank or a line break. -/
def hasLooseEnds (cs : List Char) : Bool :=
  let loose (c : Option Char) : Bool := c == some ' ' || c.any isLineBreak
  loose cs.head? || loose cs.getLast?

/-- Whether single quotes keep a text as it is. -/
def fitsQuotes (cs : List Char) : Bool :=
  !(cs.any isSpecial || hasNeighbours (fun a b => a == ' ' && isLineBreak b) cs ||
    hasNeighbours (fun a b => isLineBreak a && b == ' ') cs)

/-- Whether a text can stand without quotes. -/
def fitsPlain (cs : List Char) : Bool :=
  !cs.isEmpty && fitsQuotes cs && !cs.any isLineBreak && !hasLooseEnds cs && !hasMarks cs

/-! ### Folding -/

/-- A line is broken where it is longer than this. -/
def lineWidth : Nat := 80

/-- A line break, and the blanks before the next line. -/
def newline (indent : Nat) : List Char := '\n' :: List.replicate indent ' '

/-- The runs of a text: of blanks, of line breaks, and of all else. -/
def runs (cs : List Char) : List (List Char) :=
  cs.splitBy fun a b => (a == ' ') == (b == ' ') && isLineBreak a == isLineBreak b

/-- Writes the runs of a text without line breaks.  `column` is where the text has come to. -/
def foldPlain (indent : Nat) : (column : Nat) → List (List Char) → List Char
  | _, [] => []
  | column, run :: rest =>
    if run == [' '] && lineWidth < column then newline indent ++ foldPlain indent indent rest
    else run ++ foldPlain indent (column + run.length) rest

/-- Doubles every single quote. -/
def doubleQuotes (cs : List Char) : List Char :=
  cs.flatMap fun c => if c == '\'' then [c, c] else [c]

/-- Writes the runs of a text in single quotes.  A line feed is written twice where it begins a run
of line breaks, for the first of them would be read as a blank. -/
def foldQuoted (indent : Nat) (folds : Bool) :
    (first : Bool) → (column : Nat) → List (List Char) → List Char
  | _, _, [] => []
  | first, column, run :: rest =>
    if run.any isLineBreak then
      (if run.head? == some '\n' then ['\n'] else []) ++ run ++ List.replicate indent ' ' ++
        foldQuoted indent folds false indent rest
    else if run == [' '] && lineWidth < column && folds && !first && !rest.isEmpty then
      newline indent ++ foldQuoted indent folds false indent rest
    else
      let run := doubleQuotes run
      run ++ foldQuoted indent folds false (column + run.length) rest

/-- The letters of short escapes. -/
def escapeLetters : List (Char × Char) :=
  [('\x00', '0'), ('\x07', 'a'), ('\x08', 'b'), ('\t', 't'), ('\n', 'n'), ('\x0b', 'v'),
    ('\x0c', 'f'), ('\r', 'r'), ('\x1b', 'e'), ('"', '"'), ('\\', '\\'), ('\x85', 'N'),
    ('\u2028', 'L'), ('\u2029', 'P')]

/-- A character that cannot stand for itself in double quotes. -/
def escape (c : Char) : List Char :=
  let digits (width : Nat) : List Char :=
    (Text.hexPadded width c.toNat).map Char.toUpper
  match escapeLetters.lookup c with
  | some letter => ['\\', letter]
  | none =>
    if c.toNat ≤ 0xff then '\\' :: 'x' :: digits 2
    else if c.toNat ≤ 0xffff then '\\' :: 'u' :: digits 4
    else '\\' :: 'U' :: digits 8

def isEscaped (c : Char) : Bool :=
  c == '"' || c == '\\' || c == '\u2028' || c == '\u2029' || !isWritable c

/-- Writes a text in double quotes.  A long line is broken before a blank, and before or after an
escape, with a backslash at its end; a blank at the start of a line is escaped.  The first and the
last character do not move to another line. -/
def foldEscaped (indent : Nat) (folds : Bool) :
    (first afterEscape : Bool) → (column : Nat) → List Char → List Char
  | _, _, _, [] => []
  | first, afterEscape, column, c :: rest =>
    let inside := folds && !first && !rest.isEmpty
    if isEscaped c then
      let written := escape c
      let column := column + written.length
      if inside && lineWidth + 1 < column then
        let guard := if rest.head? == some ' ' then ['\\'] else []
        written ++ '\\' :: newline indent ++ guard ++
          foldEscaped indent folds false true (indent + guard.length) rest
      else written ++ foldEscaped indent folds false true column rest
    else if inside && (c == ' ' || afterEscape) && lineWidth < column then
      let guard := if c == ' ' then ['\\'] else []
      '\\' :: newline indent ++ guard ++
        c :: foldEscaped indent folds false false (indent + guard.length + 1) rest
    else c :: foldEscaped indent folds false false (column + 1) rest

/-! ### Styles -/

/-- How a text is written. -/
inductive Style where
  | plain
  | singleQuoted
  | doubleQuoted
deriving DecidableEq, Repr

namespace Style

/-- The style of a text.  `tag` is the tag it has to be read back with. -/
def ofText (tag : Tag) (text : String) : Style :=
  let cs := text.toList
  if Tag.ofPlain text == tag && fitsPlain cs then .plain
  else if fitsQuotes cs then .singleQuoted
  else .doubleQuoted

/-- Writes a text from a column on, with its further lines at an indent. -/
def write (indent column : Nat) (folds : Bool) (text : List Char) : Style → List Char
  | .plain => if folds then foldPlain indent column (runs text) else text
  | .singleQuoted =>
    '\'' :: foldQuoted indent folds true (column + 1) (runs text) ++ ['\'']
  | .doubleQuoted =>
    '"' :: foldEscaped indent folds true false (column + 1) text ++ ['"']

end Style

/-! ### Scalars -/

/-- Numbers of YAML, with the names of the values that are no numbers. -/
def numberLayout : Decimal.Layout := ⟨-3, 16, 2, ".inf", ".nan"⟩

/-- The text of a number; one with an exponent always has a point. -/
def floatText (x : Float) : String :=
  let cs := (numberLayout.render x).toList
  if cs.contains '.' then String.ofList cs
  else String.ofList (cs.takeWhile (· != 'e') ++ ['.', '0'] ++ cs.dropWhile (· != 'e'))

/-- The text of a scalar, and the tag that it is read back with. -/
def scalarText : Scalar → Tag × String
  | .null => (.null, "null")
  | .bool b => (.bool, if b then "true" else "false")
  | .int i => (.int, toString i)
  | .float x => (.float, floatText x)
  | .str s => (.str, s)
  | .bytes data => (.binary, String.ofList (Text.Base64.encode data))
  | .date d => (.timestamp, d.iso)
  | .moment m => (.timestamp, m.iso " ")

/-- The tag of a scalar in its short form. -/
def tagText : Tag → String
  | .null => "!!null"
  | .bool => "!!bool"
  | .int => "!!int"
  | .float => "!!float"
  | .binary => "!!binary"
  | .timestamp => "!!timestamp"
  | _ => "!!str"

/-- Parts of a list with no more than `width` elements; `fuel` bounds their number. -/
def parts (width : Nat) : Nat → List Char → List (List Char)
  | 0, _ => []
  | fuel + 1, cs => if cs.isEmpty then [] else cs.take width :: parts width fuel (cs.drop width)

/-- Writes bytes: a block of lines of base 64. -/
def writeBytes (indent : Nat) (data : List UInt8) : List Char :=
  if data.isEmpty then "!!binary \"\"".toList
  else
    let digits := Text.Base64.encode data
    "!!binary |".toList ++ (parts 76 digits.length digits).flatMap (newline indent ++ ·)

/-- Writes a scalar from a column on. -/
def writeScalar (indent column : Nat) (folds : Bool) (s : Scalar) : List Char :=
  match s with
  | .bytes data => writeBytes indent data
  | s =>
    let (tag, text) := scalarText s
    (Style.ofText tag text).write indent column folds text.toList

/-- Whether a key fits on the line of its value: it is neither empty nor long and has one line. -/
def isShortKey (s : Scalar) : Bool :=
  let (tag, text) := scalarText s
  match s with
  | .bytes _ => false
  | _ =>
    text != "" && !text.toList.any isLineBreak && (tagText tag).length + text.length < 128

end ApiAccord.Yaml
