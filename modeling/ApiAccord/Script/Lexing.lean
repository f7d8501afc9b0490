import ApiAccord.Script.Token

/-!
# Finding tokens

`Tokens.ofText?` cuts a program into tokens.  Lines joined by a backslash or inside brackets count
as one, and the indentation of a line is turned into marks for the blocks that begin and end before
it.  -/

namespace ApiAccord.Script

/-! ### Source text -/

/-- Writes every end of a line as a line feed. -/
def unifyLines : List Char → List Char
  | [] => []
  | '\r' :: '\n' :: rest => '\n' :: unifyLines rest
  | c :: rest => (if c == '\r' then '\n' else c) :: unifyLines rest

/-- Ends the last line of a text. -/
def endLastLine (cs : List Char) : List Char :=
  if cs.getLast? == some '\n' then cs else cs ++ ['\n']

/-- A blank within a line. -/
def isInlineBlank (c : Char) : Bool := c == ' ' || c == '\t' || c == '\x0c'

/-- A place in a text, with the text from there on. -/
structure Cursor where
  rest : List Char
  place : Place

namespace Cursor

/-- The cursor after the next `n` characters. -/
def skip (c : Cursor) (n : Nat) : Cursor :=
  let (passed, rest) := c.rest.splitAt n
  ⟨rest, c.place.afterAll passed⟩

/-- The next `n` characters. -/
def text (c : Cursor) (n : Nat) : String := String.ofList (c.rest.take n)

end Cursor

/-! ### Numbers -/

/-- The length of a run of digits with single underscores between them, the first digit of which has
been read. -/
def digitRun? (digit : Char → Bool) : List Char → Option Nat
  | [] => some 0
  | ['_'] => none
  | '_' :: c :: rest => if digit c then (digitRun? digit rest).map (· + 2) else none
  | c :: rest => if digit c then (digitRun? digit rest).map (· + 1) else some 0

/-- A letter, a digit or an underscore, or any character beyond ASCII. -/
def isNameChar (c : Char) : Bool := c.isAlphanum || c == '_' || 0x80 ≤ c.toNat

/-- Whether a number may end before this text: before a character that continues no name, or before
one of the keywords that follow a value. -/
def mayEndNumber (cs : List Char) : Bool :=
  ["and", "else", "for", "if", "in", "is", "or", "not"].any (·.toList.isPrefixOf cs) ||
    !(cs.head?.any isNameChar)

/-- `n`, if a number may end that many characters on. -/
def endNumber? (cs : List Char) (n : Nat) : Option Nat :=
  if mayEndNumber (cs.drop n) then some n else none

/-- The length of a number that is written in a base of its own, after the mark of the base. -/
def markedNumber? (digit : Char → Bool) (cs : List Char) : Option Nat := do
  let gap := if cs.head? == some '_' then 1 else 0
  let first ← cs[gap]?
  if !digit first then none
  let n ← digitRun? digit (cs.drop (gap + 1))
  if (cs.drop (gap + 1 + n)).head?.any Char.isDigit then none
  endNumber? cs (gap + 1 + n)

/-- The length of an exponent, if the text begins with one: `some 0` if a number may end here. -/
def exponent? (cs : List Char) : Option Nat :=
  match cs with
  | e :: rest =>
    if e != 'e' && e != 'E' then some 0
    else match rest with
      | s :: d :: more =>
        if s == '+' || s == '-' then
          if d.isDigit then (digitRun? Char.isDigit more).map (· + 3) else none
        else if s.isDigit then (digitRun? Char.isDigit (d :: more)).map (· + 2)
        else if mayEndNumber cs then some 0 else none
      | [d] => if d.isDigit then some 2 else none
      | [] => none
  | [] => some 0

/-- The length of a fraction after its point. -/
def fraction? (cs : List Char) : Option Nat :=
  match cs with
  | d :: rest => if d.isDigit then (digitRun? Char.isDigit rest).map (· + 1) else some 0
  | [] => some 0

/-- The length of what follows the whole part of a decimal number of length `n`: a fraction, an
exponent, and the mark of an imaginary number.  With `strict` one of them has to be there. -/
def decimalTail? (cs : List Char) (n : Nat) (strict : Bool) : Option Nat := do
  let tail := cs.drop n
  let point ← if tail.head? == some '.' then (fraction? (tail.drop 1)).map (· + 1) else some 0
  let exponent ← exponent? (tail.drop point)
  let size := point + exponent
  let mark := if (tail.drop size).head?.any fun c => c == 'j' || c == 'J' then 1 else 0
  if strict && size + mark == 0 then none
  endNumber? cs (n + size + mark)

/-- The length of a number at the start of a text that begins with a digit, or with a point before a
digit. -/
def numberLength? (cs : List Char) : Option Nat :=
  match cs with
  | '0' :: c :: rest =>
    if c == 'x' || c == 'X' then
      (markedNumber? (fun d => (Text.hexValue? d).isSome) rest).map (· + 2)
    else if c == 'o' || c == 'O' then
      (markedNumber? (fun d => '0' ≤ d && d ≤ '7') rest).map (· + 2)
    else if c == 'b' || c == 'B' then
      (markedNumber? (fun d => d == '0' || d == '1') rest).map (· + 2)
    else do
      let n ← digitRun? Char.isDigit (c :: rest)
      let leading := ((c :: rest).take n).any fun d => d != '0' && d != '_'
      decimalTail? cs (n + 1) leading
  | '.' :: _ => decimalTail? cs 0 true
  | _ :: rest => do
    let n ← digitRun? Char.isDigit rest
    decimalTail? cs (n + 1) false
  | [] => none

/-! ### Strings -/

/-- The length of the rest of a string in single quotation marks, with the mark that ends it. -/
def shortString? (quote : Char) : List Char → Option Nat
  | [] => none
  | '\\' :: _ :: rest => (shortString? quote rest).map (· + 2)
  | c :: rest =>
    if c == quote then some 1
    else if c == '\n' then none
    else (shortString? quote rest).map (· + 1)

/-- The length of the rest of a string in triple quotation marks, with the marks that end it. -/
def longString? (quote : Char) : List Char → Option Nat
  | '\\' :: _ :: rest => (longString? quote rest).map (· + 2)
  | a :: rest =>
    if a == quote && rest.take 2 == [quote, quote] then some 3
    else (longString? quote rest).map (· + 1)
  | [] => none

/-- The length of a string after its mark, at its first quotation mark. -/
def stringBody? : List Char → Option Nat
  | [] => none
  | quote :: rest =>
    if rest.take 2 == [quote, quote] then (longString? quote (rest.drop 2)).map (· + 3)
    else (shortString? quote rest).map (· + 1)

/-- The marks that may stand before a string, in lower case. -/
def stringMarks : List String := ["", "b", "r", "u", "f", "br", "rb", "fr", "rf"]

/-- The length of the mark of a string, if the text begins with a string. -/
def stringMark? (cs : List Char) : Option Nat :=
  [0, 1, 2].find? fun n =>
    stringMarks.contains (String.ofList ((cs.take n).map Char.toLower)) &&
      (cs.drop n).head?.any fun c => c == '\'' || c == '"'

/-! ### Tokens -/

/-- Whether a text of name characters is a name. -/
def isName : List Char → Bool
  | [] => false
  | c :: rest => Text.isIdentifierStart c && rest.all Text.isIdentifierContinue

/-- The kind and the length of the token at the start of a text that is neither empty nor blank. -/
def tokenAt? (cs : List Char) : Option (TokenKind × Nat) :=
  match stringMark? cs with
  | some n => (stringBody? (cs.drop n)).map fun size => (.string, n + size)
  | none =>
    match cs with
    | [] => none
    | c :: rest =>
      if c.isDigit || (c == '.' && rest.head?.any Char.isDigit) then
        (numberLength? cs).map fun n => (.number, n)
      else if isNameChar c then
        let word := cs.takeWhile isNameChar
        if !isName word then none
        else if keywords.contains (String.ofList word) then some (.keyword, word.length)
        else some (.name, word.length)
      else (operators.find? fun op => op.toList.isPrefixOf cs).map fun op => (.operator, op.length)

/-- Brackets that are open, the innermost first. -/
abbrev Brackets := List Char

/-- How deep brackets may be nested. -/
def maxBrackets : Nat := 200

/-- The open brackets after an operator, if it does not close a bracket that is not open. -/
def Brackets.after? (open_ : Brackets) (op : String) : Option Brackets :=
  match op.toList with
  | ['('] => if open_.length < maxBrackets then some ('(' :: open_) else none
  | ['['] => if open_.length < maxBrackets then some ('[' :: open_) else none
  | ['\x7b'] => if open_.length < maxBrackets then some ('\x7b' :: open_) else none
  | [')'] => if open_.head? == some '(' then some open_.tail else none
  | [']'] => if open_.head? == some '[' then some open_.tail else none
  | ['\x7d'] => if open_.head? == some '\x7b' then some open_.tail else none
  | _ => some open_

/-- The width of an indentation, once with tabs that reach to the next multiple of eight and once
with tabs as wide as a space.  Two lines can be compared only if both widths agree on the answer. -/
structure Indentation where
  wide : Nat
  narrow : Nat
deriving DecidableEq, Repr

/-- How deep blocks may be nested. -/
def maxBlocks : Nat := 100

/-- Measures the blanks before the first word of a line.  Of the lines that a backslash joins, the
first that is indented counts. -/
def indentation? (c : Cursor) (now : Indentation) (first : Option Indentation) :
    Option (Indentation × Cursor) :=
  go c.rest c.place now first
where
  go : List Char → Place → Indentation → Option Indentation → Option (Indentation × Cursor)
    | '\\' :: '\n' :: rest, p, now, first =>
      if rest.isEmpty then none
      else
        let first := first.or (if now.wide == 0 then none else some ⟨now.wide, now.wide⟩)
        go rest ⟨p.line + 1, 0⟩ now first
    | ch :: rest, p, now, first =>
      if ch == ' ' then go rest (p.after ch) ⟨now.wide + 1, now.narrow + 1⟩ first
      else if ch == '\t' then go rest (p.after ch) ⟨(now.wide / 8 + 1) * 8, now.narrow + 1⟩ first
      else if ch == '\x0c' then go rest (p.after ch) ⟨0, 0⟩ first
      else if ch == '\\' then none
      else some (first.getD now, ⟨ch :: rest, p⟩)
    | [], p, now, first => some (first.getD now, ⟨[], p⟩)

/-- The marks for the blocks that begin or end before a line, and the indentations of the blocks
that are open then, the innermost first. -/
def blockMarks? (blocks : List Indentation) (line : Indentation) (place : Place) :
    Option (List Token × List Indentation) :=
  let top := blocks.headD ⟨0, 0⟩
  if line.wide == top.wide then
    if line.narrow == top.narrow then some ([], blocks) else none
  else if top.wide < line.wide then
    if maxBlocks ≤ blocks.length + 1 || line.narrow ≤ top.narrow then none
    else some ([⟨.indent, "", place⟩], line :: blocks)
  else
    let kept := blocks.dropWhile fun b => line.wide < b.wide
    if kept.headD ⟨0, 0⟩ == line then
      some (List.replicate (blocks.length - kept.length) ⟨.dedent, "", place⟩, kept)
    else none

/-- How far the text has been read. -/
structure Progress where
  cursor : Cursor
  /-- Whether a new line begins. -/
  fresh : Bool
  blocks : List Indentation
  brackets : Brackets
  tokens : Array Token

namespace Progress

/-- Skips blanks and a comment. -/
def skipBlanks (c : Cursor) : Cursor :=
  let blanks := c.rest.takeWhile isInlineBlank
  let c := c.skip blanks.length
  if c.rest.head? == some '#' then c.skip (c.rest.takeWhile (· != '\n')).length else c

/-- Enters the block of a new line.  A line without a word belongs to no block. -/
def enterLine? (s : Progress) : Option Progress := do
  let (width, c) ← indentation? s.cursor ⟨0, 0⟩ none
  let s := { s with cursor := c, fresh := false }
  let word := skipBlanks c
  if word.rest.head? == some '\n' && (c.rest.head? == some '#' || c.rest.head? == some '\n') then
    return { s with cursor := word.skip 1, fresh := true }
  else if !s.brackets.isEmpty then return s
  else
    let (marks, blocks) ← blockMarks? s.blocks width c.place
    return { s with blocks, tokens := s.tokens ++ marks.toArray }

/-- Reads the next token, or what separates tokens. -/
def step? (s : Progress) : Option Progress := do
  let c := skipBlanks s.cursor
  match c.rest with
  | [] => return { s with cursor := c }
  | '\n' :: _ =>
    let after := { s with cursor := c.skip 1, fresh := true }
    if s.brackets.isEmpty then
      return { after with tokens := s.tokens.push ⟨.lineEnd, "", c.place⟩ }
    else return after
  | '\\' :: '\n' :: rest => if rest.isEmpty then none else return { s with cursor := c.skip 2 }
  | _ =>
    let (kind, n) ← tokenAt? c.rest
    let text := c.text n
    let brackets ← if kind == .operator then s.brackets.after? text else some s.brackets
    return { s with cursor := c.skip n, brackets, tokens := s.tokens.push ⟨kind, text, c.place⟩ }

/-- Reads the text to its end.  Every step takes a character, or begins a line. -/
def run? : Nat → Progress → Option (Array Token)
  | 0, _ => none
  | fuel + 1, s =>
    if s.cursor.rest.isEmpty then
      if s.brackets.isEmpty then
        some (s.tokens ++ (s.blocks.map fun _ => ⟨.dedent, "", s.cursor.place⟩).toArray)
      else none
    else match (if s.fresh then s.enterLine? else s.step?) with
      | none => none
      | some s => run? fuel s

end Progress

/-- The tokens of a program, which holds no NUL. -/
def Tokens.ofText? (text : List Char) : Option (List Token) :=
  let lines := endLastLine (unifyLines text)
  if text.contains '\x00' then none
  else (Progress.run? (2 * lines.length + 2) ⟨⟨lines, ⟨1, 0⟩⟩, true, [], [], #[]⟩).map Array.toList

/-- The tokens of an expression that stands in brackets, with the brackets. -/
def Tokens.ofBracketed? (text : List Char) (place : Place) : Option (List Token) :=
  let start : Token := ⟨.operator, "(", place⟩
  (Progress.run? (2 * text.length + 4) ⟨⟨text ++ [')'], place⟩, false, [], ['('], #[start]⟩).map
    Array.toList

end ApiAccord.Script
