import ApiAccord.Text.Basic

/-!
# A place in a YAML text

A `Cursor` is a place in a text, with its line and column.  Five characters end a line; a carriage
return and a line feed together end one line.  At the end of the text a NUL is seen, which no text
of YAML contains.
-/

namespace ApiAccord.Yaml

/-! ### Classes of characters -/

def isEnd (c : Char) : Bool := c == '\x00'

/-- Line feed, carriage return, next line, line separator, paragraph separator. -/
def isBreak (c : Char) : Bool :=
  c == '\n' || c == '\r' || c == '\x85' || c == '\u2028' || c == '\u2029'

def isBreakOrEnd (c : Char) : Bool := isBreak c || isEnd c

/-- What may follow a word: a space, a break, or the end. -/
def isSpaceOrEnd (c : Char) : Bool := c == ' ' || isBreakOrEnd c

/-- What may follow an indicator: a space, a tab, a break, or the end. -/
def isGap (c : Char) : Bool := c == '\t' || isSpaceOrEnd c

/-- The characters that a text may hold. -/
def isAllowed (c : Char) : Bool :=
  c == '\t' || c == '\n' || c == '\r' || (' ' ≤ c && c ≤ '~') || c == '\x85' ||
    ('\xa0' ≤ c && c.toNat < 0xfffe) || 0x10000 ≤ c.toNat

/-- Letters, digits, hyphens and underscores of ASCII. -/
def isNameChar (c : Char) : Bool := c.isAlphanum || c == '-' || c == '_'

def byteOrderMark : Char := Char.ofNat 0xfeff

/-! ### Cursors -/

structure Cursor where
  rest : List Char
  index : Nat
  line : Nat
  column : Nat

namespace Cursor

/-- The start of a text. -/
def ofText (text : List Char) : Cursor := ⟨text, 0, 0, 0⟩

/-- The character `k` places on. -/
def peek (c : Cursor) (k : Nat) : Char := (c.rest.drop k).headD '\x00'

/-- The next character. -/
def next (c : Cursor) : Char := c.rest.headD '\x00'

/-- The place after the next character. -/
def advance (c : Cursor) : Cursor :=
  match c.rest with
  | [] => c
  | ch :: rest =>
    if isBreak ch && !(ch == '\r' && rest.head? == some '\n') then
      ⟨rest, c.index + 1, c.line + 1, 0⟩
    else if ch == '\r' || ch == byteOrderMark then ⟨rest, c.index + 1, c.line, c.column⟩
    else ⟨rest, c.index + 1, c.line, c.column + 1⟩

/-- The place after `n` characters. -/
def forward : Nat → Cursor → Cursor
  | 0, c => c
  | n + 1, c => forward n c.advance

/-- The characters of a class that come next, and the place after them. -/
def span (p : Char → Bool) (c : Cursor) : List Char × Cursor :=
  let taken := c.rest.takeWhile p
  (taken, c.forward taken.length)

/-- The place after the characters of a class that come next. -/
def skip (p : Char → Bool) (c : Cursor) : Cursor := (c.span p).2

def skipSpaces (c : Cursor) : Cursor := c.skip (· == ' ')

/-- Takes one end of a line; what it stands for is a line feed or the separator itself. -/
def takeBreak (c : Cursor) : List Char × Cursor :=
  match c.rest with
  | '\r' :: '\n' :: _ => (['\n'], c.forward 2)
  | ch :: _ =>
    if ch == '\u2028' || ch == '\u2029' then ([ch], c.advance)
    else if isBreak ch then (['\n'], c.advance)
    else ([], c)
  | [] => ([], c)

/-- Skips a comment up to the end of its line. -/
def skipComment (c : Cursor) : Cursor :=
  if c.next == '#' then c.skip (!isBreak ·) else c

/-- Whether three hyphens or three points stand here by themselves. -/
def atMarker (c : Cursor) : Bool :=
  let three := c.rest.take 3
  (three == ['-', '-', '-'] || three == ['.', '.', '.']) && isGap (c.peek 3)

end Cursor

end ApiAccord.Yaml
