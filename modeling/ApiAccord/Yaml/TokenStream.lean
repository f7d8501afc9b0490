import ApiAccord.Yaml.ScalarToken

/-!
# The tokens of a text

`tokens` takes a text apart.  Blocks are told by columns, so that tokens for their starts and ends
are added where the column changes.  That something is a key shows only at the colon after it:
until then its place is remembered, and tokens are put in there when the colon comes.  A place is
given up when its line ends or after 1024 characters; where only a key can stand that is a fault.
-/

namespace ApiAccord.Yaml

/-- A place where a key may have begun. -/
structure KeyPlace where
  /-- The number of tokens before it. -/
  position : Nat
  /-- Whether nothing but a key can stand here. -/
  required : Bool
  index : Nat
  line : Nat
  column : Nat

/-- A text being taken apart. -/
structure Lexer where
  cursor : Cursor
  /-- The number of open brackets. -/
  flow : Nat
  /-- The column of the block, −1 outside of all. -/
  indent : Int
  /-- The columns of the blocks around it. -/
  outer : List Int
  /-- Whether a key may begin here. -/
  keyAllowed : Bool
  /-- The place of a possible key, for each number of open brackets. -/
  keys : List (Nat × KeyPlace)
  tokens : Array Token

namespace Lexer

def ofText (text : List Char) : Lexer := ⟨.ofText text, 0, -1, [], true, [], #[]⟩

def emit (t : Token) (l : Lexer) : Lexer := { l with tokens := l.tokens.push t }

def moveTo (c : Cursor) (l : Lexer) : Lexer := { l with cursor := c }

def allowKey (allowed : Bool) (l : Lexer) : Lexer := { l with keyAllowed := allowed }

/-- Inserts a token among those already there. -/
def insertAt (position : Nat) (t : Token) (l : Lexer) : Lexer :=
  { l with tokens := l.tokens.insertIdxIfInBounds position t }

/-! ### Blocks -/

/-- Closes the blocks that begin to the right of a column. -/
def unwindTo (column indent : Int) : List Int → Array Token → Int × List Int × Array Token
  | [], tokens => if column < indent then (-1, [], tokens.push .blockEnd) else (indent, [], tokens)
  | i :: rest, tokens =>
    if column < indent then unwindTo column i rest (tokens.push .blockEnd)
    else (indent, i :: rest, tokens)

def unwind (column : Int) (l : Lexer) : Lexer :=
  if l.flow != 0 then l
  else
    let (indent, outer, tokens) := unwindTo column l.indent l.outer l.tokens
    { l with indent := indent, outer := outer, tokens := tokens }

/-- Whether a column opens a new block. -/
def opens (column : Nat) (l : Lexer) : Bool := l.flow == 0 && decide (l.indent < column)

/-- Opens a block at a column. -/
def indentTo (column : Nat) (l : Lexer) : Lexer :=
  { l with outer := l.indent :: l.outer, indent := column }

/-- Opens a block at the cursor's column, with its token, unless it is open already. -/
def openBlock (t : Token) (l : Lexer) : Lexer :=
  if l.opens l.cursor.column then (l.indentTo l.cursor.column).emit t else l

/-! ### Keys -/

/-- Gives up the places on earlier lines or too far back. -/
def dropStale (l : Lexer) : Except Fault Lexer := do
  let stale (k : KeyPlace) : Bool :=
    k.line != l.cursor.line || decide (1024 < l.cursor.index - k.index)
  demand (!l.keys.any fun k => stale k.2 && k.2.required)
  return { l with keys := l.keys.filter fun k => !stale k.2 }

/-- Gives up the place at this number of open brackets. -/
def dropKey (l : Lexer) : Except Fault Lexer := do
  demand (!l.keys.any fun k => k.1 == l.flow && k.2.required)
  return { l with keys := l.keys.filter fun k => k.1 != l.flow }

/-- Remembers that a key may begin at the cursor. -/
def saveKey (l : Lexer) : Except Fault Lexer := do
  if !l.keyAllowed then return l
  let c := l.cursor
  let required := l.flow == 0 && l.indent == (c.column : Int)
  let place : KeyPlace := ⟨l.tokens.size, required, c.index, c.line, c.column⟩
  let l ← l.dropKey
  return { l with keys := (l.flow, place) :: l.keys }

/-! ### Between tokens -/

/-- Skips blanks, comments and line ends up to the next token. -/
def toNextToken : Nat → Lexer → Lexer
  | 0, l => l
  | fuel + 1, l =>
    let c := l.cursor.skipSpaces.skipComment
    if isBreak c.next then
      toNextToken fuel ((l.moveTo c.takeBreak.2).allowKey (l.flow == 0 || l.keyAllowed))
    else l.moveTo c

/-- Skips a byte order mark at the start of the text. -/
def skipMark (l : Lexer) : Lexer :=
  if l.cursor.index == 0 && l.cursor.next == byteOrderMark then l.moveTo l.cursor.advance else l

/-! ### Tokens -/

/-- A token of one character. -/
def single (t : Token) (l : Lexer) : Lexer := (l.moveTo l.cursor.advance).emit t

def streamEnd (l : Lexer) : Except Fault Lexer := do
  let l ← (l.unwind (-1)).dropKey
  return l.emit .streamEnd

def directive (l : Lexer) : Except Fault Lexer := do
  let l ← (l.unwind (-1)).dropKey
  let (d, c) ← scanDirective l.cursor.advance
  return ((l.allowKey false).moveTo c).emit (.directive d)

def marker (t : Token) (l : Lexer) : Except Fault Lexer := do
  let l ← (l.unwind (-1)).dropKey
  return ((l.allowKey false).moveTo (l.cursor.forward 3)).emit t

def openBracket (t : Token) (l : Lexer) : Except Fault Lexer := do
  let l ← l.saveKey
  return ({ l with flow := l.flow + 1 }.allowKey true).single t

def closeBracket (t : Token) (l : Lexer) : Except Fault Lexer := do
  let l ← l.dropKey
  demand (l.flow != 0)
  return ({ l with flow := l.flow - 1 }.allowKey false).single t

def flowEntry (l : Lexer) : Except Fault Lexer := do
  let l ← (l.allowKey true).dropKey
  return l.single .flowEntry

def blockEntry (l : Lexer) : Except Fault Lexer := do
  demand (l.flow != 0 || l.keyAllowed)
  let l ← ((l.openBlock .blockSequenceStart).allowKey true).dropKey
  return l.single .blockEntry

def key (l : Lexer) : Except Fault Lexer := do
  demand (l.flow != 0 || l.keyAllowed)
  let l ← ((l.openBlock .blockMappingStart).allowKey (l.flow == 0)).dropKey
  return l.single .key

/-- A colon: what stands at the remembered place was a key, or the key is empty. -/
def value (l : Lexer) : Except Fault Lexer := do
  match l.keys.lookup l.flow with
  | some k =>
    let l := { l with keys := l.keys.filter fun k => k.1 != l.flow }
    let keyed := l.insertAt k.position .key
    let opened :=
      if l.opens k.column then (keyed.indentTo k.column).insertAt k.position .blockMappingStart
      else keyed
    return (opened.allowKey false).single .value
  | none =>
    demand (l.flow != 0 || l.keyAllowed)
    let l ← ((l.openBlock .blockMappingStart).allowKey (l.flow == 0)).dropKey
    return l.single .value

/-- A token that may be the start of a key. -/
def word {α : Type} (scan : Cursor → Except Fault (α × Cursor)) (token : α → Token) (l : Lexer) :
    Except Fault Lexer := do
  let l ← l.saveKey
  let (a, c) ← scan l.cursor
  return ((l.allowKey false).moveTo c).emit (token a)

def block (folded : Bool) (l : Lexer) : Except Fault Lexer := do
  let l ← (l.allowKey true).dropKey
  let (text, c) ← scanBlock folded l.indent l.cursor.advance
  return (l.moveTo c).emit (.scalar (String.ofList text) false)

def quoted (double : Bool) : Lexer → Except Fault Lexer :=
  word (fun c => scanQuoted double (c.rest.length + 1) c.advance) fun text =>
    .scalar (String.ofList text) false

def plain (l : Lexer) : Except Fault Lexer := do
  let l ← l.saveKey
  let (text, broken, c) :=
    scanPlain (l.flow != 0) (l.indent + 1) (l.cursor.rest.length + 1) [] l.cursor
  return ((l.allowKey broken).moveTo c).emit (.scalar (String.ofList text) true)

/-- Whether a plain scalar may begin here. -/
def beginsPlain (l : Lexer) : Bool :=
  let ch := l.cursor.next
  let marks := "-?:,[]\x7b\x7d#&*!|>'\"%@`".toList
  !(isGap ch || marks.contains ch) ||
    (!isGap (l.cursor.peek 1) && (ch == '-' || (l.flow == 0 && (ch == '?' || ch == ':'))))

/-- Takes the token at the cursor. -/
def takeToken (l : Lexer) : Except Fault Lexer :=
  let c := l.cursor
  let gapFollows := isGap (c.peek 1)
  let inFlow := l.flow != 0
  match c.next with
  | '%' => if c.column == 0 then l.directive else illFormed
  | '[' => l.openBracket .flowSequenceStart
  | '\x7b' => l.openBracket .flowMappingStart
  | ']' => l.closeBracket .flowSequenceEnd
  | '\x7d' => l.closeBracket .flowMappingEnd
  | ',' => l.flowEntry
  | '*' => l.word (fun c => scanAnchor c.advance) .alias
  | '&' => l.word (fun c => scanAnchor c.advance) .anchor
  | '!' => l.word scanTag .tag
  | '\'' => l.quoted false
  | '"' => l.quoted true
  | ch =>
    if ch == '-' && c.column == 0 && c.atMarker then l.marker .documentStart
    else if ch == '.' && c.column == 0 && c.atMarker then l.marker .documentEnd
    else if ch == '-' && gapFollows then l.blockEntry
    else if ch == '?' && (inFlow || gapFollows) then l.key
    else if ch == ':' && (inFlow || gapFollows) then l.value
    else if ch == '|' && !inFlow then l.block false
    else if ch == '>' && !inFlow then l.block true
    else if l.beginsPlain then l.plain
    else illFormed

/-- Goes to the next token and takes it. -/
def next (l : Lexer) : Except Fault Lexer := do
  let l ← (l.skipMark.toNextToken (l.cursor.rest.length + 1)).dropStale
  let l := l.unwind l.cursor.column
  if isEnd l.cursor.next then l.streamEnd else l.takeToken

/-- Takes tokens up to the end of the text or the first fault. -/
def run : Nat → Lexer → Array Token
  | 0, l => l.tokens
  | fuel + 1, l =>
    match l.next with
    | .error f => l.tokens.push (.fault f)
    | .ok l => if l.tokens.back? == some .streamEnd then l.tokens else run fuel l

end Lexer

/-- The tokens of a text. -/
def tokens (text : List Char) : List Token :=
  if text.all isAllowed then ((Lexer.ofText text).run (text.length + 1)).toList
  else [.fault .illFormed]

end ApiAccord.Yaml
