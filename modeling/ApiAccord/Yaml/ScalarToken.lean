import ApiAccord.Yaml.Token

/-!
# Scalars of YAML

A scalar is written plain, between quotes, or as a block.  Line ends inside a plain or quoted scalar
are folded: one becomes a blank, of several all but the first stay.
-/

namespace ApiAccord.Yaml

/-- The text of folded line ends: the first, and those that follow it. -/
def foldBreaks (first : List Char) (others : List (List Char)) : List Char :=
  (if first != ['\n'] then first else if others.isEmpty then [' '] else []) ++ others.flatten

/-! ### Plain scalars -/

/-- What ends the words of a plain scalar inside brackets. -/
def isFlowMark (c : Char) : Bool := ",?[]\x7b\x7d".toList.contains c

/-- Whether a plain scalar ends before the first of these characters. -/
def endsPlain (inFlow : Bool) : List Char → Bool
  | [] => true
  | ':' :: rest =>
    let following := rest.headD '\x00'
    isGap following || (inFlow && ",[]\x7b\x7d".toList.contains following)
  | c :: _ => isGap c || (inFlow && isFlowMark c)

/-- The words that come next in a plain scalar. -/
def plainWords (inFlow : Bool) : List Char → List Char
  | [] => []
  | c :: rest => if endsPlain inFlow (c :: rest) then [] else c :: plainWords inFlow rest

/-- The line ends after the first between two lines of a plain scalar; nothing if the document ends
before the next line. -/
def plainBreaks : Nat → Cursor → Option (List (List Char)) × Cursor
  | 0, c => (some [], c)
  | fuel + 1, c =>
    if c.next == ' ' then plainBreaks fuel c.advance
    else if isBreak c.next then
      let (b, c) := c.takeBreak
      if c.atMarker then (none, c)
      else
        let (bs, c) := plainBreaks fuel c
        (bs.map (b :: ·), c)
    else (some [], c)

/-- The blanks between two runs of words, and whether they hold the end of a line.  No blanks mean
that the scalar ends. -/
def plainSpaces (c : Cursor) : List Char × Bool × Cursor :=
  let (blanks, c) := c.span (· == ' ')
  if isBreak c.next then
    let (b, c) := c.takeBreak
    if c.atMarker then ([], true, c)
    else match plainBreaks c.rest.length c with
      | (some bs, c) => (foldBreaks b bs, true, c)
      | (none, c) => ([], true, c)
  else (blanks, false, c)

/-- A plain scalar in lines that begin at the column `indent` or behind it, and whether it ends
after the end of a line.  `spaces` are the blanks before the next words. -/
def scanPlain (inFlow : Bool) (indent : Int) :
    Nat → (spaces : List Char) → Cursor → List Char × Bool × Cursor
  | 0, _, c => ([], false, c)
  | fuel + 1, spaces, c =>
    let words := if c.next == '#' then [] else plainWords inFlow c.rest
    if words.isEmpty then ([], false, c)
    else
      let (next, broken, after) := plainSpaces (c.forward words.length)
      if next.isEmpty || after.next == '#' || (!inFlow && (after.column : Int) < indent) then
        (spaces ++ words, broken, after)
      else
        let ended := endsPlain inFlow after.rest
        if ended then (spaces ++ words, broken, after)
        else
          let (more, broken, c) := scanPlain inFlow indent fuel next after
          (spaces ++ words ++ more, broken, c)

/-! ### Quoted scalars -/

/-- The character that a one-letter escape stands for. -/
def escapeOf? : Char → Option Char
  | '0' => some '\x00'
  | 'a' => some '\x07'
  | 'b' => some '\x08'
  | 't' | '\t' => some '\t'
  | 'n' => some '\n'
  | 'v' => some '\x0b'
  | 'f' => some '\x0c'
  | 'r' => some '\r'
  | 'e' => some '\x1b'
  | ' ' => some ' '
  | '"' => some '"'
  | '\\' => some '\\'
  | '/' => some '/'
  | 'N' => some '\x85'
  | '_' => some '\xa0'
  | 'L' => some '\u2028'
  | 'P' => some '\u2029'
  | _ => none

/-- The number of hexadecimal digits after an escape letter. -/
def escapeWidth? : Char → Option Nat
  | 'x' => some 2
  | 'u' => some 4
  | 'U' => some 8
  | _ => none

/-- The character with a code. -/
def characterOf (code : Nat) : Except Fault Char :=
  if 0x80000000 ≤ code then .error .hugeCharacter
  else if 0x110000 ≤ code then .error .noCharacter
  else .ok (Char.ofNat code)

/-- The line ends after the first between two lines of a quoted scalar. -/
def quotedBreaks : Nat → Cursor → Except Fault (List (List Char) × Cursor)
  | 0, _ => illFormed
  | fuel + 1, c => do
    demand (!c.atMarker)
    let c := c.skip fun ch => ch == ' ' || ch == '\t'
    if isBreak c.next then
      let (b, c) := c.takeBreak
      let (bs, c) ← quotedBreaks fuel c
      return (b :: bs, c)
    else return ([], c)

/-- An escape, after its backslash. -/
def scanEscape (c : Cursor) : Except Fault (List Char × Cursor) := do
  match escapeOf? c.next with
  | some ch => return ([ch], c.advance)
  | none =>
  match escapeWidth? c.next with
  | some width =>
    let digits := c.advance.rest.take width
    match (if digits.length == width then hexNumber? digits else none) with
    | some code => return ([← characterOf code], c.forward (width + 1))
    | none => illFormed
  | none =>
    demand (isBreak c.next)
    let c := c.takeBreak.2
    let (bs, c) ← quotedBreaks (c.rest.length + 1) c
    return (bs.flatten, c)

/-- What ends a run of ordinary characters in a quoted scalar. -/
def endsQuotedRun (c : Char) : Bool := c == '\'' || c == '"' || c == '\\' || isGap c

/-- The text of a quoted scalar, after its opening quote. -/
def scanQuoted (double : Bool) : Nat → Cursor → Except Fault (List Char × Cursor)
  | 0, _ => illFormed
  | fuel + 1, c => do
    let (run, c) := c.span (!endsQuotedRun ·)
    let ch := c.next
    let continue_ (piece : List Char) (c : Cursor) : Except Fault (List Char × Cursor) := do
      let (more, c) ← scanQuoted double fuel c
      return (run ++ piece ++ more, c)
    if !double && ch == '\'' && c.peek 1 == '\'' then continue_ ['\''] (c.forward 2)
    else if ch == (if double then '"' else '\'') then return (run, c.advance)
    else if ch == '\'' || ch == '"' || (!double && ch == '\\') then continue_ [ch] c.advance
    else if ch == '\\' then
      let (piece, c) ← scanEscape c.advance
      continue_ piece c
    else
      let (blanks, c) := c.span fun ch => ch == ' ' || ch == '\t'
      demand (!isEnd c.next)
      if isBreak c.next then
        let (b, c) := c.takeBreak
        let (bs, c) ← quotedBreaks (c.rest.length + 1) c
        continue_ (foldBreaks b bs) c
      else continue_ blanks c

/-! ### Block scalars -/

/-- What becomes of the line ends after a block. -/
inductive Chomping where
  | strip
  | clip
  | keep
deriving DecidableEq, Repr

def chompingOf? : Char → Option Chomping
  | '+' => some .keep
  | '-' => some .strip
  | _ => none

/-- A digit that says how deep a block is, which is not zero. -/
def scanIncrement (c : Cursor) : Except Fault (Option Nat × Cursor) := do
  if c.next.isDigit then
    demand (c.next != '0')
    return (some (c.next.toNat - '0'.toNat), c.advance)
  else return (none, c)

/-- The indicators of a block, in either order. -/
def scanIndicators (c : Cursor) : Except Fault ((Chomping × Option Nat) × Cursor) := do
  let (indicators, c) ← match chompingOf? c.next with
    | some chomping => do
      let (increment, c) ← scanIncrement c.advance
      pure ((chomping, increment), c)
    | none => do
      let (increment, c) ← scanIncrement c
      match increment, chompingOf? c.next with
      | some _, some chomping => pure ((chomping, increment), c.advance)
      | _, _ => pure ((.clip, increment), c)
  demand (isSpaceOrEnd c.next)
  return (indicators, c)

/-- Skips spaces as long as the column is less than `indent`. -/
def skipIndent (indent : Nat) (c : Cursor) : Cursor :=
  let spaces := c.rest.takeWhile (· == ' ')
  c.forward (min spaces.length (indent - c.column))

/-- The empty lines before the next line of a block, whose text begins at `indent`. -/
def blockBreaks (indent : Nat) : Nat → Cursor → List (List Char) × Cursor
  | 0, c => ([], c)
  | fuel + 1, c =>
    let c := skipIndent indent c
    if isBreak c.next then
      let (b, c) := c.takeBreak
      let (bs, c) := blockBreaks indent fuel c
      (b :: bs, c)
    else ([], c)

/-- The empty lines at the start of a block, and the greatest column that its spaces reach. -/
def blockStart : Nat → (deepest : Nat) → Cursor → List (List Char) × Nat × Cursor
  | 0, deepest, c => ([], deepest, c)
  | fuel + 1, deepest, c =>
    if isBreak c.next then
      let (b, c) := c.takeBreak
      let (bs, deepest, c) := blockStart fuel deepest c
      (b :: bs, deepest, c)
    else if c.next == ' ' then
      let c := c.advance
      blockStart fuel (max deepest c.column) c
    else ([], deepest, c)

def isBlankChar (c : Char) : Bool := c == ' ' || c == '\t'

/-- The lines of a block, each after the empty lines `breaks`.  Returns the text, the last end of a
line and the empty lines after it. -/
def blockLines (folded : Bool) (indent : Nat) :
    Nat → (breaks : List (List Char)) → Cursor →
      List Char × List Char × List (List Char) × Cursor
  | 0, breaks, c => ([], [], breaks, c)
  | fuel + 1, breaks, c =>
    if c.column == indent && !isEnd c.next then
      let flush := !isBlankChar c.next
      let (line, c) := c.span (!isBreak ·)
      let (lineEnd, c) := c.takeBreak
      let (following, c) := blockBreaks indent (c.rest.length + 1) c
      let head := breaks.flatten ++ line
      if c.column == indent && !isEnd c.next then
        let joint :=
          if folded && lineEnd == ['\n'] && flush && !isBlankChar c.next then
            if following.isEmpty then [' '] else []
          else lineEnd
        let (text, lineEnd, rest, c) := blockLines folded indent fuel following c
        (head ++ joint ++ text, lineEnd, rest, c)
      else (head, lineEnd, following, c)
    else ([], [], breaks, c)

/-- A block scalar, after its indicator.  `outer` is the column of the block around it. -/
def scanBlock (folded : Bool) (outer : Int) (c : Cursor) : Except Fault (List Char × Cursor) := do
  let ((chomping, increment), c) ← scanIndicators c
  let c := c.skipSpaces.skipComment
  demand (isBreakOrEnd c.next)
  let c := c.takeBreak.2
  let least := (max (outer + 1) 1).toNat
  let (breaks, indent, c) := match increment with
    | some n =>
      let indent := least + n - 1
      let (breaks, c) := blockBreaks indent (c.rest.length + 1) c
      (breaks, indent, c)
    | none =>
      let (breaks, deepest, c) := blockStart (c.rest.length + 1) 0 c
      (breaks, max least deepest, c)
  let (text, lineEnd, rest, c) := blockLines folded indent (c.rest.length + 1) breaks c
  let ending := match chomping with
    | .strip => []
    | .clip => lineEnd
    | .keep => lineEnd ++ rest.flatten
  return (text ++ ending, c)

end ApiAccord.Yaml
