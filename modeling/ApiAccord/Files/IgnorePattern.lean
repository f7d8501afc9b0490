import ApiAccord.Failure
import ApiAccord.Text.Basic

/-!
# Patterns for file names

Patterns select files below a folder, by the rules of ignore files.  A pattern of one segment
applies at any depth, one with a slash inside or in front from the top.  A star stands for any part
of a segment, a question mark for one character, brackets for one of several, and two stars as a
segment for any number of segments.  What is selected is selected with all below it.  A pattern
after an exclamation mark takes back what an earlier one selected.

A pattern becomes a list of `Piece`s, which `Piece.matches` looks for at the start of a path.
-/

namespace ApiAccord

/-- A part of a pattern. -/
inductive Piece where
  | char (c : Char)
  /-- One character of a segment. -/
  | one
  /-- Any characters of a segment. -/
  | run
  /-- A whole segment. -/
  | segment
  /-- One character within some ranges, or outside of them all. -/
  | among (negated : Bool) (ranges : List (Char × Char))
  /-- Any segments from the top, with the slash after them. -/
  | above
  /-- Any segments after a slash. -/
  | between
  /-- A slash, and whatever is below. -/
  | below
  /-- The end of the path, or whatever is below. -/
  | end_
deriving DecidableEq, Repr

namespace Piece

/-- What is left after a number of characters that pass a test. -/
def runs (test : Char → Bool) : List Char → List (List Char)
  | [] => [[]]
  | c :: rest => (c :: rest) :: if test c then runs test rest else []

/-- What is left after each slash of a line but the first character. -/
def afterSlashes : List Char → List (List Char)
  | [] => []
  | c :: rest =>
    if c == '\n' then []
    else match rest with
      | '/' :: inner => inner :: afterSlashes rest
      | _ => afterSlashes rest

/-- What can be left of a path after a piece. -/
def rests (p : Piece) (cs : List Char) : List (List Char) :=
  match p, cs with
  | .char a, c :: rest => if a == c then [rest] else []
  | .one, c :: rest => if c == '/' then [] else [rest]
  | .run, cs => runs (· != '/') cs
  | .segment, c :: rest => if c == '/' then [] else runs (· != '/') rest
  | .among negated ranges, c :: rest =>
    if (ranges.any fun (lo, hi) => lo ≤ c && c ≤ hi) != negated then [rest] else []
  | .above, cs => cs :: afterSlashes cs
  | .between, '/' :: c :: rest =>
    ('/' :: c :: rest) :: if c == '\n' then [] else runs (· != '\n') rest
  | .between, cs => [cs]
  | .below, '/' :: _ => [[]]
  | .end_, [] | .end_, ['\n'] | .end_, '/' :: _ => [[]]
  | _, _ => []

/-- Whether pieces are found one after another at the start of a path. -/
def matches_ : List Piece → List Char → Bool
  | [], _ => true
  | p :: ps, cs => (p.rests cs).any (matches_ ps)

end Piece

/-! ### Segments -/

namespace Piece

/-- The ranges between brackets. -/
def ranges : List Char → Except PatternFlaw (List (Char × Char))
  | [] => .ok []
  | lo :: '-' :: hi :: rest => do
    if hi < lo then throw .backwardRange
    return (lo, hi) :: (← ranges rest)
  | c :: rest => do return (c, c) :: (← ranges rest)

/-- A bracket's sign, its characters and what follows it, if it is closed.  A closing bracket that
comes first belongs to the characters. -/
def bracket? (cs : List Char) : Option (Bool × List Char × List Char) :=
  let (negated, cs) := match cs with
    | '!' :: rest | '^' :: rest => (true, rest)
    | _ => (false, cs)
  let (first, cs) := match cs with
    | ']' :: rest => ([']'], rest)
    | _ => ([], cs)
  match cs.dropWhile (· != ']') with
  | _ :: rest => some (negated, first ++ cs.takeWhile (· != ']'), rest)
  | [] => none

/-- The pieces of a segment with wildcards.  A bracket takes several characters, so the length of
the segment bounds the number of steps. -/
def ofSegment : Nat → List Char → Except PatternFlaw (List Piece)
  | _, [] => .ok []
  | 0, _ => .ok []
  | n + 1, c :: rest => do
    match c, rest with
    | '\\', [] => throw .openEscape
    | '\\', d :: rest => return .char d :: (← ofSegment n rest)
    | '*', rest => return .run :: (← ofSegment n rest)
    | '?', rest => return .one :: (← ofSegment n rest)
    | '[', rest =>
      match bracket? rest with
      | some (negated, inside, rest) =>
        return .among negated (← ranges inside) :: (← ofSegment n rest)
      | none => return .char '[' :: (← ofSegment n rest)
    | c, rest => return .char c :: (← ofSegment n rest)

/-- The pieces of segments after the first ones; `slash` says whether a slash has to come before the
next. -/
def ofSegments (first slash : Bool) : List (List Char) → Except PatternFlaw (List Piece)
  | [] => .ok []
  | s :: rest => do
    if s == ['*', '*'] then
      if rest.isEmpty then return [.below]
      else if first then return .above :: (← ofSegments false false rest)
      else return .between :: (← ofSegments false true rest)
    else
      let own ← if s == ['*'] then pure [.segment] else ofSegment s.length s
      let before := if slash then [.char '/'] else []
      let after := if rest.isEmpty then [.end_] else []
      return before ++ own ++ after ++ (← ofSegments false true rest)

end Piece

/-! ### Patterns -/

/-- What a pattern selects. -/
inductive Selection where
  | everything
  /-- Everything that is inside of a folder. -/
  | nested
  | pieces (ps : List Piece)
deriving DecidableEq, Repr

def Selection.covers (s : Selection) (path : List Char) : Bool :=
  match s with
  | .everything => true
  | .nested => path.contains '/'
  | .pieces ps => Piece.matches_ ps path

/-- A pattern for file names. -/
structure IgnorePattern where
  /-- Whether the pattern takes back what others selected. -/
  takesBack : Bool
  selection : Selection
deriving DecidableEq, Repr

namespace IgnorePattern

/-- Two stars. -/
def stars : List Char := ['*', '*']

/-- Gives segments their full form: one segment alone applies at any depth, and an empty one at the
end stands for what is below. -/
def fullSegments (segments : List (List Char)) : List (List Char) :=
  let anchored := match segments with
    | [] :: rest => rest
    | [s] => if s == stars then [s] else [stars, s]
    | [s, []] => if s == stars then [s, []] else [stars, s, []]
    | segments => segments
  match anchored.getLast? with
  | some [] => anchored.dropLast ++ [stars]
  | _ => anchored

/-- Leaves one of several pairs of stars that follow each other. -/
def mergeStars : List (List Char) → List (List Char)
  | a :: b :: rest =>
    if a == stars && b == stars then mergeStars (b :: rest) else a :: mergeStars (b :: rest)
  | segments => segments

/-- What the segments of a pattern select; `folder` says that the pattern ends in a slash. -/
def selectionOf (folder : Bool) (segments : List (List Char)) : Except PatternFlaw Selection :=
  let full := mergeStars (fullSegments segments)
  if full.isEmpty then .error .empty
  else if full == [stars] then .ok (if folder then .nested else .everything)
  else if full == [stars, ['*']] then .ok .everything
  else if full == [stars, ['*'], stars] then .ok .nested
  else do return .pieces (← Piece.ofSegments true false full)

/-- Drops blanks at the end, unless the last one is escaped. -/
def dropBlanks (line : List Char) : List Char :=
  match line.reverse with
  | ' ' :: '\\' :: _ => line
  | _ => Text.Chars.dropEndWhile Text.isBlank line

/-- The pattern of a line; nothing for a blank line or a comment. -/
def ofLine (line : List Char) : Except PatternFlaw (Option IgnorePattern) :=
  match dropBlanks line with
  | [] | '#' :: _ => .ok none
  | cs => do
    let (takesBack, body) := match cs with
      | '!' :: rest => (true, rest)
      | _ => (false, cs)
    let segments := Text.Chars.splitOn '/' body
    let folder := cs != ['/'] && segments.getLast? == some []
    return some ⟨takesBack, ← selectionOf folder segments⟩

/-- The patterns of some lines. -/
def ofLines (lines : List String) : Except PatternFlaw (List IgnorePattern) := do
  return (← lines.mapM fun line => ofLine line.toList).filterMap id

/-- Whether patterns select a path: the last one that applies decides. -/
def select (patterns : List IgnorePattern) (path : String) : Bool :=
  match patterns.reverse.find? fun p => p.selection.covers path.toList with
  | some p => !p.takesBack
  | none => false

end IgnorePattern

end ApiAccord
