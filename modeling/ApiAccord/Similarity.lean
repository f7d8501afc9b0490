import ApiAccord.Text.Basic
import ApiAccord.Text.Case

/-!
# Similarity of paths

How alike two names are, for suggesting what may have been meant.  `Likeness.of` decides on one of
three grounds, tried in this order: one name contains the other, the names share words, or else the
number of edits between them.  `Likeness.score` is the resulting number.  `suggest` lists the best
candidates above a threshold.
-/

namespace ApiAccord

/-! ### Edit distance -/

/-- The next row of the table of distances: `row` holds the distances of the prefixes of the second
text from the text read so far, `left` the entry to the left and `diagonal` the one above that. -/
def editRow (c : Char) : (left diagonal : Nat) → List Char → List Nat → List Nat
  | left, diagonal, d :: ds, above :: rest =>
    let entry := min (min (above + 1) (left + 1)) (diagonal + if c == d then 0 else 1)
    entry :: editRow c entry above ds rest
  | _, _, _, _ => []

/-- The last row of the table of distances. -/
def editRows (b : List Char) : List Char → List Nat → List Nat
  | [], row => row
  | c :: cs, row =>
    match row with
    | [] => []
    | first :: rest => editRows b cs ((first + 1) :: editRow c (first + 1) first b rest)

/-- The least number of insertions, deletions and substitutions of characters that lead from one
text to the other. -/
def editDistance (a b : List Char) : Nat :=
  (editRows b a (List.range (b.length + 1))).getLast?.getD 0

/-! ### Likeness -/

/-- The grounds on which two names are found alike. -/
inductive Likeness where
  /-- Both names are empty. -/
  | bothEmpty
  /-- One name contains the other. -/
  | contained
  /-- So many of the words of the longer name have a partner. -/
  | sharedWords (matched total : Nat)
  /-- So many edits, for a longer name of so many characters. -/
  | edits (distance length : Nat)
deriving DecidableEq, Repr

namespace Likeness

/-- The name in lower case without outer slashes. -/
def core (name : String) : List Char :=
  Text.Chars.trimBy (· == '/') (Text.lower name).toList

def isWordBreak (c : Char) : Bool := c == '/' || c == '-' || c == '_'

/-- The words of a name, the one being read given backwards. -/
def wordsFrom (reversed : List Char) : List Char → List (List Char)
  | [] => if reversed.isEmpty then [] else [reversed.reverse]
  | c :: rest =>
    if isWordBreak c then
      (if reversed.isEmpty then [] else [reversed.reverse]) ++ wordsFrom [] rest
    else wordsFrom (c :: reversed) rest

/-- The words of a name, separated by slashes, hyphens and underscores. -/
def words (cs : List Char) : List (List Char) := wordsFrom [] cs

/-- Whether one word contains the other. -/
def related (a b : List Char) : Bool :=
  Text.Chars.occursIn a b || Text.Chars.occursIn b a

/-- The grounds on which two names, in lower case and without outer slashes, are alike. -/
def ofCores (left right : List Char) : Likeness :=
  if left.isEmpty && right.isEmpty then .bothEmpty
  else if !left.isEmpty && !right.isEmpty && related left right then .contained
  else
    let leftWords := words left
    let rightWords := words right
    let total := max leftWords.length rightWords.length
    let matched := leftWords.countP fun w => rightWords.any (related w)
    if 3 * total < 10 * matched then .sharedWords matched total
    else .edits (editDistance left right) (max left.length right.length)

/-- The grounds on which two names are alike. -/
def of (a b : String) : Likeness := ofCores (core a) (core b)

/-- The score of likeness, from zero to one. -/
def score : Likeness → Float
  | .bothEmpty => 1
  | .contained => 0.8
  | .sharedWords matched total => 0.5 + matched.toFloat / total.toFloat * 0.3
  | .edits distance length => (length.toFloat - distance.toFloat) / length.toFloat

end Likeness

/-- How alike two names are, from zero to one. -/
def similarity (a b : String) : Float := (Likeness.of a b).score

/-! ### Suggestions -/

/-- Inserts a scored candidate before the first with a lower score. -/
def insertScored (x : Float × String) : List (Float × String) → List (Float × String)
  | [] => [x]
  | y :: rest => if y.1 < x.1 then x :: y :: rest else y :: insertScored x rest

/-- Sorts scored candidates by descending score; equal scores keep their order. -/
def sortScored (xs : List (Float × String)) : List (Float × String) :=
  xs.foldl (fun sorted x => insertScored x sorted) []

/-- The first `limit` items; a negative limit leaves out as many at the end. -/
def takeLimit {α : Type} (limit : Int) (items : List α) : List α :=
  if limit < 0 then items.take (items.length - limit.natAbs) else items.take limit.toNat

/-- At most `limit` candidates that score above the threshold, best first. -/
def suggest (path : String) (candidates : List String) (threshold : Float) (limit : Int) :
    List String :=
  let scored := candidates.map fun c => (similarity path c, c)
  (takeLimit limit (sortScored (scored.filter fun s => threshold < s.1))).map (·.2)

end ApiAccord
