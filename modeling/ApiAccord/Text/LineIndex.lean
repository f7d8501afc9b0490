/-!
# Line numbers

A `LineIndex` holds the offsets at which the lines of a text begin, and `LineIndex.lineOf` finds the
line of an offset among them.
-/

namespace ApiAccord.Text

/-- The offsets at which lines begin, in ascending order. -/
structure LineIndex where
  starts : Array Nat

namespace LineIndex

/-- The offsets after the line feeds of a text whose first character has offset `i`. -/
def startsFrom (i : Nat) : List Char → List Nat
  | [] => []
  | c :: rest => if c == '\n' then (i + 1) :: startsFrom (i + 1) rest else startsFrom (i + 1) rest

/-- The index of a text. -/
def ofText (text : List Char) : LineIndex := ⟨(0 :: startsFrom 0 text).toArray⟩

/-- The number of starts up to `offset`, when all with an index below `lo` are known to be so and
all from index `hi` on are known not to be. -/
def bisect (starts : Array Nat) (offset : Int) (lo hi : Nat) : Nat :=
  if _ : lo < hi then
    let mid := (lo + hi) / 2
    match starts[mid]? with
    | none => lo
    | some s =>
      if offset < s then bisect starts offset lo mid else bisect starts offset (mid + 1) hi
  else lo
termination_by hi - lo

/-- The number of the line, counted from one, that an offset lies on: the number of lines that begin
at it or before. -/
def lineOf (index : LineIndex) (offset : Int) : Nat :=
  bisect index.starts offset 0 index.starts.size

end LineIndex

end ApiAccord.Text
