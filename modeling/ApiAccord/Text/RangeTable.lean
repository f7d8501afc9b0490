/-!
# Tables of character ranges

A `RangeTable` is a sorted array of closed ranges of code points, and `RangeTable.contains` looks a
character up by bisection.
-/

namespace ApiAccord.Text

/-- Disjoint closed ranges of code points, in ascending order. -/
structure RangeTable where
  ranges : Array (Nat × Nat)

namespace RangeTable

/-- Whether `n` lies in one of the ranges with index from `lo` up to but not including `hi`. -/
def search (ranges : Array (Nat × Nat)) (n lo hi : Nat) : Bool :=
  if _ : lo < hi then
    let mid := (lo + hi) / 2
    match ranges[mid]? with
    | none => false
    | some (first, last) =>
      if n < first then search ranges n lo mid
      else if last < n then search ranges n (mid + 1) hi
      else true
  else false
termination_by hi - lo

/-- Whether the character lies in one of the ranges. -/
def contains (t : RangeTable) (c : Char) : Bool :=
  search t.ranges c.toNat 0 t.ranges.size

end RangeTable

end ApiAccord.Text
