import ApiAccord.Text.Chars

/-!
# Operations on texts

Trimming, searching, splitting and replacing.  Every operation is defined on lists of characters,
where it can be reasoned about by recursion, and lifted to `String` by a function of the same name.
-/

namespace ApiAccord.Text

/-! ### Lists of characters -/

namespace Chars

/-- Drops characters of a class from the end. -/
def dropEndWhile (p : Char → Bool) (cs : List Char) : List Char :=
  (cs.reverse.dropWhile p).reverse

/-- Drops characters of a class from both ends. -/
def trimBy (p : Char → Bool) (cs : List Char) : List Char :=
  dropEndWhile p (cs.dropWhile p)

/-- The pieces of the text between the separators `sep`. -/
def splitOn (sep : Char) : List Char → List (List Char)
  | [] => [[]]
  | c :: rest =>
    if c == sep then [] :: splitOn sep rest
    else match splitOn sep rest with
      | [] => [[c]]
      | piece :: pieces => (c :: piece) :: pieces

/-- The text before the first separator, and the text after it if there is one. -/
def splitAt? (sep : Char) : List Char → List Char × Option (List Char)
  | [] => ([], none)
  | c :: rest =>
    if c == sep then ([], some rest)
    else let (before, after) := splitAt? sep rest; (c :: before, after)

section Occurrences

-- Characters of any kind, so that texts of code points are met as well.
variable {α : Type} [BEq α]

/-- Whether `needle` occurs in the text. -/
def occursIn (needle : List α) : List α → Bool
  | [] => needle.isEmpty
  | c :: rest => needle.isPrefixOf (c :: rest) || occursIn needle rest

theorem occursIn_iff [LawfulBEq α] {needle cs : List α} :
    occursIn needle cs = true ↔ needle <:+: cs := by
  induction cs with
  | nil => rw [occursIn, List.isEmpty_iff, List.infix_nil]
  | cons c rest ih =>
    rw [occursIn, Bool.or_eq_true, List.isPrefixOf_iff_prefix, ih, List.infix_cons_iff]

/-- Replaces every occurrence of a two-character text, from left to right. -/
def replacePair (a b : α) (new : List α) : List α → List α
  | [] => []
  | [c] => [c]
  | c :: d :: rest =>
    if c == a && d == b then new ++ replacePair a b new rest
    else c :: replacePair a b new (d :: rest)

theorem length_replacePair_le (a b : α) {new : List α} (h : new.length ≤ 2) (cs : List α) :
    (replacePair a b new cs).length ≤ cs.length := by
  fun_induction replacePair a b new cs with
  | case1 => exact Nat.le_refl _
  | case2 => exact Nat.le_refl _
  | case3 c d rest _ ih => simp only [List.length_append, List.length_cons]; omega
  | case4 c d rest _ ih => exact Nat.succ_le_succ ih

/-- A text gets shorter if a pair stands in it that is replaced by less. -/
theorem length_replacePair_lt [LawfulBEq α] {a b : α} {new cs : List α} (h : new.length < 2)
    (stands : [a, b] <:+: cs) : (replacePair a b new cs).length < cs.length := by
  fun_induction replacePair a b new cs with
  | case1 => exact absurd stands.length_le (by simp)
  | case2 c => exact absurd stands.length_le (by simp)
  | case3 c d rest _ ih =>
    have := length_replacePair_le a b (Nat.le_of_lt h) rest
    simp only [List.length_append, List.length_cons]
    omega
  | case4 c d rest apart ih =>
    rcases List.infix_cons_iff.1 stands with first | later
    · simp only [List.cons_prefix_cons, List.nil_prefix, and_true] at first
      simp [first] at apart
    · exact Nat.succ_lt_succ (ih later)

end Occurrences

end Chars

/-! ### Texts -/

/-- Drops blanks from both ends. -/
def trim (s : String) : String := String.ofList (Chars.trimBy isBlank s.toList)

/-- Drops blanks from the start. -/
def trimStart (s : String) : String := String.ofList (s.toList.dropWhile isBlank)

/-- Drops blanks from the end. -/
def trimEnd (s : String) : String := String.ofList (Chars.dropEndWhile isBlank s.toList)

/-- Whether the text holds nothing but blanks. -/
def isBlankText (s : String) : Bool := s.toList.all isBlank

/-- Whether the text begins with `head`. -/
def startsWith (head s : String) : Bool := head.toList.isPrefixOf s.toList

/-- Whether the text ends with `tail`. -/
def endsWith (tail s : String) : Bool := tail.toList.reverse.isPrefixOf s.toList.reverse

/-- Whether `needle` occurs in `s`. -/
def occursIn (needle s : String) : Bool := Chars.occursIn needle.toList s.toList

/-- The pieces of `s` between the separators. -/
def splitOn (sep : Char) (s : String) : List String :=
  (Chars.splitOn sep s.toList).map String.ofList

/-- The text before the first separator; all of it if there is none. -/
def before (sep : Char) (s : String) : String :=
  String.ofList (Chars.splitAt? sep s.toList).1

/-- The text from the `n`-th character on. -/
def dropFirst (n : Nat) (s : String) : String := String.ofList (s.toList.drop n)

/-- `s` without `head` at its start, if it begins so. -/
def stripHead? (head s : String) : Option String :=
  if startsWith head s then some (dropFirst head.length s) else none

/-- Replaces every character `c` by the text `new`. -/
def replaceChar (c : Char) (new s : String) : String :=
  String.ofList (s.toList.flatMap fun d => if d == c then new.toList else [d])

/-- Replaces every occurrence of the two characters `a b` by the text `new`. -/
def replacePair (a b : Char) (new s : String) : String :=
  String.ofList (Chars.replacePair a b new.toList s.toList)

/-- The lexicographic order by code point. -/
def le (a b : String) : Bool := !(b < a)

end ApiAccord.Text
