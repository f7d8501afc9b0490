import ApiAccord.Text.NormalTable

/-!
# The normal form of identifiers

Texts of different characters may look alike and mean the same name.  `compatible` writes a name in
the one form that stands for all of them: every character is taken apart into what it is made of or
stands for, marks are put in order, and what belongs together is joined again.
-/

namespace ApiAccord.Text

/-! ### Syllables of Hangul -/

/-- The parts of a syllable that is written as one character. -/
def syllableParts? (n : Nat) : Option (List Nat) :=
  if 0xac00 ≤ n && n ≤ 0xd7a3 then
    let i := n - 0xac00
    let final := if i % 28 == 0 then [] else [0x11a7 + i % 28]
    some ([0x1100 + i / 588, 0x1161 + i % 588 / 28] ++ final)
  else none

/-- The syllable that two characters make. -/
def syllable? (a b : Nat) : Option Nat :=
  if 0x1100 ≤ a && a < 0x1113 && 0x1161 ≤ b && b < 0x1176 then
    some (0xac00 + ((a - 0x1100) * 21 + (b - 0x1161)) * 28)
  else if 0xac00 ≤ a && a ≤ 0xd7a3 && (a - 0xac00) % 28 == 0 && 0x11a8 ≤ b && b < 0x11c3 then
    some (a + (b - 0x11a7))
  else none

/-! ### Parts of characters -/

/-- The place of a character in a text. -/
def indexIn? (n : Nat) (s : String) : Option Nat := s.toList.findIdx? fun c => c.toNat == n

/-- The letter and the mark that a character is made of. -/
def letterAndMark? (n : Nat) : Option (Nat × Nat) :=
  markedLetters.findSome? fun (mark, composites, letters) => do
    let i ← indexIn? n composites
    let c ← letters.toList[i]?
    return (c.toNat, mark)

/-- The character that a letter and a mark make. -/
def marked? (letter mark : Nat) : Option Nat :=
  (syllable? letter mark).or <| markedLetters.findSome? fun (m, composites, letters) =>
    if m == mark then do
      let i ← indexIn? letter letters
      let c ← composites.toList[i]?
      return c.toNat
    else none

/-- What a character stands for, if it is another character or several. -/
def standsFor? (n : Nat) : Option (List Nat) :=
  match ligatures.lookup n with
  | some s => some (s.toList.map Char.toNat)
  | none => lookalikeBlocks.findSome? fun (first, s) =>
      if first ≤ n then (s.toList[n - first]?).map fun c => [c.toNat] else none

/-- Takes a character apart.  At most `fuel` marks are taken off a letter. -/
def parts (fuel : Nat) (n : Nat) : List Nat :=
  if n < 0x80 then [n]
  else match syllableParts? n with
  | some ps => ps
  | none =>
    match fuel, letterAndMark? n with
    | fuel + 1, some (letter, mark) => parts fuel letter ++ [mark]
    | _, _ => (standsFor? n).getD [n]

/-! ### Marks -/

/-- The class of a mark, zero for characters that are none. -/
def markClass (n : Nat) : Nat :=
  if n < 0x300 then 0
  else ((markClasses.find? fun (first, last, _) => first ≤ n && n ≤ last).map (·.2.2)).getD 0

/-- Puts a mark behind the marks of its class and before those of higher classes. -/
def insertMark (n : Nat) : List Nat → List Nat
  | [] => [n]
  | m :: rest => if markClass n < markClass m then n :: m :: rest else m :: insertMark n rest

/-- Puts the marks after each letter in order.  `marks` are those after the last letter. -/
def orderMarks (marks : List Nat) : List Nat → List Nat
  | [] => marks
  | n :: rest =>
    if markClass n == 0 then marks ++ n :: orderMarks [] rest
    else orderMarks (insertMark n marks) rest

/-- Joins characters with the marks that follow.  `letter` is the last letter and `marks` are those
behind it that could not be joined with it, the last first. -/
def joinMarks (letter : Option Nat) (marks : List Nat) : List Nat → List Nat
  | [] => letter.toList ++ marks.reverse
  | n :: rest =>
    let blocked := marks.head?.any fun m => markClass n ≤ markClass m
    match letter.bind fun l => if blocked then none else marked? l n with
    | some l => joinMarks (some l) marks rest
    | none =>
      if markClass n == 0 then letter.toList ++ marks.reverse ++ joinMarks (some n) [] rest
      else joinMarks letter (n :: marks) rest

/-- The form of a name that stands for all names that look like it. -/
def compatible (name : String) : String :=
  if name.toList.all fun c => c.toNat < 0x80 then name
  else
    let codes := name.toList.flatMap fun c => parts 4 c.toNat
    String.ofList ((joinMarks none [] (orderMarks [] codes)).map Char.ofNat)

end ApiAccord.Text
