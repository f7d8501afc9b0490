import ApiAccord.Text.Case
import ApiAccord.Text.Chars

/-!
# Classes of characters in patterns

A `CharClass` is a set of characters written down as data, so that a pattern can be read as well as
run.
-/

namespace ApiAccord

/-- A set of characters. -/
inductive CharClass where
  | nothing
  | one (c : Char)
  | range (first last : Char)
  /-- White space. -/
  | blank
  /-- Letters, digits and the underscore. -/
  | word
  /-- A letter in either case, with the letters that share a case with it. -/
  | anyCase (c : Char)
  | either (a b : CharClass)
  | not (a : CharClass)

namespace CharClass

/-- The letters beyond ASCII that share a case with one of ASCII's: dotless and dotted `i`, and the
long `s`. -/
def sharesCase (c d : Char) : Bool :=
  (c == 'i' && (d.toNat == 0x130 || d.toNat == 0x131)) || (c == 's' && d.toNat == 0x17f) ||
    (c == 'k' && d.toNat == 0x212a)

/-- Whether a character belongs to the class. -/
def holds : CharClass → Char → Bool
  | .nothing, _ => false
  | .one c, d => c == d
  | .range first last, d => first ≤ d && d ≤ last
  | .blank, d => Text.isBlank d
  | .word, d => Text.isWord d
  | .anyCase c, d => c.toLower == d.toLower || sharesCase c.toLower d
  | .either a b, d => a.holds d || b.holds d
  | .not a, d => !a.holds d

/-- The characters of a text. -/
def anyOf (s : String) : CharClass :=
  s.toList.foldr (fun c k => .either (.one c) k) .nothing

/-- The characters that are not in a text. -/
def noneOf (s : String) : CharClass := .not (anyOf s)

/-- Every character. -/
def any : CharClass := .not .nothing

/-- The ASCII digits. -/
def digit : CharClass := .range '0' '9'

/-- The ASCII letters. -/
def letter : CharClass := .either (.range 'a' 'z') (.range 'A' 'Z')

instance : HOr CharClass CharClass CharClass := ⟨.either⟩

end CharClass

end ApiAccord
