import ApiAccord.Text.Basic

/-!
# Integers in texts

`integer?` reads a whole number as loosely as a reader of words may: blanks around it, a sign,
decimal digits of any script, and single underscores between digits.
-/

namespace ApiAccord.Text

/-- The value of a digit in a base up to sixteen. -/
def digitInBase? (base : Nat) (c : Char) : Option Nat :=
  match (digitValue? c).or (hexValue? c) with
  | some d => if d < base then some d else none
  | none => none

/-- Reads digits with single underscores between them, after `n` and at least one digit. -/
def digitsAfter? (base : Nat) (n : Nat) : List Char → Option Nat
  | [] => some n
  | ['_'] => none
  | '_' :: c :: rest => do
    let d ← digitInBase? base c
    digitsAfter? base (n * base + d) rest
  | c :: rest => do
    let d ← digitInBase? base c
    digitsAfter? base (n * base + d) rest

/-- Reads digits of which there is at least one. -/
def digits? (base : Nat) : List Char → Option Nat
  | [] => none
  | c :: rest => do
    let d ← digitInBase? base c
    digitsAfter? base d rest

/-- Splits a sign off. -/
def splitSign : List Char → Bool × List Char
  | '-' :: rest => (true, rest)
  | '+' :: rest => (false, rest)
  | cs => (false, cs)

/-- Drops the mark of a base that a number may begin with: `0b`, `0o` or `0x`. -/
def dropBaseMark (base : Nat) : List Char → List Char
  | '0' :: c :: rest =>
    let mark := (List.lookup base [(2, 'b'), (8, 'o'), (16, 'x')]).getD '0'
    if mark != '0' && c.toLower == mark then rest else '0' :: c :: rest
  | cs => cs

/-- The integer that a text writes in a base that is a power of two. -/
def integerIn? (base : Nat) (cs : List Char) : Option Int := do
  let (negative, body) := splitSign (Chars.trimBy isBlank cs)
  let n ← digits? base (dropBaseMark base body)
  return if negative then -(n : Int) else n

/-- The most digits that a decimal number may have. -/
def maxDigits : Nat := 4300

/-- The integer that a text writes in decimal. -/
def integer? (s : String) : Option Int := do
  let (negative, body) := splitSign (Chars.trimBy isBlank s.toList)
  let n ← digits? 10 body
  if maxDigits < (body.filter (· != '_')).length then none
  else return if negative then -(n : Int) else n

end ApiAccord.Text
