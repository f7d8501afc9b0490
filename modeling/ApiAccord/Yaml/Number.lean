import ApiAccord.Checked
import ApiAccord.Text.Integer

/-!
# Numbers, days and moments of YAML

What the text of a scalar denotes once its tag says that it is a number, a day or a moment.  A tag
that is written out may stand before any text, so that a text need not denote anything.
-/

namespace ApiAccord.Yaml

/-- Splits a sign off a number; there has to be a character. -/
def splitNumberSign : List Char → Except Malformed (Bool × List Char)
  | [] => .error .emptyNumber
  | '-' :: rest => .ok (true, rest)
  | '+' :: rest => .ok (false, rest)
  | cs => .ok (false, cs)

def orBad {α : Type} (a : Option α) : Except Malformed α :=
  match a with
  | some a => .ok a
  | none => .error .badNumber

/-- The value of parts in base sixty, the last counting single units. -/
def sixtyfold (parts : List Int) : Int := parts.foldl (fun n p => n * 60 + p) 0

/-- The integer without its sign. -/
def magnitudeOf (cs : List Char) : Except Malformed Int :=
  match cs with
  | ['0'] => .ok 0
  | '0' :: 'b' :: rest => orBad (Text.integerIn? 2 rest)
  | '0' :: 'x' :: rest => orBad (Text.integerIn? 16 rest)
  | '0' :: _ => orBad (Text.integerIn? 8 cs)
  | [] => .error .emptyNumber
  | _ =>
    if cs.contains ':' then do
      let parts ← (Text.Chars.splitOn ':' cs).mapM fun p => orBad (Text.integer? (String.ofList p))
      return sixtyfold parts
    else orBad (Text.integer? (String.ofList cs))

/-- The integer that a text denotes: with a mark for base two or sixteen, after a zero in base
eight, with colons in base sixty, else in decimal. -/
def integerOf (text : String) : Except Malformed Int := do
  let (negative, cs) ← splitNumberSign (text.toList.filter (· != '_'))
  let n ← magnitudeOf cs
  return if negative then -n else n

/-- A decimal number, with any blanks around it. -/
def decimal (cs : List Char) : Except Malformed Float :=
  orBad (Field.decimalOf? (Text.Chars.trimBy Text.isBlank cs))

/-- The value of parts in base sixty, added up from single units. -/
def sumSixties (base total : Float) : List Float → Float
  | [] => total
  | p :: rest => sumSixties (base * 60) (total + p * base) rest

/-- The floating-point number that a text denotes. -/
def floatOf (text : String) : Except Malformed Float := do
  let cs := (text.toList.filter (· != '_')).map Char.toLower
  let (negative, cs) ← splitNumberSign cs
  let x ←
    if cs == ".inf".toList then pure (1.0 / 0.0)
    else if cs == ".nan".toList then pure (0.0 / 0.0)
    else if cs.contains ':' then do
      let parts ← (Text.Chars.splitOn ':' cs).mapM decimal
      pure (sumSixties 1 0 parts.reverse)
    else decimal cs
  return if negative then -x else x

/-- The truth value that a word denotes. -/
def truthOf (text : String) : Except Malformed Bool :=
  let word := text.map Char.toLower
  if ["yes", "true", "on"].contains word then .ok true
  else if ["no", "false", "off"].contains word then .ok false
  else .error .unknownWord

/-! ### Days and moments -/

def isLeap (year : Nat) : Bool := year % 4 == 0 && (year % 100 != 0 || year % 400 == 0)

/-- The number of days of a month. -/
def daysIn (year month : Nat) : Nat :=
  if month == 2 then if isLeap year then 29 else 28
  else if [4, 6, 9, 11].contains month then 30 else 31

/-- The day with these numbers, if there is one. -/
def dateOf (year month day : Nat) : Except Malformed Date :=
  if 1 ≤ year && 1 ≤ month && month ≤ 12 && 1 ≤ day && day ≤ daysIn year month then
    .ok ⟨year, month, day⟩
  else .error .badNumber

def natOf (cs : List Char) : Nat := cs.foldl (fun n c => n * 10 + (c.toNat - '0'.toNat)) 0

/-- The millionths that the digits after a point write. -/
def microseconds (fraction : List Char) : Nat :=
  let digits := fraction.take 6
  natOf (digits ++ List.replicate (6 - digits.length) '0')

/-- The minutes from universal time: none for no zone. -/
def zoneOf (cs : List Char) : Except Malformed (Option Int) :=
  match cs with
  | [] => .ok none
  | ['Z'] => .ok (some 0)
  | sign :: rest =>
    let (hours, minutes) := Text.Chars.splitAt? ':' rest
    let n := natOf hours * 60 + natOf (minutes.getD [])
    if 24 * 60 ≤ n then .error .badNumber else .ok (some (if sign == '-' then -(n : Int) else n))

/-- Splits off the digits at the start of a text. -/
def takeDigits (cs : List Char) : List Char × List Char :=
  (cs.takeWhile Char.isDigit, cs.dropWhile Char.isDigit)

/-- The day or moment that a text of the right form denotes. -/
def timeOf (cs : List Char) : Except Malformed Scalar := do
  let (year, rest) := takeDigits cs
  let (month, rest) := takeDigits (rest.drop 1)
  let (day, rest) := takeDigits (rest.drop 1)
  let date := dateOf (natOf year) (natOf month) (natOf day)
  if rest.isEmpty then return .date (← date)
  let (hour, rest) := takeDigits (rest.dropWhile (!·.isDigit))
  let (minute, rest) := takeDigits (rest.drop 1)
  let (second, rest) := takeDigits (rest.drop 1)
  let (fraction, rest) := match rest with
    | '.' :: rest => takeDigits rest
    | rest => ([], rest)
  let zone ← zoneOf (rest.dropWhile fun c => c == ' ' || c == '\t')
  let (h, m, s) := (natOf hour, natOf minute, natOf second)
  let date ← date
  if 24 ≤ h || 60 ≤ m || 60 ≤ s then throw .badNumber
  return .moment ⟨date, h, m, s, microseconds fraction, zone⟩

end ApiAccord.Yaml
