import ApiAccord.Pattern.Basic
import ApiAccord.Text.Basic

/-!
# Tags

The tag of a node says what kind of value it is.  A scalar without quotes and without a tag gets one
by its form: `Tag.ofPlain` knows the forms of numbers, truth values, days and moments, of nothing,
and of the two keys with a meaning of their own.
-/

namespace ApiAccord.Yaml

inductive Tag where
  | null
  | bool
  | int
  | float
  | timestamp
  | str
  | binary
  | seq
  | map
  | set
  | omap
  | pairs
  /-- The key of a mapping whose members are taken over. -/
  | merge
  /-- The key of the value that a mapping stands for. -/
  | value
  /-- A tag without a meaning. -/
  | unknown
deriving DecidableEq, Repr

namespace Tag

/-- The head that the tags with a meaning share. -/
def head : String := "tag:yaml.org,2002:"

/-- The tags with a meaning, by what follows the head. -/
def names : List (String × Tag) :=
  [("null", .null), ("bool", .bool), ("int", .int), ("float", .float), ("timestamp", .timestamp),
    ("str", .str), ("binary", .binary), ("seq", .seq), ("map", .map), ("set", .set),
    ("omap", .omap), ("pairs", .pairs), ("merge", .merge), ("value", .value)]

/-- The tag with a full name. -/
def ofName (name : String) : Tag :=
  ((Text.stripHead? head name).bind fun n => names.lookup n).getD .unknown

/-! ### The forms of plain scalars -/

/-- One of several words. -/
def words (ws : List String) : Pattern := .firstOf (ws.map .text)

def digit : Pattern := .oneOf "0123456789"
def digitOrMark : Pattern := .oneOf "0123456789_"
def sign : Pattern := .oneOf "+-"

def boolForm : Pattern :=
  words ["yes", "Yes", "YES", "no", "No", "NO", "true", "True", "TRUE", "false", "False", "FALSE",
    "on", "On", "ON", "off", "Off", "OFF"]

/-- Parts of a number in base sixty. -/
def sixties : Pattern := .plus (.text ":" ++ .opt (.oneOf "012345") ++ digit)

def exponent : Pattern := .opt (.oneOf "eE" ++ sign ++ .plus digit)

def floatForm : Pattern :=
  .firstOf [
    .opt sign ++ digit ++ .star digitOrMark ++ .text "." ++ .star digitOrMark ++ exponent,
    .text "." ++ digit ++ .star digitOrMark ++ exponent,
    .opt sign ++ digit ++ .star digitOrMark ++ sixties ++ .text "." ++ .star digitOrMark,
    .opt sign ++ .text "." ++ words ["inf", "Inf", "INF"],
    .text "." ++ words ["nan", "NaN", "NAN"]]

def intForm : Pattern :=
  .opt sign ++ .firstOf [
    .text "0b" ++ .plus (.oneOf "01_"),
    .text "0" ++ .plus (.oneOf "01234567_"),
    .text "0",
    .oneOf "123456789" ++ .star digitOrMark,
    .text "0x" ++ .plus (.oneOf "0123456789abcdefABCDEF_"),
    .oneOf "123456789" ++ .star digitOrMark ++ sixties]

def nullForm : Pattern := words ["~", "null", "Null", "NULL", ""]

def twice (p : Pattern) : Pattern := p ++ p
def onceOrTwice (p : Pattern) : Pattern := p ++ .opt p

/-- The distance of a moment from universal time. -/
def zoneForm : Pattern :=
  .opt (.star (.oneOf " \t") ++ .firstOf [
    .text "Z",
    sign ++ onceOrTwice digit ++ .opt (.text ":" ++ twice digit)])

def timestampForm : Pattern :=
  twice (twice digit) ++ .text "-" ++ .firstOf [
    twice digit ++ .text "-" ++ twice digit,
    onceOrTwice digit ++ .text "-" ++ onceOrTwice digit ++
      .firstOf [.oneOf "Tt", .plus (.oneOf " \t")] ++
      onceOrTwice digit ++ .text ":" ++ twice digit ++ .text ":" ++ twice digit ++
      .opt (.text "." ++ .star digit) ++ zoneForm]

/-- A day, with or without leading zeros: what a written tag may stand before. -/
def looseDateForm : Pattern :=
  twice (twice digit) ++ .text "-" ++ onceOrTwice digit ++ .text "-" ++ onceOrTwice digit

/-- The forms of plain scalars with their tags; a scalar has the first that it fits. -/
def forms : List (Tag × Pattern) :=
  [(.bool, boolForm), (.float, floatForm), (.int, intForm), (.merge, .text "<<"),
    (.null, nullForm), (.timestamp, timestampForm), (.value, .text "=")]

/-- A text without one line feed at its end, which no form minds. -/
def dropLastLineFeed (cs : List Char) : List Char :=
  if cs.getLast? == some '\n' then cs.dropLast else cs

/-- The tag of a plain scalar. -/
def ofPlain (text : String) : Tag :=
  let form := (dropLastLineFeed text.toList).toArray
  ((forms.find? fun f => f.2.matchesAll form).map (·.1)).getD .str

end Tag

end ApiAccord.Yaml
