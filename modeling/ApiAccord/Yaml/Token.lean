import ApiAccord.Yaml.Cursor

/-!
# Tokens of YAML

The tokens that a text is made of, and the readers of those that are words: directives, anchors and
tags.
-/

namespace ApiAccord.Yaml

/-- Why a text cannot be read. -/
inductive Fault where
  /-- The text is not well formed. -/
  | illFormed
  /-- An escape names no character. -/
  | noCharacter
  /-- An escape names a number too large for any character. -/
  | hugeCharacter
deriving DecidableEq, Repr

/-- A tag as it is written: a handle, which stands for a head, and the rest. -/
structure WrittenTag where
  handle : Option String
  suffix : String
deriving DecidableEq, Repr

/-- What a directive says. -/
inductive Directive where
  | version (major : Nat)
  | tagHead (handle head : String)
  | other
deriving DecidableEq, Repr

inductive Token where
  | directive (d : Directive)
  | documentStart
  | documentEnd
  | streamEnd
  | blockSequenceStart
  | blockMappingStart
  | blockEnd
  | flowSequenceStart
  | flowSequenceEnd
  | flowMappingStart
  | flowMappingEnd
  | blockEntry
  | flowEntry
  | key
  | value
  | alias (name : String)
  | anchor (name : String)
  | tag (t : WrittenTag)
  /-- A scalar, and whether it is written without quotes. -/
  | scalar (text : String) (plain : Bool)
  /-- The text cannot be read on. -/
  | fault (f : Fault)
deriving DecidableEq, Repr

def illFormed {α : Type} : Except Fault α := .error .illFormed

/-- Fails unless a condition holds. -/
def demand (condition : Bool) : Except Fault Unit := if condition then .ok () else illFormed

/-! ### Anchors -/

/-- What may follow the name of an anchor. -/
def endsAnchor (c : Char) : Bool := isGap c || "?:,]\x7d%@`".toList.contains c

/-- The name of an anchor or alias, after its indicator. -/
def scanAnchor (c : Cursor) : Except Fault (String × Cursor) := do
  let (name, c) := c.span isNameChar
  demand (!name.isEmpty && endsAnchor c.next)
  return (String.ofList name, c)

/-! ### Tags -/

/-- The characters of a tag's text. -/
def isTagChar (c : Char) : Bool := c.isAlphanum || "-;/?:@&=+$,_.!~*'()[]%".toList.contains c

/-- The number that hexadecimal digits write. -/
def hexNumber? (cs : List Char) : Option Nat :=
  cs.foldlM (fun n c => (Text.hexValue? c).map (n * 16 + ·)) 0

/-- The bytes that a sequence of percent escapes writes, and what comes after it. -/
def percentBytes : List Char → Option (List UInt8 × List Char)
  | '%' :: a :: b :: rest => do
    let n ← hexNumber? [a, b]
    let (bytes, rest) ← percentBytes rest
    return (n.toUInt8 :: bytes, rest)
  | '%' :: _ => none
  | rest => some ([], rest)

/-- Replaces percent escapes by what they stand for. -/
def decodePercent : Nat → List Char → Option (List Char)
  | _, [] => some []
  | 0, _ => none
  | fuel + 1, '%' :: rest => do
    let (bytes, rest) ← percentBytes ('%' :: rest)
    let text ← String.fromUTF8? ⟨bytes.toArray⟩
    return text.toList ++ (← decodePercent fuel rest)
  | fuel + 1, c :: rest => (decodePercent fuel rest).map (c :: ·)

/-- The text of a tag. -/
def scanTagText (c : Cursor) : Except Fault (String × Cursor) := do
  let (written, c) := c.span isTagChar
  demand (!written.isEmpty)
  match decodePercent written.length written with
  | some text => return (String.ofList text, c)
  | none => illFormed

/-- A handle: exclamation marks around a name, or one alone. -/
def scanHandle (c : Cursor) : Except Fault (String × Cursor) := do
  demand (c.next == '!')
  let c := c.advance
  if c.next == ' ' then return ("!", c)
  let (name, after) := c.span isNameChar
  demand (after.next == '!')
  return ("!" ++ String.ofList name ++ "!", after.advance)

/-- A tag, from its indicator on. -/
def scanTag (c : Cursor) : Except Fault (WrittenTag × Cursor) := do
  let second := c.peek 1
  let (tag, c) ←
    if second == '<' then do
      let (text, c) ← scanTagText (c.forward 2)
      demand (c.next == '>')
      pure (WrittenTag.mk none text, c.advance)
    else if isGap second then pure (WrittenTag.mk none "!", c.advance)
    else do
      let word := c.advance.rest.takeWhile (!isSpaceOrEnd ·)
      let (handle, c) ← if word.contains '!' then scanHandle c else pure ("!", c.advance)
      let (text, c) ← scanTagText c
      pure (WrittenTag.mk (some handle) text, c)
  demand (isSpaceOrEnd c.next)
  return (tag, c)

/-! ### Directives -/

/-- A version, of which only the part before the point counts. -/
def scanVersion (c : Cursor) : Except Fault (Directive × Cursor) := do
  let (major, c) := c.skipSpaces.span Char.isDigit
  demand (!major.isEmpty && c.next == '.')
  let (minor, c) := c.advance.span Char.isDigit
  demand (!minor.isEmpty && isSpaceOrEnd c.next)
  return (.version (major.foldl (fun n d => n * 10 + (d.toNat - '0'.toNat)) 0), c)

/-- A handle and the head that it stands for. -/
def scanTagHead (c : Cursor) : Except Fault (Directive × Cursor) := do
  let (handle, c) ← scanHandle c.skipSpaces
  demand (c.next == ' ')
  let (head, c) ← scanTagText c.skipSpaces
  demand (isSpaceOrEnd c.next)
  return (.tagHead handle head, c)

/-- A directive, after its indicator, with the rest of its line. -/
def scanDirective (c : Cursor) : Except Fault (Directive × Cursor) := do
  let (name, c) := c.span isNameChar
  demand (!name.isEmpty && isSpaceOrEnd c.next)
  let (directive, c) ←
    if name == "YAML".toList then scanVersion c
    else if name == "TAG".toList then scanTagHead c
    else pure (.other, c.skip (!isBreak ·))
  let c := c.skipSpaces.skipComment
  demand (isBreakOrEnd c.next)
  return (directive, c.takeBreak.2)

end ApiAccord.Yaml
