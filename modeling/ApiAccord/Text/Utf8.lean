/-!
# Bytes as text

Text is stored as UTF-8.  `Utf8.read` decodes bytes and refuses malformed ones, with their place;
`Utf8.readLoosely` puts a replacement character for each malformed run instead.  Either way line
ends of all systems become line feeds.  `Utf8.encode` is the way back.
-/

namespace ApiAccord.Text.Utf8

/-- Why bytes are malformed. -/
inductive Flaw where
  | badStart
  | badContinuation
  | unexpectedEnd
deriving DecidableEq, Repr

def Flaw.message : Flaw → String
  | .badStart => "invalid start byte"
  | .badContinuation => "invalid continuation byte"
  | .unexpectedEnd => "unexpected end of data"

/-- A run of malformed bytes: where it begins, its first byte, its length. -/
structure Fault where
  flaw : Flaw
  position : Nat
  first : UInt8
  length : Nat
deriving DecidableEq, Repr

def Fault.message (f : Fault) : String :=
  let place := if f.length == 1 then
      "byte 0x" ++ String.ofList (Nat.toDigits 16 f.first.toNat) ++ " in position " ++
        toString f.position
    else s!"bytes in position {f.position}-{f.position + f.length - 1}"
  "'utf-8' codec can't decode " ++ place ++ ": " ++ f.flaw.message

/-- What bytes begin with: a character, or a malformed run; each with the number of bytes after the
first that belong to it. -/
inductive Unit where
  | char (c : Char) (more : Nat)
  | bad (flaw : Flaw) (more : Nat)

def isContinuation (b : UInt8) : Bool := 0x80 ≤ b && b ≤ 0xBF

/-- Whether `second` may follow `first`. -/
def maySecond (first second : UInt8) : Bool :=
  isContinuation second &&
    !(first == 0xE0 && second < 0xA0) && !(first == 0xED && 0x9F < second) &&
    !(first == 0xF0 && second < 0x90) && !(first == 0xF4 && 0x8F < second)

/-- The bits that a byte adds to those before it. -/
def extend (n : Nat) (b : UInt8) : Nat := n * 64 + b.toNat % 64

/-- The run when byte number `n` should have been a continuation. -/
def broken (n : Nat) (rest : List UInt8) : Unit :=
  .bad (if rest.isEmpty then .unexpectedEnd else .badContinuation) (n - 1)

/-- What bytes begin with. -/
def unit (b : UInt8) (rest : List UInt8) : Unit :=
  if b < 0x80 then .char (Char.ofNat b.toNat) 0
  else if b < 0xC2 || 0xF4 < b then .bad .badStart 0
  else match rest with
  | [] => broken 1 []
  | b₂ :: rest₂ =>
    if !maySecond b b₂ then broken 1 rest
    else if b < 0xE0 then .char (Char.ofNat (extend (b.toNat % 32) b₂)) 1
    else match rest₂ with
    | [] => broken 2 []
    | b₃ :: rest₃ =>
      if !isContinuation b₃ then broken 2 rest₂
      else if b < 0xF0 then .char (Char.ofNat (extend (extend (b.toNat % 16) b₂) b₃)) 2
      else match rest₃ with
      | [] => broken 3 []
      | b₄ :: _ =>
        if !isContinuation b₄ then broken 3 rest₃
        else .char (Char.ofNat (extend (extend (extend (b.toNat % 8) b₂) b₃) b₄)) 3

/-- The first malformed run of bytes that follow `position` others. -/
def firstFault? (position : Nat) : List UInt8 → Option Fault
  | [] => none
  | b :: rest =>
    match unit b rest with
    | .char _ more => firstFault? (position + more + 1) (rest.drop more)
    | .bad flaw more => some ⟨flaw, position, b, more + 1⟩
termination_by bytes => bytes.length
decreasing_by simp only [List.length_drop, List.length_cons]; omega

/-- What stands for bytes that are no text. -/
def replacement : Char := '\uFFFD'

/-- Decodes bytes onto the reversed characters before them; each malformed run becomes one
replacement character. -/
def decodeOnto (done : List Char) : List UInt8 → List Char
  | [] => done.reverse
  | b :: rest =>
    match unit b rest with
    | .char c more => decodeOnto (c :: done) (rest.drop more)
    | .bad _ more => decodeOnto (replacement :: done) (rest.drop more)
termination_by bytes => bytes.length
decreasing_by all_goals simp only [List.length_drop, List.length_cons]; omega

/-- Turns the line ends of all systems into line feeds, onto the reversed characters before. -/
def unifyLinesOnto (done : List Char) : List Char → List Char
  | [] => done.reverse
  | '\r' :: '\n' :: rest => unifyLinesOnto ('\n' :: done) rest
  | '\r' :: rest => unifyLinesOnto ('\n' :: done) rest
  | c :: rest => unifyLinesOnto (c :: done) rest

/-- The characters of any bytes, with line feeds for line ends. -/
def characters (bytes : List UInt8) : List Char := unifyLinesOnto [] (decodeOnto [] bytes)

/-- The text of bytes that are UTF-8. -/
def read (bytes : List UInt8) : Except Fault String :=
  match firstFault? 0 bytes with
  | some fault => .error fault
  | none => .ok (String.ofList (characters bytes))

/-- The text of any bytes. -/
def readLoosely (bytes : List UInt8) : String := String.ofList (characters bytes)

/-- The bytes of a text. -/
def encode (s : String) : List UInt8 := s.toUTF8.toList

end ApiAccord.Text.Utf8
