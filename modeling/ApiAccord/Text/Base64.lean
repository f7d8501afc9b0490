import ApiAccord.Text.Basic

/-!
# Base 64

`decode?` reads bytes written in the 64 characters of base 64.  Characters outside of the alphabet
are passed over; the text ends where its last group is filled up with equals signs.  `encode` writes
bytes; three bytes make a group of four characters.
-/

namespace ApiAccord.Text.Base64

/-- The six bits that a character stands for. -/
def sextet? (c : Char) : Option Nat :=
  if 'A' ≤ c && c ≤ 'Z' then some (c.toNat - 'A'.toNat)
  else if 'a' ≤ c && c ≤ 'z' then some (c.toNat - 'a'.toNat + 26)
  else if c.isDigit then some (c.toNat - '0'.toNat + 52)
  else if c == '+' then some 62
  else if c == '/' then some 63
  else none

/-- Decodes the rest of a text.  `filled` counts the characters of the group at hand, `bits` are
those left over, and `pads` counts the equals signs just seen. -/
def decodeFrom (filled bits pads : Nat) : List Char → Option (List UInt8)
  | [] => if filled == 0 then some [] else none
  | c :: rest =>
    if c == '=' then
      if 2 ≤ filled && 4 ≤ filled + pads + 1 then some []
      else decodeFrom filled bits (if 2 ≤ filled then pads + 1 else pads) rest
    else match sextet? c with
      | none => decodeFrom filled bits pads rest
      | some s =>
        match filled with
        | 0 => decodeFrom 1 s 0 rest
        | 1 => (decodeFrom 2 (s % 16) 0 rest).map ((bits * 4 + s / 16).toUInt8 :: ·)
        | 2 => (decodeFrom 3 (s % 4) 0 rest).map ((bits * 16 + s / 4).toUInt8 :: ·)
        | _ => (decodeFrom 0 0 0 rest).map ((bits * 64 + s).toUInt8 :: ·)

/-- The bytes that a text writes. -/
def decode? (cs : List Char) : Option (List UInt8) := decodeFrom 0 0 0 cs

/-- The character of six bits. -/
def character (sextet : Nat) : Char :=
  if sextet < 26 then Char.ofNat ('A'.toNat + sextet)
  else if sextet < 52 then Char.ofNat ('a'.toNat + (sextet - 26))
  else if sextet < 62 then Char.ofNat ('0'.toNat + (sextet - 52))
  else if sextet == 62 then '+' else '/'

/-- The text of bytes. -/
def encode : List UInt8 → List Char
  | [] => []
  | [a] =>
    let n := a.toNat * 16
    [character (n / 64), character (n % 64), '=', '=']
  | [a, b] =>
    let n := (a.toNat * 256 + b.toNat) * 4
    [character (n / 4096), character (n / 64 % 64), character (n % 64), '=']
  | a :: b :: c :: rest =>
    let n := (a.toNat * 256 + b.toNat) * 256 + c.toNat
    character (n / 262144) :: character (n / 4096 % 64) :: character (n / 64 % 64) ::
      character (n % 64) :: encode rest

end ApiAccord.Text.Base64
