/-!
# Shortest decimals of binary fractions

A finite double is `m · 2 ^ q`.  `shortest` finds the decimal with the fewest digits among those
that round to it, and among these the nearest; `render` lays the digits out, and `ofDigits` reads a
decimal back.
-/

namespace ApiAccord.Decimal

/-- The decimal `digits · 10 ^ exponent`. -/
structure Decimal where
  digits : Nat
  exponent : Int

/-- A finite double without its sign: `mantissa · 2 ^ exponent`. -/
structure Binary where
  mantissa : Nat
  exponent : Int

/-- The number of decimal digits of `n`, one for zero. -/
def digitCount (n : Nat) : Nat := (Nat.toDigits 10 n).length

/-- The number of binary digits of `n`, one for zero. -/
def bitCount (n : Nat) : Nat := Nat.log2 n + 1

/-- The least `e` with `num / den < b ^ e`, for positive arguments, where `count` counts digits to
the base `b`. -/
def magnitude (count : Nat → Nat) (num den : Nat) : Int :=
  if den ≤ num then count (num / den) else 1 - count ((den - 1) / num)

/-- Half the gaps between a double and its neighbours, in quarters of the unit of its last place.
The gap below a power of two is half as wide. -/
def gapBelow (x : Binary) : Nat :=
  if x.mantissa == Nat.pow 2 52 && -1074 < x.exponent then 1 else 2

/-- The point nearest to `x` on the grid of multiples of `10 ^ p`, if one rounds to `x`.  The ends
of the rounding interval belong to it when the mantissa is even. -/
def gridPoint? (x : Binary) (p : Int) : Option Nat :=
  let q := x.exponent - 2
  let scale := Nat.pow 2 q.toNat * Nat.pow 10 (-p).toNat
  let step := Nat.pow 10 p.toNat * Nat.pow 2 (-q).toNat
  let value := 4 * x.mantissa * scale
  let low := (4 * x.mantissa - gapBelow x) * scale
  let high := (4 * x.mantissa + 2) * scale
  let inside (n : Nat) : Bool :=
    if x.mantissa % 2 == 0 then low ≤ n * step && n * step ≤ high
    else low < n * step && n * step < high
  let d := value / step
  let below := value - d * step
  let above := (d + 1) * step - value
  match inside d, inside (d + 1) with
  | true, true =>
    if below < above then some d
    else if above < below then some (d + 1)
    else some (if d % 2 == 0 then d else d + 1)
  | true, false => some d
  | false, true => some (d + 1)
  | false, false => none

/-- The first hit on the grids of `k, k + 1, …, 17` significant digits. -/
def firstHit (x : Binary) (e : Int) : Nat → Nat → Decimal
  | 0, k => ⟨(gridPoint? x (e - k)).getD 0, e - k⟩
  | n + 1, k =>
    match gridPoint? x (e - k) with
    | some d => ⟨d, e - k⟩
    | none => firstHit x e n (k + 1)

/-- The shortest decimal that rounds to `x`, the nearest of these. -/
def shortest (x : Binary) : Decimal :=
  if x.mantissa == 0 then ⟨0, 0⟩
  else
    let e := magnitude digitCount (x.mantissa * Nat.pow 2 x.exponent.toNat)
      (Nat.pow 2 (-x.exponent).toNat)
    firstHit x e 16 1

/-- A double, taken apart. -/
inductive Parts where
  | finite (negative : Bool) (value : Binary)
  | infinite (negative : Bool)
  | nan

/-- Takes a double apart by its bits. -/
def parts (x : Float) : Parts :=
  let bits := x.toBits.toNat
  let negative := bits / Nat.pow 2 63 == 1
  let exponent : Nat := bits / Nat.pow 2 52 % 2048
  let fraction : Nat := bits % Nat.pow 2 52
  if exponent == 2047 then
    if fraction == 0 then .infinite negative else .nan
  else if exponent == 0 then .finite negative ⟨fraction, -1074⟩
  else .finite negative ⟨fraction + Nat.pow 2 52, Int.ofNat exponent - 1075⟩

/-- How a number is laid out: which places before the point are written positionally, and how the
values that are no numbers are spelled. -/
structure Layout where
  /-- A point further left than this calls for an exponent. -/
  leastPoint : Int
  /-- A point further right than this calls for an exponent. -/
  greatestPoint : Int
  /-- The least number of digits of an exponent. -/
  exponentDigits : Nat
  infinity : String
  nan : String

/-- Drops trailing zeros, which the exponent takes up. -/
def dropZeros (digits : Nat) : Nat → Nat × Nat
  | 0 => (digits, 0)
  | n + 1 =>
    if digits % 10 == 0 && digits != 0 then
      let (d, z) := dropZeros (digits / 10) n
      (d, z + 1)
    else (digits, 0)

/-- Pads digits on the left with zeros up to `width`. -/
def padLeft (width : Nat) (cs : List Char) : List Char :=
  List.replicate (width - cs.length) '0' ++ cs

/-- Writes a decimal with at least one digit after the point, or with an exponent. -/
def Layout.decimal (layout : Layout) (d : Decimal) : List Char :=
  let (digits, zeros) := dropZeros d.digits 400
  let ds := Nat.toDigits 10 digits
  let count : Int := ds.length
  let point := count + zeros + d.exponent
  if digits == 0 then ['0', '.', '0']
  else if layout.leastPoint ≤ point && point ≤ layout.greatestPoint then
    if point ≤ 0 then ['0', '.'] ++ List.replicate (-point).toNat '0' ++ ds
    else if count ≤ point then ds ++ List.replicate (point - count).toNat '0' ++ ['.', '0']
    else ds.take point.toNat ++ ['.'] ++ ds.drop point.toNat
  else
    let head := match ds with
      | [] => []
      | [c] => [c]
      | c :: rest => c :: '.' :: rest
    let e := point - 1
    let sign := if e < 0 then '-' else '+'
    head ++ ['e', sign] ++ padLeft layout.exponentDigits (Nat.toDigits 10 e.natAbs)

/-- Writes a double with the fewest digits that read back. -/
def Layout.render (layout : Layout) (x : Float) : String :=
  match parts x with
  | .nan => layout.nan
  | .infinite negative => (if negative then "-" else "") ++ layout.infinity
  | .finite negative v =>
    (if negative then "-" else "") ++ String.ofList (layout.decimal (shortest v))

/-- The integer nearest to `a / b`, the even one of two. -/
def divideEven (a b : Nat) : Nat :=
  let m := a / b
  let r := 2 * (a % b)
  if r < b || (r == b && m % 2 == 0) then m else m + 1

/-- The bits of the double nearest to `num / den`, infinite where that is out of range.  A mantissa
that is rounded up to the next power of two carries into the exponent. -/
def nearestBits (num den : Nat) : Nat :=
  let q := max (-1074) (magnitude bitCount num den - 53)
  let m := divideEven (num * Nat.pow 2 (-q).toNat) (den * Nat.pow 2 q.toNat)
  min ((q + 1074).toNat * Nat.pow 2 52 + m) (2047 * Nat.pow 2 52)

/-- The double nearest to `digits · 10 ^ exponent`, infinite or zero where that is out of range. -/
def ofDigits (digits : Nat) (exponent : Int) : Float :=
  let point := (digitCount digits : Int) + exponent
  if digits == 0 then 0
  else if 400 < point then 1.0 / 0.0
  else if point < -400 then 0
  else Float.ofBits (UInt64.ofNat
    (nearestBits (digits * Nat.pow 10 exponent.toNat) (Nat.pow 10 (-exponent).toNat)))

end ApiAccord.Decimal
