import ApiAccord.Json.Printer
import ApiAccord.Json.Reader
import ApiAccord.Proofs.Decimal.Bits
import ApiAccord.Proofs.Decimal.Shortest

/-!
# Numbers read back

A `Numeral` is a number as it is written: digits, perhaps digits after a point, perhaps an exponent.
What `Layout.decimal` writes is the text of a numeral of the same value (`exists_numeral`), and
`readNumber` reads a numeral as it is meant (`readNumber_numeral`).  So a double is read back from
its text, whatever the layout (`readPlain_render`), and so is an integer that is not too long.
-/

namespace ApiAccord.Json

/-! ## Digits -/

/-- All characters are decimal digits. -/
def Digits (ds : List Char) : Prop := ∀ c ∈ ds, c.isDigit = true

theorem digits_toDigits (n : ℕ) : Digits (Nat.toDigits 10 n) :=
  fun _ h => Nat.isDigit_of_mem_toDigits (by decide) (by decide) h

theorem digits_replicate_zero (n : ℕ) : Digits (List.replicate n '0') := by
  intro c hc
  rw [List.eq_of_mem_replicate hc]
  rfl

theorem Digits.append {as bs : List Char} (ha : Digits as) (hb : Digits bs) : Digits (as ++ bs) :=
  fun c hc => (List.mem_append.1 hc).elim (ha c) (hb c)

theorem natOfDigits_eq (ds : List Char) : natOfDigits ds = Nat.ofDigitChars 10 ds 0 := by
  rw [Nat.ofDigitChars_eq_foldl, natOfDigits]
  congr
  funext n c
  rw [Nat.mul_comm]

theorem natOfDigits_append (as bs : List Char) :
    natOfDigits (as ++ bs) = natOfDigits as * 10 ^ bs.length + natOfDigits bs := by
  simp only [natOfDigits_eq, Nat.ofDigitChars_append]
  rw [Nat.ofDigitChars_eq_ofDigitChars_zero]
  ring

@[simp]
theorem natOfDigits_toDigits (n : ℕ) : natOfDigits (Nat.toDigits 10 n) = n := by
  rw [natOfDigits_eq, Nat.ofDigitChars_ten_toDigits]

@[simp]
theorem natOfDigits_replicate_zero (n : ℕ) : natOfDigits (List.replicate n '0') = 0 := by
  rw [natOfDigits_eq, Nat.ofDigitChars_replicate_zero, Nat.mul_zero]

@[simp]
theorem natOfDigits_nil : natOfDigits [] = 0 := rfl

@[simp]
theorem natOfDigits_zero_cons (ds : List Char) : natOfDigits ('0' :: ds) = natOfDigits ds := rfl

/-- A positive number is not written with a zero at its head. -/
theorem head_toDigits {n : ℕ} (hn : 0 < n) : (Nat.toDigits 10 n).head? ≠ some '0' := by
  induction n using Nat.strong_induction_on with
  | _ n ih =>
    rcases lt_or_ge n 10 with h | h
    · rw [Nat.toDigits_of_lt_base h, List.head?_cons, ne_eq, Option.some_inj]
      interval_cases n <;> decide
    · rw [Nat.toDigits_of_base_le (by decide) h, List.head?_append_of_ne_nil _ Nat.toDigits_ne_nil]
      exact ih (n / 10) (by omega) (by omega)

/-! ## Numerals -/

/-- A number as it is written, without its sign. -/
structure Numeral where
  whole : List Char
  /-- The digits after the point. -/
  fraction : Option (List Char)
  /-- The digits of the exponent, and whether it is negative. -/
  exponent : Option (Bool × List Char)

namespace Numeral

def fractionText : Option (List Char) → List Char
  | none => []
  | some ds => '.' :: ds

def exponentText : Option (Bool × List Char) → List Char
  | none => []
  | some (negative, ds) => 'e' :: (if negative then '-' else '+') :: ds

def text (n : Numeral) : List Char :=
  n.whole ++ (fractionText n.fraction ++ exponentText n.exponent)

def exponentValue : Bool × List Char → Int
  | (negative, ds) => if negative then -(natOfDigits ds : Int) else natOfDigits ds

/-- All digits, as one integer. -/
def digits (n : Numeral) : ℕ := natOfDigits (n.whole ++ n.fraction.getD [])

/-- The place of the last digit. -/
def place (n : Numeral) : Int := (n.exponent.map exponentValue).getD 0 - (n.fraction.getD []).length

/-- There are digits wherever there must be, and no zero leads others. -/
structure WellFormed (n : Numeral) : Prop where
  whole : Digits n.whole
  ne_nil : n.whole ≠ []
  head : n.whole = ['0'] ∨ n.whole.head? ≠ some '0'
  fraction : ∀ ds, n.fraction = some ds → Digits ds ∧ ds ≠ []
  exponent : ∀ b ds, n.exponent = some (b, ds) → Digits ds ∧ ds ≠ []

/-- Whether the numeral stands for a double and not for an integer. -/
def isFloat (n : Numeral) : Bool := n.fraction.isSome || n.exponent.isSome

end Numeral

/-- The text does not go on with what could belong to a number. -/
def Ends (rest : List Char) : Prop :=
  ∀ c, rest.head? = some c → c.isDigit = false ∧ c ≠ '.' ∧ c ≠ 'e' ∧ c ≠ 'E'

theorem takeDigits_append {ds rest : List Char} (hd : Digits ds)
    (hr : ∀ c, rest.head? = some c → c.isDigit = false) : takeDigits (ds ++ rest) = (ds, rest) := by
  unfold takeDigits
  rw [List.takeWhile_append_of_pos hd, List.dropWhile_append_of_pos hd]
  cases rest with
  | nil => simp
  | cons c rest => simp [hr c rfl]

open Numeral

theorem takeFraction_append {f : Option (List Char)} {rest : List Char}
    (hf : ∀ ds, f = some ds → Digits ds ∧ ds ≠ [])
    (hr : ∀ c, rest.head? = some c → c.isDigit = false ∧ c ≠ '.') :
    takeFraction (fractionText f ++ rest) = (f, rest) := by
  cases f with
  | none =>
    unfold takeFraction
    split
    · next h => exact absurd rfl (hr '.' (congrArg List.head? h)).2
    · rfl
  | some ds =>
    obtain ⟨hd, hn⟩ := hf ds rfl
    cases ds with
    | nil => exact absurd rfl hn
    | cons c cs =>
      have : takeDigits (c :: (cs ++ rest)) = (c :: cs, rest) :=
        takeDigits_append hd fun c hc => (hr c hc).1
      simp [fractionText, takeFraction, hd c (by simp), this]

theorem takeExponent_append {e : Option (Bool × List Char)} {rest : List Char}
    (he : ∀ b ds, e = some (b, ds) → Digits ds ∧ ds ≠ []) (hr : Ends rest) :
    takeExponent (exponentText e ++ rest) = (e.map exponentValue, rest) := by
  cases e with
  | none =>
    cases rest with
    | nil => rfl
    | cons c rest =>
      obtain ⟨-, -, lower, upper⟩ := hr c rfl
      simp [exponentText, takeExponent, lower, upper]
  | some e =>
    obtain ⟨negative, ds⟩ := e
    obtain ⟨hd, hn⟩ := he _ _ rfl
    have digits := takeDigits_append hd fun c hc => (hr c hc).1
    cases negative <;> simp [exponentText, takeExponent, digits, hn, exponentValue]

/-- Neither a digit nor a point stands at the exponent or after it. -/
theorem head_exponentText (e : Option (Bool × List Char)) {rest : List Char} (hr : Ends rest) :
    ∀ c, (exponentText e ++ rest).head? = some c → c.isDigit = false ∧ c ≠ '.' := by
  cases e with
  | none => exact fun c hc => ⟨(hr c hc).1, (hr c hc).2.1⟩
  | some e =>
    intro c hc
    obtain rfl : 'e' = c := by simpa [exponentText] using hc
    decide

theorem head_fractionText (f : Option (List Char)) (e : Option (Bool × List Char))
    {rest : List Char} (hr : Ends rest) :
    ∀ c, (fractionText f ++ (exponentText e ++ rest)).head? = some c → c.isDigit = false := by
  cases f with
  | none => exact fun c hc => (head_exponentText e hr c hc).1
  | some ds =>
    intro c hc
    obtain rfl : '.' = c := by simpa [fractionText] using hc
    decide

/-- The digits before the point are taken whole. -/
theorem takeWhole_append {n : Numeral} (hn : n.WellFormed) {rest : List Char}
    (hr : ∀ c, rest.head? = some c → c.isDigit = false) :
    (match n.whole ++ rest with
      | '0' :: rest => (['0'], rest)
      | cs => takeDigits cs) = (n.whole, rest) := by
  rcases hn.head with h | h
  · rw [h]
    rfl
  · split
    · next heq =>
      have first : (n.whole ++ rest).head? = n.whole.head? :=
        List.head?_append_of_ne_nil _ hn.ne_nil
      rw [← first, heq] at h
      exact absurd rfl h
    · exact takeDigits_append hn.whole hr

/-- A numeral is read as it is meant. -/
theorem readNumber_numeral {n : Numeral} (hn : n.WellFormed) {rest : List Char} (hr : Ends rest)
    (negative : Bool) (start : List Char) :
    readNumber negative start (n.text ++ rest) =
      if n.isFloat then
        .ok (.float (signed negative (Decimal.ofDigits n.digits n.place)), rest)
      else if maxIntegerDigits < n.whole.length then fail .longInteger start
      else .ok (.int (if negative then -(natOfDigits n.whole : Int) else natOfDigits n.whole), rest)
      := by
  have whole := takeWhole_append hn (head_fractionText n.fraction n.exponent hr)
  have fraction := takeFraction_append hn.fraction (head_exponentText n.exponent hr)
  have exponent := takeExponent_append hn.exponent hr
  unfold readNumber
  rw [Numeral.text, List.append_assoc, List.append_assoc]
  conv_lhs => enter [2]; tactic' => exact whole
  simp only [fraction, exponent, List.isEmpty_iff, hn.ne_nil, if_false, Option.isNone_map]
  have plain : (n.fraction.isNone && n.exponent.isNone) = !n.isFloat := by
    simp [isFloat, ← Option.not_isSome]
  rw [plain]
  cases n.isFloat <;> rfl

/-! ## Numerals of decimals -/

theorem dropZeros_mul (digits n : ℕ) :
    (Decimal.dropZeros digits n).1 * 10 ^ (Decimal.dropZeros digits n).2 = digits := by
  induction n generalizing digits with
  | zero => simp [Decimal.dropZeros]
  | succ n ih =>
    unfold Decimal.dropZeros
    split
    · next h =>
      simp only [Bool.and_eq_true, beq_iff_eq] at h
      have := ih (digits / 10)
      rw [pow_succ, ← mul_assoc, this]
      omega
    · simp

/-- The text is a numeral with a point or an exponent, of these digits with the last at a place. -/
def Writes (text : List Char) (digits : ℕ) (last : ℤ) : Prop :=
  ∃ n : Numeral, n.WellFormed ∧ n.isFloat = true ∧ text = n.text ∧
    ∃ k : ℕ, n.digits = digits * 10 ^ k ∧ n.place = last - k

section Positions

variable {digits : ℕ}

/-- All digits stand after the point. -/
theorem writes_below (digits : ℕ) {point : ℤ} (h : point ≤ 0) :
    Writes (['0', '.'] ++ List.replicate (-point).toNat '0' ++ Nat.toDigits 10 digits) digits
      (point - (Nat.toDigits 10 digits).length) := by
  refine ⟨⟨['0'], some (List.replicate (-point).toNat '0' ++ Nat.toDigits 10 digits), none⟩,
    ⟨digits_replicate_zero 1, List.cons_ne_nil _ _, .inl rfl, ?_, ?_⟩, rfl, ?_, 0, ?_, ?_⟩
  · rintro _ ⟨⟩
    exact ⟨(digits_replicate_zero _).append (digits_toDigits _), by simp [Nat.toDigits_ne_nil]⟩
  · rintro _ _ ⟨⟩
  · simp [text, fractionText, exponentText]
  · simp [Numeral.digits, natOfDigits_append]
  · simp only [place, Option.map_none, Option.getD_none, Option.getD_some, List.length_append,
      List.length_replicate]
    omega

/-- All digits stand before the point. -/
theorem writes_above (hd : 0 < digits) {point : ℤ} (h : (Nat.toDigits 10 digits).length ≤ point) :
    Writes (Nat.toDigits 10 digits ++
        List.replicate (point - (Nat.toDigits 10 digits).length).toNat '0' ++ ['.', '0']) digits
      (point - (Nat.toDigits 10 digits).length) := by
  refine ⟨⟨Nat.toDigits 10 digits ++
      List.replicate (point - (Nat.toDigits 10 digits).length).toNat '0', some ['0'], none⟩,
    ⟨(digits_toDigits _).append (digits_replicate_zero _), ?_, .inr ?_, ?_, ?_⟩, rfl, ?_,
    (point - (Nat.toDigits 10 digits).length).toNat + 1, ?_, ?_⟩
  · simp [Nat.toDigits_ne_nil]
  · rw [List.head?_append_of_ne_nil _ Nat.toDigits_ne_nil]
    exact head_toDigits hd
  · rintro _ ⟨⟩
    exact ⟨digits_replicate_zero 1, List.cons_ne_nil _ _⟩
  · rintro _ _ ⟨⟩
  · simp [text, fractionText, exponentText]
  · simp [Numeral.digits, natOfDigits_append, pow_succ]
  · simp only [place, Option.map_none, Option.getD_none, Option.getD_some, List.length_singleton]
    omega

/-- Digits stand before and after the point. -/
theorem writes_around (hd : 0 < digits) {point : ℤ} (h₀ : 0 < point)
    (h : point < (Nat.toDigits 10 digits).length) :
    Writes ((Nat.toDigits 10 digits).take point.toNat ++ ['.'] ++
        (Nat.toDigits 10 digits).drop point.toNat) digits
      (point - (Nat.toDigits 10 digits).length) := by
  have before : 0 < point.toNat := by omega
  refine ⟨⟨(Nat.toDigits 10 digits).take point.toNat,
      some ((Nat.toDigits 10 digits).drop point.toNat), none⟩,
    ⟨fun c hc => digits_toDigits _ c (List.mem_of_mem_take hc), ?_, .inr ?_, ?_, ?_⟩, rfl, ?_,
    0, ?_, ?_⟩
  · simp [Nat.toDigits_ne_nil, before.ne']
  · rw [List.head?_take, if_neg before.ne']
    exact head_toDigits hd
  · rintro _ ⟨⟩
    refine ⟨fun c hc => digits_toDigits _ c (List.mem_of_mem_drop hc), ?_⟩
    rw [ne_eq, List.drop_eq_nil_iff]
    omega
  · rintro _ _ ⟨⟩
  · simp [text, fractionText, exponentText]
  · simp [Numeral.digits]
  · simp only [place, Option.map_none, Option.getD_none, Option.getD_some, List.length_drop]
    omega

theorem natOfDigits_padLeft (width : ℕ) (ds : List Char) :
    natOfDigits (Decimal.padLeft width ds) = natOfDigits ds := by
  simp [Decimal.padLeft, natOfDigits_append]

theorem digits_padLeft (width n : ℕ) : Digits (Decimal.padLeft width (Nat.toDigits 10 n)) :=
  (digits_replicate_zero _).append (digits_toDigits n)

/-- The point stands after the first digit, and an exponent says where it belongs. -/
theorem writes_exponent (hd : 0 < digits) (width : ℕ) (point : ℤ) :
    Writes ((match Nat.toDigits 10 digits with
        | [] => []
        | [c] => [c]
        | c :: rest => c :: '.' :: rest) ++ ['e', if point - 1 < 0 then '-' else '+'] ++
        Decimal.padLeft width (Nat.toDigits 10 (point - 1).natAbs)) digits
      (point - (Nat.toDigits 10 digits).length) := by
  have sign : (if point - 1 < 0 then -((point - 1).natAbs : ℤ) else ((point - 1).natAbs : ℤ)) =
      point - 1 := by split <;> omega
  have all := digits_toDigits digits
  have head := head_toDigits hd
  have number := natOfDigits_toDigits digits
  have nonempty := Nat.toDigits_ne_nil (n := digits) (b := 10)
  generalize Nat.toDigits 10 digits = ds at *
  have exponent : ∀ b es, some (decide (point - 1 < 0),
      Decimal.padLeft width (Nat.toDigits 10 (point - 1).natAbs)) = some (b, es) →
      Digits es ∧ es ≠ [] := by
    rintro _ _ ⟨⟩
    exact ⟨digits_padLeft _ _, by simp [Decimal.padLeft, Nat.toDigits_ne_nil]⟩
  match ds, nonempty with
  | [c], _ =>
    refine ⟨⟨[c], none, some (decide (point - 1 < 0), _)⟩,
      ⟨all, List.cons_ne_nil _ _, .inr head, ?_, exponent⟩, rfl, ?_, 0, ?_, ?_⟩
    · rintro _ ⟨⟩
    · simp [text, fractionText, exponentText]
    · simpa [Numeral.digits] using number
    · simp only [place, exponentValue, natOfDigits_padLeft, natOfDigits_toDigits, decide_eq_true_eq,
        Option.map_some, Option.getD_some, Option.getD_none, sign]
      simp
  | c :: d :: rest, _ =>
    refine ⟨⟨[c], some (d :: rest), some (decide (point - 1 < 0), _)⟩,
      ⟨fun x hx => all x (by simp_all), List.cons_ne_nil _ _, .inr head, ?_, exponent⟩, rfl, ?_, 0,
      ?_, ?_⟩
    · rintro _ ⟨⟩
      exact ⟨fun x hx => all x (List.mem_cons_of_mem _ hx), List.cons_ne_nil _ _⟩
    · simp [text, fractionText, exponentText]
    · simpa [Numeral.digits] using number
    · simp only [place, exponentValue, natOfDigits_padLeft, natOfDigits_toDigits, decide_eq_true_eq,
        Option.map_some, Option.getD_some, sign, List.length_cons]
      push_cast
      ring

end Positions

/-- Zeros at the end of the digits may go into the exponent. -/
theorem shifted_value {digits zeros k N D : ℕ} {place exponent : ℤ} (hD : digits * 10 ^ zeros = D)
    (hN : N = digits * 10 ^ k) (hp : place = zeros + exponent - k) :
    (N : ℚ) * 10 ^ place = D * 10 ^ exponent := by
  rw [hN, hp, ← hD, zpow_sub₀ (by norm_num), zpow_add₀ (by norm_num)]
  push_cast
  rw [zpow_natCast, zpow_natCast]
  field_simp

/-- What is written for a decimal is a numeral of its value, whatever the layout. -/
theorem exists_numeral (layout : Decimal.Layout) (d : Decimal.Decimal) :
    ∃ n : Numeral, n.WellFormed ∧ n.isFloat = true ∧ layout.decimal d = n.text ∧
      (n.digits : ℚ) * 10 ^ n.place = d.digits * 10 ^ d.exponent := by
  have value := dropZeros_mul d.digits 400
  unfold Decimal.Layout.decimal
  generalize Decimal.dropZeros d.digits 400 = split at *
  obtain ⟨digits, zeros⟩ := split
  simp only at value ⊢
  have written : ∀ last : ℤ, last = zeros + d.exponent → ∀ t, Writes t digits last → ∃ n : Numeral,
      n.WellFormed ∧ n.isFloat = true ∧ t = n.text ∧
        (n.digits : ℚ) * 10 ^ n.place = d.digits * 10 ^ d.exponent := by
    rintro _ rfl t ⟨n, hn, float, rfl, k, digits, place⟩
    exact ⟨n, hn, float, rfl, shifted_value value digits place⟩
  by_cases hzero : digits = 0
  · subst hzero
    refine ⟨⟨['0'], some ['0'], none⟩, ⟨digits_replicate_zero 1, List.cons_ne_nil _ _, .inl rfl,
      ?_, ?_⟩, rfl, rfl, ?_⟩
    · rintro _ ⟨⟩
      exact ⟨digits_replicate_zero 1, List.cons_ne_nil _ _⟩
    · rintro _ _ ⟨⟩
    · simp [Numeral.digits, ← value]
  · have positive := Nat.pos_of_ne_zero hzero
    simp only [beq_iff_eq, hzero, if_false]
    split
    · split
      · next small => exact written _ (by ring) _ (writes_below digits small)
      · split
        · next large => exact written _ (by ring) _ (writes_above positive large)
        · next small large =>
          exact written _ (by ring) _ (writes_around positive (by omega) (by omega))
    · exact written _ (by ring) _ (writes_exponent positive layout.exponentDigits _)

/-! ## Numbers among the plain values -/

/-- The sign of a number as it is written. -/
def signText (negative : Bool) : List Char := if negative then ['-'] else []

/-- A number is told from the words by the digit at its head. -/
theorem readPlain_cons {c : Char} (hc : c.isDigit = true) (negative : Bool) (cs : List Char) :
    ∃ start, readPlain (signText negative ++ c :: cs) = readNumber negative start (c :: cs) := by
  have differs : ∀ d : Char, d.isDigit = false → d ≠ c := by
    rintro d hd rfl
    simp_all
  cases negative with
  | false =>
    refine ⟨c :: cs, ?_⟩
    simp only [signText, Bool.false_eq_true, if_false, List.nil_append]
    unfold readPlain
    simp [takeWord?, differs]
    split
    · next h =>
      cases h
      cases hc
    · rfl
  | true =>
    refine ⟨'-' :: c :: cs, ?_⟩
    simp only [signText, if_true, List.cons_append, List.nil_append]
    unfold readPlain
    simp [takeWord?, differs]

theorem exists_readNumber {n : Numeral} (hn : n.WellFormed) (negative : Bool) (rest : List Char) :
    ∃ start, readPlain (signText negative ++ (n.text ++ rest)) =
      readNumber negative start (n.text ++ rest) := by
  obtain ⟨c, cs, hc⟩ := List.exists_cons_of_ne_nil hn.ne_nil
  have digit : c.isDigit = true := hn.whole c (by simp [hc])
  rw [Numeral.text, hc]
  exact readPlain_cons digit _ _

/-- A double is read back from its text. -/
theorem readPlain_render (x : Float) {rest : List Char} (hr : Ends rest) :
    readPlain ((numberLayout.render x).toList ++ rest) = .ok (.float x, rest) := by
  unfold Decimal.Layout.render
  split
  · next h =>
    rw [← Decimal.eq_of_parts_nan h]
    rfl
  · next negative h =>
    rw [← Decimal.eq_of_parts_infinite h]
    cases negative <;> rfl
  · next negative b h =>
    obtain ⟨n, hn, float, hd, value⟩ := exists_numeral numberLayout (Decimal.shortest b)
    have canonical := (Decimal.canonical_of_parts h).1
    have bits := Decimal.ofDigits_shortest canonical value
    have text : ((if negative then "-" else "") ++
        String.ofList (numberLayout.decimal (Decimal.shortest b))).toList ++ rest =
          signText negative ++ (n.text ++ rest) := by
      cases negative <;> simp [hd, signText]
    obtain ⟨start, hs⟩ := exists_readNumber hn negative rest
    rw [text, hs, readNumber_numeral hn hr, float, if_pos rfl, bits, signed,
      Decimal.eq_ofBits_of_parts h]

/-- The integer is not refused for the number of its digits. -/
def Short (i : Int) : Prop := i.natAbs < 10 ^ maxIntegerDigits

theorem toList_toString (i : Int) :
    (toString i).toList = signText (decide (i < 0)) ++ Nat.toDigits 10 i.natAbs := by
  cases i with
  | ofNat n =>
    simp only [Int.ofNat_eq_natCast, signText, Int.natCast_nonneg, not_lt.2, decide_false,
      Bool.false_eq_true, if_false, List.nil_append, Int.natAbs_natCast]
    exact Nat.toList_repr
  | negSucc n =>
    simp [signText, toString, Int.repr]

/-- An integer that is not too long is read back from its text. -/
theorem readPlain_toString {i : Int} (hi : Short i) {rest : List Char} (hr : Ends rest) :
    readPlain ((toString i).toList ++ rest) = .ok (.int i, rest) := by
  let n : Numeral := ⟨Nat.toDigits 10 i.natAbs, none, none⟩
  have text : n.text = Nat.toDigits 10 i.natAbs := by
    simp [n, Numeral.text, fractionText, exponentText]
  have hn : n.WellFormed := by
    refine ⟨digits_toDigits _, Nat.toDigits_ne_nil, ?_, ?_, ?_⟩
    · rcases Nat.eq_zero_or_pos i.natAbs with h | h
      · exact .inl (by simp [n, h])
      · exact .inr (head_toDigits h)
    · rintro _ ⟨⟩
    · rintro _ _ ⟨⟩
  obtain ⟨start, hs⟩ := exists_readNumber hn (decide (i < 0)) rest
  have short : ¬ maxIntegerDigits < n.whole.length := by
    rw [not_lt, Nat.length_toDigits_le_iff (by decide) (by decide)]
    exact hi
  rw [toList_toString, List.append_assoc, ← text, hs, readNumber_numeral hn hr]
  have amount : (if i < 0 then -(i.natAbs : ℤ) else (i.natAbs : ℤ)) = i := by split <;> omega
  simp only [isFloat, n, Option.isSome_none, Bool.or_self, Bool.false_eq_true, if_false, short,
    natOfDigits_toDigits, decide_eq_true_eq, amount]

theorem natOfDigits_lt {ds : List Char} (h : Digits ds) : natOfDigits ds < 10 ^ ds.length := by
  induction ds using List.reverseRecOn with
  | nil => exact Nat.one_pos
  | append_singleton ds c ih =>
    have digit : c.toNat - '0'.toNat < 10 := by
      have := h c (by simp)
      simp only [Char.isDigit, Bool.and_eq_true, decide_eq_true_eq] at this
      have high : c.toNat ≤ '9'.toNat := this.2
      have nine : '9'.toNat = 57 := rfl
      have zero : '0'.toNat = 48 := rfl
      omega
    have last : natOfDigits [c] = c.toNat - '0'.toNat := by simp [natOfDigits]
    have front := ih fun d hd => h d (List.mem_append_left _ hd)
    rw [natOfDigits_append, last, List.length_append, List.length_singleton, pow_one, pow_succ]
    omega

theorem digits_takeDigits (cs : List Char) : Digits (takeDigits cs).1 :=
  fun _ hc => (List.mem_takeWhile_imp hc :)

/-- Digits that are not too many write such an integer. -/
theorem short_of_length {ds : List Char} (h : Digits ds) (hl : ds.length ≤ maxIntegerDigits)
    (negative : Bool) : Short (if negative then -(natOfDigits ds : Int) else natOfDigits ds) := by
  have amount : (if negative then -(natOfDigits ds : Int) else natOfDigits ds).natAbs =
      natOfDigits ds := by cases negative <;> simp
  unfold Short
  rw [amount]
  exact (natOfDigits_lt h).trans_le (Nat.pow_le_pow_right (by decide) hl)

end ApiAccord.Json
